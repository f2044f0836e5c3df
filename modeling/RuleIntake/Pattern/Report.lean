import RuleIntake.Pattern.Fault

/-!
# Reports of faults

A report shows the pattern with marks under the parts in question. A pattern of several lines is
shown between rules, with line numbers; parts that go over several lines are told in words.
-/

namespace RuleIntake.Pattern

/-- The lines of a text. A carriage return before a line end is dropped, and so is an empty line at
the end. -/
def linesOf (text : List Char) : List (List Char) := go [] text
where
  go (current : List Char) : List Char → List (List Char)
    | [] => if current.isEmpty then [] else [current.reverse]
    | '\n' :: rest =>
      (match current with
        | '\r' :: line => line.reverse
        | _ => current.reverse) :: go [] rest
    | c :: rest => go (c :: current) rest

/-- The parts that a report marks, in the order of the pattern. -/
def marked (e : FaultAt) : List Span :=
  match e.fault.before? with
  | none => [e.span]
  | some earlier =>
    if earlier.first.index < e.span.first.index then [earlier, e.span] else [e.span, earlier]

/-- Marks for the given parts of one line, from the given column on. -/
def marks : Nat → List Span → String
  | _, [] => ""
  | column, s :: rest =>
    let width := max 1 (s.last.column - s.first.column)
    let blanks := s.first.column - column
    String.ofList (List.replicate blanks ' ' ++ List.replicate width '^') ++
      marks (column + blanks + width) rest

/-- A number behind blanks, in all as wide as told. -/
def rightAligned (width n : Nat) : String :=
  let digits := toString n
  String.ofList (List.replicate (width - digits.length) ' ') ++ digits

/-- The lines of a pattern, each with its number if there are several, and marks below those with
marked parts. -/
def shown (pattern : List Char) (spans : List Span) : String :=
  let lines := linesOf pattern
  let count := lines.length + if pattern.getLast? == some '\n' then 1 else 0
  let width := if count ≤ 1 then 0 else (toString count).length
  let margin := String.ofList (List.replicate (if width = 0 then 4 else width + 2) ' ')
  String.join <| lines.mapIdx fun i line =>
    let label := if width = 0 then margin else rightAligned width (i + 1) ++ ": "
    let here := spans.filter fun s => s.isOneLine && s.first.line == i + 1
    label ++ String.ofList line ++ "\n" ++
      if here.isEmpty then "" else margin ++ marks 1 here ++ "\n"

/-- A part that goes over several lines, in words. -/
def spreadText (s : Span) : String :=
  "on line " ++ toString s.first.line ++ " (column " ++ toString s.first.column ++
    ") through line " ++ toString s.last.line ++ " (column " ++ toString (s.last.column - 1) ++ ")"

def rule : String := String.ofList (List.replicate 79 '~')

def report (pattern : String) (e : FaultAt) : String :=
  let chars := pattern.toList
  let spans := marked e
  let verdict := "error: " ++ e.fault.text
  if chars.contains '\n' then
    let spread := spans.filter fun s => !s.isOneLine
    "regex parse error:\n" ++ rule ++ "\n" ++ shown chars spans ++ rule ++ "\n" ++
      (if spread.isEmpty then "" else "\n".intercalate (spread.map spreadText) ++ "\n") ++ verdict
  else
    "regex parse error:\n" ++ shown chars spans ++ verdict

end RuleIntake.Pattern
