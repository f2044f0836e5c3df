import RuleIntake.Pattern.Bracket
import RuleIntake.Pattern.Group

/-!
# Parsing patterns

A pattern is a choice of branches, a branch is a sequence of parts, and a part can be a group that
holds such a choice again. `Pattern.parse` reads all of a text.
-/

namespace RuleIntake.Pattern

/-- A choice of branches as it is read. Branches and parts have the last one first. -/
structure Level where
  start : Place
  branches : List Ast
  branchStart : Place
  parts : List Ast

namespace Level

def startingAt (p : Place) : Level := ⟨p, [], p, []⟩

def push (l : Level) (part : Ast) : Level := { l with parts := part :: l.parts }

def nextBranch (l : Level) (stop start : Place) : Level :=
  ⟨l.start, .ofParts ⟨l.branchStart, stop⟩ l.parts.reverse :: l.branches, start, []⟩

def close (l : Level) (stop : Place) : Ast :=
  .ofBranches ⟨l.start, stop⟩ (l.nextBranch stop stop).branches.reverse

/-- Replaces the last part by its repetition. -/
def repeatLast (l : Level) (range : RepetitionRange) (sparing : Bool) (stop : Place) : Level :=
  match l.parts with
  | [] => l
  | part :: before =>
    { l with parts := .repetition ⟨part.span.first, stop⟩ range sparing part :: before }

/-- Whether there is something that an operator can repeat. -/
def canRepeat (l : Level) : Bool :=
  match l.parts with
  | [] => false
  | part :: _ => !part.isUnrepeatable

end Level

/-! ## Repetitions -/

def operatorRange? (c : Char) : Option RepetitionRange :=
  match c with
  | '?' => some ⟨0, some 1⟩
  | '*' => some ⟨0, none⟩
  | '+' => some ⟨1, none⟩
  | _ => none

/-- Whether a repetition is marked to take as little as it can, and what is behind the mark. -/
def readSparing (s : Scan) : Bool × Scan := if s.startsWith '?' then (true, s.bump) else (false, s)

/-- The blanks that come next, ignored or not. -/
def skipSpaces (s : Scan) : Scan := s.bumpBy (s.rest.takeWhile Scan.isBlank).length

/-- A number with blanks around it. The fault comes back with the scan behind what was read, since
other faults can go before it. -/
def readDecimal (s : Scan) : Except FaultAt Nat × Scan :=
  let s := skipSpaces s
  let (digits, stop) := collectAll Char.isDigit s
  let span : Span := ⟨s.place, stop.place⟩
  let n := digits.foldl (fun n c => 10 * n + (c.toNat - 48)) 0
  let outcome : Except FaultAt Nat :=
    if digits.isEmpty then refuse .missingCount span
    else if n < 0x100000000 then .ok n
    else refuse .invalidDecimal span
  (outcome, (collectAll Scan.isBlank stop).2)

/-- The counts of a repetition, from its opening brace at `start` up to its closing one. -/
def readCounts (start : Place) (s : Scan) : Except FaultAt (RepetitionRange × Scan) :=
  if s.atEnd then refuse .unclosedCount ⟨start, s.place⟩
  else
    let (least, s) := readDecimal s
    if s.atEnd then refuse .unclosedCount ⟨start, s.place⟩
    else if s.startsWith ',' then
      let s := s.bumpSkip
      if s.atEnd then refuse .unclosedCount ⟨start, s.place⟩
      else if s.startsWith '\x7d' then least.map fun n => (⟨n, none⟩, s)
      else do
        let n ← least
        let (most, s) := readDecimal s
        let m ← most
        return (⟨n, some m⟩, s)
    else least.map fun n => (⟨n, some n⟩, s)

def RepetitionRange.isOrdered (r : RepetitionRange) : Bool := r.most.all (r.least ≤ ·)

/-- A repetition with counts, at its opening brace. -/
def readCounted (s : Scan) : Except FaultAt (RepetitionRange × Bool × Scan) :=
  match readCounts s.place s.bumpSkip with
  | .error e => .error e
  | .ok (range, stop) =>
    if stop.startsWith '\x7d' then
      let (sparing, after) := readSparing stop.bumpSkip
      if range.isOrdered then .ok (range, sparing, after)
      else refuse .reversedCount ⟨s.place, after.place⟩
    else refuse .unclosedCount ⟨s.place, stop.place⟩

/-- A repetition operator at its sign. -/
def readRepetition (level : Level) (c : Char) (s : Scan) : Parsed Level :=
  if !level.canRepeat then refuse .missingExpression s.spanHere
  else
    match operatorRange? c with
    | some range =>
      let (sparing, after) := readSparing s.bump
      .ok (level.repeatLast range sparing after.place, after)
    | none =>
      match readCounted s with
      | .error e => .error e
      | .ok (range, sparing, after) => .ok (level.repeatLast range sparing after.place, after)

/-! ## Choices -/

def ignoresBlanks (settings : FlagSettings) (before : Bool) : Bool :=
  (settings.lookup .ignoreBlanks).getD before

/-- The rest of a choice, up to a closing parenthesis or the end of the pattern. -/
def readLevel (level : Level) : Nat → Scan → Parsed Ast
  | 0, s => .ok (level.close s.place, s)
  | fuel + 1, s =>
    let s := s.skipBlanks
    match s.next? with
    | none => .ok (level.close s.place, s)
    | some ')' => .ok (level.close s.place, s)
    | some '|' => readLevel (level.nextBranch s.place s.bump.place) fuel s.bump
    | some '(' =>
      match readGroupOpening s with
      | .error e => .error e
      | .ok (.flags span settings, after) =>
        readLevel (level.push (.flags span settings)) fuel
          { after with ignoreBlanks := ignoresBlanks settings s.ignoreBlanks }
      | .ok (.group capturing settings, after) =>
        let inside := { after with ignoreBlanks := ignoresBlanks settings s.ignoreBlanks }
        match readLevel (.startingAt after.place) fuel inside with
        | .error e => .error e
        | .ok (body, stop) =>
          if stop.startsWith ')' then
            let after := { stop.bump with ignoreBlanks := s.ignoreBlanks }
            let span : Span := ⟨s.place, after.place⟩
            readLevel (level.push (.group span capturing settings body)) fuel after
          else refuse .unclosedGroup s.spanNext
    | some '[' =>
      match readClass s with
      | .error e => .error e
      | .ok (part, after) => readLevel (level.push part) fuel after
    | some c =>
      if c = '?' || c = '*' || c = '+' || c = '\x7b' then
        match readRepetition level c s with
        | .error e => .error e
        | .ok (level, after) => readLevel level fuel after
      else
        match readPrimitive s with
        | .error e => .error e
        | .ok (part, after) => readLevel (level.push part.toAst) fuel after

def parse (pattern : String) : Except FaultAt Ast :=
  let s := Scan.ofString pattern
  match readLevel (.startingAt s.place) (s.rest.length + 1) s with
  | .error e => .error e
  | .ok (ast, stop) => if stop.atEnd then .ok ast else refuse .unopenedGroup stop.spanNext

end RuleIntake.Pattern
