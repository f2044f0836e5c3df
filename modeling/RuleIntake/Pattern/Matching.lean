import RuleIntake.Pattern.Expr

/-!
# Matching

Expressions are run over sets of places. A set of places of a text is a natural number, bit `i`
standing for the place before character `i`. From a set of places an expression leads to the set of
places where what it matches can end; a text matches if any place leads anywhere.
-/

namespace RuleIntake.Pattern

/-- An expression over one text: characters and conditions are replaced by the places where they
are found. -/
inductive Walk
  | pass
  /-- Leads from the places of the mask to those after them. -/
  | step (mask : Nat)
  /-- Stays at the places of the mask. -/
  | stay (mask : Nat)
  | loop (range : RepetitionRange) (body : Walk)
  | concat (parts : List Walk)
  | alternation (branches : List Walk)

/-- A text, and the neighbours of each of its places. -/
structure Surface where
  chars : List Char
  neighbours : List (Option Char × Option Char)

namespace Surface

/-- The neighbours of the places behind a character. -/
def neighboursAfter (before : Option Char) : List Char → List (Option Char × Option Char)
  | [] => [(before, none)]
  | c :: rest => (before, some c) :: neighboursAfter (some c) rest

def ofString (text : String) : Surface := ⟨text.toList, neighboursAfter none text.toList⟩

/-- The mask of the list positions where a condition holds. -/
def maskOf {α : Type} (p : α → Bool) (items : List α) : Nat :=
  items.foldr (fun a mask => 2 * mask + if p a then 1 else 0) 0

def everywhere (t : Surface) : Nat := 1 <<< (t.chars.length + 1) - 1

end Surface

mutual

/-- The expression over a text. -/
def Expr.walk (t : Surface) : Expr → Walk
  | .empty => .pass
  | .text cs => .concat (cs.map fun c => .step (Surface.maskOf (· == c) t.chars))
  | .chars set => .step (Surface.maskOf (fun c => set.contains c.toNat) t.chars)
  | .look l => .stay (Surface.maskOf (fun n => l.holds n.1 n.2) t.neighbours)
  | .repetition range _ body => .loop range (body.walk t)
  | .capture body => body.walk t
  | .concat parts => .concat (walks t parts)
  | .alternation branches => .alternation (walks t branches)

def walks (t : Surface) : List Expr → List Walk
  | [] => []
  | e :: rest => e.walk t :: walks t rest

end

namespace Walk

/-- Takes a step as often as told, unless there is no place left. -/
def exactly (step : Nat → Nat) : Nat → Nat → Nat
  | 0, places => places
  | n + 1, places => if places = 0 then 0 else exactly step n (step places)

/-- Takes a step at most as often as told. `front` are the places that were reached last. -/
def upTo (step : Nat → Nat) : Nat → Nat → Nat → Nat
  | 0, reached, _ => reached
  | n + 1, reached, front =>
    let next := step front
    let fresh := next ^^^ (next &&& reached)
    if fresh = 0 then reached else upTo step n (reached ||| fresh) fresh

mutual

/-- The places where a walk from some place ends. There are at most `bound` places. -/
def run (bound : Nat) : Walk → Nat → Nat
  | pass => fun places => places
  | step mask => fun places => (places &&& mask) <<< 1
  | stay mask => fun places => places &&& mask
  | loop range body => fun places =>
    let reached := exactly (run bound body) range.least places
    let more :=
      match range.most with
      | none => bound
      | some most => most - range.least
    upTo (run bound body) more reached reached
  | concat parts => runAll bound parts
  | alternation branches => runAny bound branches

def runAll (bound : Nat) : List Walk → Nat → Nat
  | [] => fun places => places
  | part :: rest => fun places => runAll bound rest (run bound part places)

def runAny (bound : Nat) : List Walk → Nat → Nat
  | [] => fun _ => 0
  | branch :: rest => fun places => run bound branch places ||| runAny bound rest places

end

end Walk

/-- Whether an expression matches some part of a text. -/
def Expr.isMatch (e : Expr) (text : String) : Bool :=
  let t := Surface.ofString text
  (e.walk t).run (t.chars.length + 1) t.everywhere ≠ 0

end RuleIntake.Pattern
