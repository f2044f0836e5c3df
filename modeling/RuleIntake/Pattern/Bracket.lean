import RuleIntake.Pattern.Escape

/-!
# Classes in brackets

A class lists characters, intervals and other classes. Two lists can be joined by a set operation;
operations associate to the left and all bind alike.
-/

namespace RuleIntake.Pattern

/-- The items of a class so far, the last one first, with the part of the pattern they cover. -/
structure ItemList where
  span : Span
  items : List ClassItem

namespace ItemList

def startingAt (p : Place) : ItemList := ⟨.emptyAt p, []⟩

def push (u : ItemList) (item : ClassItem) : ItemList :=
  ⟨⟨if u.items.isEmpty then item.span.first else u.span.first, item.span.last⟩, item :: u.items⟩

def toItem (u : ItemList) : ClassItem :=
  match u.items with
  | [] => .empty u.span
  | [item] => item
  | items => .union u.span items.reverse

end ItemList

/-- A set operation that waits for its right side. -/
abbrev Pending := Option (SetOperation × ClassSet)

def applyPending (pending : Pending) (rhs : ClassSet) : ClassSet :=
  match pending with
  | none => rhs
  | some (op, lhs) => .operation ⟨lhs.span.first, rhs.span.last⟩ op lhs rhs

/-- What stands for itself in a class. -/
def readClassPrimitive (s : Scan) : Parsed Primitive :=
  match s.next? with
  | none => refuse .endInEscape s.spanHere
  | some '\\' => readEscape s
  | some c => .ok (.literal ⟨s.spanNext, c, false⟩, s.bump)

def itemOf : Primitive → Except FaultAt ClassItem
  | .literal l => .ok (.literal l)
  | .unicode span negated query => .ok (.unicode span negated query)
  | .letter span negated kind => .ok (.letter span negated kind)
  | .dot span => refuse .escapeInClass span
  | .assertion span _ => refuse .escapeInClass span

def boundOf : Primitive → Except FaultAt Literal
  | .literal l => .ok l
  | other => refuse .invalidRangeBound other.span

/-- An item that is no class in brackets: a character, an interval, or a class with a letter.
`opening` is the opening of the class. -/
def readClassItem (opening : Span) (s : Scan) : Except FaultAt (ClassItem × Scan) := do
  let (first, after) ← readClassPrimitive s
  let s := after.skipBlanks
  if s.atEnd then refuse .unclosedClass opening
  else if !s.startsWith '-' || s.secondVisible? == some ']' || s.secondVisible? == some '-' then
    let item ← itemOf first
    .ok (item, s)
  else
    let s := s.bumpSkip
    if s.atEnd then refuse .unclosedClass opening
    else
      let (second, after) ← readClassPrimitive s
      let span : Span := ⟨first.span.first, second.span.last⟩
      let low ← boundOf first
      let high ← boundOf second
      if low.char ≤ high.char then .ok (.range span low high, after)
      else refuse .reversedRange span

def namedClass? (name : String) : Option NamedClass :=
  [("alnum", NamedClass.alnum), ("alpha", .alpha), ("ascii", .ascii), ("blank", .blank),
    ("cntrl", .cntrl), ("digit", .digit), ("graph", .graph), ("lower", .lower), ("print", .print),
    ("punct", .punct), ("space", .space), ("upper", .upper), ("word", .word),
    ("xdigit", .xdigit)].lookup name

/-- A class by its name between `[:` and `:]`, if that is what comes. -/
def readNamedClass? (s : Scan) : Option (ClassItem × Scan) := do
  let inside ← s.after? "[:"
  let (negated, inside) :=
    match inside.after? "^" with
    | some further => (true, further)
    | none => (false, inside)
  let name := inside.rest.takeWhile (· ≠ ':')
  let after ← (inside.bumpBy name.length).after? ":]"
  let kind ← namedClass? (String.ofList name)
  return (.ascii ⟨s.place, after.place⟩ negated kind, after)

/-- The hyphens that a class starts with, each for itself. -/
def readHyphens (start : Place) (u : ItemList) : Nat → Scan → Parsed ItemList
  | 0, s => .ok (u, s)
  | fuel + 1, s =>
    if s.startsWith '-' then
      let u := u.push (.literal ⟨s.spanNext, '-', false⟩)
      let s := s.bumpSkip
      if s.atEnd then refuse .unclosedClass (.emptyAt start) else readHyphens start u fuel s
    else .ok (u, s)

structure ClassOpening where
  span : Span
  negated : Bool
  items : ItemList

/-- The opening of a class at its bracket: a sign of negation, then hyphens or a closing bracket
that stand for themselves. -/
def readOpening (s : Scan) : Except FaultAt (ClassOpening × Scan) := do
  let start := s.place
  let s := s.bumpSkip
  let negated := s.startsWith '^'
  if s.atEnd then refuse .unclosedClass ⟨start, s.place⟩
  else
    let s := if negated then s.bumpSkip else s
    if s.atEnd then refuse .unclosedClass ⟨start, s.place⟩
    else
      let (u, s) ← readHyphens start (.startingAt s.place) s.rest.length s
      if u.items.isEmpty && s.startsWith ']' then
        let u := u.push (.literal ⟨s.spanNext, ']', false⟩)
        let s := s.bumpSkip
        if s.atEnd then refuse .unclosedClass ⟨start, s.place⟩
        else .ok (⟨⟨start, s.place⟩, negated, u⟩, s)
      else .ok (⟨⟨start, s.place⟩, negated, u⟩, s)

def setOperation? (s : Scan) : Option (SetOperation × Scan) :=
  match s.after? "&&", s.after? "--", s.after? "~~" with
  | some after, _, _ => some (.intersection, after)
  | none, some after, _ => some (.difference, after)
  | none, none, some after => some (.symmetricDifference, after)
  | none, none, none => none

/-- The rest of a class up to and with its closing bracket. Returns the place of the opening, the
negation and the set. -/
def readClassRest (opening : ClassOpening) (pending : Pending) (u : ItemList) :
    Nat → Scan → Parsed (Span × Bool × ClassSet)
  | 0, _ => refuse .unclosedClass opening.span
  | fuel + 1, s =>
    let s := s.skipBlanks
    match s.next? with
    | none => refuse .unclosedClass opening.span
    | some ']' =>
      let after := s.bump
      .ok ((⟨opening.span.first, after.place⟩, opening.negated,
        applyPending pending (.item u.toItem)), after)
    | some '[' =>
      match readNamedClass? s with
      | some (item, after) => readClassRest opening pending (u.push item) fuel after
      | none =>
        match readOpening s with
        | .error e => .error e
        | .ok (inner, after) =>
          match readClassRest inner none inner.items fuel after with
          | .error e => .error e
          | .ok ((span, negated, set), after) =>
            readClassRest opening pending (u.push (.bracketed span negated set)) fuel after
    | some _ =>
      match setOperation? s with
      | some (op, after) =>
        let lhs := applyPending pending (.item u.toItem)
        readClassRest opening (some (op, lhs)) (.startingAt after.place) fuel after
      | none =>
        match readClassItem opening.span s with
        | .error e => .error e
        | .ok (item, after) => readClassRest opening pending (u.push item) fuel after

/-- A class at its bracket. -/
def readClass (s : Scan) : Parsed Ast :=
  match readOpening s with
  | .error e => .error e
  | .ok (opening, after) =>
    match readClassRest opening none opening.items s.rest.length after with
    | .error e => .error e
    | .ok ((span, negated, set), after) => .ok (.bracketed span negated set, after)

end RuleIntake.Pattern
