import RuleIntake.Pattern.Expr
import RuleIntake.Unicode.CaseFolding

/-!
# The meaning of patterns

Turns the tree of a pattern into an expression. Flags hold from where they are set up to the end of
the group around them, over the branches that follow. Without the flag for Unicode only ASCII
characters may be in classes, since a class could match a part of a character otherwise.
-/

namespace RuleIntake.Pattern

open Unicode

/-- The flags that count for the meaning. -/
structure Modes where
  caseInsensitive : Bool
  multiLine : Bool
  dotMatchesNewLine : Bool
  unicode : Bool
  crlf : Bool
  /-- Whether repetitions take as little as they can unless they are marked. -/
  swapGreed : Bool
deriving DecidableEq, Repr

namespace Modes

def initial : Modes := ⟨false, false, false, true, false, false⟩

def set (m : Modes) : FlagSettings → Modes
  | [] => m
  | (flag, value) :: rest =>
    let m :=
      match flag with
      | .caseInsensitive => { m with caseInsensitive := value }
      | .multiLine => { m with multiLine := value }
      | .dotMatchesNewLine => { m with dotMatchesNewLine := value }
      | .unicode => { m with unicode := value }
      | .crlf => { m with crlf := value }
      | .swapGreed => { m with swapGreed := value }
      | .ignoreBlanks => m
    m.set rest

end Modes

/-! ## Classes -/

/-- The set behind a name for ASCII characters. -/
def NamedClass.set : NamedClass → CharSet
  | alnum => .ofText "30-39 41-5A 61-7A"
  | alpha => .ofText "41-5A 61-7A"
  | ascii => .ofText "0-7F"
  | blank => .ofText "9 20"
  | cntrl => .ofText "0-1F 7F"
  | digit => .ofText "30-39"
  | graph => .ofText "21-7E"
  | lower => .ofText "61-7A"
  | print => .ofText "20-7E"
  | punct => .ofText "21-2F 3A-40 5B-60 7B-7E"
  | space => .ofText "9-D 20"
  | upper => .ofText "41-5A"
  | word => asciiWord
  | xdigit => .ofText "30-39 41-46 61-66"

/-- The set behind a letter. -/
def LetterClass.set (unicode : Bool) : LetterClass → CharSet
  | digit => if unicode then Unicode.digit else NamedClass.digit.set
  | space => if unicode then Unicode.space else NamedClass.space.set
  | word => if unicode then Unicode.word else asciiWord

/-- The set behind a query. -/
def PropertyQuery.set : PropertyQuery → Except QueryError CharSet
  | named name => Unicode.named name
  | valued property value _ => Unicode.withValue property value

def PropertyQuery.isNegated : PropertyQuery → Bool
  | named _ => false
  | valued _ _ negated => negated

/-- Folds case if asked to. -/
def Modes.fold (m : Modes) (set : CharSet) : CharSet :=
  if !m.caseInsensitive then set
  else if m.unicode then set.foldCase
  else set.foldAsciiCase

/-- Folds case, then takes the complement, each if asked to. -/
def Modes.finish (m : Modes) (span : Span) (negated : Bool) (set : CharSet) :
    Except FaultAt CharSet :=
  let folded := m.fold set
  if !negated then .ok folded
  else if m.unicode then .ok folded.complement
  else refuse .invalidUtf8 span

/-- The set of a class by property. -/
def propertySet (m : Modes) (span : Span) (negated : Bool) (query : PropertyQuery) :
    Except FaultAt CharSet :=
  if !m.unicode then refuse .unicodeNotAllowed span
  else
    match query.set with
    | .error .unknownProperty => refuse .unknownProperty span
    | .error .unknownValue => refuse .unknownPropertyValue span
    | .ok set => m.finish span (negated != query.isNegated) set

/-- The set of a class by letter. These sets are closed under case folding. -/
def letterSet (m : Modes) (span : Span) (negated : Bool) (kind : LetterClass) :
    Except FaultAt CharSet :=
  let set := kind.set m.unicode
  if !negated then .ok set
  else if m.unicode then .ok set.complement
  else refuse .invalidUtf8 span

/-- The code point of a literal in a class. -/
def literalPoint (m : Modes) (l : Literal) : Except FaultAt Nat :=
  let n := l.char.toNat
  if m.unicode || n < 128 then .ok n
  else refuse (if l.byte then .invalidUtf8 else .unicodeNotAllowed) l.span

def SetOperation.apply : SetOperation → CharSet → CharSet → CharSet
  | intersection, a, b => a.inter b
  | difference, a, b => a.diff b
  | symmetricDifference, a, b => a.symmDiff b

mutual

def setOf (m : Modes) : ClassSet → Except FaultAt CharSet
  | .item i => itemSet m i
  | .operation _ op lhs rhs =>
    match setOf m lhs with
    | .error e => .error e
    | .ok a =>
      match setOf m rhs with
      | .error e => .error e
      | .ok b => .ok (op.apply (m.fold a) (m.fold b))

def itemSet (m : Modes) : ClassItem → Except FaultAt CharSet
  | .empty _ => .ok .empty
  | .literal l => (literalPoint m l).map .singleton
  | .range _ first last => do
    let low ← literalPoint m first
    let high ← literalPoint m last
    return .interval low high
  | .ascii span negated kind => m.finish span negated kind.set
  | .unicode span negated query => propertySet m span negated query
  | .letter span negated kind => letterSet m span negated kind
  | .bracketed span negated set =>
    match setOf m set with
    | .error e => .error e
    | .ok a => m.finish span negated a
  | .union _ items => (itemSets m items).map .unions

def itemSets (m : Modes) : List ClassItem → Except FaultAt (List CharSet)
  | [] => .ok []
  | item :: rest =>
    match itemSet m item with
    | .error e => .error e
    | .ok a => (itemSets m rest).map (a :: ·)

end

/-! ## Expressions -/

/-- A character that stands for itself. -/
def literalExpr (m : Modes) (l : Literal) : Except FaultAt Expr :=
  if !m.unicode && l.byte && 128 ≤ l.char.toNat then refuse .invalidUtf8 l.span
  else .ok (.ofSet (m.fold (.singleton l.char.toNat)))

/-- Any character, but line ends only if the flags say so. -/
def dotExpr (m : Modes) (span : Span) : Except FaultAt Expr :=
  if !m.unicode then refuse .invalidUtf8 span
  else if m.dotMatchesNewLine then .ok (.ofSet CharSet.empty.complement)
  else if m.crlf then .ok (.ofSet (CharSet.ofText "A D").complement)
  else .ok (.ofSet (CharSet.singleton 0xA).complement)

/-- The condition behind an assertion. -/
def lookOf (m : Modes) : Assertion → Look
  | .lineStart =>
    if !m.multiLine then .textStart else if m.crlf then .lineStartCrlf else .lineStart
  | .lineEnd => if !m.multiLine then .textEnd else if m.crlf then .lineEndCrlf else .lineEnd
  | .textStart => .textStart
  | .textEnd => .textEnd
  | .wordBoundary => .wordBoundary m.unicode
  | .noWordBoundary => .noWordBoundary m.unicode
  | .wordStart => .wordStart m.unicode
  | .wordEnd => .wordEnd m.unicode
  | .wordStartHalf => .wordStartHalf m.unicode
  | .wordEndHalf => .wordEndHalf m.unicode

mutual

/-- The expression of a pattern under flags, and the flags behind it. -/
def meaning (m : Modes) : Ast → Except FaultAt (Expr × Modes)
  | .empty _ => .ok (.empty, m)
  | .flags _ settings => .ok (.empty, m.set settings)
  | .literal l => (literalExpr m l).map fun e => (e, m)
  | .dot span => (dotExpr m span).map fun e => (e, m)
  | .assertion _ kind => .ok (.look (lookOf m kind), m)
  | .unicode span negated query =>
    (propertySet m span negated query).map fun set => (.ofSet set, m)
  | .letter span negated kind => (letterSet m span negated kind).map fun set => (.ofSet set, m)
  | .bracketed span negated set =>
    match setOf m set with
    | .error e => .error e
    | .ok a => (m.finish span negated a).map fun set => (.ofSet set, m)
  | .repetition _ range sparing body =>
    (meaning m body).map fun (e, after) => (e.repeated range (sparing != after.swapGreed), after)
  | .group _ capturing settings body =>
    (meaning (m.set settings) body).map fun (e, _) => (if capturing then .capture e else e, m)
  | .alternation _ branches => (meanings m branches).map fun (es, m) => (.choice es, m)
  | .concat _ parts => (meanings m parts).map fun (es, m) => (.sequence es, m)

def meanings (m : Modes) : List Ast → Except FaultAt (List Expr × Modes)
  | [] => .ok ([], m)
  | part :: rest =>
    match meaning m part with
    | .error e => .error e
    | .ok (e, m) => (meanings m rest).map fun (es, m) => (e :: es, m)

end

end RuleIntake.Pattern
