import RuleIntake.Pattern.Scan

/-!
# Escapes

What stands behind a backslash: a character with a meaning of its own taken literally, a character
by its code point, a class of characters, or an assertion.
-/

namespace RuleIntake.Pattern

/-- Something read from a pattern, and the scan behind it. -/
abbrev Parsed (α : Type) := Except FaultAt (α × Scan)

/-- What can stand for itself, in a class or outside. -/
inductive Primitive
  | literal (l : Literal)
  | dot (span : Span)
  | assertion (span : Span) (kind : Assertion)
  | unicode (span : Span) (negated : Bool) (query : PropertyQuery)
  | letter (span : Span) (negated : Bool) (kind : LetterClass)

namespace Primitive

def span : Primitive → Span
  | literal l => l.span
  | dot span => span
  | assertion span _ => span
  | unicode span _ _ => span
  | letter span _ _ => span

def toAst : Primitive → Ast
  | literal l => .literal l
  | dot span => .dot span
  | assertion span kind => .assertion span kind
  | unicode span negated query => .unicode span negated query
  | letter span negated kind => .letter span negated kind

end Primitive

/-- Takes characters while they are wanted, blanks behind each left out if they are ignored. -/
def collect (wanted : Char → Bool) (before : List Char) : Nat → Scan → List Char × Scan
  | 0, s => (before.reverse, s)
  | fuel + 1, s =>
    match s.next? with
    | none => (before.reverse, s)
    | some c =>
      if wanted c then collect wanted (c :: before) fuel s.bumpSkip else (before.reverse, s)

def collectAll (wanted : Char → Bool) (s : Scan) : List Char × Scan :=
  collect wanted [] s.rest.length s

/-! ## Code points -/

def isHexDigit (c : Char) : Bool :=
  c.isDigit || ('a' ≤ c && c ≤ 'f') || ('A' ≤ c && c ≤ 'F')

def charOfHex? (digits : List Char) : Option Char :=
  let n := digits.foldl (fun n c => 16 * n + CharSet.hexDigit c) 0
  if n.isValidChar then some (Char.ofNat n) else none

def readHexDigits (before : List Char) : Nat → Scan → Parsed (List Char)
  | 0, s => .ok (before.reverse, s)
  | n + 1, s =>
    match s.next? with
    | none => refuse .endInEscape s.spanHere
    | some c =>
      if isHexDigit c then readHexDigits (c :: before) n s.bumpSkip
      else refuse .invalidHexDigit s.spanNext

/-- A code point of fixed width. -/
def readFixedHex (start : Place) (width : Nat) (s : Scan) : Parsed Primitive :=
  match readHexDigits [] width s with
  | .error e => .error e
  | .ok (digits, after) =>
    match charOfHex? digits with
    | none => refuse .invalidHexadecimal ⟨s.place, after.place⟩
    | some c => .ok (.literal ⟨⟨start, after.place⟩, c, width == 2⟩, after)

/-- A code point in braces. -/
def readBracedHex (start : Place) (s : Scan) : Parsed Primitive :=
  let (digits, stop) := collectAll isHexDigit s.bumpSkip
  match stop.next? with
  | none => refuse .endInEscape ⟨s.place, stop.place⟩
  | some '\x7d' =>
    let after := stop.bumpSkip
    if digits.isEmpty then refuse .emptyHexadecimal ⟨s.place, after.place⟩
    else
      match charOfHex? digits with
      | none => refuse .invalidHexadecimal ⟨s.bump.place, stop.place⟩
      | some c => .ok (.literal ⟨⟨start, after.place⟩, c, false⟩, after)
  | some _ => refuse .invalidHexDigit stop.spanNext

/-- A code point behind its letter, with as many digits as the letter asks for if there are no
braces. -/
def readHex (start : Place) (width : Nat) (s : Scan) : Parsed Primitive :=
  let s := s.bumpSkip
  match s.next? with
  | none => refuse .endInEscape s.spanHere
  | some '\x7b' => readBracedHex start s
  | some _ => readFixedHex start width s

/-! ## Properties -/

/-- Splits a text at the first place where the given one stands. -/
def splitAt? (separator : List Char) : List Char → Option (List Char × List Char)
  | [] => none
  | c :: rest =>
    if separator.isPrefixOf (c :: rest) then some ([], (c :: rest).drop separator.length)
    else (splitAt? separator rest).map fun (front, back) => (c :: front, back)

def queryOf (text : List Char) : PropertyQuery :=
  match splitAt? ['!', '='] text, splitAt? [':'] text, splitAt? ['='] text with
  | some (property, value), _, _ => .valued (String.ofList property) (String.ofList value) true
  | none, some (property, value), _ => .valued (String.ofList property) (String.ofList value) false
  | none, none, some (property, value) =>
    .valued (String.ofList property) (String.ofList value) false
  | none, none, none => .named (String.ofList text)

/-- A property behind its letter: one letter, or a query in braces. -/
def readProperty (start : Place) (negated : Bool) (s : Scan) : Parsed Primitive :=
  let s := s.bumpSkip
  match s.next? with
  | none => refuse .endInEscape s.spanHere
  | some '\x7b' =>
    let (text, stop) := collectAll (· ≠ '\x7d') s.bumpSkip
    if stop.atEnd then refuse .endInEscape stop.spanHere
    else .ok (.unicode ⟨start, stop.bump.place⟩ negated (queryOf text), stop.bump)
  | some '\\' => refuse .invalidUnicodeClass s.spanNext
  | some c =>
    .ok (.unicode ⟨start, s.bumpSkip.place⟩ negated (.named c.toString), s.bumpSkip)

/-! ## Word boundaries -/

def boundaryNamed? (name : String) : Option Assertion :=
  if name = "start" then some .wordStart
  else if name = "end" then some .wordEnd
  else if name = "start-half" then some .wordStartHalf
  else if name = "end-half" then some .wordEndHalf
  else none

/-- The name of a word boundary in braces, if what stands in them is no number. -/
def readBoundaryName? (start : Place) (s : Scan) : Except FaultAt (Option (Assertion × Scan)) :=
  let inside := s.bumpSkip
  let isNameChar (c : Char) : Bool := c.isAlpha || c == '-'
  match inside.next? with
  | none => refuse .endInBoundary ⟨start, inside.place⟩
  | some c =>
    if !isNameChar c then .ok none
    else
      let (name, stop) := collectAll isNameChar inside
      if !stop.startsWith '\x7d' then refuse .unclosedBoundary ⟨s.place, stop.place⟩
      else
        match boundaryNamed? (String.ofList name) with
        | none => refuse .unknownBoundary ⟨inside.place, stop.place⟩
        | some kind => .ok (some (kind, stop.bump))

/-- A word boundary, behind its letter. -/
def readBoundary (start : Place) (s : Scan) : Parsed Primitive :=
  let plain : Primitive := .assertion ⟨start, s.place⟩ .wordBoundary
  if s.startsWith '\x7b' then
    match readBoundaryName? start s with
    | .error e => .error e
    | .ok none => .ok (plain, s)
    | .ok (some (kind, after)) => .ok (.assertion ⟨start, after.place⟩ kind, after)
  else
    .ok (plain, s)

/-! ## Escapes -/

def isMeta (c : Char) : Bool := "\\.+*?()|[]\x7b\x7d^$#&-~".toList.contains c

/-- Whether a backslash may stand before a character that it does not change. -/
def isEscapable (c : Char) : Bool :=
  isMeta c || (c.toNat < 128 && !c.isAlphanum && c ≠ '<' && c ≠ '>')

/-- Control characters with a letter of their own. -/
def controlChar? (c : Char) : Option Char :=
  match c with
  | 'a' => some '\x07'
  | 'f' => some '\x0c'
  | 't' => some '\t'
  | 'n' => some '\n'
  | 'r' => some '\r'
  | 'v' => some '\x0b'
  | _ => none

/-- Assertions with a letter of their own that takes nothing behind it. -/
def assertionLetter? (c : Char) : Option Assertion :=
  match c with
  | 'A' => some .textStart
  | 'z' => some .textEnd
  | 'B' => some .noWordBoundary
  | '<' => some .wordStart
  | '>' => some .wordEnd
  | _ => none

/-- Classes with a letter of their own, and whether the letter stands for the complement. -/
def letterClass? (c : Char) : Option (LetterClass × Bool) :=
  match c with
  | 'd' => some (.digit, false)
  | 's' => some (.space, false)
  | 'w' => some (.word, false)
  | 'D' => some (.digit, true)
  | 'S' => some (.space, true)
  | 'W' => some (.word, true)
  | _ => none

/-- How many hexadecimal digits a letter asks for. -/
def hexWidth? (c : Char) : Option Nat :=
  match c with
  | 'x' => some 2
  | 'u' => some 4
  | 'U' => some 8
  | _ => none

/-- An escape at its backslash. -/
def readEscape (s : Scan) : Parsed Primitive :=
  let start := s.place
  let s := s.bump
  match s.next? with
  | none => refuse .endInEscape ⟨start, s.place⟩
  | some c =>
    let after := s.bump
    let span : Span := ⟨start, after.place⟩
    if c.isDigit then refuse .backreference span
    else
      match hexWidth? c, letterClass? c, controlChar? c, assertionLetter? c with
      | some width, _, _, _ => readHex start width s
      | _, some (kind, negated), _, _ => .ok (.letter span negated kind, after)
      | _, _, some meant, _ => .ok (.literal ⟨span, meant, false⟩, after)
      | _, _, _, some kind => .ok (.assertion span kind, after)
      | none, none, none, none =>
        if c = 'p' || c = 'P' then readProperty start (c = 'P') s
        else if c = 'b' then readBoundary start after
        else if isEscapable c then .ok (.literal ⟨span, c, false⟩, after)
        else refuse .unknownEscape span

/-- What stands for itself outside a class. -/
def readPrimitive (s : Scan) : Parsed Primitive :=
  match s.next? with
  | none => refuse .endInEscape s.spanHere
  | some '\\' => readEscape s
  | some '.' => .ok (.dot s.spanNext, s.bump)
  | some '^' => .ok (.assertion s.spanNext .lineStart, s.bump)
  | some '$' => .ok (.assertion s.spanNext .lineEnd, s.bump)
  | some c => .ok (.literal ⟨s.spanNext, c, false⟩, s.bump)

end RuleIntake.Pattern
