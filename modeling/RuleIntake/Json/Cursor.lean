/-!
# Places in a text

A `Cursor` is the rest of a text together with the place where it starts. Lines count from one;
columns count the bytes of the UTF-8 form read so far in the line.
-/

namespace RuleIntake.Json

/-- A line, and the number of bytes of it that come before the place. -/
structure Position where
  line : Nat
  column : Nat
deriving DecidableEq, Repr

/-- What is left of a text and where it starts. -/
structure Cursor where
  rest : List Char
  position : Position
deriving DecidableEq, Repr

namespace Position

def start : Position := ⟨1, 0⟩

def after (p : Position) (c : Char) : Position :=
  if c = '\n' then ⟨p.line + 1, 0⟩ else ⟨p.line, p.column + c.utf8Size⟩

/-- The place after the given number of bytes of a text that is long enough. A place inside a
character counts the bytes of the character before it. -/
def afterBytes (p : Position) : Nat → List Char → Position
  | _, [] => p
  | n, c :: rest =>
    if n = 0 then p
    else if n < c.utf8Size then ⟨p.line, p.column + n⟩
    else afterBytes (p.after c) (n - c.utf8Size) rest

end Position

namespace Cursor

def ofString (text : String) : Cursor := ⟨text.toList, .start⟩

def afterNext (c : Cursor) : Position := c.position.afterBytes 1 c.rest

def advance (c : Cursor) (next : Char) (rest : List Char) : Cursor :=
  ⟨rest, c.position.after next⟩

def isBlank (c : Char) : Bool := c = ' ' || c = '\n' || c = '\t' || c = '\r'

def skipBlanks (c : Cursor) : Cursor := go c.rest c.position
where
  go : List Char → Position → Cursor
    | [], p => ⟨[], p⟩
    | c :: rest, p => if isBlank c then go rest (p.after c) else ⟨c :: rest, p⟩

def takeDigits (c : Cursor) : List Nat × Cursor := go c.rest c.position
where
  go : List Char → Position → List Nat × Cursor
    | [], p => ([], ⟨[], p⟩)
    | c :: rest, p =>
      if c.isDigit then
        let (digits, cursor) := go rest (p.after c)
        ((c.toNat - 48) :: digits, cursor)
      else
        ([], ⟨c :: rest, p⟩)

end Cursor

end RuleIntake.Json
