import RuleIntake.Json.Reader

/-!
# Skipping values

The value of a field that nobody knows is passed over. Only its form is checked: arrays and objects
may nest without limit, numbers may be of any size, and surrogates need no partner.
-/

namespace RuleIntake.Json

/-- What is open at some place of a text. -/
inductive Bracket
  | list
  | object
deriving DecidableEq

namespace Bracket

def closing : Bracket → Char
  | list => ']'
  | object => '\x7d'

def missingComma : Bracket → Fault
  | list => .expectedListCommaOrEnd
  | object => .expectedObjectCommaOrEnd

def endInside : Bracket → Fault
  | list => .endInList
  | object => .endInObject

end Bracket

/-- The place after a key and its colon. -/
def skipKey (c : Cursor) : Except TextError Cursor :=
  match peek c with
  | (none, c) => c.failHere .endInObject
  | (some (next, rest), c) =>
    if next = '"' then
      match skipString (rest.length + 1) (c.advance next rest) with
      | .error e => .error e
      | .ok c => readColon c
    else c.failNext .keyMustBeString

/-- The place after a value that is neither array nor object. -/
def skipScalar (next : Char) (rest : List Char) (c : Cursor) : Except TextError Cursor :=
  if next = 'n' then readWord ['u', 'l', 'l'] (c.advance next rest)
  else if next = 't' then readWord ['r', 'u', 'e'] (c.advance next rest)
  else if next = 'f' then readWord ['a', 'l', 's', 'e'] (c.advance next rest)
  else if next = '-' || next.isDigit then skipNumber c
  else if next = '"' then skipString (rest.length + 1) (c.advance next rest)
  else c.failNext .expectedValue

mutual

/-- The place after a value and all brackets that are open around it. -/
def skipFrom (opened : List Bracket) : Nat → Cursor → Except TextError Cursor
  | 0, c => c.failHere .endInValue
  | fuel + 1, c =>
    match peek c with
    | (none, c) => c.failHere .endInValue
    | (some (next, rest), c) =>
      if next = '[' then skipRest (.list :: opened) false fuel (c.advance next rest)
      else if next = '\x7b' then skipRest (.object :: opened) false fuel (c.advance next rest)
      else
        match skipScalar next rest c with
        | .error e => .error e
        | .ok c => skipRest opened true fuel c

/-- The place after all open brackets, from behind an element of the innermost one or, if there is
none yet, from behind its opening. -/
def skipRest (opened : List Bracket) (behindElement : Bool) :
    Nat → Cursor → Except TextError Cursor
  | 0, c => c.failHere .endInValue
  | fuel + 1, c =>
    match opened with
    | [] => .ok c
    | bracket :: outer =>
      match peek c with
      | (none, c) => c.failHere bracket.endInside
      | (some (next, rest), c) =>
        let element (c : Cursor) : Except TextError Cursor :=
          match bracket with
          | .list => skipFrom opened fuel c
          | .object =>
            match skipKey c with
            | .error e => .error e
            | .ok c => skipFrom opened fuel c
        if next = bracket.closing then skipRest outer true fuel (c.advance next rest)
        else if !behindElement then element c
        else if next = ',' then element (c.advance next rest)
        else c.failNext bracket.missingComma

end

def skipValue (c : Cursor) : Except TextError Cursor := skipFrom [] (2 * c.rest.length + 2) c

end RuleIntake.Json
