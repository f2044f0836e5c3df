import RuleIntake.Json.Number
import RuleIntake.Json.Literal

/-!
# Reading values

`Json.parse` reads a text that holds one value: first as a tree in the order of the text, of which
it returns the normal form. Arrays and objects may nest 127 deep. The readers
of sequences and maps take the reader of an element as an argument, so that a reader of values is
a recursion on the depth that is left, and a loop over elements is one on the length of the text.
-/

namespace RuleIntake.Json

/-- How many arrays and objects may be open at once. -/
def depthLimit : Nat := 127

/-- The first character that is no blank, with the cursor at it. -/
def peek (c : Cursor) : Option (Char × List Char) × Cursor :=
  let c := c.skipBlanks
  match c.rest with
  | [] => (none, c)
  | next :: rest => (some (next, rest), c)

/-! ## Separators -/

/-- What stands where an element of a list can start. -/
inductive ElementStart
  | element (c : Cursor)
  | close (c : Cursor)

/-- Looks for an element of a list, behind a comma unless it is the first one. At the end of the
list the cursor stays in front of the bracket. -/
def nextElement (first : Bool) (c : Cursor) : Except TextError ElementStart :=
  match peek c with
  | (none, c) => c.failHere .endInList
  | (some (next, rest), c) =>
    if next = ']' then .ok (.close c)
    else if first then .ok (.element c)
    else if next = ',' then
      match peek (c.advance next rest) with
      | (none, c) => c.failHere .endInValue
      | (some (next, _), c) => if next = ']' then c.failNext .trailingComma else .ok (.element c)
    else c.failNext .expectedListCommaOrEnd

/-- Looks for a key of an object, behind a comma unless it is the first one. The cursor of an
element stands behind the opening quote of the key, that of the end in front of the brace. -/
def nextKey (first : Bool) (c : Cursor) : Except TextError ElementStart :=
  match peek c with
  | (none, c) => c.failHere .endInObject
  | (some (next, rest), c) =>
    if next = '\x7d' then .ok (.close c)
    else if first then
      if next = '"' then .ok (.element (c.advance next rest)) else c.failNext .keyMustBeString
    else if next = ',' then
      match peek (c.advance next rest) with
      | (none, c) => c.failHere .endInValue
      | (some (next, rest), c) =>
        if next = '"' then .ok (.element (c.advance next rest))
        else if next = '\x7d' then c.failNext .trailingComma
        else c.failNext .keyMustBeString
    else c.failNext .expectedObjectCommaOrEnd

def readColon (c : Cursor) : Except TextError Cursor :=
  match peek c with
  | (none, c) => c.failHere .endInObject
  | (some (next, rest), c) =>
    if next = ':' then .ok (c.advance next rest) else c.failNext .expectedColon

/-- The end of a list of which all elements wanted have been read. -/
def closeList (c : Cursor) : Except TextError Cursor :=
  match peek c with
  | (none, c) => c.failHere .endInList
  | (some (next, rest), c) =>
    if next = ']' then .ok (c.advance next rest)
    else if next = ',' then
      match peek (c.advance next rest) with
      | (some (']', _), c) => c.failNext .trailingComma
      | (_, c) => c.failNext .trailingCharacters
    else c.failNext .trailingCharacters

/-- The end of an object of which all entries have been read. -/
def closeObject (c : Cursor) : Except TextError Cursor :=
  match peek c with
  | (none, c) => c.failHere .endInObject
  | (some (next, rest), c) =>
    if next = '\x7d' then .ok (c.advance next rest)
    else if next = ',' then c.failNext .trailingComma
    else c.failNext .trailingCharacters

/-! ## Values -/

/-- The items of an array up to its closing bracket, behind those in `before`, which are in
reverse. -/
def readItems (value : Cursor → Reading Json) (first : Bool) (before : List Json) :
    Nat → Cursor → Reading (List Json)
  | 0, c => c.failHere .endInList
  | fuel + 1, c =>
    match nextElement first c with
    | .error e => .error e
    | .ok (.close c) => (closeList c).map fun c => (before.reverse, c)
    | .ok (.element c) =>
      match value c with
      | .error e => .error e
      | .ok (item, c) => readItems value false (item :: before) fuel c

/-- The entries of an object up to its closing brace, behind those in `before`, which are in
reverse. -/
def readEntries (value : Cursor → Reading Json) (first : Bool) (before : List (String × Json)) :
    Nat → Cursor → Reading (List (String × Json))
  | 0, c => c.failHere .endInObject
  | fuel + 1, c =>
    match nextKey first c with
    | .error e => .error e
    | .ok (.close c) => (closeObject c).map fun c => (before.reverse, c)
    | .ok (.element c) =>
      match readString c with
      | .error e => .error e
      | .ok (key, c) =>
        match readColon c with
        | .error e => .error e
        | .ok c =>
          match value c with
          | .error e => .error e
          | .ok (item, c) => readEntries value false ((key, item) :: before) fuel c

/-- A tree of which arrays and objects are read by the given reader of the values in them, if
there is one. -/
def readTreeWith (nested : Option (Cursor → Reading Json)) (c : Cursor) : Reading Json :=
  match peek c with
  | (none, c) => c.failHere .endInValue
  | (some (next, rest), c) =>
    if next = 'n' then (readWord ['u', 'l', 'l'] (c.advance next rest)).map fun c => (.null, c)
    else if next = 't' then
      (readWord ['r', 'u', 'e'] (c.advance next rest)).map fun c => (.bool true, c)
    else if next = 'f' then
      (readWord ['a', 'l', 's', 'e'] (c.advance next rest)).map fun c => (.bool false, c)
    else if next = '-' || next.isDigit then (readNumber c).map fun (n, c) => (n.toJson, c)
    else if next = '"' then (readString (c.advance next rest)).map fun (s, c) => (.string s, c)
    else if next = '[' then
      match nested with
      | none => c.failNext .tooDeep
      | some value =>
        (readItems value true [] (rest.length + 1) (c.advance next rest)).map fun (items, c) =>
          (.array items, c)
    else if next = '\x7b' then
      match nested with
      | none => c.failNext .tooDeep
      | some value =>
        (readEntries value true [] (rest.length + 1) (c.advance next rest)).map
          fun (entries, c) => (.object entries, c)
    else c.failNext .expectedValue

/-- A tree in which arrays and objects nest at most as deep as given. -/
def readTree : Nat → Cursor → Reading Json
  | 0 => readTreeWith none
  | depth + 1 => readTreeWith (some (readTree depth))

def readValue (depth : Nat) (c : Cursor) : Reading Json :=
  (readTree depth c).map fun (tree, c) => (tree.normal, c)

/-- Makes sure that only blanks are left. -/
def readEnd (c : Cursor) : Except TextError Unit :=
  match peek c with
  | (none, _) => .ok ()
  | (some _, c) => c.failNext .trailingCharacters

/-- The tree that a text holds, entries in the order of the text. -/
def parseTree (text : String) : Except TextError Json := do
  let (tree, c) ← readTree depthLimit (.ofString text)
  readEnd c
  return tree

def parse (text : String) : Except TextError Json := (parseTree text).map normal

end RuleIntake.Json
