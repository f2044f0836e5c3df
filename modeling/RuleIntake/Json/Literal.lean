import RuleIntake.Json.TextError

/-!
# Reading strings and words

Strings are read behind their opening quote. Characters outside the basic plane may be escaped as
two surrogates; a surrogate without its partner is refused. Skipping a string checks less: escapes
need their form only.
-/

namespace RuleIntake.Json

/-- Reads the rest of a word whose first letter has been read. -/
def readWord : List Char → Cursor → Except TextError Cursor
  | [], c => .ok c
  | expected :: more, c =>
    match c.rest with
    | [] => c.failHere .endInValue
    | next :: rest =>
      if next = expected then readWord more (c.advance next rest) else c.failNext .expectedIdent

def hexDigit? (c : Char) : Option Nat :=
  if '0' ≤ c ∧ c ≤ '9' then some (c.toNat - 48)
  else if 'a' ≤ c ∧ c ≤ 'f' then some (c.toNat - 87)
  else if 'A' ≤ c ∧ c ≤ 'F' then some (c.toNat - 55)
  else none

def hasBytes : Nat → List Char → Bool
  | 0, _ => true
  | _ + 1, [] => false
  | n + 1, c :: rest => hasBytes (n + 1 - c.utf8Size) rest

def readHexQuad (c : Cursor) : Reading Nat :=
  if hasBytes 4 c.rest then
    match c.rest with
    | a :: b :: d :: e :: rest =>
      match hexDigit? a, hexDigit? b, hexDigit? d, hexDigit? e with
      | some a', some b', some d', some e' =>
        .ok (4096 * a' + 256 * b' + 16 * d' + e', ⟨rest, c.position.afterBytes 4 c.rest⟩)
      | _, _, _, _ => .error ⟨.invalidEscape, c.position.afterBytes 4 c.rest⟩
    | _ => .error ⟨.invalidEscape, c.position.afterBytes 4 c.rest⟩
  else
    .error ⟨.endInString, c.rest.foldl Position.after c.position⟩

def isHighSurrogate (n : Nat) : Bool := 0xD800 ≤ n && n ≤ 0xDBFF

def isLowSurrogate (n : Nat) : Bool := 0xDC00 ≤ n && n ≤ 0xDFFF

/-- The second half of a surrogate pair, with its escape. -/
def readLowSurrogate (c : Cursor) : Reading Nat :=
  match c.rest with
  | [] => c.failHere .endInString
  | '\\' :: rest =>
    let c := c.advance '\\' rest
    match rest with
    | [] => c.failHere .endInString
    | 'u' :: rest =>
      match readHexQuad (c.advance 'u' rest) with
      | .error e => .error e
      | .ok (low, c) => if isLowSurrogate low then .ok (low, c) else c.failHere .loneSurrogate
    | _ => c.failNext .endInHexEscape
  | _ => c.failNext .endInHexEscape

/-- A character escaped by its number, behind the letter of the escape. -/
def readUnicodeEscape (c : Cursor) : Reading Char :=
  match readHexQuad c with
  | .error e => .error e
  | .ok (n, c) =>
    if isLowSurrogate n then c.failHere .loneSurrogate
    else if isHighSurrogate n then
      match readLowSurrogate c with
      | .error e => .error e
      | .ok (low, c) => .ok (Char.ofNat (0x10000 + 1024 * (n - 0xD800) + (low - 0xDC00)), c)
    else .ok (Char.ofNat n, c)

def shortEscape? (c : Char) : Option Char :=
  if c = '"' then some '"'
  else if c = '\\' then some '\\'
  else if c = '/' then some '/'
  else if c = 'b' then some '\x08'
  else if c = 'f' then some '\x0c'
  else if c = 'n' then some '\n'
  else if c = 'r' then some '\r'
  else if c = 't' then some '\t'
  else none

def readEscape (c : Cursor) : Reading Char :=
  match c.rest with
  | [] => c.failHere .endInString
  | letter :: rest =>
    match shortEscape? letter with
    | some meant => .ok (meant, c.advance letter rest)
    | none =>
      if letter = 'u' then readUnicodeEscape (c.advance letter rest) else c.failNext .invalidEscape

/-- The characters up to the closing quote, behind those in `before`, which are in reverse. There
are at most `fuel` of them. -/
def readStringTail (before : List Char) : Nat → Cursor → Reading (List Char)
  | 0, c => c.failHere .endInString
  | fuel + 1, c =>
    match c.rest with
    | [] => c.failHere .endInString
    | next :: rest =>
      if next = '"' then .ok (before.reverse, c.advance next rest)
      else if next = '\\' then
        match readEscape (c.advance next rest) with
        | .error e => .error e
        | .ok (meant, c) => readStringTail (meant :: before) fuel c
      else if next.toNat < 0x20 then c.failNext .controlCharacter
      else readStringTail (next :: before) fuel (c.advance next rest)

def readString (c : Cursor) : Reading String :=
  (readStringTail [] (c.rest.length + 1) c).map fun (chars, c) => (String.ofList chars, c)

/-- The place after an escape behind the backslash. -/
def skipEscape (c : Cursor) : Except TextError Cursor :=
  match c.rest with
  | [] => c.failHere .endInString
  | letter :: rest =>
    if (shortEscape? letter).isSome then .ok (c.advance letter rest)
    else if letter = 'u' then (readHexQuad (c.advance letter rest)).map (·.2)
    else c.failNext .invalidEscape

/-- The place after a string, from behind its opening quote. -/
def skipString : Nat → Cursor → Except TextError Cursor
  | 0, c => c.failHere .endInString
  | fuel + 1, c =>
    match c.rest with
    | [] => c.failHere .endInString
    | next :: rest =>
      if next = '"' then .ok (c.advance next rest)
      else if next = '\\' then
        match skipEscape (c.advance next rest) with
        | .error e => .error e
        | .ok c => skipString fuel c
      else if next.toNat < 0x20 then c.failHere .controlCharacter
      else skipString fuel (c.advance next rest)

end RuleIntake.Json
