import RuleIntake.Json.Basic

/-!
# Compact JSON text

A value is written without blanks. Strings escape the quote, the backslash and the control
characters below 0x20, five of which have an escape of their own; all else stands for itself.
-/

namespace RuleIntake.Json

def hexDigitChar (n : Nat) : Char :=
  if n < 10 then Char.ofNat (48 + n) else Char.ofNat (87 + n)

def escapeChar (c : Char) : List Char :=
  if c = '"' then ['\\', '"']
  else if c = '\\' then ['\\', '\\']
  else if c = '\x08' then ['\\', 'b']
  else if c = '\t' then ['\\', 't']
  else if c = '\n' then ['\\', 'n']
  else if c = '\x0c' then ['\\', 'f']
  else if c = '\r' then ['\\', 'r']
  else if c.toNat < 0x20 then
    ['\\', 'u', '0', '0', hexDigitChar (c.toNat / 16), hexDigitChar (c.toNat % 16)]
  else [c]

def quote (s : String) : List Char := '"' :: s.toList.flatMap escapeChar ++ ['"']

mutual

def chars : Json → List Char
  | null => "null".toList
  | bool true => "true".toList
  | bool false => "false".toList
  | integer n => (toString n.val).toList
  | float x => x.text.toList
  | string s => quote s
  | array [] => ['[', ']']
  | array (item :: rest) => '[' :: chars item ++ itemChars rest
  | object [] => ['\x7b', '\x7d']
  | object ((key, value) :: rest) =>
    '\x7b' :: quote key ++ ':' :: chars value ++ entryChars rest

/-- The items after the first one, with the closing bracket. -/
def itemChars : List Json → List Char
  | [] => [']']
  | item :: rest => ',' :: chars item ++ itemChars rest

/-- The entries after the first one, with the closing brace. -/
def entryChars : List (String × Json) → List Char
  | [] => ['\x7d']
  | (key, value) :: rest => ',' :: quote key ++ ':' :: chars value ++ entryChars rest

end

def text (value : Json) : String := String.ofList value.chars

end RuleIntake.Json
