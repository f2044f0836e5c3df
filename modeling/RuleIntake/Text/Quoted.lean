import RuleIntake.Unicode.Visible

/-!
# Quoted text in messages

Messages quote the strings they mention. Quotes, backslashes, tabs, line ends and NUL have short
escapes; characters that cannot be seen on their own are given by code point.
-/

namespace RuleIntake.Text

def hexText (n : Nat) : String := String.ofList (Nat.toDigits 16 n)

/-- One character of quoted text. -/
def quotedChar (c : Char) : String :=
  if c = '"' then "\\\""
  else if c = '\\' then "\\\\"
  else if c = '\n' then "\\n"
  else if c = '\r' then "\\r"
  else if c = '\t' then "\\t"
  else if c.toNat = 0 then "\\0"
  else if Unicode.visible.contains c.toNat then c.toString
  else "\\u\x7b" ++ hexText c.toNat ++ "\x7d"

def quoted (s : String) : String := "\"" ++ String.join (s.toList.map quotedChar) ++ "\""

end RuleIntake.Text
