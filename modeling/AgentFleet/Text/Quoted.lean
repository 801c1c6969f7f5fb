import AgentFleet.Text.Unseen

/-!
# Quoted texts

A text between double quotes as it stands in a message: quotes, backslashes and line breaks have
escapes of two characters, and what does not show is written as its code.
-/

namespace AgentFleet.Text

/-- A character of a quoted text. -/
def quotedChar (c : Char) : List Char :=
  if c == '\"' then ['\\', '\"']
  else if c == '\\' then ['\\', '\\']
  else if c == '\n' then ['\\', 'n']
  else if c == '\r' then ['\\', 'r']
  else if c == '\t' then ['\\', 't']
  else if c.toNat == 0 then ['\\', '0']
  else if isUnseen c then ['\\', 'u', '\x7b'] ++ Nat.toDigits 16 c.toNat ++ ['\x7d']
  else [c]

/-- A text between double quotes. -/
def quoted (s : String) : String :=
  String.ofList ('\"' :: s.toList.flatMap quotedChar ++ ['\"'])

end AgentFleet.Text
