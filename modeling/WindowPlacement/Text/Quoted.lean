import WindowPlacement.Text.Hidden

/-!
# Quoted text in messages

A message shows a text between double quotes. Quotes, backslashes and hidden characters
are written as escapes; everything else stands for itself.
-/

namespace WindowPlacement.Text

/-- The digits of a number in base sixteen, in lower case. -/
def hexadecimal (number : Nat) : List Char := Nat.toDigits 16 number

/-- How one character is written between the quotes. -/
def escaped (character : Char) : List Char :=
  match character with
  | '\x00' => ['\\', '0']
  | '\t' => ['\\', 't']
  | '\n' => ['\\', 'n']
  | '\r' => ['\\', 'r']
  | '"' => ['\\', '"']
  | '\\' => ['\\', '\\']
  | _ =>
    if isHidden character then
      ['\\', 'u', '\x7b'] ++ hexadecimal character.toNat ++ ['\x7d']
    else [character]

/-- A text between double quotes. -/
def quoted (text : String) : String :=
  String.ofList ('"' :: text.toList.flatMap escaped ++ ['"'])

end WindowPlacement.Text
