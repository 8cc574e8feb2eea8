import InstallMarkup.Text.Hidden

/-!
# Quoted texts for people

A text between quotation marks as a listing shows it. Tabulators, line ends, zeros, quotation marks
and backslashes have short escapes, and other characters that cannot be shown alone are written by
their code point.
-/

namespace InstallMarkup.Text

/-- A character as a listing shows it between quotation marks. -/
def shown (c : Char) : List Char :=
  match c with
  | '\x00' => ['\\', '0']
  | '\t' => ['\\', 't']
  | '\r' => ['\\', 'r']
  | '\n' => ['\\', 'n']
  | '"' => ['\\', '"']
  | '\\' => ['\\', '\\']
  | c =>
    if isHidden c then ['\\', 'u', '{'] ++ Nat.toDigits 16 c.toNat ++ ['}']
    else [c]

/-- A text as a listing shows it. -/
def quoted (s : String) : String :=
  String.ofList ('"' :: s.toList.flatMap shown ++ ['"'])

end InstallMarkup.Text
