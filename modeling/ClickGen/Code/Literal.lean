import ClickGen.Text.Basic

/-!
Python string literals in single quotes, and lists of them. A backslash, a quote and each
control character below space or at 127 is escaped; everything else stands for itself.
-/

namespace ClickGen.Code

def hexDigit (n : Nat) : Char := Nat.digitChar n

/-- How a character is written inside a literal. -/
def escapeChar (c : Char) : Text :=
  match c with
  | '\\' => ['\\', '\\']
  | '\'' => ['\\', '\'']
  | '\n' => ['\\', 'n']
  | '\r' => ['\\', 'r']
  | '\t' => ['\\', 't']
  | c =>
    if c.toNat < 0x20 || c.toNat == 0x7F then
      ['\\', 'x', hexDigit (c.toNat / 16), hexDigit (c.toNat % 16)]
    else [c]

/-- The string literal that stands for a text. -/
def literal (s : Text) : Text := '\'' :: (s.flatMap escapeChar ++ ['\''])

/-- The list of string literals that stands for the texts. -/
def listLiteral (items : List Text) : Text :=
  '[' :: (List.intercalate ", " (items.map literal) ++ [']'])

end ClickGen.Code
