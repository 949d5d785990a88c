import ClickGen.Text.Basic
import ClickGen.Text.Printable

/-!
Text in double quotes for messages. Backslash, double quote and the common control characters
have short escapes, and any other character that is not printable is given by its code point.
-/

namespace ClickGen.Text

/-- How a character is written between double quotes. -/
def quoteChar (c : Char) : Text :=
  match c with
  | '\\' => ['\\', '\\']
  | '"' => ['\\', '"']
  | '\n' => ['\\', 'n']
  | '\r' => ['\\', 'r']
  | '\t' => ['\\', 't']
  | '\x00' => ['\\', '0']
  | c =>
    if isPrintable c then [c]
    else ['\\', 'u', '\x7b'] ++ Nat.toDigits 16 c.toNat ++ ['\x7d']

def quoted (s : Text) : Text := '"' :: (s.flatMap quoteChar ++ ['"'])

end ClickGen.Text
