import ClickGen.Text.Utf8

/-!
Percent encoding: which characters each part of a URL keeps, and bytes written as `%` and two
hexadecimal digits.
-/

namespace ClickGen.Url

def isControl (c : Char) : Bool := c.toNat < 0x20 || c.toNat == 0x7F

/-- Encoded in every part: controls and what is not ASCII. -/
def encodesAlways (c : Char) : Bool := isControl c || c.toNat > 0x7F

def encodesInFragment (c : Char) : Bool := encodesAlways c || [' ', '"', '<', '>', '`'].contains c

def encodesInPath (c : Char) : Bool :=
  encodesInFragment c || ['#', '?', '\x7b', '\x7d'].contains c

def encodesInUserinfo (c : Char) : Bool :=
  encodesInPath c || ['/', ':', ';', '=', '@', '[', '\\', ']', '^', '|'].contains c

def encodesInQuery (c : Char) : Bool :=
  encodesAlways c || [' ', '"', '#', '<', '>', '\''].contains c

def hexDigit (n : Nat) : Char := (Nat.digitChar n).toUpper

def encodeByte (b : UInt8) : Text := ['%', hexDigit (b.toNat / 16), hexDigit (b.toNat % 16)]

/-- The text with the characters of `encodes` encoded. A `%` that is there already stays. -/
def percentEncode (encodes : Char → Bool) (s : Text) : Text :=
  s.flatMap fun c => if encodes c then (String.utf8EncodeChar c).flatMap encodeByte else [c]

/-- The bytes of a text with each `%` and two hexadecimal digits read as one byte. -/
def percentDecode : Text → Bytes
  | [] => []
  | '%' :: h :: l :: rest =>
    match Text.hexValue? h, Text.hexValue? l with
    | some high, some low => UInt8.ofNat (high * 16 + low) :: percentDecode rest
    | _, _ => 0x25 :: percentDecode (h :: l :: rest)
  | c :: rest => String.utf8EncodeChar c ++ percentDecode rest

end ClickGen.Url
