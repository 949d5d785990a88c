import ClickGen.Text.Quoted

/-!
What can be wrong with an XML text, and the sentence that says so.
-/

namespace ClickGen.Xml

/-- White space in markup: space, tab and the two line ends. -/
def isSpace (c : Char) : Bool := c == ' ' || c == '\t' || c == '\n' || c == '\r'

/-- The character whose code is the first byte that UTF-8 takes for `c`. -/
def leadByte (c : Char) : Char :=
  match String.utf8EncodeChar c with
  | b :: _ => Char.ofNat b.toNat
  | [] => c

/-- Markup that the text ends inside of. -/
inductive Construct where
  | element | bang | comment | cdata | doctype | instruction
  deriving DecidableEq

/-- A fault in a reference such as `&amp;`. Ranges count bytes of the text it stands in. -/
inductive ReferenceFault where
  | unterminated (start stop : Nat)
  | unknown (start stop : Nat) (name : Text)
  | longHexadecimal
  | longDecimal
  | hexadecimalDigit (c : Char)
  | decimalDigit (c : Char)
  | null (start stop : Nat)
  | notACharacter (code : Nat)
  deriving DecidableEq

/-- A fault in the attributes of a tag. Positions count bytes from the name of the tag. -/
inductive AttributeFault where
  | expectedEquals (position : Nat)
  | expectedValue (position : Nat)
  | unquotedValue (position : Nat)
  | unclosedQuote (position : Nat) (quote : Char)
  | duplicate (position previous : Nat)
  deriving DecidableEq

inductive Fault where
  | unfinished (construct : Construct)
  | unknownBang (c : Char)
  | emptyDoctype
  | mismatchedEnd (expected found : Text)
  | attribute (fault : AttributeFault)
  | reference (fault : ReferenceFault)
  | strayText
  | strayEnd (name : Text)
  | secondRoot (name : Text)
  | unclosed (name : Text)
  | noRoot
  deriving DecidableEq

def Construct.label : Construct → Text
  | .element => "Element"
  | .bang => "Bang"
  | .comment => "Comment"
  | .cdata => "CData"
  | .doctype => "DOCTYPE"
  | .instruction => "XmlDecl"

def inRange (start stop : Nat) (what : Text) : Text :=
  "Error while escaping character at range " ++ Text.ofNat start ++ ".." ++ Text.ofNat stop ++
    ": " ++ what

def ReferenceFault.message : ReferenceFault → Text
  | .unterminated start stop => inRange start stop "Cannot find ';' after '&'"
  | .unknown start stop name =>
    inRange start stop ("Unrecognized escape symbol: " ++ Text.quoted name)
  | .longHexadecimal => "Cannot convert hexadecimal to utf8"
  | .longDecimal => "Cannot convert decimal to utf8"
  | .hexadecimalDigit c => '\'' :: c :: "' is not a valid hexadecimal character"
  | .decimalDigit c => '\'' :: c :: "' is not a valid decimal character"
  | .null start stop => inRange start stop "Null character entity not allowed"
  | .notACharacter code => '\'' :: (Text.ofNat code ++ "' is not a valid codepoint")

def AttributeFault.message : AttributeFault → Text
  | .expectedEquals at_ =>
    position at_ "attribute key must be directly followed by `=` or space"
  | .expectedValue at_ => position at_ "`=` must be followed by an attribute value"
  | .unquotedValue at_ => position at_ "attribute value must be enclosed in `\"` or `'`"
  | .unclosedQuote at_ quote =>
    position at_ ("missing closing quote `" ++ (quote :: "` in attribute value"))
  | .duplicate at_ previous =>
    position at_
      ("duplicated attribute, previous declaration at position " ++ Text.ofNat previous)
where
  position (n : Nat) (what : Text) : Text := "position " ++ Text.ofNat n ++ ": " ++ what

def Fault.message : Fault → Text
  | .unfinished construct => "Unexpected EOF during reading " ++ construct.label
  | .unknownBang c =>
    "Only Comment (`--`), CDATA (`[CDATA[`) and DOCTYPE (`DOCTYPE`) nodes can start with a '!'" ++
      ", but symbol `" ++ (c :: "` found")
  | .emptyDoctype => "DOCTYPE declaration must not be empty"
  | .mismatchedEnd expected found =>
    "Expecting </" ++ expected ++ "> found </" ++ found ++ ">"
  | .attribute fault => fault.message
  | .reference fault => fault.message
  | .strayText => "text outside of the root element"
  | .strayEnd name => "unexpected closing tag '" ++ name ++ "'"
  | .secondRoot name => "second root element '" ++ name ++ "'"
  | .unclosed name => "unclosed tag '" ++ name ++ "'"
  | .noRoot => "document has no root element"

end ClickGen.Xml
