import ClickGen.Template.Token

/-!
A template cut into pieces: plain text, values to print in double braces, and tags in braces with
percent signs. A hyphen at an end of markup removes the blanks on that side.
-/

namespace ClickGen.Template

inductive Piece where
  | plain (t : Text)
  /-- A value to print. -/
  | output (phrase : Phrase) (source : Text)
  | tag (name : Text) (tokens : List Token) (source : Text)
  /-- The beginning of markup that is none. -/
  | stray (source : Text)

namespace Piece

/-- What a piece is written as. -/
def source : Piece → Text
  | plain t => t
  | output _ source | tag _ _ source | stray source => source

/-- The beginning of markup, which is either of a tag or of an output, and what follows it. -/
def opening? (s : Text) : Option (Bool × Text) :=
  match skipSpace s with
  | '\x7b' :: '\x7b' :: '-' :: rest => some (false, rest)
  | '\x7b' :: '%' :: '-' :: rest => some (true, rest)
  | _ =>
    match s with
    | '\x7b' :: '\x7b' :: rest => some (false, rest)
    | '\x7b' :: '%' :: rest => some (true, rest)
    | _ => none

/-- Whether the character can begin markup. -/
def mayOpen (c : Char) : Bool := c == '\x7b' || isSpace c

/-- What follows the end of an output. -/
def afterOutput? (s : Text) : Option Text :=
  match skipSpace s with
  | '-' :: '\x7d' :: '\x7d' :: rest => some (skipSpace rest)
  | '\x7d' :: '\x7d' :: rest => some rest
  | _ => none

/-- What follows the end of a tag. -/
def afterTag? (s : Text) : Option Text :=
  match skipSpace s with
  | '-' :: '%' :: '\x7d' :: rest => some (skipSpace rest)
  | '%' :: '\x7d' :: rest => some rest
  | _ => none

/-- The tokens of a tag up to its end, and what follows it. -/
def readTokens? : Nat → Text → Option (List Token × Text)
  | 0, _ => none
  | n + 1, s =>
    match afterTag? s with
    | some rest => some ([], rest)
    | none =>
      match readToken? n (skipSpace s) with
      | some (token, rest) => (readTokens? n rest).map fun r => (token :: r.1, r.2)
      | none => none

/-- The text that `rest` is left of. -/
def sourceUpTo (s rest : Text) : Text := s.take (s.length - rest.length)

def readOutput? (n : Nat) (s inside : Text) : Option (Piece × Text) :=
  match readPhrase? n (skipSpace inside) with
  | some (phrase, rest) =>
    (afterOutput? rest).map fun after => (output phrase (sourceUpTo s after), after)
  | none => none

def readTag? (n : Nat) (s inside : Text) : Option (Piece × Text) :=
  match readName? (skipSpace inside) with
  | some (name, rest) =>
    (readTokens? n rest).map fun r => (tag name r.1 (sourceUpTo s r.2), r.2)
  | none => none

/-- The markup that the text begins with, and what follows it. -/
def readMarkup? (n : Nat) (s : Text) : Option (Piece × Text) :=
  match opening? s with
  | some (isTag, inside) =>
    match if isTag then readTag? n s inside else readOutput? n s inside with
    | some r => some r
    | none => some (stray (sourceUpTo s inside), inside)
  | none => none

/-- Puts a character in front of the plain text that comes first. -/
def addChar (c : Char) : List Piece → List Piece
  | plain t :: more => plain (c :: t) :: more
  | pieces => plain [c] :: pieces

/-- The pieces of a text of at most `n` characters. -/
def cut : Nat → Text → List Piece
  | 0, _ => []
  | _, [] => []
  | n + 1, c :: rest =>
    match if mayOpen c then readMarkup? (n + 1) (c :: rest) else none with
    | some (piece, after) => piece :: cut n after
    | none => addChar c (cut n rest)

def ofText (s : Text) : List Piece := cut s.length s

end Piece

end ClickGen.Template
