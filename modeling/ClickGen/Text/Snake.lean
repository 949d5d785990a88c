import ClickGen.Text.Case

/-!
Snake case. Dashes, dots and spaces become underscores, an underscore also opens each new
capitalised word, and letters go to lower case. Neither kind of underscore is put after another.
-/

namespace ClickGen.Text

/-- A character that snake case writes as an underscore. -/
def isSeparator (c : Char) : Bool := c == '-' || c == '.' || c == ' '

/-- Whether a capital `c` opens a word, given what stands before it (nearest first) and after it.
It does after a lower case letter or a digit, and as the last capital of an acronym that a
lower case letter follows. -/
def opensWord (before : Text) (c : Char) (rest : Text) : Bool :=
  match before with
  | [] => false
  | prev :: earlier =>
    isUpper c &&
      (isLower prev || isDigit prev ||
        (isUpper prev && rest.head?.any isLower && !earlier.isEmpty))

/-- Snake case from left to right: `before` holds the characters already passed, nearest first,
and `gap` says that the result so far ends in an underscore. -/
def snakeFrom (before : Text) (gap : Bool) : Text → Text
  | [] => []
  | c :: rest =>
    if isSeparator c then
      if gap then snakeFrom (c :: before) true rest
      else '_' :: snakeFrom (c :: before) true rest
    else
      let low := lowerChar c
      let tail := low ++ snakeFrom (c :: before) (low.getLast? == some '_') rest
      if opensWord before c rest && !gap then '_' :: tail else tail

def snake (s : Text) : Text := snakeFrom [] false s

end ClickGen.Text
