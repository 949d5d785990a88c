import ClickGen.Text.Search

/-!
Text that goes into a page: characters that have a meaning there written as entities, and tags
taken out.
-/

namespace ClickGen.Text

/-- The name of the entity that stands for a character in a page. -/
def entity? : Char → Option Text
  | '&' => some "amp;"
  | '<' => some "lt;"
  | '>' => some "gt;"
  | '"' => some "quot;"
  | '\'' => some "#39;"
  | _ => none

def escapeMarkup (s : Text) : Text :=
  s.flatMap fun c =>
    match entity? c with
    | some name => '&' :: name
    | none => [c]

/-- Entities that a text may hold already. -/
def entityNames : List Text := ["lt;", "gt;", "#39;", "quot;", "amp;"].map String.toList

/-- Escapes what is not part of an entity already. -/
def escapeMarkupOnce : Text → Text
  | [] => []
  | c :: rest =>
    let kept := c = '&' ∧ entityNames.any fun name => name.isPrefixOf rest
    match entity? c with
    | some name => (if kept then [c] else '&' :: name) ++ escapeMarkupOnce rest
    | none => c :: escapeMarkupOnce rest

/-- A character in lower case, where the long `ſ` is a letter like `s`. -/
def folded (c : Char) : Char := if c = 'ſ' then 's' else c.toLower

/-- Whether the text begins with `mark`, which is in lower case, in any case. -/
def opens (mark s : Text) : Bool := mark.isPrefixOf ((s.take mark.length).map folded)

/-- How many characters there are up to and with the first occurrence of `mark` in any case. -/
def lengthThrough? (mark : Text) : Text → Option Nat
  | [] => none
  | c :: rest =>
    if opens mark (c :: rest) then some mark.length
    else (lengthThrough? mark rest).map (· + 1)

def dropRegions (opening closing : Text) (skip : Nat) : Text → Text
  | [] => []
  | c :: rest =>
    match skip with
    | skip + 1 => dropRegions opening closing skip rest
    | 0 =>
      let region? :=
        if opens opening (c :: rest) then
          lengthThrough? closing ((c :: rest).drop opening.length)
        else none
      match region? with
      | some n => dropRegions opening closing (opening.length + n - 1) rest
      | none => c :: dropRegions opening closing 0 rest

/-- The text without scripts, styles, comments and tags. -/
def stripMarkup (s : Text) : Text :=
  let s := dropRegions "<script" "</script>" 0 s
  let s := dropRegions "<style" "</style>" 0 s
  let s := dropRegions "<!--" "-->" 0 s
  dropRegions "<" ">" 0 s

end ClickGen.Text
