import ClickGen.Proofs.Code.Line
import ClickGen.Proofs.Text.Parts

/-!
Lists of literals as sources of their own. A reader takes a whole source for a list of literals,
item by item; what is written for a list of texts is read as exactly these texts, and stays on one
line whatever the texts hold.
-/

namespace ClickGen.Code

open Lexer

def moreItems? : List Token → Option (List Text)
  | [.mark ']'] => some []
  | .mark ',' :: .string s :: rest => (moreItems? rest).map (s :: ·)
  | _ => none

/-- The texts of a list of literals, which is all that the tokens hold. -/
def items? : List Token → Option (List Text)
  | [.mark '[', .mark ']'] => some []
  | .mark '[' :: .string s :: rest => (moreItems? rest).map (s :: ·)
  | _ => none

def readList? (source : Text) : Option (List Text) := (tokens? source).bind items?

lemma tokens?_listLiteral (items : List Text) :
    tokens? (listLiteral items) = some (listTokens items) := by
  have hclose : run .between [']'] = some [.mark ']'] := rfl
  rw [tokens?, listLiteral, run_mark rfl, reads_items items ']' [] rfl, hclose]
  rfl

lemma moreItems?_intersperse (items : List Text) (s : Text) :
    moreItems? ((Token.mark ',' :: ((s :: items).map Token.string).intersperse (.mark ',')) ++
      [.mark ']']) = some (s :: items) := by
  induction items generalizing s with
  | nil => rfl
  | cons t items ih =>
    have hrest := ih t
    simp only [List.map_cons, List.intersperse_cons_cons, List.cons_append] at hrest ⊢
    rw [moreItems?, hrest]
    rfl

lemma items?_listTokens (items : List Text) : items? (listTokens items) = some items := by
  cases items with
  | nil => rfl
  | cons s items =>
    cases items with
    | nil => rfl
    | cons t items =>
      have hrest := moreItems?_intersperse items t
      simp only [listTokens, List.map_cons, List.intersperse_cons_cons, List.cons_append]
        at hrest ⊢
      rw [items?, hrest]
      rfl

lemma readList?_listLiteral (items : List Text) :
    readList? (listLiteral items) = some items := by
  rw [readList?, tokens?_listLiteral, Option.bind_some, items?_listTokens]

lemma newline_notMem_listTokens (items : List Text) : .newline ∉ listTokens items := by
  intro hmem
  simp only [listTokens, List.mem_cons, List.mem_append, List.not_mem_nil, or_false,
    reduceCtorEq, false_or] at hmem
  rcases mem_of_mem_intersperse hmem with hitem | hcomma
  · obtain ⟨s, -, hs⟩ := List.mem_map.mp hitem
    cases hs
  · cases hcomma

lemma listLiteral_line (items : List Text) :
    '\n' ∉ listLiteral items ∧ '\r' ∉ listLiteral items :=
  ⟨newline_notMem (tokens?_listLiteral items) (newline_notMem_listTokens items),
    return_notMem (tokens?_listLiteral items)⟩

end ClickGen.Code
