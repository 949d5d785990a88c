import ClickGen.Field.Decorator
import ClickGen.Proofs.Code.Line
import ClickGen.Proofs.Code.Numeral
import ClickGen.Proofs.Text.Parts
import Mathlib.Data.List.Forall2

/-!
The option of a field, read back from its source.

`Field.reading` is the decorator as a reader of Python finds it: the texts of the literals that
declare names, and the keyword arguments with the tokens of their values. Texts of the model stand
in it as literals or as bare numerals, and everything else is one of a few fixed words and marks.
Every value of a keyword argument is proved to be read so on its own (`ReadsValue`), and the lines
of the decorator are put together from the values.
-/

namespace ClickGen

open Code

structure Decorator.Reading where
  names : List Text
  arguments : List (Text × List Token)

namespace Decorator.Reading

def opening : List Token :=
  [.mark '@', .name "click", .mark '.', .name "option", .mark '(', .newline]

/-- The tokens of the declared names, then those of the keyword arguments. -/
def items (d : Reading) : List (List Token) :=
  d.names.map (fun n => [.string n]) ++ d.arguments.map fun a => .name a.1 :: .mark '=' :: a.2

/-- All tokens: each item is followed by a comma and stands on a line of its own. -/
def tokens (d : Reading) : List Token :=
  opening ++ d.items.flatMap (· ++ [.mark ',', .newline]) ++ [.mark ')']

def value? (d : Reading) (key : Text) : Option (List Token) := d.arguments.lookup key

end Decorator.Reading

def Code.literals (ts : List Token) : List Text :=
  ts.filterMap fun t =>
    match t with
    | .string s => some s
    | _ => none

namespace Decorator

def keywords : List Text :=
  ["help", "is_flag", "callback", "type", "multiple", "show_default", "default", "required"]

/-- What the value of a keyword argument can hold besides literals and numerals. -/
def fixed : List Token :=
  ([("True" : Text), "False", "None", "bool_as_string", "tuple_to_csv", "str", "int", "float",
    "click", "Choice", "IntRange", "FloatRange", "min", "max"].map Token.name) ++
  ['.', '(', ')', '[', ']', ',', '='].map Token.mark

/-- A token that holds a text of the model in quotes, as a numeral, or not at all. -/
def IsHeld (t : Token) : Prop :=
  (∃ s, t = .string s) ∨ (∃ n, t = .number n ∧ n.all isNumeral) ∨ t ∈ fixed

structure ReadsValue (v : Text) (ts : List Token) : Prop where
  reads : Reads v ts
  held : ∀ t ∈ ts, IsHeld t

/-- An argument is read under its own keyword. -/
def ReadsArgument (a : Text × Text) (b : Text × List Token) : Prop :=
  a.1 = b.1 ∧ a.1 ∈ keywords ∧ ReadsValue a.2 b.2

lemma isHeld_string (s : Text) : IsHeld (.string s) := .inl ⟨s, rfl⟩

lemma isHeld_number {n : Text} (h : isBare n) : IsHeld (.number n) := by
  rw [isBare, Bool.and_eq_true] at h
  exact .inr (.inl ⟨n, rfl, h.2⟩)

lemma readsValue_word {w : Text} (h : isWord w) (hw : .name w ∈ fixed) :
    ReadsValue w [.name w] where
  reads := reads_word h
  held := by simpa using .inr (.inr hw)

lemma readsValue_literal (s : Text) : ReadsValue (literal s) [.string s] where
  reads := reads_literal s
  held := by simpa using isHeld_string s

lemma readsValue_number {n : Text} (h : isBare n) : ReadsValue n [.number n] where
  reads := reads_bare h
  held := by simpa using isHeld_number h

lemma readsValue_list (items : List Text) :
    ReadsValue (listLiteral items) (listTokens items) where
  reads := reads_listLiteral items
  held := by
    intro t ht
    have hmark : ∀ c ∈ ['[', ']', ','], IsHeld (.mark c) := by
      intro c hc
      simp only [List.mem_cons, List.not_mem_nil, or_false] at hc
      refine .inr (.inr ?_)
      rcases hc with rfl | rfl | rfl <;> decide
    simp only [listTokens, List.mem_cons, List.mem_append, List.not_mem_nil, or_false] at ht
    rcases ht with rfl | ht | rfl
    · exact hmark _ (by simp)
    · rcases mem_of_mem_intersperse ht with ht | rfl
      · obtain ⟨s, -, rfl⟩ := List.mem_map.mp ht
        exact isHeld_string s
      · exact hmark _ (by simp)
    · exact hmark _ (by simp)

lemma isHeld_append (ts : List Token) {us : List Token} (ht : ∀ t ∈ ts, IsHeld t)
    (hu : ∀ t ∈ us, IsHeld t) : ∀ t ∈ ts ++ us, IsHeld t := by
  intro t h
  rcases List.mem_append.mp h with h | h
  · exact ht t h
  · exact hu t h

lemma isHeld_fixed {ts : List Token} (h : ∀ t ∈ ts, t ∈ fixed) : ∀ t ∈ ts, IsHeld t :=
  fun t ht => .inr (.inr (h t ht))

def callTokens (function : Text) (arguments : List Token) : List Token :=
  [.name "click", .mark '.', .name function] ++ .mark '(' :: (arguments ++ [.mark ')'])

lemma readsValue_call (function : Text) {v : Text} {ts : List Token} (hf : isWord function)
    (hfixed : .name function ∈ fixed) (hv : ReadsValue v ts) :
    ReadsValue ("click." ++ function ++ "(" ++ v ++ ")") (callTokens function ts) where
  reads := by
    have hclick : Reads ("click".toList ++ '.' :: function) _ := reads_dotted rfl hf
    simpa [callTokens] using hclick.call hv.reads
  held := by
    refine isHeld_append _ (isHeld_fixed ?_) ?_
    · intro t ht
      simp only [List.mem_cons, List.not_mem_nil, or_false] at ht
      rcases ht with rfl | rfl | rfl
      · decide
      · decide
      · exact hfixed
    · refine isHeld_append [.mark '('] (isHeld_fixed (by decide)) ?_
      exact isHeld_append _ hv.held (isHeld_fixed (by decide))

/-- The tokens of the type of numbers between two bounds. -/
def rangeTokens (range plain : Text) (minimum? maximum? : Option Text) : List Token :=
  match minimum?, maximum? with
  | some low, some high => callTokens range [.number low, .mark ',', .number high]
  | some low, none => callTokens range [.name "min", .mark '=', .number low]
  | none, some high => callTokens range [.name "max", .mark '=', .number high]
  | none, none => [.name plain]

lemma readsValue_bound (bound : Text) {n : Text} (hb : isWord bound) (hfixed : .name bound ∈ fixed)
    (hn : isBare n) : ReadsValue (bound ++ "=" ++ n) [.name bound, .mark '=', .number n] where
  reads := by simpa using (reads_word hb).append (m := '=') rfl (reads_bare hn)
  held := by
    refine isHeld_append [.name bound, .mark '='] (isHeld_fixed ?_) ?_
    · intro t ht
      simp only [List.mem_cons, List.not_mem_nil, or_false] at ht
      rcases ht with rfl | rfl
      · exact hfixed
      · decide
    · simpa using isHeld_number hn

lemma readsValue_bounds {low high : Text} (hl : isBare low) (hh : isBare high) :
    ReadsValue (low ++ ", " ++ high) [.number low, .mark ',', .number high] where
  reads := by simpa using (reads_bare hl).append (m := ',') rfl (reads_bare hh).blank
  held := by
    refine isHeld_append [.number low] (by simpa using isHeld_number hl) ?_
    refine isHeld_append [.mark ','] (isHeld_fixed (by decide)) ?_
    simpa using isHeld_number hh

lemma readsValue_range (range plain : Text) {minimum? maximum? : Option Text}
    (hr : isWord range) (hrange : .name range ∈ fixed) (hp : isWord plain)
    (hplain : .name plain ∈ fixed) (hmin : ∀ n ∈ minimum?, isBare n)
    (hmax : ∀ n ∈ maximum?, isBare n) :
    ReadsValue (Field.rangeType ("click." ++ range) plain minimum? maximum?)
      (rangeTokens range plain minimum? maximum?) := by
  cases minimum? with
  | none =>
    cases maximum? with
    | none => exact readsValue_word hp hplain
    | some high =>
      have h := readsValue_call range hr hrange
        (readsValue_bound "max" rfl (by decide) (hmax high rfl))
      simpa [Field.rangeType, rangeTokens] using h
  | some low =>
    cases maximum? with
    | none =>
      have h := readsValue_call range hr hrange
        (readsValue_bound "min" rfl (by decide) (hmin low rfl))
      simpa [Field.rangeType, rangeTokens] using h
    | some high =>
      have h := readsValue_call range hr hrange (readsValue_bounds (hmin low rfl) (hmax high rfl))
      simpa [Field.rangeType, rangeTokens] using h

lemma run_opening (rest : Text) :
    Lexer.run .between (("@click.option(" ++ ['\n']) ++ rest) =
      (Lexer.run .between rest).map (Reading.opening ++ ·) := by
  have hname : Reads ("click".toList ++ '.' :: "option".toList) _ := reads_dotted rfl rfl
  have hbracket := (hname.mark (m := '@') rfl) '(' ('\n' :: rest) rfl
  rw [run_mark (c := '(') rfl, run_newline] at hbracket
  simpa [Reading.opening, Function.comp_def] using hbracket

/-- A line between the brackets without its end. -/
def body (item : Text) : Text := ' ' :: ' ' :: ' ' :: ' ' :: (item ++ [','])

lemma line_eq : line = fun item => body item ++ ['\n'] := by
  funext item
  unfold line body
  simp

lemma render_eq (d : Decorator) :
    d.render =
      ("@click.option(" ++ ['\n']) ++ ((d.items.map body).flatMap (· ++ ['\n']) ++ [')']) := by
  unfold render
  simp [List.flatMap_map, line_eq]

lemma run_body {item : Text} {ts : List Token} (h : Reads item ts) (rest : Text) :
    Lexer.run .between (body item ++ '\n' :: rest) =
      (Lexer.run .between rest).map (ts ++ [.mark ',', .newline] ++ ·) := by
  have hcomma := h ',' ('\n' :: rest) rfl
  rw [run_mark (c := ',') rfl, run_newline] at hcomma
  simpa [body, Function.comp_def] using hcomma

lemma run_lines {items : List Text} {tss : List (List Token)} (h : List.Forall₂ Reads items tss)
    (rest : Text) :
    Lexer.run .between ((items.map body).flatMap (· ++ ['\n']) ++ rest) =
      (Lexer.run .between rest).map (tss.flatMap (· ++ [.mark ',', .newline]) ++ ·) := by
  induction h with
  | nil => simp
  | cons hitem _ ih =>
    rw [List.map_cons, List.flatMap_cons, List.append_assoc, List.append_assoc,
      List.singleton_append, run_body hitem, ih]
    simp [Function.comp_def]

lemma newline_notHeld : ¬ IsHeld .newline := by
  rintro (⟨s, hs⟩ | ⟨n, hn, -⟩ | hfixed)
  · cases hs
  · cases hn
  · revert hfixed
    decide

lemma ReadsArgument.item {a : Text × Text} {b : Text × List Token} (h : ReadsArgument a b) :
    Reads (argumentSource a) (.name b.1 :: .mark '=' :: b.2) ∧
      .newline ∉ (Token.name b.1 :: .mark '=' :: b.2) := by
  obtain ⟨key, v⟩ := a
  obtain ⟨key', ts⟩ := b
  obtain ⟨hkey, hmem, hvalue⟩ := h
  simp only at hkey hmem hvalue
  subst hkey
  have hkeywords : ∀ key ∈ keywords, isWord key := by decide
  have hword := hkeywords key hmem
  constructor
  · simpa [argumentSource] using (reads_word hword).append (m := '=') rfl hvalue.reads
  · have hts : .newline ∉ ts := fun hmem => newline_notHeld (hvalue.held _ hmem)
    simpa using hts

lemma items_read {d : Decorator} {r : Reading} (hnames : d.names = r.names)
    (harguments : List.Forall₂ ReadsArgument d.arguments r.arguments) :
    List.Forall₂ (fun item ts => Reads item ts ∧ .newline ∉ ts) d.items r.items := by
  unfold items Reading.items
  rw [hnames]
  refine List.rel_append ?_ ?_
  · rw [List.forall₂_map_left_iff, List.forall₂_map_right_iff]
    exact List.forall₂_same.mpr fun s _ => ⟨reads_literal s, by simp⟩
  · rw [List.forall₂_map_left_iff, List.forall₂_map_right_iff]
    exact harguments.imp fun a b hab => hab.item

theorem tokens_render {d : Decorator} {r : Reading} (h : List.Forall₂ Reads d.items r.items) :
    tokens? d.render = some r.tokens := by
  have hclose : Lexer.run .between [')'] = some [.mark ')'] := rfl
  rw [tokens?, render_eq, run_opening, run_lines h, hclose]
  simp [Reading.tokens]

theorem splitOn_render {d : Decorator} {r : Reading}
    (h : List.Forall₂ (fun item ts => Reads item ts ∧ .newline ∉ ts) d.items r.items) :
    Text.splitOn '\n' d.render = "@click.option(".toList :: (d.items.map body ++ [[')']]) := by
  have hitems : ∀ items tss, List.Forall₂ (fun item ts => Reads item ts ∧ .newline ∉ ts) items tss →
      ∀ item ∈ items, '\n' ∉ item := by
    intro items tss hread item hmem
    induction hread with
    | nil => simp at hmem
    | cons hitem _ ih =>
      rcases List.mem_cons.mp hmem with rfl | hmem
      · exact hitem.1.newline_notMem hitem.2
      · exact ih hmem
  have hbodies : ∀ part ∈ d.items.map body, '\n' ∉ part := by
    intro part hpart
    obtain ⟨item, hmem, rfl⟩ := List.mem_map.mp hpart
    simpa [body] using hitems _ _ h item hmem
  have hopening : '\n' ∉ "@click.option(".toList := by simp
  rw [render_eq, List.append_assoc, List.singleton_append, Text.splitOn_append hopening,
    Text.splitOn_flatMap hbodies, Text.splitOn_of_notMem (s := [')']) (by decide)]

end Decorator

end ClickGen
