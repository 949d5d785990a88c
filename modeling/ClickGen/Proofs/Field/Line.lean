import ClickGen.Proofs.Field.Quoting

/-!
The lines of an option.

A keyword argument has a line of its own, where the keyword stands behind four blanks and its value
between an equals sign and a comma. `argumentsOf` reads the arguments of a source line by line and
takes no other line for one: a declared name begins with a quote, and the end of a line inside a
text is written as an escape. So the arguments of an option are found in its source as they were put
there, and the tokens of their values are those of the option as it is read.
-/

namespace ClickGen

open Code

namespace Code

/-- Marks are told from what stands before them: with one more at its end a source has one more
token. -/
lemma run_append_mark {m : Lexer.Mode} {c : Char} (h : isMark c) (s : Text) :
    Lexer.run m (s ++ [c]) = (Lexer.run m s).map (· ++ [.mark c]) := by
  induction s generalizing m with
  | nil =>
    obtain ⟨hcontinues, hstarts, hnumeral, hquote⟩ := mark_apart h
    have hdigit : Text.isDigit c = false := by
      by_contra hc
      simp [isNumeral, hc] at hnumeral
    have hescape : c ≠ 'x' ∧ c ≠ '\\' ∧ endsSource c = false ∧ simpleEscape? c = none ∧
        Text.hexValue? c = none := by
      simp only [isMark, Bool.or_eq_true, beq_iff_eq] at h
      rcases h with (((((rfl | rfl) | rfl) | rfl) | rfl) | rfl) | rfl <;> decide
    obtain ⟨hx, hslash, hends, hsimple, hhex⟩ := hescape
    cases m <;>
      simp [Lexer.run, Lexer.step, Lexer.finish, Lexer.stepString, start_mark h, startAfter_mark _ h,
        hcontinues, hstarts, hnumeral, hquote, hdigit, hx, hslash, hends, hsimple, hhex]
  | cons d s ih =>
    rw [List.cons_append, Lexer.run, Lexer.run]
    split
    · rfl
    · rw [ih]
      simp [Function.comp_def]

lemma Reads.tokens?_eq_some {v : Text} {ts : List Token} (h : Reads v ts) : tokens? v = some ts := by
  have hcomma := h ',' [] rfl
  have hrun : Lexer.run .between [','] = some [.mark ','] := rfl
  rw [run_append_mark rfl, hrun, Option.map_some] at hcomma
  obtain ⟨us, hus, heq⟩ := Option.map_eq_some_iff.mp hcomma
  rwa [List.append_cancel_right heq] at hus

end Code

namespace Decorator

/-- The keyword that a line gives a value to, with the source of the value. -/
def argument? : Text → Option (Text × Text)
  | ' ' :: ' ' :: ' ' :: ' ' :: item =>
    match item.dropWhile continuesIdentifier with
    | '=' :: value =>
      if value.getLast? = some ',' then
        some (item.takeWhile continuesIdentifier, value.dropLast)
      else none
    | _ => none
  | _ => none

def argumentsOf (source : Text) : List (Text × Text) :=
  (Text.splitOn '\n' source).filterMap argument?

def value? (source key : Text) : Option (List Token) :=
  ((argumentsOf source).lookup key).bind tokens?

lemma argument?_literal (s : Text) : argument? (body (literal s)) = none := by
  have hquote : continuesIdentifier '\'' = false := by decide
  simp [argument?, body, literal, hquote]

lemma argument?_body {key : Text} (h : key.all continuesIdentifier) (value : Text) :
    argument? (body (argumentSource (key, value))) = some (key, value) := by
  have hequals : continuesIdentifier '=' = false := by decide
  have hkey : ∀ c ∈ key, continuesIdentifier c := List.all_eq_true.mp h
  have hitem : argumentSource (key, value) ++ [','] = key ++ '=' :: (value ++ [',']) := by
    simp [argumentSource]
  have hmark : ∀ c ∈ ('=' :: (value ++ [','])).head?, continuesIdentifier c = false := by
    simp [hequals]
  rw [body, argument?, hitem, dropWhile_append_eq hkey hmark, takeWhile_append_eq hkey hmark]
  simp

lemma all_continuesIdentifier_of_mem_keywords {key : Text} (h : key ∈ keywords) :
    key.all continuesIdentifier := by
  have hall : keywords.all fun key => key.all continuesIdentifier := by decide
  exact List.all_eq_true.mp hall key h

/-! ### All lines -/

lemma filterMap_argument? {d : Decorator} (h : ∀ a ∈ d.arguments, a.1 ∈ keywords) :
    (d.items.map body).filterMap argument? = d.arguments := by
  have hnames : (d.names.map literal).filterMap (fun item => argument? (body item)) = [] := by
    simp [List.filterMap_map, argument?_literal]
  have harguments : (d.arguments.map argumentSource).filterMap (fun item => argument? (body item)) =
      d.arguments := by
    rw [List.filterMap_map]
    have heach : ∀ a ∈ d.arguments,
        ((fun item => argument? (body item)) ∘ argumentSource) a = some a :=
      fun a ha => argument?_body (all_continuesIdentifier_of_mem_keywords (h a ha)) a.2
    rw [List.filterMap_congr heach, List.filterMap_some]
  rw [List.filterMap_map, items, List.filterMap_append, Function.comp_def, hnames, harguments,
    List.nil_append]

end Decorator

open Decorator

namespace Field

variable {f : Field} {purpose : Purpose} {d : Decorator}

lemma code?_isSome :
    (f.code? purpose).isSome ↔ ¬ (f.kind = .choice ∧ f.props.choices = []) := by
  rw [code?, decorator?, Option.isSome_map, Option.isSome_map]
  unfold kindArguments?
  cases f.kind
  case choice =>
    by_cases h : f.props.choices = []
    · simp only [h, List.isEmpty_nil, if_true, Option.isSome_none, and_self, not_true,
        Bool.false_eq_true]
    · simp only [h, List.isEmpty_iff, if_false, Option.isSome_some, and_false, not_false_iff]
  all_goals simp only [Option.isSome_some, reduceCtorEq, false_and, not_false_iff]

lemma mem_keywords (h : f.decorator? purpose = some d) : ∀ a ∈ d.arguments, a.1 ∈ keywords := by
  have hread := (arguments_read h).2.imp fun a b hab => And.intro hab.2.1 hab
  exact ((List.forall₂_and_left d.arguments _).mp hread).1

lemma splitOn_code (h : f.decorator? purpose = some d) :
    Text.splitOn '\n' d.render = "@click.option(".toList :: (d.items.map body ++ [[')']]) := by
  obtain ⟨hnames, harguments⟩ := arguments_read h
  exact splitOn_render (items_read (r := f.reading purpose) hnames harguments)

/-- **Arguments are lines.** What is read line by line are the arguments of the option. -/
lemma argumentsOf_render (h : f.decorator? purpose = some d) :
    argumentsOf d.render = d.arguments := by
  have hopening : argument? "@click.option(".toList = none := by decide
  have hclosing : argument? [')'] = none := rfl
  rw [argumentsOf, splitOn_code h, List.filterMap_cons_none hopening, List.filterMap_append,
    filterMap_argument? (mem_keywords h), List.filterMap_cons_none hclosing, List.filterMap_nil,
    List.append_nil]

lemma lookup_read {arguments : List (Text × Text)} {readings : List (Text × List Token)}
    (h : List.Forall₂ ReadsArgument arguments readings) (key : Text) :
    (arguments.lookup key).bind tokens? = readings.lookup key := by
  induction h with
  | nil => rfl
  | @cons a b arguments readings hab _ ih =>
    obtain ⟨k, v⟩ := a
    obtain ⟨k', ts⟩ := b
    obtain ⟨hkey, -, hvalue⟩ := hab
    obtain rfl : k = k' := hkey
    rw [List.lookup_cons, List.lookup_cons]
    by_cases hk : key == k
    · simpa [hk] using hvalue.reads.tokens?_eq_some
    · simpa [hk] using ih

lemma value?_code? {code : Text} (h : f.code? purpose = some code) (key : Text) :
    value? code key = (f.reading purpose).value? key := by
  obtain ⟨d, hd, rfl⟩ := Option.map_eq_some_iff.mp h
  rw [value?, argumentsOf_render hd]
  exact lookup_read (arguments_read hd).2 key

end Field

end ClickGen
