import DelegatedScopes.Proofs.Scope.Overlap
import DelegatedScopes.Scope.Template
import Mathlib.Data.List.Infix

/-!
# Scopes — filling a template

* `Template.fill_parse_placeholder`, `Template.fill_parse_cons`: filling a text that was cut at its
  placeholders, from left to right.
* `Template.Guarded`: a text that does not end in a star and has none right before a placeholder.
* `Template.isWildcard_fill_parse`: a guarded text stays without a wildcard, whatever it is filled
  with, as long as that has none either.

The last character of a filled text is the last one of the text, or of the capture, or, when the
capture is empty, the one before a placeholder.
-/

namespace DelegatedScopes.Template

open Scope

/-! ### Filling from left to right -/

/-- A placeholder in front is filled with the capture. -/
theorem fill_parse_placeholder (cs c : Text) :
    (parse ('<' :: '.' :: '.' :: '>' :: cs)).fill c = c ++ (parse cs).fill c := by
  simp [parse, fill]

/-- A character that starts no placeholder stays in front. -/
theorem fill_parse_cons {ch : Char} {cs : Text}
    (h : ∀ rest, ch = '<' → cs = '.' :: '.' :: '>' :: rest → False) (c : Text) :
    (parse (ch :: cs)).fill c = [ch] ++ (parse cs).fill c := by
  rw [parse]
  · rfl
  · exact h

/-- A text filled to nothing is empty or goes on with a placeholder. -/
theorem placeholder_prefix_of_fill_eq_nil {text c : Text} (h : (parse text).fill c = []) :
    text = [] ∨ placeholder <+: text := by
  cases text using parse.fun_cases with
  | case1 cs => exact Or.inr (List.prefix_append placeholder cs)
  | case2 ch cs hcut =>
      rw [fill_parse_cons hcut] at h
      cases h
  | case3 => exact Or.inl rfl

/-! ### Guarded texts -/

/-- The text does not end in a star, and no star stands right before a placeholder. -/
def Guarded (text : Text) : Prop := isWildcard text = false ∧ ¬ '*' :: placeholder <:+: text

instance (text : Text) : Decidable (Guarded text) := inferInstanceAs (Decidable (_ ∧ _))

theorem Guarded.of_append {a b : Text} (h : Guarded (a ++ b)) : Guarded b :=
  ⟨(isWildcard_append_eq_false_iff.1 h.1).1,
    fun hstar => h.2 (hstar.trans (List.suffix_append a b).isInfix)⟩

/-- **Filled with a text without a wildcard, a guarded text has none.** -/
theorem isWildcard_fill_parse {text c : Text} (h : Guarded text) (hc : isWildcard c = false) :
    isWildcard ((parse text).fill c) = false := by
  induction text using parse.induct with
  | case1 cs ih =>
      rw [fill_parse_placeholder, isWildcard_append_eq_false_iff]
      exact ⟨ih (Guarded.of_append (a := placeholder) h), fun _ => hc⟩
  | case2 ch cs hcut ih =>
      rw [fill_parse_cons hcut, isWildcard_append_eq_false_iff]
      refine ⟨ih (Guarded.of_append (a := [ch]) h), fun hnil => ?_⟩
      -- nothing comes after the character, so it ends the text or stands before a placeholder
      rcases placeholder_prefix_of_fill_eq_nil hnil with rfl | ⟨rest, rfl⟩
      · exact h.1
      · rw [Bool.eq_false_iff]
        intro hw
        obtain rfl : ch = '*' := by simpa [isWildcard] using hw
        exact h.2 (List.prefix_append ('*' :: placeholder) rest).isInfix
  | case3 => rfl

end DelegatedScopes.Template
