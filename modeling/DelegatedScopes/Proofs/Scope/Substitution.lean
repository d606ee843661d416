import DelegatedScopes.Proofs.Scope.Monotone
import DelegatedScopes.Proofs.Scope.Template

/-!
# Scopes — rendering and substitution

* `Template.Leftmost`: what stands before and after the leftmost placeholder of a text.
* `Template.Replaced`: a text with its placeholders replaced, the leftmost one first.
* `Template.replaceAll_eq_iff`: that is what replacing all of them gives.
* `Template.exists_leftmost`, `Template.source_parse`: a text is cut at its leftmost placeholder,
  and the pieces put together are the text.
* `Template.render_substitutes`: a template that was cut renders like the text it was cut from.

Cutting, searching and replacing all go through a text from left to right (`Template.search`): there
is a placeholder in front, or one character is passed.  What a capture brings in stands before the
part still to be searched, so it is never looked at, whatever pieces of a marker it completes.
-/

namespace DelegatedScopes.Template

open Scope

/-! ### Searching a text -/

variable {ch : Char} {cs text : Text}

theorem not_prefix_iff : ¬ placeholder <+: ch :: cs ↔
    ∀ rest, ch = '<' → cs = '.' :: '.' :: '>' :: rest → False := by
  constructor
  · rintro h rest rfl rfl
    exact h (List.prefix_append placeholder rest)
  · rintro hcut ⟨rest, h⟩
    have hcs : '<' :: '.' :: '.' :: '>' :: rest = ch :: cs := h
    injection hcs with hch hcs
    exact hcut rest hch.symm hcs.symm

/-- A text is searched from left to right: it is empty, or a placeholder stands in front, or one
character is passed that starts no placeholder. -/
@[elab_as_elim]
theorem search {motive : Text → Prop} (nil : motive [])
    (marked : ∀ cs, motive cs → motive (placeholder ++ cs))
    (plain : ∀ ch cs, ¬ placeholder <+: ch :: cs → motive cs → motive (ch :: cs)) (text : Text) :
    motive text := by
  induction text using parse.induct with
  | case1 cs ih => exact marked cs ih
  | case2 ch cs hcut ih => exact plain ch cs (not_prefix_iff.2 hcut) ih
  | case3 => exact nil

theorem parse_plain (h : ¬ placeholder <+: ch :: cs) : parse (ch :: cs) = cons ch (parse cs) := by
  rw [parse]
  exact not_prefix_iff.1 h

theorem fill_parse_plain (h : ¬ placeholder <+: ch :: cs) (capture : Text) :
    (parse (ch :: cs)).fill capture = ch :: (parse cs).fill capture := by
  rw [parse_plain h]
  rfl

theorem replaceAll_plain (h : ¬ placeholder <+: ch :: cs) (capture : Text) :
    replaceAll capture (ch :: cs) = ch :: replaceAll capture cs := by
  rw [replaceAll]
  exact not_prefix_iff.1 h

theorem beforeFirst?_plain (h : ¬ placeholder <+: ch :: cs) :
    beforeFirst? (ch :: cs) = (beforeFirst? cs).map (ch :: ·) := by
  rw [beforeFirst?]
  exact not_prefix_iff.1 h

/-! ### The leftmost placeholder -/

/-- `before` and `after` stand around the leftmost placeholder of the text. -/
structure Leftmost (text before after : Text) : Prop where
  eq : text = before ++ placeholder ++ after
  least : ∀ b a, text = b ++ placeholder ++ a → before.length ≤ b.length

namespace Leftmost

variable {before after : Text}

/-- A text has one leftmost placeholder. -/
theorem unique (h : Leftmost text before after) {b a : Text} (h' : Leftmost text b a) :
    before = b ∧ after = a := by
  -- neither is longer than the other, and both are a beginning of the text
  have hlen : before.length = b.length :=
    Nat.le_antisymm (h.least b a h'.eq) (h'.least before after h.eq)
  have heq : before ++ (placeholder ++ after) = b ++ (placeholder ++ a) := by
    rw [← List.append_assoc, ← List.append_assoc, ← h.eq, ← h'.eq]
  obtain ⟨hb, hrest⟩ := List.append_inj heq hlen
  exact ⟨hb, List.append_cancel_left hrest⟩

theorem isInfix (h : Leftmost text before after) : placeholder <:+: text :=
  ⟨before, after, h.eq.symm⟩

theorem marked (cs : Text) : Leftmost (placeholder ++ cs) [] cs :=
  ⟨rfl, fun _ _ _ => Nat.zero_le _⟩

/-- A character that starts no placeholder moves the leftmost one by one. -/
theorem plain (hnot : ¬ placeholder <+: ch :: text) (h : Leftmost text before after) :
    Leftmost (ch :: text) (ch :: before) after where
  eq := by rw [h.eq]; rfl
  least b a heq := by
    cases b with
    | nil => exact absurd ⟨a, heq.symm⟩ hnot
    | cons c b =>
        injection heq with _ heq
        exact Nat.succ_le_succ (h.least b a heq)

end Leftmost

/-! ### Replacing -/

/-- A text with every placeholder replaced: the leftmost one, and then those of the text that stands
after it. -/
inductive Replaced (capture : Text) : Text → Text → Prop
  | none {text : Text} (h : ¬ placeholder <:+: text) : Replaced capture text text
  | first {text before after replaced : Text} (h : Leftmost text before after)
      (hafter : Replaced capture after replaced) :
      Replaced capture text (before ++ capture ++ replaced)

namespace Replaced

variable {capture replaced : Text}

/-- There is one way to replace every placeholder. -/
theorem unique (h : Replaced capture text replaced) {other : Text}
    (h' : Replaced capture text other) : replaced = other := by
  induction h generalizing other with
  | none hno =>
      cases h' with
      | none => rfl
      | first h _ => exact absurd h.isInfix hno
  | first h _ ih =>
      cases h' with
      | none hno => exact absurd h.isInfix hno
      | first h' hafter =>
          obtain ⟨rfl, rfl⟩ := h.unique h'
          rw [ih hafter]

theorem plain (hnot : ¬ placeholder <+: ch :: text) (h : Replaced capture text replaced) :
    Replaced capture (ch :: text) (ch :: replaced) := by
  cases h with
  | none hno => exact .none fun hin => (List.infix_cons_iff.1 hin).elim hnot hno
  | first h hafter => exact .first (h.plain hnot) hafter

end Replaced

theorem replaced_replaceAll (capture text : Text) :
    Replaced capture text (replaceAll capture text) := by
  induction text using search with
  | nil => exact .none (by decide)
  | marked cs ih => exact .first (.marked cs) ih
  | plain ch cs hnot ih =>
      rw [replaceAll_plain hnot]
      exact ih.plain hnot

/-- **Replacing all placeholders replaces the leftmost one first**, and goes on after it. -/
theorem replaceAll_eq_iff {capture replaced : Text} :
    replaceAll capture text = replaced ↔ Replaced capture text replaced :=
  ⟨fun h => h ▸ replaced_replaceAll capture text, (replaced_replaceAll capture text).unique⟩

/-! ### Cutting -/

/-- Filling the pieces of a text replaces all its placeholders. -/
theorem fill_parse (text capture : Text) :
    (parse text).fill capture = replaceAll capture text := by
  induction text using search with
  | nil => rfl
  | marked cs ih => exact (fill_parse_placeholder cs capture).trans (congrArg (capture ++ ·) ih)
  | plain ch cs hnot ih => rw [fill_parse_plain hnot, ih, replaceAll_plain hnot]

/-- The pieces of a text, with the placeholders put back, are the text. -/
theorem source_parse (text : Text) : (parse text).source = text := by
  induction text using search with
  | nil => rfl
  | marked cs ih =>
      exact (fill_parse_placeholder cs placeholder).trans (congrArg (placeholder ++ ·) ih)
  | plain ch cs hnot ih => exact (fill_parse_plain hnot placeholder).trans (congrArg (ch :: ·) ih)

/-- **A text is cut at its leftmost placeholder.** -/
theorem exists_leftmost (h : (parse text).hasPlaceholder = true) :
    ∃ after, Leftmost text (parse text).lead after := by
  induction text using search with
  | nil => cases h
  | marked cs => exact ⟨cs, .marked cs⟩
  | plain ch cs hnot ih =>
      rw [parse_plain hnot] at h ⊢
      obtain ⟨after, hleft⟩ := ih h
      exact ⟨after, hleft.plain hnot⟩

theorem hasPlaceholder_parse_iff :
    (parse text).hasPlaceholder = true ↔ placeholder <:+: text := by
  refine ⟨fun h => (exists_leftmost h).choose_spec.isInfix, ?_⟩
  induction text using search with
  | nil => exact fun h => absurd h (by decide)
  | marked cs => exact fun _ => rfl
  | plain ch cs hnot ih =>
      intro h
      rw [parse_plain hnot]
      exact ih ((List.infix_cons_iff.1 h).resolve_left hnot)

/-- Searching for the first placeholder finds where the text is cut. -/
theorem beforeFirst?_eq (text : Text) :
    beforeFirst? text = if (parse text).hasPlaceholder then some (parse text).lead else none := by
  induction text using search with
  | nil => rfl
  | marked cs => rfl
  | plain ch cs hnot ih =>
      rw [beforeFirst?_plain hnot, ih, parse_plain hnot, cons, hasPlaceholder, hasPlaceholder]
      split <;> rfl

/-- A text without a placeholder is one piece. -/
theorem lead_parse (h : (parse text).hasPlaceholder = false) : (parse text).lead = text := by
  rw [← render_of_not_hasPlaceholder h (.exactly placeholder), render_exact rfl]
  exact source_parse text

/-! ### Rendering -/

/-- **A template that was cut renders like the text it was cut from.** -/
theorem render_parse (text : Text) (a : Activation) :
    (parse text).render a = substitute text a := by
  rw [substitute, beforeFirst?_eq]
  cases h : (parse text).hasPlaceholder with
  | false =>
      rw [render_of_not_hasPlaceholder h]
      exact lead_parse h
  | true =>
      cases hopen : a.isOpen with
      | false => rw [render_exact hopen, fill_parse]; rfl
      | true => rw [render_open h hopen]; rfl

/-- **Rendering is substitution.**  A template that was cut renders like the text it was cut from,
and filled with the placeholder it is that text again.  An exact capture replaces the leftmost
placeholder and then those after it, and what it brings in is not looked at again; an open one ends
the scope at the leftmost placeholder. -/
theorem render_substitutes (text : Text) :
    (∀ a, (parse text).render a = substitute text a) ∧
      (parse text).render (.exactly placeholder) = text ∧
      (∀ capture scope,
        substitute text (.exactly capture) = scope ↔ Replaced capture text scope) ∧
      ∀ capture, (¬ placeholder <:+: text → substitute text (.startingWith capture) = text) ∧
        ∀ before after, Leftmost text before after →
          substitute text (.startingWith capture) = before ++ capture ++ ['*'] := by
  refine ⟨render_parse text, ?_, fun capture scope => ?_, fun capture =>
    ⟨fun hno => ?_, fun before after h => ?_⟩⟩
  · rw [render_exact rfl]
    exact source_parse text
  · rw [← render_parse, render_exact rfl, fill_parse, replaceAll_eq_iff]
    rfl
  · have hplain : (parse text).hasPlaceholder = false := by
      rwa [← Bool.not_eq_true, hasPlaceholder_parse_iff]
    rw [← render_parse, render_of_not_hasPlaceholder hplain, lead_parse hplain]
  · have hmarked : (parse text).hasPlaceholder = true := hasPlaceholder_parse_iff.2 h.isInfix
    obtain ⟨after', hleft⟩ := exists_leftmost hmarked
    rw [← render_parse, render_open hmarked rfl, (hleft.unique h).1]
    rfl

/-- The capture completes a marker with what stands around the placeholder, and that marker
stays. -/
example : (parse "<..<..>..>".toList).render (.exactly ">".toList) = "<..>..>".toList := by
  decide

end DelegatedScopes.Template
