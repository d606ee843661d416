import DelegatedScopes.Proofs.Resolver.Lookup
import DelegatedScopes.Proofs.Scope.NormalForm

/-!
# Resolver — runs

* `Expansion.Valid`: the three parts of an expansion agree, and no scope arrived twice.
* `Expansion.covers_iff`: the probe for a scope that implies another finds it.
* `Resolver.expand_outcome`, `Resolver.resolve_outcome`: how a run ends.  It exceeds its limit, or
  `*` is granted, or every scope that arrived was taken.  A property that taking a scope keeps
  (`Resolver.Keeps`) holds in the end.
-/

namespace DelegatedScopes

open Scope

namespace Expansion

/-- The scopes met, in the order of their arrival. -/
def scopes (e : Expansion) : List Scope := e.arrivals.toList

/-- The set of scopes met and the table of literal parts are those of the scopes that arrived, and
no scope arrived twice. -/
structure Valid (e : Expansion) : Prop where
  nodup : e.scopes.Nodup
  seen : ∀ s, s ∈ e.seen ↔ s ∈ e.scopes
  literals : ∀ t, t ∈ e.literals ↔ t ++ ['*'] ∈ e.scopes

theorem valid_empty : empty.Valid :=
  ⟨List.nodup_nil, by simp [empty, scopes], by simp [empty, scopes]⟩

/-- The probe leaves out just the cut at which a wildcard scope would imply itself. -/
theorem probed_iff {s : Scope} {a b : Text} (hab : a ++ b = s.literal) :
    (!(s.isWildcard && b.isEmpty)) = true ↔ a ++ ['*'] ≠ s := by
  rw [Bool.not_eq_true', Bool.and_eq_false_iff]
  constructor
  · rintro (hw | hb) rfl
    · simp at hw
    · rw [literal_append_star, List.append_right_eq_self] at hab
      simp [hab] at hb
  · intro hne
    by_contra hcon
    simp only [not_or, Bool.not_eq_false, List.isEmpty_iff] at hcon
    rw [hcon.2, List.append_nil] at hab
    exact hne (hab ▸ (eq_of_isWildcard hcon.1).symm)

namespace Valid

variable {e : Expansion}

/-- What has been seen is what has been found. -/
theorem contains_iff (h : e.Valid) {s : Scope} : e.seen.contains s = true ↔ s ∈ e.scopes :=
  Std.TreeSet.contains_iff_mem.trans (h.seen s)

/-- A scope arrives at the end, unless it arrived before. -/
theorem scopes_add (h : e.Valid) (s : Scope) :
    (e.add s).scopes = if s ∈ e.scopes then e.scopes else e.scopes ++ [s] := by
  by_cases hs : s ∈ e.scopes
  · rw [if_pos hs, add, if_pos (h.contains_iff.2 hs)]
  · rw [if_neg hs, add, if_neg (mt h.contains_iff.1 hs), scopes, Array.toList_push, scopes]

/-- A scope that is added is found, and nothing else is new. -/
theorem mem_add (h : e.Valid) {s t : Scope} : t ∈ (e.add s).scopes ↔ t ∈ e.scopes ∨ t = s := by
  rw [h.scopes_add]
  split
  · rename_i hs
    exact ⟨Or.inl, fun ht => ht.elim id (fun e => e ▸ hs)⟩
  · rw [List.mem_append, List.mem_singleton]

/-- What has been found stays in its place. -/
theorem prefix_add (h : e.Valid) (s : Scope) : e.scopes <+: (e.add s).scopes := by
  rw [h.scopes_add]
  split
  · exact List.prefix_rfl
  · exact List.prefix_append e.scopes [s]

protected theorem add (h : e.Valid) (s : Scope) : (e.add s).Valid := by
  refine ⟨?_, fun t => ?_, fun t => ?_⟩
  · rw [h.scopes_add]
    split
    · exact h.nodup
    · rename_i hs
      refine List.nodup_append.2 ⟨h.nodup, List.pairwise_singleton _ s, ?_⟩
      rintro x hx y hy rfl
      exact hs (List.mem_singleton.1 hy ▸ hx)
  · rw [h.mem_add, add]
    split
    · rename_i hs
      rw [h.seen]
      exact ⟨Or.inl, fun ht => ht.elim id (fun e => e ▸ h.contains_iff.1 hs)⟩
    · rw [Std.TreeSet.mem_insert, h.seen, Std.LawfulEqCmp.compare_eq_iff_eq, or_comm, eq_comm]
  · rw [h.mem_add, add]
    split
    · rename_i hs
      rw [h.literals]
      exact ⟨Or.inl, fun ht => ht.elim id (fun e => e ▸ h.contains_iff.1 hs)⟩
    · cases hw : s.isWildcard with
      | true =>
          simp only [if_true, Std.TreeSet.mem_insert, h.literals,
            Std.LawfulEqCmp.compare_eq_iff_eq, literal_eq_iff hw, or_comm]
      | false =>
          simp only [Bool.false_eq_true, if_false, h.literals, append_star_ne hw, or_false]

theorem foldl_add (h : e.Valid) (ss : List Scope) : (ss.foldl add e).Valid := by
  induction ss generalizing e with
  | nil => exact h
  | cons s ss ih => exact ih (h.add s)

theorem mem_foldl_add (h : e.Valid) {ss : List Scope} {t : Scope} :
    t ∈ (ss.foldl add e).scopes ↔ t ∈ e.scopes ∨ t ∈ ss := by
  induction ss generalizing e with
  | nil => simp
  | cons s ss ih => rw [List.foldl_cons, ih (h.add s), h.mem_add, List.mem_cons, or_assoc]

theorem prefix_foldl_add (h : e.Valid) (ss : List Scope) :
    e.scopes <+: (ss.foldl add e).scopes := by
  induction ss generalizing e with
  | nil => exact List.prefix_rfl
  | cons s ss ih => exact (h.prefix_add s).trans (ih (h.add s))

/-- **The probe finds another scope of the expansion that implies the given one.** -/
theorem covers_iff (h : e.Valid) {s : Scope} :
    e.covers s = true ↔ ∃ t ∈ e.scopes, t ≠ s ∧ implies t s = true := by
  simp only [covers, List.any_eq_true, Prod.exists, Text.mem_splits, Bool.and_eq_true,
    Std.TreeSet.contains_iff_mem, h.literals]
  constructor
  · rintro ⟨a, b, hab, hne, ha⟩
    have himp : implies (a ++ ['*']) s = true :=
      implies_append_star_iff.2 (hab ▸ List.prefix_append a b)
    exact ⟨a ++ ['*'], ha, (probed_iff hab).1 hne, himp⟩
  · rintro ⟨t, ht, hne, hts⟩
    obtain ⟨hw, b, hb⟩ := (implies_iff.1 hts).resolve_left hne
    refine ⟨t.literal, b, hb, (probed_iff hb).2 ?_, ?_⟩
    · rwa [← eq_of_isWildcard hw]
    · rwa [← eq_of_isWildcard hw]

end Valid

end Expansion

namespace Resolver

/-! ### How a run ends -/

/-- A property of an expansion and the number of scopes taken from it that taking the next scope
keeps. -/
structure Keeps (r : Resolver) (I : Expansion → Nat → Prop) : Prop where
  skip : ∀ {e n s}, I e n → e.scopes[n]? = some s → e.covers s = true → I e (n + 1)
  grant : ∀ {e n s}, I e n → e.scopes[n]? = some s → e.covers s = false →
    star ∉ r.grants s → I ((r.grants s).foldl Expansion.add e) (n + 1)

/-- How a run ends that keeps a property: over its limit, with `*`, or with every scope taken. -/
inductive Outcome (r : Resolver) (I : Expansion → Nat → Prop) (limit : Nat) :
    Except ResolutionError (List Scope) → Prop
  | exceeded {e : Expansion} (h : I e limit) (hsize : limit < e.scopes.length) :
      Outcome r I limit (.error (.stepLimit r.maxSteps))
  | star {e : Expansion} {n : Nat} {s : Scope} (h : I e n) (hs : e.scopes[n]? = some s)
      (hc : e.covers s = false) (hg : Scope.star ∈ r.grants s) :
      Outcome r I limit (.ok [Scope.star])
  | finished {e : Expansion} {n : Nat} (h : I e n) (hall : e.scopes.length ≤ n)
      (hn : n ≤ limit) : Outcome r I limit (.ok (normalize e.scopes))

/-- **What each step keeps holds when the run ends.** -/
theorem expand_outcome {r : Resolver} {I : Expansion → Nat → Prop} (hk : r.Keeps I) :
    ∀ {left : Nat} {e : Expansion} {taken : Nat}, I e taken →
      Outcome r I (taken + left) (r.expand e taken left) := by
  -- with one scope fewer left, one more is taken
  intro left
  induction left with
  | zero =>
      intro e taken h
      rw [expand]
      split
      · rename_i hlt; exact .exceeded h hlt
      · rename_i hlt; exact .finished h (Nat.not_lt.1 hlt) (Nat.le_refl _)
  | succ left ih =>
      intro e taken h
      rw [expand, ← Array.getElem?_toList, show taken + (left + 1) = taken + 1 + left by omega]
      split
      · rename_i hnone
        exact .finished h (List.getElem?_eq_none_iff.1 hnone) (by omega)
      · rename_i s hs
        split
        · rename_i hc
          exact ih (hk.skip h hs hc)
        · rename_i hc
          dsimp only
          split
          · rename_i hg
            exact .star h hs (by simpa using hc) (by simpa using hg)
          · rename_i hg
            exact ih (hk.grant h hs (by simpa using hc) (by simpa using hg))

/-- The expansion that a scope set starts with. -/
def start (scopes : List Scope) : Expansion := (normalize scopes).foldl Expansion.add .empty

theorem valid_start (scopes : List Scope) : (start scopes).Valid :=
  Expansion.valid_empty.foldl_add _

theorem mem_start {scopes : List Scope} {s : Scope} :
    s ∈ (start scopes).scopes ↔ s ∈ normalize scopes := by
  rw [start, Expansion.valid_empty.mem_foldl_add]
  simp [Expansion.empty, Expansion.scopes]

/-- Whoever holds `*` holds nothing else, and nothing is taken. -/
theorem resolve_of_star {r : Resolver} {scopes : List Scope} (h : Scope.star ∈ scopes) :
    r.resolve scopes = .ok [Scope.star] := by
  have hn : normalize scopes = [Scope.star] := by simp [Scope.normalize, h]
  simp [resolve, hn]

/-- A request without the bare star is expanded step by step. -/
theorem resolve_of_not_star {r : Resolver} {scopes : List Scope} (h : Scope.star ∉ scopes) :
    r.resolve scopes = r.expand (start scopes) 0 r.maxSteps := by
  have hn : (normalize scopes).contains Scope.star = false := by
    rw [List.contains_eq_mem, decide_eq_false_iff_not]
    exact fun hmem => h (normalize_subset scopes hmem)
  simp only [resolve, hn]
  rfl

/-- **How resolution ends**: `*` was held, or the run from the scopes held ends. -/
theorem resolve_outcome {r : Resolver} {I : Expansion → Nat → Prop} (hk : r.Keeps I)
    {scopes : List Scope} (h : Scope.star ∉ scopes → I (start scopes) 0) :
    Scope.star ∈ scopes ∧ r.resolve scopes = .ok [Scope.star] ∨
      Scope.star ∉ scopes ∧ Outcome r I r.maxSteps (r.resolve scopes) := by
  by_cases hs : Scope.star ∈ scopes
  · exact Or.inl ⟨hs, resolve_of_star hs⟩
  · have hrun : Outcome r I (0 + r.maxSteps) (r.expand (start scopes) 0 r.maxSteps) :=
      expand_outcome hk (h hs)
    rw [Nat.zero_add, ← resolve_of_not_star hs] at hrun
    exact Or.inr ⟨hs, hrun⟩

/-- The only error of an expansion is that it exceeds its limit. -/
theorem resolve_error {r : Resolver} {scopes : List Scope} {e : ResolutionError}
    (h : r.resolve scopes = .error e) : e = .stepLimit r.maxSteps := by
  have hkeeps : r.Keeps fun _ _ => True := ⟨fun _ _ _ => trivial, fun _ _ _ _ => trivial⟩
  rcases resolve_outcome hkeeps (fun _ => trivial) with ⟨-, hok⟩ | ⟨-, hout⟩
  · rw [hok] at h; cases h
  · rw [h] at hout
    cases hout
    rfl

end Resolver

end DelegatedScopes
