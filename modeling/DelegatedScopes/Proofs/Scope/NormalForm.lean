import DelegatedScopes.Proofs.Scope.Implication
import DelegatedScopes.Scope.NormalForm
import Mathlib.Logic.Basic
import Mathlib.Tactic.ByContra

/-!
# Scopes — what a normal form keeps

* `mem_normalize`: the normal form of a list keeps exactly the scopes that no other scope of the
  list implies.
* `pairwise_normalize`: it is strictly increasing.
* `covers_normalize`: every scope of the list is implied by one that is kept.
* `eq_normalize`: these determine the normal form; a strictly increasing list with the same
  scopes as the maximal ones is the normal form.
* `normalize_eq_of_covers`: lists that cover each other have the same normal form.
* `Covers`: one list of scopes grants at least what another grants.

A sweep remembers the last wildcard scope it kept.  `Before` is what holds of its memory against
the scopes still to come: they are sorted after it, and the last scope kept, if a wildcard, is the
last wildcard scope kept.  A scope that some kept wildcard scope implies is then implied by the
last one, since between a scope and what it implies there is nothing that it does not imply.
-/

namespace DelegatedScopes.Scope

/-- Every scope of `b` is implied by a scope of `a`. -/
def Covers (a b : List Scope) : Prop := ∀ s ∈ b, ∃ t ∈ a, implies t s = true

theorem Covers.refl (a : List Scope) : Covers a a := fun s hs => ⟨s, hs, implies_refl s⟩

theorem Covers.trans {a b c : List Scope} (hab : Covers a b) (hbc : Covers b c) : Covers a c := by
  intro s hs
  obtain ⟨t, ht, hts⟩ := hbc s hs
  obtain ⟨u, hu, hut⟩ := hab t ht
  exact ⟨u, hu, implies_trans hut hts⟩

theorem covers_of_subset {a b : List Scope} (h : b ⊆ a) : Covers a b :=
  fun s hs => ⟨s, h hs, implies_refl s⟩

/-- No other scope of the list implies it. -/
def Maximal (scopes : List Scope) (s : Scope) : Prop :=
  s ∈ scopes ∧ ∀ t ∈ scopes, t ≠ s → implies t s = false

theorem maximal_congr {a b : List Scope} (h : ∀ s, s ∈ a ↔ s ∈ b) {s : Scope} :
    Maximal a s ↔ Maximal b s := by
  simp only [Maximal, h]

/-- Of two lists that cover each other, each has the maximal scopes of the other. -/
theorem Maximal.of_covers {a b : List Scope} {s : Scope} (h : Maximal a s) (hab : Covers a b)
    (hba : Covers b a) : Maximal b s := by
  obtain ⟨hs, hmax⟩ := h
  -- what implies `s` in `b` is implied from `a`, where only `s` itself implies `s`
  have hunique : ∀ t ∈ b, implies t s = true → t = s := by
    intro t ht hts
    obtain ⟨u, hu, hut⟩ := hab t ht
    by_cases hus : u = s
    · exact implies_antisymm hts (hus ▸ hut)
    · have := implies_trans hut hts
      rw [hmax u hu hus] at this
      cases this
  obtain ⟨t, ht, hts⟩ := hba s hs
  refine ⟨hunique t ht hts ▸ ht, fun t ht hne => ?_⟩
  rw [Bool.eq_false_iff]
  exact fun hts => hne (hunique t ht hts)

/-- **Every scope of a list is implied by a maximal one.** -/
theorem exists_maximal {scopes : List Scope} {s : Scope} (hs : s ∈ scopes) :
    ∃ t, Maximal scopes t ∧ implies t s = true := by
  by_cases hmax : ∀ t ∈ scopes, t ≠ s → implies t s = false
  · exact ⟨s, ⟨hs, hmax⟩, implies_refl s⟩
  · simp only [not_forall, Bool.not_eq_false] at hmax
    obtain ⟨t, ht, hne, hts⟩ := hmax
    have := weight_lt hts hne
    obtain ⟨u, hu, hut⟩ := exists_maximal ht
    exact ⟨u, hu, implies_trans hut hts⟩
termination_by s.weight

/-! ### The sweep -/

/-- What a sweep remembers, against the scopes still to come. -/
structure Before (cover last : Option Scope) (rest : List Scope) : Prop where
  wildcard : ∀ c, cover = some c → c.isWildcard = true
  cover_le : ∀ c, cover = some c → ∀ s ∈ rest, ordered c s = true
  last_le : ∀ l, last = some l → ∀ s ∈ rest, ordered l s = true
  last_cover : ∀ l, last = some l → l.isWildcard = true → cover = some l

theorem Before.tail {cover last : Option Scope} {s : Scope} {rest : List Scope}
    (h : Before cover last (s :: rest)) : Before cover last rest where
  wildcard := h.wildcard
  cover_le c hc t ht := h.cover_le c hc t (List.mem_cons_of_mem s ht)
  last_le l hl t ht := h.last_le l hl t (List.mem_cons_of_mem s ht)
  last_cover := h.last_cover

/-- The memory after a scope is kept. -/
theorem Before.keep {cover last : Option Scope} {s : Scope} {rest : List Scope}
    (h : Before cover last (s :: rest)) (hle : ∀ t ∈ rest, ordered s t = true) :
    Before (if s.isWildcard then some s else cover) (some s) rest where
  wildcard c hc := by
    split at hc
    · rename_i hw; cases hc; exact hw
    · exact h.wildcard c hc
  cover_le c hc := by
    split at hc
    · cases hc; exact hle
    · exact h.tail.cover_le c hc
  last_le l hl := by cases hl; exact hle
  last_cover l hl hw := by cases hl; rw [if_pos hw]

/-- A scope to come that the memory does not account for, and that no other scope to come
implies. -/
structure Kept (cover last : Option Scope) (rest : List Scope) (s : Scope) : Prop where
  maximal : Maximal rest s
  uncovered : ∀ c, cover = some c → implies c s = false
  fresh : last ≠ some s

/-- Nothing changes when a scope is dropped that the memory accounts for. -/
theorem Before.kept_drop {cover last : Option Scope} {x s : Scope} {rest : List Scope}
    (hb : Before cover last (x :: rest))
    (hx : (∃ c, cover = some c ∧ implies c x = true) ∨ last = some x) :
    Kept cover last rest s ↔ Kept cover last (x :: rest) s := by
  constructor
  · rintro ⟨⟨hs, hmax⟩, hcov, hlast⟩
    refine ⟨⟨List.mem_cons_of_mem x hs, fun t ht hne => ?_⟩, hcov, hlast⟩
    rcases List.mem_cons.1 ht with rfl | ht
    · -- what `t` implies the cover implies
      rw [Bool.eq_false_iff]
      intro hts
      rcases hx with ⟨c, hc, hct⟩ | hl
      · exact Bool.eq_false_iff.1 (hcov c hc) (implies_trans hct hts)
      · have hc := hb.last_cover t hl (isWildcard_of_implies_ne hts hne)
        exact Bool.eq_false_iff.1 (hcov t hc) hts
    · exact hmax t ht hne
  · rintro ⟨⟨hs, hmax⟩, hcov, hlast⟩
    refine ⟨⟨?_, fun t ht => hmax t (List.mem_cons_of_mem x ht)⟩, hcov, hlast⟩
    refine (List.mem_cons.1 hs).resolve_left ?_
    rintro rfl
    rcases hx with ⟨c, hc, hcs⟩ | hl
    · exact Bool.eq_false_iff.1 (hcov c hc) hcs
    · exact hlast hl

/-- The first scope of a sorted list is kept when the memory does not account for it. -/
theorem kept_head {cover last : Option Scope} {x : Scope} {rest : List Scope}
    (hle : ∀ t ∈ rest, ordered x t = true) (hcov : ∀ c, cover = some c → implies c x = false)
    (hlast : last ≠ some x) : Kept cover last (x :: rest) x := by
  refine ⟨⟨List.mem_cons_self, fun t ht hne => ?_⟩, hcov, hlast⟩
  rw [Bool.eq_false_iff]
  intro hts
  have ht' := (List.mem_cons.1 ht).resolve_left hne
  exact hne (ordered_antisymm (ordered_of_implies hts) (hle t ht'))

/-- The scopes kept after `x` are those the memory with `x` in it does not account for. -/
theorem Before.kept_tail {cover last : Option Scope} {x s : Scope} {rest : List Scope}
    (hb : Before cover last (x :: rest)) (hle : ∀ t ∈ rest, ordered x t = true)
    (hcov : ∀ c, cover = some c → implies c x = false) (hsx : s ≠ x) :
    Kept (if x.isWildcard then some x else cover) (some x) rest s ↔
      Kept cover last (x :: rest) s := by
  constructor
  · rintro ⟨⟨hs, hmax⟩, hcov', -⟩
    have hxs : implies x s = false := by
      by_cases hw : x.isWildcard = true
      · exact hcov' x (if_pos hw)
      · rw [Bool.eq_false_iff]
        exact fun h => hw (isWildcard_of_implies_ne h (Ne.symm hsx))
    refine ⟨⟨List.mem_cons_of_mem x hs, fun t ht hne => ?_⟩, fun c hc => ?_, fun hl => ?_⟩
    · rcases List.mem_cons.1 ht with rfl | ht
      · exact hxs
      · exact hmax t ht hne
    · -- the old cover does not imply `x`, and `x` lies between it and `s`
      rw [Bool.eq_false_iff]
      intro hcs
      have := implies_of_between (hb.wildcard c hc) hcs
        (hb.cover_le c hc x List.mem_cons_self) (hle s hs)
      exact Bool.eq_false_iff.1 (hcov c hc) this
    · have hsx' := hb.last_le s hl x List.mem_cons_self
      exact hsx (ordered_antisymm hsx' (hle s hs))
  · rintro ⟨⟨hs, hmax⟩, hcov', -⟩
    have hxs := hmax x List.mem_cons_self (Ne.symm hsx)
    refine ⟨⟨(List.mem_cons.1 hs).resolve_left hsx,
      fun t ht => hmax t (List.mem_cons_of_mem x ht)⟩, fun c hc => ?_, ?_⟩
    · split at hc
      · cases hc; exact hxs
      · exact hcov' c hc
    · rintro ⟨⟩; exact hsx rfl

/-- **A sweep keeps exactly the scopes its memory does not account for.** -/
theorem mem_sweepFrom {rest : List Scope} (hsorted : rest.Pairwise fun a b => ordered a b = true) :
    ∀ {cover last : Option Scope}, Before cover last rest → ∀ {s : Scope},
      s ∈ sweepFrom cover last rest ↔ Kept cover last rest s := by
  induction rest with
  | nil =>
      intro cover last _ s
      exact ⟨nofun, fun h => h.maximal.1⟩
  | cons x rest ih =>
      intro cover last hb s
      obtain ⟨hle, hrest⟩ := List.pairwise_cons.1 hsorted
      rw [sweepFrom]
      split
      · rename_i hskip
        simp only [Bool.or_eq_true, Option.any_eq_true, beq_iff_eq] at hskip
        rw [ih hrest hb.tail, hb.kept_drop hskip]
      · rename_i hkeep
        simp only [Bool.or_eq_true, Option.any_eq_true, beq_iff_eq, not_or, not_exists, not_and,
          Bool.not_eq_true] at hkeep
        by_cases hsx : s = x
        · subst hsx
          simp only [List.mem_cons_self, true_iff]
          exact kept_head hle hkeep.1 hkeep.2
        · rw [List.mem_cons, or_iff_right hsx, ih hrest (hb.keep hle),
            hb.kept_tail hle hkeep.1 hsx]

/-- A sweep of a sorted list is strictly increasing. -/
theorem pairwise_sweepFrom {rest : List Scope}
    (hsorted : rest.Pairwise fun a b => ordered a b = true) :
    ∀ {cover last : Option Scope}, Before cover last rest →
      (sweepFrom cover last rest).Pairwise fun a b => order a b = .lt := by
  induction rest with
  | nil => intro cover last _; simp [sweepFrom]
  | cons x rest ih =>
      intro cover last hb
      obtain ⟨hle, hrest⟩ := List.pairwise_cons.1 hsorted
      rw [sweepFrom]
      split
      · exact ih hrest hb.tail
      · refine List.pairwise_cons.2 ⟨fun s hs => ?_, ih hrest (hb.keep hle)⟩
        have hkept := (mem_sweepFrom hrest (hb.keep hle)).1 hs
        rcases Ordering.isLE_iff_eq_lt_or_eq_eq.1 (hle s hkept.maximal.1) with h | h
        · exact h
        · exact absurd (congrArg some (Std.LawfulEqCmp.eq_of_compare h)) hkept.fresh

theorem before_none (rest : List Scope) : Before none none rest :=
  ⟨nofun, nofun, nofun, nofun⟩

/-- **A sweep of a sorted list keeps exactly the maximal scopes.** -/
theorem mem_sweep {scopes : List Scope} (hsorted : scopes.Pairwise fun a b => ordered a b = true)
    {s : Scope} : s ∈ sweep scopes ↔ Maximal scopes s := by
  rw [sweep, mem_sweepFrom hsorted (before_none scopes)]
  exact ⟨fun h => h.maximal, fun h => ⟨h, nofun, nofun⟩⟩

theorem pairwise_sweep {scopes : List Scope}
    (hsorted : scopes.Pairwise fun a b => ordered a b = true) :
    (sweep scopes).Pairwise fun a b => order a b = .lt :=
  pairwise_sweepFrom hsorted (before_none scopes)

/-! ### Normal forms -/

theorem pairwise_sorted (scopes : List Scope) :
    (scopes.mergeSort ordered).Pairwise fun a b => ordered a b = true :=
  @List.pairwise_mergeSort _ ordered (fun _ _ _ => ordered_trans) ordered_total scopes

/-- **A normal form keeps exactly the maximal scopes.** -/
theorem mem_normalize {scopes : List Scope} {s : Scope} :
    s ∈ normalize scopes ↔ Maximal scopes s := by
  rw [normalize]
  split
  · rename_i hstar
    have hstar : star ∈ scopes := by simpa using hstar
    rw [List.mem_singleton]
    constructor
    · rintro rfl
      refine ⟨hstar, fun t _ hne => ?_⟩
      rw [Bool.eq_false_iff]
      exact fun h => hne (implies_antisymm h (implies_star t))
    · rintro ⟨-, hmax⟩
      by_contra hne
      exact Bool.eq_false_iff.1 (hmax star hstar (Ne.symm hne)) (implies_star s)
  · rw [mem_sweep (pairwise_sorted scopes)]
    exact maximal_congr fun t => List.mem_mergeSort

/-- **A normal form is strictly increasing.** -/
theorem pairwise_normalize (scopes : List Scope) :
    (normalize scopes).Pairwise fun a b => order a b = .lt := by
  rw [normalize]
  split
  · exact List.pairwise_singleton _ _
  · exact pairwise_sweep (pairwise_sorted scopes)

theorem normalize_subset (scopes : List Scope) : normalize scopes ⊆ scopes :=
  fun _ hs => (mem_normalize.1 hs).1

/-- No scope of a normal form implies another. -/
theorem eq_of_implies_of_mem_normalize {scopes : List Scope} {a b : Scope}
    (ha : a ∈ normalize scopes) (hb : b ∈ normalize scopes) (h : implies a b = true) : a = b := by
  by_contra hne
  exact Bool.eq_false_iff.1 ((mem_normalize.1 hb).2 a (normalize_subset scopes ha) hne) h

/-- **Every scope of a list is implied by one that its normal form keeps.** -/
theorem covers_normalize (scopes : List Scope) : Covers (normalize scopes) scopes := by
  intro s hs
  obtain ⟨t, ht, hts⟩ := exists_maximal hs
  exact ⟨t, mem_normalize.2 ht, hts⟩

theorem nodup_of_increasing {a : List Scope} (h : a.Pairwise fun x y => order x y = .lt) :
    a.Nodup := by
  refine h.imp fun {x y} hxy e => ?_
  subst e
  simp [Std.ReflCmp.compare_self] at hxy

/-- Two strictly increasing lists with the same scopes are equal. -/
theorem eq_of_increasing {a b : List Scope} (ha : a.Pairwise fun x y => order x y = .lt)
    (hb : b.Pairwise fun x y => order x y = .lt) (h : ∀ s, s ∈ a ↔ s ∈ b) : a = b := by
  have hperm : a.Perm b :=
    (List.perm_ext_iff_of_nodup (nodup_of_increasing ha) (nodup_of_increasing hb)).2 h
  refine hperm.eq_of_pairwise (fun x y _ _ hxy hyx => ?_) ha hb
  exact absurd hyx (Std.OrientedCmp.not_lt_of_lt hxy)

/-- **The maximal scopes determine the normal form.** -/
theorem eq_normalize {a scopes : List Scope} (ha : a.Pairwise fun x y => order x y = .lt)
    (h : ∀ s, s ∈ a ↔ Maximal scopes s) : a = normalize scopes :=
  eq_of_increasing ha (pairwise_normalize scopes) fun s => (h s).trans mem_normalize.symm

/-- **Lists that cover each other have the same normal form.** -/
theorem normalize_eq_of_covers {a b : List Scope} (hab : Covers a b) (hba : Covers b a) :
    normalize a = normalize b :=
  eq_normalize (pairwise_normalize a) fun _ =>
    mem_normalize.trans ⟨fun h => h.of_covers hab hba, fun h => h.of_covers hba hab⟩

/-- **Only the maximal scopes count.**  Lists between a normal form and the list it comes from have
the same normal form. -/
theorem normalize_of_between {a b : List Scope} (hab : normalize a ⊆ b) (hba : b ⊆ a) :
    normalize b = normalize a :=
  normalize_eq_of_covers ((covers_of_subset hab).trans (covers_normalize a)) (covers_of_subset hba)

theorem normalize_normalize (scopes : List Scope) :
    normalize (normalize scopes) = normalize scopes :=
  normalize_of_between (List.Subset.refl _) (normalize_subset scopes)

end DelegatedScopes.Scope
