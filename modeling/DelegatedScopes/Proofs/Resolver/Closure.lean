import DelegatedScopes.Proofs.Resolver.Run
import Mathlib.Data.List.Permutation
import Mathlib.Data.List.Sort

/-!
# Resolver — resolution computes the transitive closure

* `Role.Closure`: the scopes that a scope set leads to.
* `Resolver.resolve_ok`: an answer is `*`, or the normal form of a saturated set of scopes.
* `Resolver.Answer`: what holds of every answer.  Its scopes are in the closure and increasing, no
  one implies another, and together they imply the scopes held and whatever one of them grants.
* `Resolver.resolve_eq_closure`: unless a star stands right before a placeholder, the answer is the
  normal form of the closure.

A set of scopes is *saturated* when each of its scopes is implied by another one or has all it
grants in the set.  A scope that is passed over is implied by another, and a broader scope grants
more; so whatever the closure holds is implied by a scope of a saturated set.  Only a bare
template breaks this: it grants `q*` to an exact activation and `q**` to an open one.
-/

namespace DelegatedScopes

open Scope

namespace Role

/-- The scopes that a scope set leads to: those held, and whatever is granted to the holder of
one of them. -/
inductive Closure (roles : List Role) (scopes : List Scope) : Scope → Prop
  | held {s : Scope} (h : s ∈ scopes) : Closure roles scopes s
  | granted {s g : Scope} (h : Closure roles scopes s) (hg : Grants roles s g) :
      Closure roles scopes g

variable {roles : List Role} {scopes : List Scope}

/-- `g` is what a bare template of a role grants to an exact activation with nothing captured, by
the scope `s`. -/
def BareGrant (roles : List Role) (s g : Scope) : Prop :=
  ∃ r ∈ effective roles, ∃ t ∈ r.templates, t.Bare ∧ activate r.id s = some (.exactly []) ∧
    g = t.lead

/-- **A broader scope is granted more**, bare templates apart. -/
theorem Grants.mono {a b g : Scope} (hab : implies a b = true) (h : Grants roles b g) :
    (∃ g', Grants roles a g' ∧ implies g' g = true) ∨ BareGrant roles b g := by
  obtain ⟨r, hr, mb, hb, t, ht, rfl⟩ := h
  obtain ⟨ma, ha, -⟩ := activate_mono hab hb
  rcases Template.render_mono (t := t) hab ha hb with himp | ⟨hbare, rfl⟩
  · exact Or.inl ⟨t.render ma, ⟨r, hr, ma, ha, t, ht, rfl⟩, himp⟩
  · exact Or.inr ⟨r, hr, t, ht, hbare, hb, Template.render_of_bare hbare⟩

/-- Scopes that imply everything a set grants and every bare grant imply the whole closure. -/
theorem Closure.covered {out : List Scope} (hheld : Covers out scopes)
    (hgrants : ∀ t ∈ out, ∀ g, Grants roles t g → ∃ u ∈ out, implies u g = true)
    (hbare : ∀ s g, BareGrant roles s g → (∃ t ∈ out, implies t s = true) →
      ∃ u ∈ out, implies u g = true) {s : Scope} (h : Closure roles scopes s) :
    ∃ t ∈ out, implies t s = true := by
  induction h with
  | held h => exact hheld _ h
  | granted _ hg ih =>
      -- whatever implies a scope is granted more than the scope is
      obtain ⟨t, ht, hts⟩ := ih
      rcases hg.mono hts with ⟨g', hg', himp⟩ | hb
      · obtain ⟨u, hu, hug⟩ := hgrants t ht g' hg'
        exact ⟨u, hu, implies_trans hug himp⟩
      · exact hbare _ _ hb ⟨t, ht, hts⟩

end Role

namespace Resolver

open Role (Closure Grants)

variable {roles : List Role} {scopes : List Scope} {maxSteps : Nat}

/-! ### Saturation -/

/-- The scope is implied by another of the set, or the set has all that it grants. -/
def Settled (roles : List Role) (set : List Scope) (s : Scope) : Prop :=
  (∃ t ∈ set, t ≠ s ∧ implies t s = true) ∨ ∀ g, Grants roles s g → g ∈ set

theorem Settled.mono {a b : List Scope} (hab : a ⊆ b) {s : Scope} (h : Settled roles a s) :
    Settled roles b s := by
  rcases h with ⟨t, ht, hne, hts⟩ | h
  · exact Or.inl ⟨t, hab ht, hne, hts⟩
  · exact Or.inr fun g hg => hab (h g hg)

/-- What a run maintains: the scopes held have arrived, every scope that arrived is in the closure
and is not `*`, and those taken are settled. -/
structure Progress (roles : List Role) (scopes : List Scope) (e : Expansion) (n : Nat) : Prop where
  valid : e.Valid
  held : normalize scopes ⊆ e.scopes
  origin : ∀ s ∈ e.scopes, Closure roles scopes s
  no_star : Scope.star ∉ e.scopes
  settled : ∀ s ∈ e.scopes.take n, Settled roles e.scopes s

theorem progress_start (h : Scope.star ∉ scopes) : Progress roles scopes (start scopes) 0 where
  valid := valid_start scopes
  held _ hs := mem_start.2 hs
  origin _ hs := .held (normalize_subset scopes (mem_start.1 hs))
  no_star hs := h (normalize_subset scopes (mem_start.1 hs))
  settled := nofun

theorem mem_take_succ {l : List Scope} {n : Nat} {s x : Scope} (hs : l[n]? = some s) :
    x ∈ l.take (n + 1) ↔ x ∈ l.take n ∨ x = s := by
  rw [List.take_add_one, hs, Option.toList_some, List.mem_append, List.mem_singleton]

theorem keeps_progress : (compile roles maxSteps).Keeps (Progress roles scopes) where
  skip {e n s} h hs hc := by
    refine { h with settled := fun x hx => ?_ }
    rcases (mem_take_succ hs).1 hx with hx | rfl
    · exact h.settled x hx
    · exact Or.inl (h.valid.covers_iff.1 hc)
  grant {e n s} h hs hc hstar := by
    have hmem : ∀ {t}, t ∈ (((compile roles maxSteps).grants s).foldl Expansion.add e).scopes ↔
        t ∈ e.scopes ∨ Grants roles s t := by
      intro t
      rw [h.valid.mem_foldl_add, mem_grants]
    have hsub : e.scopes ⊆ (((compile roles maxSteps).grants s).foldl Expansion.add e).scopes :=
      fun t ht => hmem.2 (Or.inl ht)
    refine ⟨h.valid.foldl_add _, fun t ht => hsub (h.held ht), fun t ht => ?_, fun ht => ?_,
      fun x hx => ?_⟩
    · rcases hmem.1 ht with ht | ht
      · exact h.origin t ht
      · exact .granted (h.origin s (List.mem_of_getElem? hs)) ht
    · rcases hmem.1 ht with ht | ht
      · exact h.no_star ht
      · exact hstar (mem_grants.2 ht)
    · -- the scopes taken stand where they stood
      obtain ⟨more, hmore⟩ := h.valid.prefix_foldl_add ((compile roles maxSteps).grants s)
      have hlen := (List.getElem?_eq_some_iff.1 hs).1
      rw [← hmore, List.take_append_of_le_length hlen, mem_take_succ hs] at hx
      rcases hx with hx | rfl
      · exact (h.settled x hx).mono hsub
      · exact Or.inr fun g hg => hmem.2 (Or.inr hg)

/-- A set of scopes that a run from `scopes` may end with. -/
structure Saturated (roles : List Role) (scopes set : List Scope) : Prop where
  nodup : set.Nodup
  held : normalize scopes ⊆ set
  origin : ∀ s ∈ set, Closure roles scopes s
  no_star : Scope.star ∉ set
  settled : ∀ s ∈ set, Settled roles set s

/-- **An answer is `*`, or the normal form of a saturated set.** -/
theorem resolve_ok {out : List Scope} (h : (compile roles maxSteps).resolve scopes = .ok out) :
    out = [Scope.star] ∧ Closure roles scopes Scope.star ∨
      ∃ set, Saturated roles scopes set ∧ set.length ≤ maxSteps ∧ out = normalize set := by
  rcases resolve_outcome (r := compile roles maxSteps) keeps_progress progress_start with
    ⟨hs, hres⟩ | ⟨-, hout⟩
  · rw [hres] at h
    cases h
    exact Or.inl ⟨rfl, .held hs⟩
  · rw [h] at hout
    cases hout with
    | star hp hs _ hg =>
        exact Or.inl ⟨rfl, .granted (hp.origin _ (List.mem_of_getElem? hs)) (mem_grants.1 hg)⟩
    | @finished e n hp hall hn =>
        refine Or.inr ⟨e.scopes, ⟨hp.valid.nodup, hp.held, hp.origin, hp.no_star, ?_⟩,
          Nat.le_trans hall hn, rfl⟩
        have := hp.settled
        rwa [List.take_of_length_le hall] at this

/-- A scope of a saturated set that no other one implies has all it grants in the set. -/
theorem Saturated.grants_mem {set : List Scope} (h : Saturated roles scopes set) {s g : Scope}
    (hs : Maximal set s) (hg : Grants roles s g) : g ∈ set := by
  rcases h.settled s hs.1 with ⟨t, ht, hne, hts⟩ | hall
  · rw [hs.2 t ht hne] at hts
    cases hts
  · exact hall g hg

/-! ### Answers -/

/-- What holds of every answer. -/
structure Answer (roles : List Role) (scopes out : List Scope) : Prop where
  increasing : out.Pairwise fun a b => order a b = .lt
  antichain : ∀ a ∈ out, ∀ b ∈ out, implies a b = true → a = b
  origin : ∀ s ∈ out, Closure roles scopes s
  held : Covers out scopes
  grants : ∀ s ∈ out, ∀ g, Grants roles s g → ∃ t ∈ out, implies t g = true

theorem answer_of_resolve {out : List Scope}
    (h : (compile roles maxSteps).resolve scopes = .ok out) : Answer roles scopes out := by
  rcases resolve_ok h with ⟨rfl, hstar⟩ | ⟨set, hset, -, rfl⟩
  · refine ⟨List.pairwise_singleton _ _, ?_, ?_, fun s _ => ?_, fun s _ g _ => ?_⟩
    · rintro a ha b hb -
      rw [List.mem_singleton.1 ha, List.mem_singleton.1 hb]
    · rintro s hs
      exact List.mem_singleton.1 hs ▸ hstar
    · exact ⟨Scope.star, List.mem_singleton_self Scope.star, implies_star s⟩
    · exact ⟨Scope.star, List.mem_singleton_self Scope.star, implies_star g⟩
  · refine ⟨pairwise_normalize set, fun a ha b hb => eq_of_implies_of_mem_normalize ha hb,
      fun s hs => hset.origin s (normalize_subset set hs), ?_, fun s hs g hg => ?_⟩
    · exact ((covers_normalize set).trans (covers_of_subset hset.held)).trans
        (covers_normalize scopes)
    · exact covers_normalize set g (hset.grants_mem (mem_normalize.1 hs) hg)

/-- An answer that implies the whole closure is the normal form of every list of it. -/
theorem Answer.eq_normalize {out closure : List Scope} (h : Answer roles scopes out)
    (hcov : ∀ s, Closure roles scopes s → ∃ t ∈ out, implies t s = true)
    (hmem : ∀ s, s ∈ closure ↔ Closure roles scopes s) : out = normalize closure := by
  refine Scope.eq_normalize h.increasing fun s => ⟨fun hs => ?_, fun hs => ?_⟩
  · refine ⟨(hmem s).2 (h.origin s hs), fun t ht hne => Bool.eq_false_iff.2 fun hts => hne ?_⟩
    obtain ⟨u, hu, hut⟩ := hcov t ((hmem t).1 ht)
    obtain rfl := h.antichain u hu s hs (implies_trans hut hts)
    exact implies_antisymm hts hut
  · obtain ⟨u, hu, hus⟩ := hcov s ((hmem s).1 hs.1)
    by_cases hne : u = s
    · exact hne ▸ hu
    · rw [hs.2 u ((hmem u).2 (h.origin u hu)) hne] at hus
      cases hus

/-- **Resolution computes the transitive closure.**  When no star stands right before the first
placeholder of a template, the answer is strictly increasing, none of its scopes implies another,
all of them are in the closure, and they imply all of it.  A finite closure then has the answer as
its normal form. -/
theorem resolve_eq_closure {roles : List Role} {maxSteps : Nat} {scopes out : List Scope}
    (hlead : ∀ r ∈ roles, ∀ t ∈ r.templates, t.hasPlaceholder = true → isWildcard t.lead = false)
    (h : (compile roles maxSteps).resolve scopes = .ok out) :
    (out.Pairwise fun a b => order a b = .lt) ∧
      (∀ a ∈ out, ∀ b ∈ out, implies a b = true → a = b) ∧
      (∀ s ∈ out, Closure roles scopes s) ∧
      (∀ s, Closure roles scopes s → ∃ t ∈ out, implies t s = true) ∧
      ∀ closure : List Scope, (∀ s, s ∈ closure ↔ Closure roles scopes s) →
        out = normalize closure := by
  have ha := answer_of_resolve h
  have hcov : ∀ s, Closure roles scopes s → ∃ t ∈ out, implies t s = true := by
    intro s hs
    refine hs.covered ha.held ha.grants ?_
    rintro _ _ ⟨r, hr, t, ht, ⟨hp, hw, -⟩, -⟩
    rw [hlead r (Role.mem_of_mem_effective hr) t ht hp] at hw
    cases hw
  exact ⟨ha.increasing, ha.antichain, ha.origin, hcov, fun _ hmem => ha.eq_normalize hcov hmem⟩

/-- The holder of a desk also has the seat at it. -/
def deskRoles : List Role :=
  [.plain "desk*".toList ["assume:seat<..>".toList, "enter".toList] ⟨0, 0⟩,
   .plain "seat*".toList ["sit".toList] ⟨0, 0⟩]

theorem resolve_eq_closure_desk :
    (compile deskRoles 8).resolve ["assume:desk7".toList, "assume:desk*".toList] =
        .ok ["assume:desk*".toList, "assume:seat*".toList, "enter".toList, "sit".toList] ∧
      ∀ s, Closure deskRoles ["assume:desk7".toList, "assume:desk*".toList] s →
        ∃ t ∈ ["assume:desk*".toList, "assume:seat*".toList, "enter".toList, "sit".toList],
          implies t s = true := by
  have hrun : (compile deskRoles 8).resolve ["assume:desk7".toList, "assume:desk*".toList] =
      .ok ["assume:desk*".toList, "assume:seat*".toList, "enter".toList, "sit".toList] := by
    cbv
  exact ⟨hrun, (resolve_eq_closure (by decide) hrun).2.2.2.1⟩

end Resolver

end DelegatedScopes
