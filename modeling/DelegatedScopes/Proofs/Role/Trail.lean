import DelegatedScopes.Proofs.Role.Termination

/-!
# Roles — trails

* `Role.Trail`: how a scope comes about from some seeds, carrier by carrier.
* `Role.Trail.exists_symbolic`: between two activations of a trail that are both exact or both
  open there are symbolic steps.
* `Role.Trail.length_le`: without symbolic loops, a trail meets each carrier at most twice.

The symbolic steps follow an activation by a beginning of its capture.  They lose it at one place
only: a bare template turns an exact activation with nothing captured into an open one.  Once
open, the activations of a trail stay open.  So a trail is an exact part and then an open part,
and no carrier occurs twice in either.
-/

namespace DelegatedScopes

open Scope Relation

namespace Role

variable {roles : List Role} {seeds : List Scope}

/-- How a scope comes about from the seeds: the carriers that handed their captures on, each with
its activation, the latest one in front. -/
inductive Trail (roles : List Role) (seeds : List Scope) : List (Role × Activation) → Scope → Prop
  | seed {s : Scope} (h : s ∈ seeds) : Trail roles seeds [] s
  | hand {path : List (Role × Activation)} {s : Scope} {r : Role} {m : Activation} {t : Template}
      (h : Trail roles seeds path s) (hr : r ∈ carrierRoles roles)
      (hm : activate r.id s = some m) (ht : t ∈ r.templates) (hp : t.hasPlaceholder = true) :
      Trail roles seeds ((r, m) :: path) (t.render m)

/-- **A symbolic step follows an activation by a beginning of its capture**, from an exact one to
an exact one and from an open one to an open one. -/
theorem exists_symbolicStep {q r : Role} {s : Scope} {m m' : Activation} {t : Template}
    (hq : q ∈ carrierRoles roles) (hr : r ∈ carrierRoles roles) (hm : activate q.id s = some m)
    (ht : t ∈ q.templates) (hp : t.hasPlaceholder = true)
    (hm' : activate r.id (t.render m) = some m') (hopen : m.isOpen = m'.isOpen) {c : Text}
    (hc : c <+: m.capture) :
    ∃ d, d <+: m'.capture ∧ SymbolicStep roles (q, c) (r, d) := by
  rcases Template.implies_render hp hc (isWildcard_capture hm) with himp | ⟨hbare, rfl⟩
  · have hrender : t.render (.startingWith c) = t.lead ++ c ++ ['*'] := Template.render_open hp rfl
    rw [← hrender] at himp
    obtain ⟨m₀, hm₀, hd⟩ := activate_mono himp hm'
    exact ⟨m₀.capture, hd, hq, hr, t, ht, hp, m₀, hm₀, rfl⟩
  · -- what a bare template grants is a wildcard scope, so the next activation is open
    have hw := isOpen_of_activate hm'
    rw [Template.render_of_bare hbare, hbare.2.1, ← hopen] at hw
    cases hw

namespace Trail

/-- Once open, the activations of a trail stay open. -/
theorem isWildcard_of_open {path : List (Role × Activation)} {s : Scope}
    (h : Trail roles seeds path s) {e : Role × Activation} (he : e ∈ path)
    (hopen : e.2.isOpen = true) : s.isWildcard = true := by
  induction h with
  | seed => cases he
  | @hand path s r m t h hr hm ht hp ih =>
      have hmopen : m.isOpen = true := by
        rcases List.mem_cons.1 he with rfl | he
        · exact hopen
        · exact (isOpen_of_activate hm).trans (ih he)
      rw [Template.render_open hp hmopen]
      exact isWildcard_append_star _

/-- **Symbolic steps lead from every carrier of a trail to the next one it activates**, as long as
the activations agree in being exact or open. -/
theorem exists_symbolic {path : List (Role × Activation)} {s : Scope}
    (h : Trail roles seeds path s) :
    ∀ {r : Role} {m : Activation}, r ∈ carrierRoles roles → activate r.id s = some m →
      ∀ e ∈ path, e.2.isOpen = m.isOpen →
        ∃ d, d <+: m.capture ∧ TransGen (SymbolicStep roles) (e.1, []) (r, d) := by
  induction h with
  | seed => exact fun _ _ => nofun
  | @hand path s q mq t h hq hmq ht hp ih =>
      intro r m hr hm e he hem
      rcases List.mem_cons.1 he with rfl | he
      · obtain ⟨d, hd, hs⟩ := exists_symbolicStep hq hr hmq ht hp hm hem List.nil_prefix
        exact ⟨d, hd, .single hs⟩
      · -- the activation in between is open if the earlier one is, and exact if the later one is
        have hqm : e.2.isOpen = mq.isOpen := by
          cases ho : e.2.isOpen with
          | true => rw [isOpen_of_activate hmq, h.isWildcard_of_open he ho]
          | false =>
              cases hmo : mq.isOpen with
              | false => rfl
              | true =>
                  have hw := isOpen_of_activate hm
                  rw [Template.render_open hp hmo, isWildcard_append_star, ← hem, ho] at hw
                  cases hw
        obtain ⟨c, hc, hsteps⟩ := ih hq hmq e he hqm
        obtain ⟨d, hd, hs⟩ := exists_symbolicStep hq hr hmq ht hp hm (hqm.symm.trans hem) hc
        exact ⟨d, hd, hsteps.tail hs⟩

/-- Without symbolic loops, no carrier of a trail is activated exactly twice, or openly twice. -/
theorem nodup (hloop : LoopFree roles) {path : List (Role × Activation)} {s : Scope}
    (h : Trail roles seeds path s) :
    (path.map fun e => (e.1, e.2.isOpen)).Nodup := by
  induction h with
  | seed => exact List.nodup_nil
  | @hand path s r m t h hr hm ht hp ih =>
      refine List.nodup_cons.2 ⟨fun hmem => ?_, ih⟩
      obtain ⟨e, he, heq⟩ := List.mem_map.1 hmem
      obtain ⟨rfl, hopen⟩ := Prod.ext_iff.1 heq
      obtain ⟨d, -, hsteps⟩ := h.exists_symbolic hr hm e he hopen
      exact hloop _ hr d hsteps

theorem roles_mem {path : List (Role × Activation)} {s : Scope}
    (h : Trail roles seeds path s) : ∀ e ∈ path, e.1 ∈ carrierRoles roles := by
  induction h with
  | seed => exact nofun
  | hand h hr hm ht hp ih => exact List.forall_mem_cons.2 ⟨hr, ih⟩

/-- **Without symbolic loops, a trail meets each carrier at most twice.** -/
theorem length_le (hloop : LoopFree roles) {path : List (Role × Activation)} {s : Scope}
    (h : Trail roles seeds path s) :
    path.length ≤ 2 * (carrierRoles roles).length := by
  -- each carrier stands once in the exact part and once in the open part
  have hsub : (path.map fun e => (e.1, e.2.isOpen)) ⊆
      (carrierRoles roles).flatMap fun r => [(r, false), (r, true)] := by
    intro x hx
    obtain ⟨e, he, rfl⟩ := List.mem_map.1 hx
    refine List.mem_flatMap.2 ⟨e.1, h.roles_mem e he, ?_⟩
    cases e.2.isOpen <;> simp
  have hlen := (h.nodup hloop).length_le_of_subset hsub
  simpa [Nat.mul_comm] using hlen

end Trail

end Role

end DelegatedScopes
