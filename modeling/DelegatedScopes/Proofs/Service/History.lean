import DelegatedScopes.Proofs.Service.Run

/-!
# The service — histories

A history is a run of a new service from its first event on, with the machine at every moment.
Moments are counted by events, so what comes earlier in a history comes earlier in time.

* `History`, `History.state`: events that can happen one after the other, and the machine at a
  moment.
* `History.step`: from one moment to the next.
-/

namespace DelegatedScopes

/-- Events that can happen one after the other around a new service. -/
structure History (config : Config) where
  store : Store
  events : List Event
  possible : ((Machine.new config store).play? events).isSome = true

namespace History

variable {config : Config} (h : History config) {t : Nat} {e : Event}

/-- The machine at a moment; after the last event nothing changes. -/
def state (t : Nat) : Machine :=
  ((Machine.new config h.store).play? (h.events.take t)).getD (.new config h.store)

theorem state_zero : h.state 0 = .new config h.store := rfl

theorem play?_take (t : Nat) :
    (Machine.new config h.store).play? (h.events.take t) = some (h.state t) := by
  have hall := h.possible
  rw [← List.take_append_drop t h.events, Machine.play?_append] at hall
  rw [state]
  cases hm : (Machine.new config h.store).play? (h.events.take t) with
  | none => rw [hm] at hall; cases hall
  | some m => rfl

theorem reachable (t : Nat) : Machine.Reachable config (h.state t) :=
  ⟨h.store, _, Machine.run_of_play? (h.play?_take t)⟩

/-- **From one moment to the next**: an event happens, or the history is over. -/
theorem step (t : Nat) :
    (∃ e, h.events[t]? = some e ∧ (h.state t).next? e = some (h.state (t + 1))) ∨
      h.events[t]? = none ∧ h.state (t + 1) = h.state t := by
  cases he : h.events[t]? with
  | none =>
      refine Or.inr ⟨rfl, ?_⟩
      rw [state, state, List.take_add_one, he, Option.toList_none, List.append_nil]
  | some e =>
      refine Or.inl ⟨e, rfl, ?_⟩
      have hnext := h.play?_take (t + 1)
      rw [List.take_add_one, he, Option.toList_some, Machine.play?_append, h.play?_take,
        Option.bind_some] at hnext
      obtain ⟨m, hm, hlast⟩ := Option.bind_eq_some_iff.1 hnext
      rw [hm, Option.some.inj hlast]

theorem next (he : h.events[t]? = some e) : (h.state t).next? e = some (h.state (t + 1)) := by
  rcases h.step t with ⟨e', he', hnext⟩ | ⟨hnone, -⟩
  · cases he.symm.trans he'
    exact hnext
  · rw [he] at hnone
    cases hnone

/-- Every event of a history meets a condition. -/
def Follows (P : Machine.Condition) : Prop :=
  ∀ t e, h.events[t]? = some e → P (h.state t) e (h.state (t + 1))

end History
end DelegatedScopes
