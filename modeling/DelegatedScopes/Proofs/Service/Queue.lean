import DelegatedScopes.Service.Machine

/-!
# The service — the queue of a lock

A task that asks for a lock joins its queue, works when it is the head of the queue, and leaves the
queue from there.

* `Guards`: a queue has just the tasks inside it, and whoever works is its head.
* `Passes`, `Guards.pass`: a move that keeps to the lock, and what it leaves in place.
* `Guards.unique`: at most one task works.
-/

namespace DelegatedScopes

/-- A queue has just the tasks that are inside, and whoever works is its head. -/
structure Guards (inside working : Task → Bool) (queue : List Nat) (tasks : List Task) : Prop where
  nodup : queue.Nodup
  mem : ∀ i, i ∈ queue ↔ tasks[i]?.any inside = true
  head : ∀ i t, tasks[i]? = some t → working t = true → queue.head? = some i

/-- A queue after the move of a task: the task joins at the end, or the head leaves. -/
def passed (i : Nat) (was isNow : Bool) (queue : List Nat) : List Nat :=
  match was, isNow with
  | false, false | true, true => queue
  | false, true => queue ++ [i]
  | true, false => queue.tail

/-- The move of a task keeps to a lock: it leaves only from the head, and nobody else sets to
work. -/
structure Passes (inside working : Task → Bool) (i : Nat) (t t' : Task) (queue queue' : List Nat) :
    Prop where
  queue_eq : queue' = passed i (inside t) (inside t') queue
  leaves : inside t = true → inside t' = false → working t = true ∨ queue.head? = some i
  works : working t' = true → working t = true ∨ inside t = true ∧ queue.head? = some i

variable {inside working : Task → Bool} {queue queue' : List Nat} {tasks more : List Task}
  {i j : Nat} {t t' u : Task}

/-- A task that neither joins nor leaves, and does not set to work. -/
theorem Passes.same (hi : inside t' = inside t) (hw : working t' = true → working t = true) :
    Passes inside working i t t' queue queue where
  queue_eq := by rw [hi]; cases inside t <;> rfl
  leaves h h' := by rw [hi, h] at h'; cases h'
  works h := Or.inl (hw h)

namespace Guards

/-- At most one task works. -/
theorem unique (h : Guards inside working queue tasks) (hi : tasks[i]? = some t)
    (ht : working t = true) (hj : tasks[j]? = some u) (hu : working u = true) : i = j :=
  Option.some.inj ((h.head i t hi ht).symm.trans (h.head j u hj hu))

theorem append (hw : ∀ t, working t = true → inside t = true)
    (h : Guards inside working queue tasks) (hmore : ∀ t ∈ more, inside t = false) :
    Guards inside working queue (tasks ++ more) where
  nodup := h.nodup
  mem k := by
    rw [h.mem, List.getElem?_append]
    split
    · rfl
    · rename_i hk
      rw [List.getElem?_eq_none (Nat.le_of_not_lt hk)]
      cases hu : more[k - tasks.length]? with
      | none => rfl
      | some u => simp [hmore u (List.mem_of_getElem? hu)]
  head k u hk hu := by
    rw [List.getElem?_append] at hk
    split at hk
    · exact h.head k u hk hu
    · have hin := hw u hu
      rw [hmore u (List.mem_of_getElem? hk)] at hin
      cases hin

/-- What a lock guarantees after the move of a task, from what the move does to the queue. -/
theorem moved (h : Guards inside working queue tasks) (ht : tasks[i]? = some t)
    (hnodup : queue'.Nodup) (hself : i ∈ queue' ↔ inside t' = true)
    (hmem : ∀ k, k ≠ i → (k ∈ queue' ↔ k ∈ queue))
    (hhead : ∀ k, k ≠ i → queue.head? = some k → queue'.head? = some k)
    (hwork : working t' = true → queue'.head? = some i) :
    Guards inside working queue' (tasks.set i t') := by
  have hlt : i < tasks.length := (List.getElem?_eq_some_iff.1 ht).1
  refine ⟨hnodup, fun k => ?_, fun k u hk hu => ?_⟩
  · by_cases hki : k = i
    · rw [hki, hself, List.getElem?_set_self hlt]
      rfl
    · rw [hmem k hki, h.mem, List.getElem?_set_ne (Ne.symm hki)]
  · by_cases hki : k = i
    · rw [hki, List.getElem?_set_self hlt] at hk
      obtain rfl := Option.some.inj hk
      exact hki ▸ hwork hu
    · rw [List.getElem?_set_ne (Ne.symm hki)] at hk
      exact hhead k hki (h.head k u hk hu)

/-- **A lock goes on guarding** when a task joins its queue, leaves it or stays where it is. -/
theorem pass (hw : ∀ t, working t = true → inside t = true)
    (h : Guards inside working queue tasks) (ht : tasks[i]? = some t)
    (hp : Passes inside working i t t' queue queue') :
    Guards inside working queue' (tasks.set i t') := by
  have hin : i ∈ queue ↔ inside t = true := by rw [h.mem, ht]; rfl
  obtain ⟨rfl, hleaves, hworks⟩ := hp
  have hworks' : working t' = true → queue.head? = some i ∧ inside t = true := fun hu =>
    (hworks hu).elim (fun hwt => ⟨h.head i t ht hwt, hw t hwt⟩) fun hwt => ⟨hwt.2, hwt.1⟩
  cases hwas : inside t <;> cases hnow : inside t'
  · -- the task stays outside
    refine h.moved ht h.nodup ?_ (fun _ _ => Iff.rfl) (fun _ _ hk => hk) fun hu => (hworks' hu).1
    rw [passed, hin, hwas, hnow]
  · -- the task joins
    have hout : i ∉ queue := by rw [hin, hwas]; simp
    refine h.moved ht ?_ ?_ (fun k hk => ?_) (fun k _ hk => ?_) fun hu => ?_
    · refine List.nodup_append.2 ⟨h.nodup, by simp, fun a ha b hb hab => hout ?_⟩
      rwa [← List.mem_singleton.1 hb, ← hab]
    · simp [passed, hnow]
    · simp [passed, hk]
    · rw [passed, List.head?_append, hk, Option.some_or]
    · rw [hwas] at hworks'
      exact absurd (hworks' hu).2 Bool.false_ne_true
  · -- the head leaves
    have hhead : queue.head? = some i := (hleaves hwas hnow).elim (h.head i t ht) id
    obtain ⟨rest, rfl⟩ : ∃ rest, queue = i :: rest := List.head?_eq_some_iff.1 hhead
    have hnd := List.nodup_cons.1 h.nodup
    refine h.moved ht hnd.2 ?_ (fun k hk => ?_) (fun k hk hk' => ?_) fun hu => ?_
    · simp [passed, hnow, hnd.1]
    · simp [passed, hk]
    · exact absurd (Option.some.inj hk').symm hk
    · rw [hw t' hu] at hnow
      cases hnow
  · -- the task stays inside
    refine h.moved ht h.nodup ?_ (fun _ _ => Iff.rfl) (fun _ _ hk => hk) fun hu => (hworks' hu).1
    rw [passed, hin, hwas, hnow]

end Guards

end DelegatedScopes
