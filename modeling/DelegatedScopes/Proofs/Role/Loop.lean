import DelegatedScopes.Proofs.Role.Graph
import DelegatedScopes.Role.Termination
import Mathlib.Data.List.Chain

/-!
# Roles — loops in the graph of carriers

* `RoleGraph.IsLoop`: visits that move on from one to the next and come back to the carrier they
  started from, with a capture no shorter.
* `RoleGraph.isLoop_of_walk_error`: what a failed walk hands back is a loop.
* `RoleGraph.isLoop_of_check_error`: what the check reports is a loop.
* `RoleGraph.check_of_checkWithin`: a check with a bound on the visits under way, to compute with.

The path of a walk has its latest visit in front, and each of its visits moved on to the one before
it in the list.  Where a walk goes on, so does every visit that it still has to make: that is the
invariant.  A loop is the part of the path from the latest visit of the returning carrier on, so it
is cut out of such a list in one piece; what the walk did in between, below other visits, has left
the path again.
-/

namespace DelegatedScopes

open Relation

namespace RoleGraph

variable {g : RoleGraph}

/-- The last visit moved on from the visit before it, and so on down the path. -/
abbrev IsPath (path : List g.Visit) : Prop := path.IsChain fun v u => v ∈ g.moves u

/-- A loop: each visit moves on to the next one, and the last one is of the first one's carrier,
with a capture no shorter. -/
structure IsLoop (visits : List g.Visit) : Prop where
  chain : visits.IsChain fun u v => v ∈ g.moves u
  back : ∃ first between last, visits = first :: between ++ [last] ∧ first.node = last.node ∧
    first.size ≤ last.size

theorem node_of_latestVisit {path : List g.Visit} {i : g.Node} {u : g.Visit}
    (h : latestVisit path i = some u) : u.node = i := by
  simpa using List.find?_some h

/-- A loop is the returning visit and the path down to the latest visit of its carrier, turned
round. -/
theorem exists_loop_eq {path : List g.Visit} {u v : g.Visit}
    (h : latestVisit path v.node = some u) :
    ∃ later earlier, path = later ++ u :: earlier ∧ loop path v = (v :: later ++ [u]).reverse := by
  obtain ⟨hu, later, earlier, rfl, hlater⟩ := List.find?_eq_some_iff_append.1 h
  have hcut : (later ++ u :: earlier).takeWhile (fun w => w.node ≠ v.node) = later := by
    rw [List.takeWhile_append_of_pos (by simpa using hlater),
      List.takeWhile_cons_of_neg (by simpa using hu), List.append_nil]
  refine ⟨later, earlier, rfl, ?_⟩
  rw [loop, hcut, h, Option.toList_some, List.cons_append, List.reverse_cons]

/-- **What a returning visit closes is a loop.** -/
theorem isLoop_loop {path : List g.Visit} {v : g.Visit} (hret : returns path v = true)
    (hpath : IsPath (v :: path)) : IsLoop (loop path v) := by
  obtain ⟨u, hu, hsize⟩ := (Option.any_eq_true _ _).1 hret
  obtain ⟨later, earlier, rfl, hloop⟩ := exists_loop_eq hu
  refine ⟨?_, u, later.reverse, v, ?_, node_of_latestVisit hu, by simpa using hsize⟩
  · rw [hloop, List.isChain_reverse]
    exact hpath.prefix ⟨earlier, by simp⟩
  · rw [hloop]
    simp

/-- **A walk that fails hands back a loop.** -/
theorem isLoop_of_walk_error {path : List g.Visit} {explored : Explored g}
    {visits found : List g.Visit} (h : walk path explored visits = .error found)
    (hpath : ∀ v ∈ visits, IsPath (v :: path)) : IsLoop found := by
  fun_induction walk path explored visits generalizing found with
  | case1 => cases h
  | case2 path explored v rest hret =>
      cases h
      exact isLoop_loop hret (hpath v List.mem_cons_self)
  | case3 path explored v rest hret hmem ih =>
      exact ih h fun w hw => hpath w (List.mem_cons_of_mem v hw)
  | case4 path explored v rest hret hmem found' hw ih =>
      -- below `v` the path has grown by `v` itself
      cases h
      exact ih hw fun w hw => List.isChain_cons_cons.2 ⟨hw, hpath v List.mem_cons_self⟩
  | case5 path explored v rest hret hmem explored' hw ih₁ ih₂ =>
      exact ih₂ h fun w hw => hpath w (List.mem_cons_of_mem v hw)

theorem transGen_of_isChain {α : Type} {r : α → α → Prop} {a b : α} {between : List α}
    (h : (a :: between ++ [b]).IsChain r) : TransGen r a b := by
  induction between generalizing a with
  | nil => exact .single (List.isChain_pair.1 h)
  | cons c rest ih =>
      obtain ⟨hac, hrest⟩ := List.isChain_cons_cons.1 h
      exact .head hac (ih hrest)

/-- A loop leads from a visit to another visit of the same carrier. -/
theorem IsLoop.exists_transGen {visits : List g.Visit} (h : IsLoop visits) :
    ∃ u v : g.Visit, u.node = v.node ∧ TransGen (fun a b => b ∈ g.moves a) u v := by
  obtain ⟨hchain, first, between, last, rfl, hnode, -⟩ := h
  exact ⟨first, last, hnode, transGen_of_isChain hchain⟩

/-- **What the check refuses is a loop of the graph.** -/
theorem isLoop_of_check_error {e : RoleSetError} (h : g.check = .error e) :
    ∃ found : List g.Visit, IsLoop found ∧ e = .cycle (found.map fun v => g.idOf v.node) := by
  obtain ⟨start, -, hstart⟩ := exists_of_forM_eq_error h
  split at hstart
  · rename_i found hw
    cases hstart
    refine ⟨found, isLoop_of_walk_error hw fun v _ => ?_, rfl⟩
    exact List.isChain_singleton v
  · cases hstart

/-! ### Walks within a bound -/

/-- The walk, unless it needs more than a number of calls one below the other. -/
def walkWithin : Nat → List g.Visit → Explored g → List g.Visit →
    Option (Except (List g.Visit) (Explored g))
  | 0, _, _, _ => none
  | _ + 1, _, explored, [] => some (.ok explored)
  | n + 1, path, explored, v :: rest =>
    if returns path v = true then some (.error (loop path v))
    else if explored.contains v then walkWithin n path explored rest
    else
      match walkWithin n (v :: path) explored (g.moves v) with
      | none => none
      | some (.error found) => some (.error found)
      | some (.ok explored) => walkWithin n path (explored.insert v) rest

theorem walk_of_walkWithin {n : Nat} {path visits : List g.Visit} {explored : Explored g}
    {result : Except (List g.Visit) (Explored g)}
    (h : walkWithin n path explored visits = some result) : walk path explored visits = result := by
  fun_induction walkWithin n path explored visits generalizing result with
  | case1 => cases h
  | case2 =>
      cases h
      rw [walk]
  | case3 n path explored v rest hret =>
      cases h
      rw [walk, dif_pos hret]
  | case4 n path explored v rest hret hmem ih =>
      rw [walk, dif_neg hret, if_pos hmem, ih h]
  | case5 => cases h
  | case6 n path explored v rest hret hmem found hw ih =>
      cases h
      rw [walk, dif_neg hret, if_neg hmem, ih hw]
  | case7 n path explored v rest hret hmem explored' hw ih₁ ih₂ =>
      rw [walk, dif_neg hret, if_neg hmem, ih₁ hw]
      exact ih₂ h

/-- The check, unless a walk needs more than a number of calls one below the other. -/
def checkWithin (g : RoleGraph) (n : Nat) : Option (Except RoleSetError Unit) :=
  g.cyclic.foldr (fun start rest =>
    match walkWithin n [] ∅ [(⟨start, []⟩ : g.Visit)] with
    | none => none
    | some (.error found) => some (.error (.cycle (found.map fun v => g.idOf v.node)))
    | some (.ok _) => rest) (some (.ok ()))

/-- What a check within a bound comes to, the check comes to. -/
theorem check_of_checkWithin {n : Nat} {result : Except RoleSetError Unit}
    (h : g.checkWithin n = some result) : g.check = result := by
  rw [checkWithin] at h
  rw [check]
  generalize g.cyclic = starts at h ⊢
  induction starts with
  | nil =>
      cases h
      rfl
  | cons start starts ih =>
      rw [List.foldr_cons] at h
      rw [List.forM]
      split at h
      · cases h
      · rename_i hw
        cases h
        rw [walk_of_walkWithin hw]
        rfl
      · rename_i hw
        rw [walk_of_walkWithin hw]
        exact ih h

end RoleGraph

end DelegatedScopes
