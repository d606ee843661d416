import DelegatedScopes.Proofs.Role.Loop
import Mathlib.Data.Set.Finite.Lattice

/-!
# Roles — the check comes to an end

* `RoleGraph.Calls`: the recursive calls of a walk, from the path where it stands to a longer one.
* `RoleGraph.rank`: what every call lowers.
* `RoleGraph.wellFounded_calls`: no sequence of calls is infinite.
* `RoleGraph.finite_called`: the walks of a check stand at finitely many paths.
* `RoleGraph.Walks`: a walk that has come to an end, as a finite derivation.
* `RoleGraph.check_halts`: every walk of the check comes to an end, and so does the check.

Captures may grow on the way from one carrier to the next, so the visits that a walk can make are
not among any finite set given beforehand, and the length of the current capture is no measure.  But
a call that goes on visits its carrier for the first time, or with a capture shorter than at that
carrier's latest visit.  So it takes a carrier from those unmet, or it lowers the sum of the latest
capture lengths and leaves the carriers met as they are.  The visits explored before only save
calls: the order is one on paths alone.
-/

namespace DelegatedScopes

open Relation

/-- Where every element has finitely many successors and no chain of successors is infinite, an
element leads to finitely many others. -/
theorem finite_reflTransGen {α : Type} {r : α → α → Prop} (hwf : WellFounded (Function.swap r))
    (hfinite : ∀ a, {b | r a b}.Finite) (a : α) : {b | ReflTransGen r a b}.Finite := by
  induction a using hwf.induction with
  | _ a ih =>
    -- what `a` leads to is `a` itself, or one of its successors leads to it
    have hunion : {b | ReflTransGen r a b} ⊆ {a} ∪ ⋃ c ∈ {c | r a c}, {b | ReflTransGen r c b} := by
      intro b hb
      rcases ReflTransGen.cases_head hb with rfl | ⟨c, hac, hcb⟩
      · exact .inl rfl
      · exact .inr (Set.mem_biUnion hac hcb)
    exact ((Set.finite_singleton a).union ((hfinite a).biUnion ih)).subset hunion

namespace RoleGraph

variable {g : RoleGraph}

/-! ### Calls -/

/-- A recursive call makes the path of a walk longer.  The check starts at a carrier on a cycle,
with nothing known of its capture; from there on, the latest visit of the path moves on to one that
does not return. -/
inductive Calls : List g.Visit → List g.Visit → Prop
  | start {i : g.Node} (hi : i ∈ g.cyclic) : Calls [] [⟨i, []⟩]
  | enter {path : List g.Visit} {u v : g.Visit} (hmove : v ∈ g.moves u)
      (hret : returns (u :: path) v = false) : Calls (u :: path) (v :: u :: path)

theorem Calls.returns_eq_false {path : List g.Visit} {v : g.Visit} (h : Calls path (v :: path)) :
    returns path v = false := by
  cases h with
  | start => rfl
  | enter _ hret => exact hret

/-- What a call lowers: how many carriers are unmet, and then the sum of the latest capture
lengths. -/
def rank (path : List g.Visit) : Nat × Nat := ((unmet path).length, totalSize path)

theorem rank_lt {path : List g.Visit} {v : g.Visit} (h : returns path v = false) :
    Prod.Lex (· < ·) (· < ·) (rank (v :: path)) (rank path) := by
  rcases measure_lt h with hlt | ⟨heq, hlt⟩
  · exact .left _ _ hlt
  · exact Prod.lex_def.2 (.inr ⟨heq, hlt⟩)

/-- **No sequence of calls is infinite.** -/
theorem wellFounded_calls : WellFounded (Function.swap (Calls (g := g))) := by
  have hlex : WellFounded (Prod.Lex (· < · : Nat → Nat → Prop) (· < · : Nat → Nat → Prop)) :=
    wellFounded_lt.prod_lex wellFounded_lt
  refine Subrelation.wf (fun {next path} h => ?_) (InvImage.wf rank hlex)
  cases h with
  | start => exact rank_lt rfl
  | enter _ hret => exact rank_lt hret

/-- From a path there are finitely many calls. -/
theorem finite_calls (path : List g.Visit) : {next | Calls path next}.Finite := by
  cases path with
  | nil =>
      refine (Set.finite_range fun i : g.Node => [(⟨i, []⟩ : g.Visit)]).subset ?_
      rintro _ ⟨-⟩
      exact ⟨_, rfl⟩
  | cons u path =>
      refine ((g.moves u).finite_toSet.image fun v => v :: u :: path).subset ?_
      rintro _ (_ | ⟨hmove, -⟩)
      exact ⟨_, hmove, rfl⟩

/-- **The calls below a path are finitely many**, even if no explored visit saved any. -/
theorem finite_called (path : List g.Visit) : {next | ReflTransGen Calls path next}.Finite :=
  finite_reflTransGen wellFounded_calls finite_calls path

/-! ### Runs -/

/-- A walk from a path to each of some visits in turn that has come to an end: the visits explored
before it, and its result.  What it does below a visit is a walk of its own, on the path of a
call. -/
inductive Walks : List g.Visit → Explored g → List g.Visit →
    Except (List g.Visit) (Explored g) → Prop
  | done {path : List g.Visit} {explored : Explored g} : Walks path explored [] (.ok explored)
  | back {path rest : List g.Visit} {explored : Explored g} {v : g.Visit}
      (hret : returns path v = true) : Walks path explored (v :: rest) (.error (loop path v))
  | known {path rest : List g.Visit} {explored : Explored g} {v : g.Visit}
      {result : Except (List g.Visit) (Explored g)} (hret : returns path v = false)
      (hmem : v ∈ explored) (hrest : Walks path explored rest result) :
      Walks path explored (v :: rest) result
  | found {path rest : List g.Visit} {explored : Explored g} {v : g.Visit} {found : List g.Visit}
      (hcall : Calls path (v :: path)) (hmem : v ∉ explored)
      (hbelow : Walks (v :: path) explored (g.moves v) (.error found)) :
      Walks path explored (v :: rest) (.error found)
  | clear {path rest : List g.Visit} {explored explored' : Explored g} {v : g.Visit}
      {result : Except (List g.Visit) (Explored g)} (hcall : Calls path (v :: path))
      (hmem : v ∉ explored) (hbelow : Walks (v :: path) explored (g.moves v) (.ok explored'))
      (hrest : Walks path (explored'.insert v) rest result) :
      Walks path explored (v :: rest) result

/-- **A walk comes to an end**, with its result. -/
theorem walks_walk {path visits : List g.Visit} {explored : Explored g}
    (hcalls : ∀ v ∈ visits, returns path v = false → Calls path (v :: path)) :
    Walks path explored visits (walk path explored visits) := by
  fun_induction walk path explored visits with
  | case1 => exact .done
  | case2 path explored v rest hret => exact .back hret
  | case3 path explored v rest hret hmem ih =>
      refine .known (by simpa using hret) (Std.TreeSet.contains_iff_mem.1 hmem) (ih ?_)
      exact fun w hw => hcalls w (List.mem_cons_of_mem v hw)
  | case4 path explored v rest hret hmem found hw ih =>
      -- below `v` every visit is one that `v` moves on to
      have hcall := hcalls v List.mem_cons_self (by simpa using hret)
      have hbelow := ih fun w hw => .enter hw
      exact .found hcall (mt Std.TreeSet.contains_iff_mem.2 hmem) (hw ▸ hbelow)
  | case5 path explored v rest hret hmem explored' hw ih₁ ih₂ =>
      have hcall := hcalls v List.mem_cons_self (by simpa using hret)
      have hbelow := ih₁ fun w hw => .enter hw
      have hrest := ih₂ fun w hw => hcalls w (List.mem_cons_of_mem v hw)
      exact .clear hcall (mt Std.TreeSet.contains_iff_mem.2 hmem) (hw ▸ hbelow) hrest

/-- A walk has no other result. -/
theorem walk_of_walks {path visits : List g.Visit} {explored : Explored g}
    {result : Except (List g.Visit) (Explored g)} (h : Walks path explored visits result) :
    walk path explored visits = result := by
  induction h with
  | done => rw [walk]
  | back hret => rw [walk, dif_pos hret]
  | known hret hmem _ ih =>
      rw [walk, dif_neg (by simp [hret]), if_pos (Std.TreeSet.contains_iff_mem.2 hmem), ih]
  | found hcall hmem _ ih =>
      rw [walk, dif_neg (by simp [hcall.returns_eq_false]),
        if_neg (mt Std.TreeSet.contains_iff_mem.1 hmem), ih]
  | clear hcall hmem _ _ ih₁ ih₂ =>
      rw [walk, dif_neg (by simp [hcall.returns_eq_false]),
        if_neg (mt Std.TreeSet.contains_iff_mem.1 hmem), ih₁]
      exact ih₂

/-- The walks of the check come to an end. -/
theorem walks_start {start : g.Node} (h : start ∈ g.cyclic) :
    Walks [] ∅ [⟨start, []⟩] (walk [] ∅ [⟨start, []⟩]) := by
  refine walks_walk fun v hv _ => ?_
  obtain rfl := List.mem_singleton.1 hv
  exact .start h

/-- **The check comes to an end.**  No sequence of recursive calls is infinite, and the walks of a
check stand at finitely many paths.  The walk from each carrier on a cycle, with nothing known of
its capture, comes to an end with one result.  When all of them pass, so does the check; or else the
check reports the loop that one of them found. -/
theorem check_halts (g : RoleGraph) :
    (¬ ∃ paths : Nat → List g.Visit, ∀ n, Calls (paths n) (paths (n + 1))) ∧
      {path : List g.Visit | ReflTransGen Calls [] path}.Finite ∧
      (∀ start ∈ g.cyclic, ∃! result, Walks [] ∅ [(⟨start, []⟩ : g.Visit)] result) ∧
      ((∀ start ∈ g.cyclic, ∃ explored, Walks [] ∅ [(⟨start, []⟩ : g.Visit)] (.ok explored)) ∧
          g.check = .ok () ∨
        ∃ start ∈ g.cyclic, ∃ found, Walks [] ∅ [(⟨start, []⟩ : g.Visit)] (.error found) ∧
          g.check = .error (.cycle (found.map fun v => g.idOf v.node))) := by
  refine ⟨?_, finite_called [], fun start hstart => ?_, ?_⟩
  · rintro ⟨paths, hpaths⟩
    exact (wellFounded_iff_isEmpty_descending_chain.1 wellFounded_calls).false ⟨paths, hpaths⟩
  · exact ⟨_, walks_start hstart, fun _ h => (walk_of_walks h).symm⟩
  · cases hcheck : g.check with
    | ok u =>
        refine .inl ⟨fun start hstart => ?_, rfl⟩
        have hwalk := (forM_eq_ok_iff _).1 hcheck start hstart
        split at hwalk
        · cases hwalk
        · rename_i explored hw
          exact ⟨explored, hw ▸ walks_start hstart⟩
    | error e =>
        obtain ⟨start, hstart, hwalk⟩ := exists_of_forM_eq_error hcheck
        split at hwalk
        · rename_i found hw
          cases hwalk
          exact .inr ⟨start, hstart, found, hw ▸ walks_start hstart, rfl⟩
        · cases hwalk

/-- Whoever has the attic has the desk of the number with 77 in front.  From a desk it goes to the
hall, which takes a 7 away, and back to a desk; a desk of which nothing is known leads to the attic
again. -/
def atticRoles : List Role :=
  [.plain "attic*".toList ["assume:desk77<..>".toList] ⟨0, 0⟩,
   .plain "desk*".toList ["assume:hall<..>".toList, "assume:att<..>".toList] ⟨0, 0⟩,
   .plain "hall7*".toList ["assume:desk<..>".toList] ⟨0, 0⟩]

/-- The walk from the attic visits the desk with 77, with 7 and with nothing, and is back. -/
theorem check_halts_attic :
    {path : List (carrierGraph atticRoles).Visit | ReflTransGen Calls [] path}.Finite ∧
      ∃ start ∈ (carrierGraph atticRoles).cyclic, ∃ found,
        Walks [] ∅ [(⟨start, []⟩ : (carrierGraph atticRoles).Visit)] (.error found) ∧
        (∃! result, Walks [] ∅ [(⟨start, []⟩ : (carrierGraph atticRoles).Visit)] result) ∧
        found.map (fun v => (carrierGraph atticRoles).idOf v.node) =
          ["attic*".toList, "desk*".toList, "hall7*".toList, "desk*".toList, "hall7*".toList,
           "desk*".toList, "attic*".toList] := by
  have hcheck : (carrierGraph atticRoles).check =
      .error (.cycle ["attic*".toList, "desk*".toList, "hall7*".toList, "desk*".toList,
        "hall7*".toList, "desk*".toList, "attic*".toList]) :=
    check_of_checkWithin (n := 16) (by decide +kernel)
  obtain ⟨-, hfinite, hends, ⟨-, hok⟩ | ⟨start, hstart, found, hfound, herr⟩⟩ :=
    check_halts (carrierGraph atticRoles)
  · rw [hcheck] at hok
    cases hok
  · refine ⟨hfinite, start, hstart, found, hfound, hends start hstart, ?_⟩
    rw [hcheck] at herr
    injection herr with herr
    injection herr with hpath
    exact hpath.symm

end RoleGraph

end DelegatedScopes
