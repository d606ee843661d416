import DelegatedScopes.Arithmetic
import DelegatedScopes.Role.Graph
import Std.Data.TreeSet

/-!
# Roles — termination

A role set is refused when a capture can come back to its carrier without having got shorter, for
then an expansion can go round for ever.  The check walks the graph of carriers depth first, from
every carrier on a cycle, starting with nothing known of the capture.

A walk stops at a visit that *returns*: its carrier is already on the path, and the capture is at
least as long as at the carrier's latest visit.  Captures may grow from one carrier to the next,
but along a path without a returning visit each carrier sees ever shorter captures.  So every new
visit either takes a carrier from those the path has not met, or lowers the sum of the latest
capture lengths, and the walk ends.

* `RoleGraph.walk`: the depth-first walk.
* `RoleGraph.check`: the first cycle, if there is one.
* `validateRoles`: a role set is well formed and terminates.
-/

namespace DelegatedScopes.RoleGraph

variable {g : RoleGraph}

/-- The length of the capture of a visit, in bytes. -/
def Visit.size (v : g.Visit) : Nat := v.capture.byteLength

/-- The latest visit of a carrier on a path; the path has its latest visit in front. -/
def latestVisit (path : List g.Visit) (i : g.Node) : Option g.Visit :=
  path.find? fun v => v.node = i

/-- A visit returns to a path when its carrier was last visited with a capture no longer than the
one it comes with. -/
def returns (path : List g.Visit) (v : g.Visit) : Bool :=
  (latestVisit path v.node).any fun u => u.size ≤ v.size

/-- The part of the path from the latest visit of the carrier on, closed by the returning visit. -/
def loop (path : List g.Visit) (v : g.Visit) : List g.Visit :=
  (path.takeWhile (fun u => u.node ≠ v.node) ++ (latestVisit path v.node).toList).reverse ++ [v]

/-! ### Why the walk ends -/

/-- The carriers that a path has not met. -/
def unmet (path : List g.Visit) : List g.Node :=
  (List.finRange g.carriers.size).filter fun i => (latestVisit path i).isNone

/-- The length of the latest capture of a carrier, zero before its first visit. -/
def latestSize (path : List g.Visit) (i : g.Node) : Nat :=
  ((latestVisit path i).map Visit.size).getD 0

/-- The sum of the latest capture lengths. -/
def totalSize (path : List g.Visit) : Nat :=
  total ((List.finRange g.carriers.size).map (latestSize path))

theorem latestVisit_cons_self (path : List g.Visit) (v : g.Visit) :
    latestVisit (v :: path) v.node = some v := by
  simp [latestVisit]

theorem latestVisit_cons_ne (path : List g.Visit) (v : g.Visit) {i : g.Node} (h : i ≠ v.node) :
    latestVisit (v :: path) i = latestVisit path i := by
  simp [latestVisit, Ne.symm h]

theorem unmet_cons (path : List g.Visit) (v : g.Visit) :
    unmet (v :: path) = (unmet path).filter fun i => i ≠ v.node := by
  rw [unmet, unmet, List.filter_filter]
  refine List.filter_congr fun i _ => ?_
  by_cases h : i = v.node
  · subst h
    simp [latestVisit_cons_self]
  · simp [latestVisit_cons_ne path v h, h]

/-- A visit that does not return meets a new carrier, or lowers the total size and leaves no fewer
carriers met. -/
theorem measure_lt {path : List g.Visit} {v : g.Visit} (h : returns path v = false) :
    (unmet (v :: path)).length < (unmet path).length ∨
      (unmet (v :: path)).length = (unmet path).length ∧
        totalSize (v :: path) < totalSize path := by
  rw [unmet_cons]
  cases hl : latestVisit path v.node with
  | none =>
    left
    rw [List.length_filter_lt_length_iff_exists]
    exact ⟨v.node, by simp [unmet, hl], by simp⟩
  | some u =>
    have hsize : v.size < u.size := by
      simpa [returns, hl] using h
    right
    constructor
    · congr 1
      rw [List.filter_eq_self]
      intro i hi
      have : latestVisit path i = none := by simpa [unmet] using hi
      simp only [ne_eq, decide_not, Bool.not_eq_eq_eq_not, Bool.not_true, decide_eq_false_iff_not]
      rintro rfl
      rw [hl] at this
      cases this
    · refine total_map_lt (fun i => ?_) (List.mem_finRange v.node) ?_
      · by_cases hi : i = v.node
        · subst hi
          simp only [latestSize, latestVisit_cons_self, hl, Option.map_some, Option.getD_some]
          omega
        · simp [latestSize, latestVisit_cons_ne path v hi]
      · simpa [latestSize, latestVisit_cons_self, hl] using hsize

/-! ### The walk -/

/-- Visits by carrier, then by capture. -/
def Visit.order (u v : g.Visit) : Ordering :=
  (compare u.node v.node).then (compare u.capture v.capture)

/-- Visits below which no returning visit was found. -/
abbrev Explored (g : RoleGraph) := Std.TreeSet g.Visit Visit.order

/-- Walks on from a path to each of some visits in turn.  The result is the first loop found, or
every visit that is now known to lead to none. -/
def walk (path : List g.Visit) (explored : Explored g) :
    List g.Visit → Except (List g.Visit) (Explored g)
  | [] => .ok explored
  | v :: rest =>
    if _h : returns path v = true then .error (loop path v)
    else if explored.contains v then walk path explored rest
    else
      match walk (v :: path) explored (g.moves v) with
      | .error found => .error found
      | .ok explored => walk path (explored.insert v) rest
termination_by visits => ((unmet path).length, totalSize path, visits.length)
decreasing_by
  · exact .right _ (.right _ (by simp))
  · rcases measure_lt (by simpa using _h) with hlt | ⟨heq, hlt⟩
    · exact .left _ _ hlt
    · rw [heq]
      exact .right _ (.left _ _ hlt)
  · exact .right _ (.right _ (by simp))

/-- The first cycle, walking from the carriers on cycles by ascending id. -/
def check (g : RoleGraph) : Except RoleSetError Unit :=
  g.cyclic.forM fun start =>
    match walk [] ∅ [⟨start, []⟩] with
    | .error found => .error (.cycle (found.map fun v => g.idOf v.node))
    | .ok _ => .ok ()

end DelegatedScopes.RoleGraph

namespace DelegatedScopes

/-- Refuses a role set for its first malformed definition, and then for its first cycle. -/
def validateRoles (roles : List Role) : Except RoleSetError Unit :=
  match RoleGraph.ofRoles roles with
  | .error e => .error e
  | .ok g => g.check

end DelegatedScopes
