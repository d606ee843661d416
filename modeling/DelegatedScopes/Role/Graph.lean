import DelegatedScopes.Digraph
import DelegatedScopes.Role.Basic

/-!
# Roles — the graph of carriers

Only a parameterized role with a placeholder in its scopes hands a capture on; such a role is a
carrier.  A plain role, or a template without a placeholder, grants the same scopes whatever was
captured, so it cannot make an expansion grow.

The graph over-approximates how captures flow: there is an edge from one carrier to another when a
template of the first, rendered with nothing known of its capture, activates the second.  Knowing
more of the capture only takes activations away.

* `RoleGraph.ofRoles`: the graph of a list of roles, or the first fault of its definitions.
* `RoleGraph.cyclic`: the carriers on a cycle.
* `RoleGraph.moves`: where a capture can go in one step, within the cycles of its carrier.
-/

namespace DelegatedScopes

/-- A parameterized role with the templates that hand its capture on. -/
structure Carrier where
  id : Text
  templates : List Template
deriving DecidableEq

namespace Carrier

/-- The carrier that a role is, if it is one. -/
def ofRole? (r : Role) : Option Carrier :=
  let templates := r.templates.filter Template.hasPlaceholder
  if r.isParameterized && !templates.isEmpty then some ⟨r.id, templates⟩ else none

/-- What `target` captures from a template of `c`, when all that is known of the capture of `c` is
how it begins. -/
def passes (c : Carrier) (known : Text) (target : Carrier) : List Text :=
  c.templates.filterMap fun t =>
    (Scope.activate target.id (t.render (.startingWith known))).map Activation.capture

/-- Whether a template of `c` can activate `target` at all. -/
def feeds (c target : Carrier) : Bool := !(c.passes [] target).isEmpty

end Carrier

/-- The carriers of a role set by ascending id, the edges between them, and the paths. -/
structure RoleGraph where
  carriers : Array Carrier
  edges : Digraph carriers.size
  paths : Digraph carriers.size

namespace RoleGraph

/-- A carrier of the graph. -/
abbrev Node (g : RoleGraph) := Fin g.carriers.size

/-- The graph on some carriers. -/
def ofCarriers (carriers : Array Carrier) : RoleGraph :=
  let edges := Digraph.ofEdges fun i j : Fin carriers.size => carriers[i].feeds carriers[j]
  ⟨carriers, edges, edges.closure⟩

/-- The graph of a list of roles.  The definitions are validated by ascending id. -/
def ofRoles (roles : List Role) : Except RoleSetError RoleGraph :=
  let effective := Role.effective roles
  match effective.forM Role.validate with
  | .error e => .error e
  | .ok () => .ok (ofCarriers (effective.filterMap Carrier.ofRole?).toArray)

/-- The carriers from which a non-empty path leads back to themselves, by ascending id. -/
def cyclic (g : RoleGraph) : List g.Node :=
  (List.finRange g.carriers.size).filter fun i => g.paths.hasEdge i i

/-- The id of a carrier. -/
def idOf (g : RoleGraph) (i : g.Node) : Text := g.carriers[i].id

/-- The role ids that could take part in an endless expansion. -/
def cyclicIds (g : RoleGraph) : List Text := g.cyclic.map g.idOf

/-- The successors of a carrier that lead back to it, by ascending id. -/
def targets (g : RoleGraph) (i : g.Node) : List g.Node :=
  (List.finRange g.carriers.size).filter fun j => g.edges.hasEdge i j && g.paths.hasEdge j i

/-- A carrier with what is known of its capture. -/
structure Visit (g : RoleGraph) where
  node : g.Node
  capture : Text
deriving DecidableEq

/-- Where a capture can go in one step, within the cycles of its carrier: targets by ascending id,
and for each the templates in order. -/
def moves (g : RoleGraph) (v : g.Visit) : List g.Visit :=
  (g.targets v.node).flatMap fun target =>
    (g.carriers[v.node].passes v.capture g.carriers[target]).map fun capture => ⟨target, capture⟩

end RoleGraph

end DelegatedScopes
