import DelegatedScopes.Resolver.Error
import DelegatedScopes.Resolver.Expansion
import DelegatedScopes.Resolver.Index
import DelegatedScopes.Role.Termination
import DelegatedScopes.Scope.NormalForm

/-!
# Resolver

A resolver is compiled from a set of roles and does not change.  It expands a scope set until
nothing new is granted: scopes are taken in the order in which they arrived, a scope that another
one implies is passed over, and any other adds what the roles it activates grant.  The answer is
the normal form of all scopes met.  As soon as `*` is granted it is the answer.

* `Resolver.compile`, `Resolver.build`: from any roles, and from roles that pass validation.
* `Resolver.resolve`: the expansion of a scope set.
* `Resolver.expandRole`: the expansion of a role.

The number of scopes taken is capped, those passed over included.  A set of roles that passes
validation stays below some cap; an unchecked one may grant new scopes for ever.
-/

namespace DelegatedScopes

/-- A role with its scopes cut at their placeholders. -/
structure CompiledRole where
  role : Role
  templates : List Template

/-- The effective roles by ascending id, their index, the cap on the scopes taken, and the number
of the snapshot that the resolver belongs to. -/
structure Resolver where
  roles : Array CompiledRole
  index : RoleIndex
  maxSteps : Nat
  generation : Nat

namespace Resolver

/-- A resolver for any list of roles. -/
def compile (roles : List Role) (maxSteps : Nat) : Resolver :=
  let effective := Role.effective roles
  { roles := (effective.map fun r => ⟨r, r.templates⟩).toArray
    index := RoleIndex.ofIds (effective.map Role.id)
    maxSteps
    generation := 0 }

/-- A resolver for roles that pass validation. -/
def build (roles : List Role) (maxSteps : Nat) : Except ResolutionError Resolver :=
  match validateRoles roles with
  | .error cause => .error (.invalidRoles cause)
  | .ok () => .ok (compile roles maxSteps)

/-- The resolver as part of the snapshot with the given number. -/
def withGeneration (r : Resolver) (generation : Nat) : Resolver := { r with generation }

/-- The number of roles. -/
def size (r : Resolver) : Nat := r.roles.size

/-- The definition of a role id, if it has one. -/
def role? (r : Resolver) (id : Text) : Option Role :=
  (r.roles.find? fun c => c.role.id = id).map CompiledRole.role

/-- The role ids in ascending order. -/
def ids (r : Resolver) : List Text := r.roles.toList.map fun c => c.role.id

/-- What the roles activated by a scope grant, role by role and template by template. -/
def grants (r : Resolver) (s : Scope) : List Scope :=
  (r.index.lookup s).flatMap fun found =>
    match r.roles[found.1]? with
    | some c => c.templates.map fun t => t.render found.2
    | none => []

/-- Expands until nothing new is granted.  `taken` scopes have been taken from the expansion, and
`left` more may be. -/
def expand (r : Resolver) (e : Expansion) (taken : Nat) :
    (left : Nat) → Except ResolutionError (List Scope)
  | 0 =>
    if taken < e.arrivals.size then .error (.stepLimit r.maxSteps)
    else .ok (Scope.normalize e.arrivals.toList)
  | left + 1 =>
    match e.arrivals[taken]? with
    | none => .ok (Scope.normalize e.arrivals.toList)
    | some s =>
      if e.covers s then expand r e (taken + 1) left
      else
        let granted := r.grants s
        if granted.contains Scope.star then .ok [Scope.star]
        else expand r (granted.foldl Expansion.add e) (taken + 1) left

/-- The expansion of a scope set. -/
def resolve (r : Resolver) (scopes : List Scope) : Except ResolutionError (List Scope) :=
  let normal := Scope.normalize scopes
  if normal.contains Scope.star then .ok normal
  else r.expand (normal.foldl Expansion.add .empty) 0 r.maxSteps

/-- The expansion of a role.  A parameterized role has no activating scope of its own, so its
scopes are expanded as they are written. -/
def expandRole (r : Resolver) (id : Text) : Except ResolutionError (Option (List Scope)) :=
  match r.role? id with
  | none => .ok none
  | some role =>
    if role.isParameterized then (r.resolve role.scopes).map some
    else (r.resolve [Scope.assume ++ id]).map some

end Resolver

end DelegatedScopes
