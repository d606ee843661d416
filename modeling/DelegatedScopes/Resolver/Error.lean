import DelegatedScopes.Role.Basic

/-!
# Resolver — errors

What can keep a query from being answered.
-/

namespace DelegatedScopes

/-- Why there is no answer: the roles are refused, an expansion took more steps than allowed, the
store could not be read, or the first load is not done. -/
inductive ResolutionError
  | invalidRoles (cause : RoleSetError)
  | stepLimit (limit : Nat)
  | sourceUnavailable (reason : Text)
  | notReady
deriving DecidableEq

/-- The error in words. -/
def ResolutionError.message : ResolutionError → Text
  | .invalidRoles cause => "Invalid roles: ".toList ++ cause.message
  | .stepLimit limit =>
    "Scope expansion exceeded ".toList ++ Text.decimal limit ++ " steps".toList
  | .sourceUnavailable reason => "Source unavailable: ".toList ++ reason
  | .notReady => "Scope resolver is not ready".toList

end DelegatedScopes
