import DelegatedScopes.Proofs.Resolver.Definitions
import DelegatedScopes.Proofs.Service.Step
import Mathlib.Data.List.Basic

/-!
# The service — setting up

A service reads the roles of its store when it is set up.  The store lists them in an order of its
own, and knows no more than the last definition of each id.  What comes of the setup is what comes
of the roles that the store was made from.

* `Machine.exists_setup_error`, `Machine.exists_setup_ok`: the two ways in which a setup ends.
* `latest_definitions_decide`: from a list of roles to the answers of the service.
-/

namespace DelegatedScopes

namespace Machine

variable {config : Config} {roles listed : List Role} {clients found : List Client}
  {feed : Option Nat}

/-! ### A setup on its own -/

/-- The channel that a setup is given: the first one, if the store is subscribed to. -/
def fed (feed : Option Nat) : Option Nat := feed.map fun _ => 0

/-- A service is set up, with a channel of some capacity or without one, and asks for the roles. -/
def opening (feed : Option Nat) : List Event :=
  feed.toList.map .subscribe ++ [.setup (fed feed), .move 0, .move 0, .move 0]

/-- A service that has asked for the roles of its store. -/
def asking (config : Config) (store : Store) (feed : Option Nat) : Machine :=
  { new config (feed.elim store fun capacity => (store.subscribe capacity).2) with
    tasks := [⟨.setup (fed feed), .rebuilding .everything .listingRoles⟩]
    setupQueue := [0]
    rebuildQueue := [0] }

/-- Nothing stands in the way of the first call: it takes both locks and asks for the roles. -/
theorem play?_opening (config : Config) (roles : List Role) (clients : List Client)
    (feed : Option Nat) :
    (new config (.ofEntries roles clients)).play? (opening feed) =
      some (asking config (.ofEntries roles clients) feed) := by
  cases feed <;> rfl

theorem next?_asking (config : Config) (store : Store) (feed : Option Nat) (listed : List Role) :
    (asking config store feed).next? (.answerRoles 0 (.ok listed)) =
      some (match Resolver.build listed config.maxSteps with
        | .error e => (asking config store feed).failRebuild 0 (.setup (fed feed)) e
        | .ok r => (asking config store feed).rolesLoaded 0 .everything (some r)) := rfl

/-- Roles that are refused end the setup, and the service stays as it was. -/
theorem exists_setup_error {e : ResolutionError}
    (h : Resolver.build listed config.maxSteps = .error e) :
    ∃ m, (new config (.ofEntries roles clients)).play?
        (opening feed ++ [.answerRoles 0 (.ok listed)]) = some m ∧
      m.tasks[0]? = some ⟨.setup (fed feed), .ended (.error e)⟩ ∧
      m.service.lifecycle = .uninitialized := by
  refine ⟨(asking config (.ofEntries roles clients) feed).failRebuild 0 (.setup (fed feed)) e,
    ?_, ?_, ?_⟩
  · simp only [play?_append, play?_opening, Option.bind_some, play?, next?_asking, h]
  · cases feed <;> rfl
  · cases feed <;> rfl

/-- Roles that pass, and any clients, end the setup, and the service answers from them. -/
theorem exists_setup_ok {r : Resolver} (h : Resolver.build listed config.maxSteps = .ok r) :
    ∃ m, (new config (.ofEntries roles clients)).play?
        (opening feed ++ [.answerRoles 0 (.ok listed), .answerClients 0 (.ok found), .move 0]) =
          some m ∧
      m.tasks[0]? = some ⟨.setup (fed feed), .ended (.ok ())⟩ ∧
      ∀ scopes, (m.service.resolve scopes).1 = r.resolve scopes := by
  have hplay : (new config (.ofEntries roles clients)).play?
      (opening feed ++ [.answerRoles 0 (.ok listed), .answerClients 0 (.ok found), .move 0]) =
        some ((((asking config (.ofEntries roles clients) feed).setPhase 0
          (.rebuilding .everything (.loaded (some r) (some found)))).mapService
            (·.publish (some r) (some found))).leaveRebuild 0 (.setup (fed feed)) (.ok ())) := by
    simp only [play?_append, play?_opening, Option.bind_some]
    rw [play?, next?_asking, h]
    rfl
  refine ⟨_, hplay, ?_, fun scopes => ?_⟩
  · cases feed <;> rfl
  · rw [service_leaveRebuild_ok, ← r.resolve_withGeneration 1]
    rfl

end Machine

/-! ### From roles to answers -/

/-- A role id has no last definition when nothing defines it. -/
theorem Role.latest?_eq_none_iff {roles : List Role} {id : Text} :
    latest? roles id = none ↔ ∀ r ∈ roles, r.id ≠ id := by
  simp [latest?]

/-- A resolver is not built from roles that are refused, and for no other reason. -/
theorem Resolver.build_error {roles : List Role} {maxSteps : Nat} {e : ResolutionError}
    (h : build roles maxSteps = .error e) : ∃ cause, e = .invalidRoles cause := by
  rw [build] at h
  split at h
  · rename_i cause _
    exact ⟨cause, (Except.error.inj h).symm⟩
  · cases h

/-- **The last definition of each role decides everything.**  Two lists of roles with the same last
definitions are refused for the same reason, with the same cycle; the resolvers compiled from them
know the same roles by ascending id, and answer alike.  So it does not matter in what order a store
lists the roles that it was made from: the setup of a service fails with the reason for which the
roles are refused, and otherwise the service answers as the resolver built from them. -/
theorem latest_definitions_decide {roles others : List Role}
    (h : ∀ id, Role.latest? roles id = Role.latest? others id) :
    validateRoles roles = validateRoles others ∧
    (∀ maxSteps,
      let r := Resolver.compile roles maxSteps
      let r' := Resolver.compile others maxSteps
      r.size = r'.size ∧ r.ids = r'.ids ∧ r.ids.Pairwise (fun a b => compare a b = .lt) ∧
      (∀ id, r.role? id = Role.latest? roles id ∧ r'.role? id = Role.latest? roles id) ∧
      (∀ id, r.role? id = none ↔ ∀ q ∈ roles, q.id ≠ id) ∧
      (∀ scopes, r.resolve scopes = r'.resolve scopes) ∧
      ∀ id, r.expandRole id = r'.expandRole id) ∧
    ∀ (config : Config) (clients found : List Client) (feed : Option Nat) (listed : List Role),
      listed.Perm (Store.ofEntries roles clients).roles.values →
      (∀ e, Resolver.build roles config.maxSteps = .error e →
        (∃ cause, e = .invalidRoles cause) ∧
        ∃ m, (Machine.new config (.ofEntries roles clients)).play?
            (Machine.opening feed ++ [.answerRoles 0 (.ok listed)]) = some m ∧
          m.tasks[0]? = some ⟨.setup (Machine.fed feed), .ended (.error e)⟩ ∧
          m.service.lifecycle = .uninitialized) ∧
      ∀ r, Resolver.build roles config.maxSteps = .ok r →
        ∃ m, (Machine.new config (.ofEntries roles clients)).play?
            (Machine.opening feed ++
              [.answerRoles 0 (.ok listed), .answerClients 0 (.ok found), .move 0]) = some m ∧
          m.tasks[0]? = some ⟨.setup (Machine.fed feed), .ended (.ok ())⟩ ∧
          ∀ scopes, (m.service.resolve scopes).1 = r.resolve scopes := by
  have heff := Role.effective_congr h
  refine ⟨validateRoles_congr heff, fun maxSteps => ?_,
    fun config clients found feed listed hl => ?_⟩
  · have hsame := Resolver.compile_congr heff maxSteps
    have hknown := Resolver.role?_compile roles maxSteps
    refine ⟨congrArg _ hsame, congrArg _ hsame, ?_, fun id => ⟨hknown id, ?_⟩, fun id => ?_,
      fun scopes => congrArg (·.resolve scopes) hsame, fun id => congrArg (·.expandRole id) hsame⟩
    · rw [Resolver.ids_compile, List.pairwise_map]
      exact Role.pairwise_effective roles
    · rw [Resolver.role?_compile, h]
    · rw [hknown, Role.latest?_eq_none_iff]
  · have hlisted : Resolver.build listed config.maxSteps = Resolver.build roles config.maxSteps :=
      Resolver.build_congr (Role.effective_of_perm hl) config.maxSteps
    refine ⟨fun e he => ⟨Resolver.build_error he, ?_⟩, fun r hr => ?_⟩
    · exact Machine.exists_setup_error (hlisted.trans he)
    · exact Machine.exists_setup_ok (hlisted.trans hr)

/-- A desk that is allowed everything at first and only paper in the end. -/
def deskDraft : List Role :=
  [.plain "desk".toList ["*".toList] ⟨0, 0⟩, .plain "hall".toList [] ⟨0, 0⟩,
    .plain "desk".toList ["paper".toList] ⟨1, 0⟩]

/-- The same without the first thought, in another order. -/
def deskFinal : List Role :=
  [.plain "desk".toList ["paper".toList] ⟨1, 0⟩, .plain "hall".toList [] ⟨0, 0⟩]

theorem latest_definitions_decide_desk :
    (∀ id, Role.latest? deskDraft id = Role.latest? deskFinal id) ∧
    deskFinal.reverse.Perm (Store.ofEntries deskDraft []).roles.values ∧
    Resolver.build deskDraft 100 = .ok (.compile deskDraft 100) ∧
    (Resolver.compile deskDraft 100).ids = (Resolver.compile deskFinal 100).ids ∧
    ∃ m, (Machine.new ⟨10, 100⟩ (.ofEntries deskDraft [])).play?
        (Machine.opening (some 8) ++
          [.answerRoles 0 (.ok deskFinal.reverse), .answerClients 0 (.ok []), .move 0]) = some m ∧
      m.tasks[0]? = some ⟨.setup (some 0), .ended (.ok ())⟩ ∧
      ∀ scopes, (m.service.resolve scopes).1 =
        (Resolver.compile deskDraft 100).resolve scopes := by
  have hlatest : ∀ id, Role.latest? deskDraft id = Role.latest? deskFinal id := by
    intro id
    by_cases hdesk : "desk".toList = id
    · subst hdesk
      decide
    · by_cases hhall : "hall".toList = id
      · subst hhall
        decide
      · have hids : ∀ r ∈ deskDraft ++ deskFinal, r.id = "desk".toList ∨ r.id = "hall".toList := by
          decide
        have hother : ∀ r ∈ deskDraft ++ deskFinal, r.id ≠ id := fun r hr e =>
          (hids r hr).elim (fun hd => hdesk (hd.symm.trans e)) fun hh => hhall (hh.symm.trans e)
        rw [Role.latest?_eq_none_iff.2 fun r hr => hother r (List.mem_append_left _ hr),
          Role.latest?_eq_none_iff.2 fun r hr => hother r (List.mem_append_right _ hr)]
  have hvalues : (Store.ofEntries deskDraft []).roles.values = deskFinal := by decide +kernel
  have hperm : deskFinal.reverse.Perm (Store.ofEntries deskDraft []).roles.values :=
    hvalues ▸ deskFinal.reverse_perm
  have hbuild : Resolver.build deskDraft 100 = .ok (.compile deskDraft 100) := by
    have hvalid : validateRoles deskDraft = .ok () := by decide +kernel
    rw [Resolver.build, hvalid]
  obtain ⟨-, hresolver, hsetup⟩ := latest_definitions_decide hlatest
  exact ⟨hlatest, hperm, hbuild, (hresolver 100).2.1,
    (hsetup ⟨10, 100⟩ [] [] (some 8) _ hperm).2 _ hbuild⟩

end DelegatedScopes
