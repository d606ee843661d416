import DelegatedScopes.CommandLine.Arguments
import DelegatedScopes.Service.Schedule
import DelegatedScopes.Store.Document

/-!
# The command line — commands

A command reads its files, loads a service from them if it needs one, and prints one JSON value.
Whatever goes wrong ends it with one message.

* `CommandLine.execute`: a command.
* `CommandLine.run`: the whole program, from arguments to outcome.
-/

namespace DelegatedScopes.CommandLine

/-- What a command reads from outside: a file by its path, if it can be read, and the clock. -/
structure Surroundings where
  file? : Text → Option Text
  now : Instant

/-- How the program ends: its exit code, what it prints, and the message of its failure. -/
structure Outcome where
  exit : Nat
  output : Text
  failure : Option Text
deriving DecidableEq

/-- The files that a command reads. -/
def Command.files : Command → List Text
  | .normalize _ => []
  | .validate roles | .resolve roles _ | .role roles _ => [roles]
  | .client roles clients _ => [roles, clients]

/-! ### Commands -/

/-- Reads a file. -/
def readFile (world : Surroundings) (path : Text) : Except Text Text :=
  match world.file? path with
  | some content => .ok content
  | none => .error ("reading ".toList ++ path)

/-- A service over a store that has been set up. -/
def setUp (config : Config) (store : Store) : Except ResolutionError Service :=
  let m := ((Machine.new config store).start (.setup none)).settle
  match m.tasks[0]?.bind Machine.result? with
  | some (.ok ()) => .ok m.service
  | some (.error e) => .error e
  | none => .error .notReady

/-- A service over the roles and clients of files. -/
def load (world : Surroundings) (config : Config) (roles : Text) (clients : Option Text) :
    Except Text Service := do
  let roles ← readFile world roles
  let clients ← match clients with
    | some clients => (readFile world clients).map some
    | none => .ok none
  match Store.ofDocuments world.now roles clients with
  | .error _ => .error "loading role and client files".toList
  | .ok store => (setUp config store).mapError ResolutionError.message

/-- Checks the roles of a file, and counts them. -/
def checkRoles (world : Surroundings) (path : Text) : Except Text Json := do
  let document ← readFile world path
  match (Json.Reader.list (Role.reader world.now)).document document with
  | .error _ => .error ("parsing ".toList ++ path)
  | .ok roles =>
    match validateRoles roles with
    | .error e => .error e.message
    | .ok () =>
      .ok (.object [("roles".toList, .number roles.length), ("valid".toList, .bool true)])

/-- An answer that may be missing. -/
def answer {α : Type} (kind : String) (id : Text) (toJson : α → Json) :
    Except ResolutionError (Option α) → Except Text Json
  | .error e => .error e.message
  | .ok none => .error (kind.toList ++ " '".toList ++ id ++ "' not found".toList)
  | .ok (some a) => .ok (toJson a)

/-- What a command prints, or its failure. -/
def execute (world : Surroundings) (config : Config) : Command → Except Text Json
  | .normalize scopes => .ok (.texts (Scope.normalize scopes))
  | .validate roles => checkRoles world roles
  | .resolve roles scopes => do
    let service ← load world config roles none
    (service.resolve scopes).1.mapError ResolutionError.message |>.map Json.texts
  | .client roles clients id => do
    let service ← load world config roles (some clients)
    answer "client" id ClientSnapshot.toJson (service.loadClient id world.now).1
  | .role roles id => do
    let service ← load world config roles none
    answer "role" id RoleSnapshot.toJson (service.loadRole id)

/-! ### The program -/

/-- What `--help` prints. -/
def usage : Text :=
  Text.join ['\n'] <| List.map String.toList
    ["Resolve, normalize and validate delegated scopes",
     "",
     "Usage: scopegate [OPTIONS] <COMMAND>",
     "",
     "Commands:",
     "  normalize  Print the minimal equivalent of a scope set",
     "  validate   Validate a role file",
     "  resolve    Expand scopes against a role file",
     "  client     Show a client with its expanded scopes",
     "  role       Show a role with its expanded scopes",
     ""]

/-- How the program ends.  Refused arguments are an exit code of their own. -/
def run (world : Surroundings) (e : Environment) (args : List Text) : Outcome :=
  match Invocation.parse e args with
  | none => ⟨2, [], none⟩
  | some .help => ⟨0, usage, none⟩
  | some .version => ⟨0, "scopegate 0.1.0\n".toList, none⟩
  | some (.run config command) =>
    match execute world config command with
    | .ok v => ⟨0, v.pretty ++ ['\n'], none⟩
    | .error message => ⟨1, [], some message⟩

end DelegatedScopes.CommandLine
