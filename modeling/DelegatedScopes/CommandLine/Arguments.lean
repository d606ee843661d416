import DelegatedScopes.Config

/-!
# The command line — arguments

The arguments are options and values in any order: first, perhaps, options that hold for every
command, then the name of the command, then options and values of the command, with which the
options for every command may be given again.  `--` ends the options.

An option that limits the service may come from the environment.  What stands nearest to the
command's values counts: its own option, then the one before its name, then the environment.  The
environment is looked at on both levels, before and after the name, and each level refuses a value
that is not a number unless it has an option of its own to put in its place.

* `Invocation.parse`: what the arguments ask for, if they are not refused.
-/

namespace DelegatedScopes.CommandLine

/-! ### Tokens -/

/-- An argument by its look: the end of the options, a long option with or without a value, letters
of short options, or a value. -/
inductive Token
  | escape
  | long (name : Text) (value : Option Text)
  | short (letters : Text)
  | value (t : Text)
deriving DecidableEq

/-- The look of an argument.  A single hyphen is a value. -/
def Token.of (arg : Text) : Token :=
  match arg with
  | ['-', '-'] => .escape
  | '-' :: '-' :: option =>
    match option.dropWhile (· ≠ '=') with
    | [] => .long option none
    | _ :: rest => .long (option.takeWhile (· ≠ '=')) (some rest)
  | '-' :: c :: letters => .short (c :: letters)
  | t => .value t

/-! ### Levels -/

/-- The options of the command line; each takes a value. -/
inductive Setting
  | maxSteps
  | lastUsedDelay
  | roles
  | clients
deriving DecidableEq

namespace Setting

/-- The name of an option. -/
def name : Setting → String
  | .maxSteps => "max-expansion-steps"
  | .lastUsedDelay => "max-last-used-delay"
  | .roles => "roles"
  | .clients => "clients"

/-- Whether an option may have a value: a limit is a number, and a path is not empty. -/
def accepts (s : Setting) (value : Text) : Bool :=
  match s with
  | .maxSteps | .lastUsedDelay => value.natural?.isSome
  | .roles | .clients => !value.isEmpty

/-- The options that hold for every command. -/
def limits : List Setting := [.maxSteps, .lastUsedDelay]

end Setting

/-- What a level takes: its options, and how many values, where `none` is any number of them. -/
structure Form where
  settings : List Setting
  values : Option Nat

/-- What has been given on a level: options with their values, and values in their order. -/
structure Level where
  settings : List (Setting × Text)
  values : List Text
deriving DecidableEq

namespace Level

/-- Nothing has been given. -/
def empty : Level := ⟨[], []⟩

/-- The value of an option. -/
def setting? (l : Level) (s : Setting) : Option Text :=
  (l.settings.find? fun given => given.1 = s).map Prod.snd

/-- An option and its value.  It has to be one of the level's, and may not be given twice. -/
def addSetting (l : Level) (form : Form) (name value : Text) : Option Level := do
  let s ← form.settings.find? fun s => s.name.toList = name
  if (l.setting? s).isNone && s.accepts value then
    some { l with settings := l.settings ++ [(s, value)] }
  else none

/-- Further values, unless there are too many. -/
def addValues (l : Level) (form : Form) (values : List Text) : Option Level :=
  let l := { l with values := l.values ++ values }
  match form.values with
  | some limit => if l.values.length ≤ limit then some l else none
  | none => some l

end Level

/-- Where the arguments of a level end: they ask for help, or they are done. -/
inductive LevelEnd
  | help
  | done (level : Level)

/-- Whether an option asks for help. -/
def asksForHelp : Token → Bool
  | .long name none => name == "help".toList
  | .short (c :: _) => c == 'h'
  | _ => false

/-- The arguments after the name of a command. -/
def parseLevel (form : Form) (l : Level) : List Text → Option LevelEnd
  | [] => some (.done l)
  | arg :: rest =>
    if asksForHelp (.of arg) then some .help
    else
      match Token.of arg with
      | .escape => (l.addValues form rest).map .done
      | .value t => (l.addValues form [t]).bind fun l => parseLevel form l rest
      | .long name (some value) =>
        (l.addSetting form name value).bind fun l => parseLevel form l rest
      | .long name none =>
        match rest with
        | value :: rest =>
          match Token.of value with
          | .value value => (l.addSetting form name value).bind fun l => parseLevel form l rest
          | _ => none
        | [] => none
      | .short _ => none

/-! ### Commands -/

/-- The commands by name. -/
inductive Verb
  | normalize
  | validate
  | resolve
  | client
  | role
deriving DecidableEq

namespace Verb

/-- The verb with a name. -/
def named? (name : Text) : Option Verb :=
  if name = "normalize".toList then some .normalize
  else if name = "validate".toList then some .validate
  else if name = "resolve".toList then some .resolve
  else if name = "client".toList then some .client
  else if name = "role".toList then some .role
  else none

/-- What a command takes. -/
def form : Verb → Form
  | .normalize => ⟨Setting.limits, none⟩
  | .validate => ⟨Setting.limits ++ [.roles], some 0⟩
  | .resolve => ⟨Setting.limits ++ [.roles], none⟩
  | .client => ⟨Setting.limits ++ [.roles, .clients], some 1⟩
  | .role => ⟨Setting.limits ++ [.roles], some 1⟩

end Verb

/-- A command: the normal form of scopes, the check of a file of roles, the expansion of scopes, and
a client or a role with its expansion.  Files are given by their paths. -/
inductive Command
  | normalize (scopes : List Text)
  | validate (roles : Text)
  | resolve (roles : Text) (scopes : List Text)
  | client (roles clients id : Text)
  | role (roles id : Text)
deriving DecidableEq

/-- The command that is given on its level, if nothing is missing. -/
def Command.ofLevel (l : Level) : Verb → Option Command
  | .normalize => some (.normalize l.values)
  | .validate => (l.setting? .roles).map .validate
  | .resolve => do
    let roles ← l.setting? .roles
    if l.values.isEmpty then none else some (.resolve roles l.values)
  | .client => do
    let roles ← l.setting? .roles
    let clients ← l.setting? .clients
    let id ← l.values.head?
    some (.client roles clients id)
  | .role => do
    let roles ← l.setting? .roles
    let id ← l.values.head?
    some (.role roles id)

/-! ### Limits -/

/-- The environment variables that limit the service. -/
structure Environment where
  maxSteps : Option Text
  lastUsedDelay : Option Text
deriving DecidableEq

/-- The environment variable behind an option. -/
def Environment.of (e : Environment) : Setting → Option Text
  | .maxSteps => e.maxSteps
  | .lastUsedDelay => e.lastUsedDelay
  | .roles | .clients => none

/-- Whether a level can do with the environment: it has an option of its own, or the environment
has a value that the option may have, or none. -/
def Level.admits (l : Level) (e : Environment) (s : Setting) : Bool :=
  (l.setting? s).isSome || (e.of s).all s.accepts

/-- The limit that an option sets, on one of the two levels or from the environment. -/
def limit? (outer inner : Level) (e : Environment) (s : Setting) : Option Nat :=
  (((inner.setting? s).or (outer.setting? s)).or (e.of s)).bind Text.natural?

/-- The configuration for a command: what the environment asks for, and on top of it the limits
that are set. -/
def configure (outer inner : Level) (e : Environment) : Config :=
  let base := Config.ofEnvironment e.lastUsedDelay e.maxSteps
  { staleness := ((limit? outer inner e .lastUsedDelay).map .ofSeconds).getD base.staleness
    maxSteps := (limit? outer inner e .maxSteps).getD base.maxSteps }

/-! ### Invocations -/

/-- What the arguments ask for. -/
inductive Invocation
  | help
  | version
  | run (config : Config) (command : Command)
deriving DecidableEq

namespace Invocation

/-- The arguments after `help`: at most the name of a command. -/
def parseHelp : List Text → Option Invocation
  | [] => some .help
  | [name] => if (Verb.named? name).isSome || name = "help".toList then some .help else none
  | _ => none

/-- The arguments after the name of a command. -/
def parseCommand (e : Environment) (outer : Level) (v : Verb) (args : List Text) :
    Option Invocation :=
  match parseLevel v.form .empty args with
  | none => none
  | some .help => some .help
  | some (.done inner) => do
    let command ← Command.ofLevel inner v
    if Setting.limits.all fun s => outer.admits e s && inner.admits e s then
      some (.run (configure outer inner e) command)
    else none

/-- The arguments from the first on, after some options. -/
def parseFrom (e : Environment) (outer : Level) : List Text → Option Invocation
  | [] => none
  | arg :: rest =>
    if asksForHelp (.of arg) then some .help
    else
      match Token.of arg with
      | .escape => none
      | .value t =>
        if t = "help".toList then parseHelp rest
        else (Verb.named? t).bind fun v => parseCommand e outer v rest
      | .long name (some value) =>
        (outer.addSetting ⟨Setting.limits, some 0⟩ name value).bind fun l => parseFrom e l rest
      | .long name none =>
        if name = "version".toList then some .version
        else
          match rest with
          | value :: rest =>
            match Token.of value with
            | .value value =>
              (outer.addSetting ⟨Setting.limits, some 0⟩ name value).bind fun l =>
                parseFrom e l rest
            | _ => none
          | [] => none
      | .short (c :: _) => if c = 'V' then some .version else none
      | .short [] => none

/-- What the arguments ask for, unless they are refused. -/
def parse (e : Environment) (args : List Text) : Option Invocation := parseFrom e .empty args

end Invocation

end DelegatedScopes.CommandLine
