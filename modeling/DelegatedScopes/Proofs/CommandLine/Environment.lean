import DelegatedScopes.CommandLine.Arguments
import Mathlib.Data.List.Basic

/-!
# The command line — the environment

With no option for a limit among the arguments, the limits come from the environment, and the
arguments decide on the command alone.

* `Invocation.parse_eq_bind`: what is asked for is then the same in every environment, up to the
  limits, as long as the environment holds numbers.
* `Invocation.config_eq_ofEnvironment_iff`: the limits are those that `Config.ofEnvironment` reads,
  unless the environment allows no scopes at all.

A limit of no scopes is where the two part.  `Config.ofEnvironment` takes the standard limit in its
place, but the arguments take it over as they take over an option.
-/

namespace DelegatedScopes.CommandLine

/-! ### Arguments without limits -/

/-- Whether an argument is an option that sets a limit. -/
def Token.setsLimit : Token → Bool
  | .long name _ => Setting.limits.any fun s => s.name.toList == name
  | _ => false

/-- No option among the arguments sets a limit.  Behind `--` there are no options. -/
def NoLimits (args : List Text) : Prop :=
  ∀ arg ∈ args.takeWhile fun arg => Token.of arg != .escape, (Token.of arg).setsLimit = false

instance (args : List Text) : Decidable (NoLimits args) := by unfold NoLimits; infer_instance

namespace NoLimits

variable {arg : Text} {rest : List Text}

theorem tail (h : NoLimits (arg :: rest)) (harg : Token.of arg ≠ .escape) : NoLimits rest := by
  intro other hother
  refine h other ?_
  rw [List.takeWhile_cons_of_pos (by simpa using harg)]
  exact List.mem_cons_of_mem _ hother

theorem name_ne (h : NoLimits (arg :: rest)) {name : Text} {value : Option Text}
    (harg : Token.of arg = .long name value) : ∀ s ∈ Setting.limits, s.name.toList ≠ name := by
  have hmem : arg ∈ (arg :: rest).takeWhile fun arg => Token.of arg != .escape := by
    rw [List.takeWhile_cons_of_pos (by simp [harg])]
    exact List.mem_cons_self
  have hno := h arg hmem
  rw [harg, Token.setsLimit, List.any_eq_false] at hno
  exact fun s hs hname => hno s hs (beq_iff_eq.2 hname)

end NoLimits

/-- No limit is set on the level. -/
def Level.Unlimited (l : Level) : Prop := ∀ s ∈ Setting.limits, l.setting? s = none

namespace Level.Unlimited

variable {l l' : Level} {form : Form}

theorem empty : Level.empty.Unlimited := fun _ _ => rfl

theorem addSetting (hl : l.Unlimited) {name value : Text}
    (hname : ∀ s ∈ Setting.limits, s.name.toList ≠ name)
    (h : l.addSetting form name value = some l') : l'.Unlimited := by
  obtain ⟨s, hs, h⟩ := Option.bind_eq_some_iff.1 h
  split at h
  · cases h
    intro s' hs'
    have hne : s ≠ s' := by
      rintro rfl
      exact hname s hs' (by simpa using List.find?_some hs)
    have hnone := hl s' hs'
    simp only [setting?, Option.map_eq_none_iff] at hnone ⊢
    rw [List.find?_append, hnone, List.find?_cons_of_neg (by simpa using hne)]
    rfl
  · cases h

theorem addValues (hl : l.Unlimited) {values : List Text}
    (h : l.addValues form values = some l') : l'.Unlimited := by
  have hsettings : l'.settings = l.settings := by
    unfold Level.addValues at h
    dsimp only at h
    split at h
    · split at h
      · cases h; rfl
      · cases h
    · cases h; rfl
  intro s hs
  rw [setting?, hsettings]
  exact hl s hs

end Level.Unlimited

/-- Every option that may stand before a command's name is a limit. -/
theorem addSetting_limits {l : Level} {name value : Text} {values : Option Nat}
    (hname : ∀ s ∈ Setting.limits, s.name.toList ≠ name) :
    l.addSetting ⟨Setting.limits, values⟩ name value = none := by
  have hfind : (Setting.limits.find? fun s => s.name.toList = name) = none := by
    rw [List.find?_eq_none]
    simpa using hname
  rw [Level.addSetting, hfind]
  rfl

theorem parseLevel_unlimited {form : Form} {args : List Text} {l l' : Level}
    (hargs : NoLimits args) (hl : l.Unlimited) (h : parseLevel form l args = some (.done l')) :
    l'.Unlimited := by
  fun_induction parseLevel form l args with
  | case1 => cases h; exact hl
  | case2 => cases h
  | case3 l arg rest _ harg =>
      obtain ⟨l₁, h₁, h⟩ := Option.map_eq_some_iff.1 h
      cases h
      exact hl.addValues h₁
  | case4 l arg rest _ t harg ih =>
      obtain ⟨l₁, h₁, h⟩ := Option.bind_eq_some_iff.1 h
      exact ih l₁ (hargs.tail (by simp [harg])) (hl.addValues h₁) h
  | case5 l arg rest _ name value harg ih =>
      obtain ⟨l₁, h₁, h⟩ := Option.bind_eq_some_iff.1 h
      exact ih l₁ (hargs.tail (by simp [harg])) (hl.addSetting (hargs.name_ne harg) h₁) h
  | case6 l arg _ name harg given rest value hvalue ih =>
      obtain ⟨l₁, h₁, h⟩ := Option.bind_eq_some_iff.1 h
      have hrest : NoLimits rest := (hargs.tail (by simp [harg])).tail (by simp [hvalue])
      exact ih l₁ hrest (hl.addSetting (hargs.name_ne harg) h₁) h
  | case7 => cases h
  | case8 => cases h
  | case9 => cases h

/-! ### Limits from the environment -/

namespace Environment

/-- No limit is set. -/
def silent : Environment := ⟨none, none⟩

/-- Whatever limits are set are numbers. -/
def Numeric (e : Environment) : Prop := ∀ s ∈ Setting.limits, (e.of s).all s.accepts = true

instance (e : Environment) : Decidable e.Numeric := by unfold Numeric; infer_instance

/-- The limits, as the numbers they are. -/
def config (e : Environment) : Config where
  staleness := ((e.lastUsedDelay.bind Text.natural?).map .ofSeconds).getD Config.standard.staleness
  maxSteps := (e.maxSteps.bind Text.natural?).getD Config.standard.maxSteps

end Environment

variable {e : Environment} {outer inner : Level}

/-- With no limit set on a level, the environment counts. -/
theorem configure_eq (houter : outer.Unlimited) (hinner : inner.Unlimited) :
    configure outer inner e = e.config := by
  have hlimit : ∀ s ∈ Setting.limits, limit? outer inner e s = (e.of s).bind Text.natural? := by
    intro s hs
    rw [limit?, houter s hs, hinner s hs, Option.none_or, Option.none_or]
  rw [configure, hlimit .maxSteps (by decide), hlimit .lastUsedDelay (by decide)]
  simp only [Environment.of, Environment.config, Config.ofEnvironment]
  cases e.lastUsedDelay.bind Text.natural? <;> cases e.maxSteps.bind Text.natural? <;> simp

theorem admits_eq (hl : inner.Unlimited) {s : Setting} (hs : s ∈ Setting.limits) :
    inner.admits e s = (e.of s).all s.accepts := by
  rw [Level.admits, hl s hs]
  rfl

namespace Invocation

/-- What is asked for, with the limits of an environment. -/
def under (e : Environment) : Invocation → Option Invocation
  | .run _ command => if e.Numeric then some (.run e.config command) else none
  | i => some i

theorem parseHelp_under (args : List Text) :
    (parseHelp args).bind (under e) = parseHelp args := by
  unfold parseHelp
  split
  · rfl
  · split <;> rfl
  · rfl

/-- Up to the limits, a command is the same in every environment. -/
theorem parseCommand_under (houter : outer.Unlimited) (v : Verb) {args : List Text}
    (hargs : NoLimits args) :
    parseCommand e outer v args = (parseCommand .silent outer v args).bind (under e) := by
  unfold parseCommand
  split
  · rfl
  · rfl
  · rename_i inner h
    have hinner := parseLevel_unlimited hargs Level.Unlimited.empty h
    have hadmits : ∀ e, (Setting.limits.all fun s => outer.admits e s && inner.admits e s) =
        decide (Environment.Numeric e) := by
      intro e
      rw [Bool.eq_iff_iff, List.all_eq_true, decide_eq_true_iff]
      refine forall₂_congr fun s hs => ?_
      rw [admits_eq houter hs, admits_eq hinner hs, Bool.and_self]
    rw [hadmits, hadmits, configure_eq houter hinner, configure_eq houter hinner]
    rcases Command.ofLevel inner v with _ | command
    · rfl
    · have hsilent : Environment.silent.Numeric := by decide
      simp [hsilent, under]

/-- Up to the limits, what is asked for is the same in every environment. -/
theorem parseFrom_under (houter : outer.Unlimited) {args : List Text} (hargs : NoLimits args) :
    parseFrom e outer args = (parseFrom .silent outer args).bind (under e) := by
  cases args with
  | nil => rfl
  | cons arg rest =>
      unfold parseFrom
      by_cases hhelp : asksForHelp (.of arg) = true
      · rw [if_pos hhelp, if_pos hhelp]
        rfl
      · rw [if_neg hhelp, if_neg hhelp]
        cases harg : Token.of arg with
        | escape => rfl
        | value t =>
            have hrest : NoLimits rest := hargs.tail (by simp [harg])
            dsimp only
            split
            · exact (parseHelp_under rest).symm
            · cases Verb.named? t with
              | none => rfl
              | some v => exact parseCommand_under houter v hrest
        | long name value? =>
            have hnone : ∀ value, outer.addSetting ⟨Setting.limits, some 0⟩ name value = none :=
              fun _ => addSetting_limits (hargs.name_ne harg)
            cases value? with
            | some value => simp only [hnone, Option.bind_none]
            | none =>
                dsimp only
                split
                · rfl
                · rcases rest with _ | ⟨value, rest⟩
                  · rfl
                  · simp only [hnone, Option.bind_none]
                    split <;> rfl
        | short letters =>
            rcases letters with _ | ⟨c, letters⟩
            · rfl
            · dsimp only
              split <;> rfl

/-- **Without options for the limits, the arguments decide on the command and the environment on the
limits.**  What is asked for in an environment is what is asked for without one, with the limits of
the environment; a command is refused if these are no numbers. -/
theorem parse_eq_bind (e : Environment) {args : List Text} (hargs : NoLimits args) :
    parse e args = (parse .silent args).bind (under e) :=
  parseFrom_under Level.Unlimited.empty hargs

theorem config_eq_of_parse {args : List Text} (hargs : NoLimits args) {config : Config}
    {command : Command} (h : parse e args = some (.run config command)) :
    config = e.config := by
  rw [parse_eq_bind e hargs] at h
  obtain ⟨i, -, hi⟩ := Option.bind_eq_some_iff.1 h
  cases i with
  | help => cases hi
  | version => cases hi
  | run config' command' =>
      rw [under] at hi
      split at hi
      · cases hi
        rfl
      · cases hi

/-- **The command line and the library read the environment alike, but for a limit of no scopes.**
Without options for the limits, a command runs under the configuration that the environment asks for
exactly when the environment does not set the limit of scopes to zero.  If it does, the command may
take no scope at all, and the library would fall back on the standard limit. -/
theorem config_eq_ofEnvironment_iff {e : Environment} {args : List Text} (hargs : NoLimits args)
    {config : Config} {command : Command} (h : parse e args = some (.run config command)) :
    (config = .ofEnvironment e.lastUsedDelay e.maxSteps ↔
      e.maxSteps.bind Text.natural? ≠ some 0) ∧
    (e.maxSteps.bind Text.natural? = some 0 →
      config = { Config.ofEnvironment e.lastUsedDelay e.maxSteps with maxSteps := 0 }) := by
  rw [config_eq_of_parse hargs h, Environment.config, Config.ofEnvironment]
  rcases e.maxSteps.bind Text.natural? with _ | _ | steps
  · simp
  · simp [Config.standard, Option.filter]
  · simp [Option.filter]

/-- A limit with a plus sign and a delay with a leading zero; `--roles` behind `--` is a scope. -/
theorem config_eq_ofEnvironment_iff_plus :
    NoLimits ["resolve".toList, "--roles=r".toList, "--".toList, "--roles".toList] ∧
    parse ⟨some "+7".toList, some "060".toList⟩
        ["resolve".toList, "--roles=r".toList, "--".toList, "--roles".toList] =
      some (.run ⟨60, 7⟩ (.resolve "r".toList ["--roles".toList])) ∧
    (⟨60, 7⟩ : Config) = .ofEnvironment (some "060".toList) (some "+7".toList) := by
  have hargs : NoLimits ["resolve".toList, "--roles=r".toList, "--".toList, "--roles".toList] := by
    decide
  have hparse : parse ⟨some "+7".toList, some "060".toList⟩
        ["resolve".toList, "--roles=r".toList, "--".toList, "--roles".toList] =
      some (.run ⟨60, 7⟩ (.resolve "r".toList ["--roles".toList])) := by decide
  exact ⟨hargs, hparse, (config_eq_ofEnvironment_iff hargs hparse).1.2 (by decide)⟩

/-- A limit of no scopes from the environment is taken over. -/
theorem config_ne_ofEnvironment_zero :
    parse ⟨some "0".toList, none⟩ ["resolve".toList, "--roles=r".toList, "x".toList] =
        some (.run ⟨21600, 0⟩ (.resolve "r".toList ["x".toList])) ∧
      Config.ofEnvironment none (some "0".toList) = ⟨21600, 1000000⟩ := by
  decide

end Invocation

end DelegatedScopes.CommandLine
