import Switchboard.Proofs.Config.Fitness

/-!
# What the environment overrides

The settings that count are those of the file in which each one that a variable overrides has the
value of the variable (`overridden`). Loading gives these or none. They have to be fit, but so have
the settings of the file by themselves, which are checked before anybody looks at the environment:
a size of zero has the file refused even if a variable overrides it (`not_loadWith_overridden`). So
the settings that count decide alone exactly if the file is fit by itself or unfit even with the
environment (`overriding`).
-/

namespace Switchboard.Config

variable {files : Files} {environment : Environment} {path : String} {written config : Config}
  {flaw : Flaw}

theorem check_of_flaw (unfit : config.validate = .error flaw) :
    check config = .error (.invalid flaw) := by
  rw [check, unfit]

theorem check_eq_error_iff {error : LoadError} :
    check config = .error error ↔
      ∃ flaw, config.validate = .error flaw ∧ error = .invalid flaw := by
  rw [check]
  cases config.validate with
  | ok => simp
  | error flaw => simp [eq_comm]

/-- The settings of a file that can be read are loaded if they are fit by themselves. -/
theorem load_of_read (reads : read files path = .ok written) : load files path = check written := by
  rw [load, reads]
  rfl

/-- A file with a flaw of its own is refused in any environment. -/
theorem loadWith_of_flaw (reads : read files path = .ok written)
    (unfit : written.validate = .error flaw) :
    (loadWith files environment path).1 = .error (.invalid flaw) := by
  have refused : load files path = .error (.invalid flaw) :=
    (load_of_read reads).trans (check_of_flaw unfit)
  rw [loadWith, refused]

/-- The settings of any other file are checked once more with what the environment overrides. -/
theorem loadWith_of_fit (reads : read files path = .ok written)
    (fit : written.validate = .ok ()) :
    (loadWith files environment path).1 = check (written.overridden environment) := by
  have loads : load files path = .ok written :=
    (load_of_read reads).trans (check_eq_ok_iff.mpr ⟨rfl, validate_eq_ok_iff.mp fit⟩)
  rw [loadWith, loads]
  exact congrArg check (override_fst written environment)

/-- What loading a file with the settings `written` comes to in an environment. -/
structure Overrides (files : Files) (environment : Environment) (path : String)
    (written : Config) : Prop where
  ok_iff : ∀ config, (loadWith files environment path).1 = .ok config ↔
    written.validate = .ok () ∧ (written.overridden environment).validate = .ok () ∧
      config = written.overridden environment
  /-- The file is refused for a flaw of its own, or else for one that the environment brings. -/
  error_iff : ∀ error, (loadWith files environment path).1 = .error error ↔
    ∃ flaw, error = .invalid flaw ∧ (written.validate = .error flaw ∨
      written.validate = .ok () ∧ (written.overridden environment).validate = .error flaw)
  /-- The settings that count decide alone unless they are fit and those of the file are not. -/
  decides_iff :
    (∀ config, (loadWith files environment path).1 = .ok config ↔
      (written.overridden environment).validate = .ok () ∧
        config = written.overridden environment) ↔
    ((written.overridden environment).validate = .ok () → written.validate = .ok ())

/-- Loading a file gives the settings that the environment makes of it, if they are fit and those of
the file are fit as well. -/
theorem overriding (reads : read files path = .ok written) (environment : Environment) :
    Overrides files environment path written := by
  have ok_iff (config : Config) : (loadWith files environment path).1 = .ok config ↔
      written.validate = .ok () ∧ (written.overridden environment).validate = .ok () ∧
        config = written.overridden environment := by
    cases own : written.validate with
    | error flaw => simp [loadWith_of_flaw reads own]
    | ok =>
      rw [loadWith_of_fit reads own, check_eq_ok_iff, ← validate_eq_ok_iff]
      grind
  constructor
  case ok_iff => exact ok_iff
  case error_iff =>
    intro error
    cases own : written.validate with
    | error flaw => simp [loadWith_of_flaw reads own, eq_comm]
    | ok => simp [loadWith_of_fit reads own, check_eq_error_iff, and_comm]
  case decides_iff =>
    constructor
    · intro decides fit
      exact ((ok_iff _).mp ((decides _).mpr ⟨fit, rfl⟩)).1
    · intro better config
      rw [ok_iff]
      exact ⟨And.right, fun ⟨fit, same⟩ => ⟨better fit, fit, same⟩⟩

/-- A file with a size of zero. -/
def withoutRoom : Files := .ofList [("config.toml", .ok "[hub]\noutbox_capacity = 0\n".toUTF8)]

/-- An environment that overrides this size, and the port in a way that is ignored. -/
def roomy : Environment := fun name =>
  if name = "CHATHUB_OUTBOX_CAPACITY" then some "8".toUTF8
  else if name = "CHATHUB_PORT" then some "none".toUTF8
  else none

theorem read_withoutRoom :
    read withoutRoom "config.toml" = .ok { hub := { outboxCapacity := 0 } } := by
  have given : (read withoutRoom "config.toml").toOption =
      some { hub := { outboxCapacity := 0 } } := by
    decide +kernel
  cases reads : read withoutRoom "config.toml" with
  | error error => simp [reads, Except.toOption] at given
  | ok written => simpa [reads, Except.toOption] using given

theorem overriding_roomy :
    read withoutRoom "config.toml" = .ok { hub := { outboxCapacity := 0 } } ∧
      Overrides withoutRoom roomy "config.toml" { hub := { outboxCapacity := 0 } } :=
  ⟨read_withoutRoom, overriding read_withoutRoom roomy⟩

/-- With room for eight payloads the settings are fit, but the file is refused for the size that the
environment overrides. -/
theorem not_loadWith_overridden :
    ¬ ∀ (files : Files) (environment : Environment) (path : String) (written : Config),
      read files path = .ok written → ∀ config,
        ((loadWith files environment path).1 = .ok config ↔
          (written.overridden environment).validate = .ok () ∧
            config = written.overridden environment) := by
  intro always
  have fit : (overridden { hub := { outboxCapacity := 0 } } roomy).Fit := by
    constructor <;> decide +kernel
  have unfit : validate { hub := { outboxCapacity := 0 } } =
      .error (.zero "hub.outbox_capacity") := rfl
  have loads := (always withoutRoom roomy "config.toml" _ read_withoutRoom _).mpr
    ⟨validate_eq_ok_iff.mpr fit, rfl⟩
  rw [loadWith_of_flaw read_withoutRoom unfit] at loads
  cases loads

end Switchboard.Config
