import Switchboard.Config.Load

/-!
# Settings that are fit to run with

`validate` accepts exactly the settings with positive sizes and a known format
(`validate_eq_ok_iff`). Settings that a file has been loaded for have been checked after the last
change to them. The settings that a search falls back to have not been checked at all. Since an
environment that makes fit settings unfit does so with the settings of every file
(`fit_overridden_iff`), it has every file refused and then decides about the defaults alone: a
search comes to fit settings exactly if the environment is harmless (`vetting`).
-/

namespace Switchboard.Config

/-- Settings with which everything can be buffered and the log can be written. -/
structure Fit (config : Config) : Prop where
  maxPublishRecipients : config.server.maxPublishRecipients ≠ 0
  outboxCapacity : config.hub.outboxCapacity ≠ 0
  registerQueue : config.hub.registerQueue ≠ 0
  unregisterQueue : config.hub.unregisterQueue ≠ 0
  fanoutQueue : config.hub.fanoutQueue ≠ 0
  presenceChannel : config.hub.presenceChannel ≠ 0
  maxMessageSize : config.websocket.maxMessageSize ≠ 0
  format : config.logging.format = "pretty" ∨ config.logging.format = "json"

/-- Settings that are checked pass exactly if they are fit. -/
theorem validate_eq_ok_iff {config : Config} : config.validate = .ok () ↔ config.Fit := by
  have sizes : config.positiveSizes.find? (fun setting => setting.2 == 0) = none ↔
      ∀ setting ∈ config.positiveSizes, setting.2 ≠ 0 := by
    simp
  constructor
  · intro passes
    unfold validate at passes
    split at passes
    next => cases passes
    next nonzero =>
      have positive := sizes.mp nonzero
      simp only [positiveSizes, List.forall_mem_cons] at positive
      obtain ⟨publish, outbox, register, unregister, fanout, presence, message, -⟩ := positive
      refine ⟨publish, outbox, register, unregister, fanout, presence, message, ?_⟩
      split at passes
      next known => simpa using known
      next => cases passes
  · intro fit
    have positive : ∀ setting ∈ config.positiveSizes, setting.2 ≠ 0 := by
      simp only [positiveSizes, List.forall_mem_cons]
      exact ⟨fit.maxPublishRecipients, fit.outboxCapacity, fit.registerQueue, fit.unregisterQueue,
        fit.fanoutQueue, fit.presenceChannel, fit.maxMessageSize, by simp⟩
    have known : (config.logging.format == "pretty" || config.logging.format == "json") = true := by
      simpa using fit.format
    rw [validate, sizes.mpr positive, if_pos known]

/-- What is checked comes out as it went in. -/
theorem check_eq_ok_iff {config checked : Config} :
    check config = .ok checked ↔ checked = config ∧ config.Fit := by
  rw [← validate_eq_ok_iff, check]
  cases config.validate with
  | ok => simp [eq_comm]
  | error flaw => simp

/-! ## What the environment overrides -/

/-- The settings in which each one that a variable overrides has the value of the variable, if that
is one it can take. -/
def overridden (config : Config) (environment : Environment) : Config where
  server :=
    { host := (environment.text? "CHATHUB_HOST").getD config.server.host
      port := ((environment.text? "CHATHUB_PORT").bind readPort).getD config.server.port
      maxPublishRecipients :=
        ((environment.text? "CHATHUB_MAX_PUBLISH_RECIPIENTS").bind readSize).getD
          config.server.maxPublishRecipients }
  hub :=
    { config.hub with
      outboxCapacity :=
        ((environment.text? "CHATHUB_OUTBOX_CAPACITY").bind readSize).getD
          config.hub.outboxCapacity
      fanoutQueue :=
        ((environment.text? "CHATHUB_FANOUT_QUEUE").bind readSize).getD config.hub.fanoutQueue
      overflowPolicy :=
        ((environment.text? "CHATHUB_OVERFLOW_POLICY").bind fun text =>
          (Hub.OverflowPolicy.parse text).toOption).getD config.hub.overflowPolicy
      duplicatePolicy :=
        ((environment.text? "CHATHUB_DUPLICATE_POLICY").bind fun text =>
          (Hub.DuplicatePolicy.parse text).toOption).getD config.hub.duplicatePolicy }
  websocket :=
    { config.websocket with
      maxMessageSize :=
        ((environment.text? "CHATHUB_MAX_MESSAGE_SIZE").bind readSize).getD
          config.websocket.maxMessageSize }
  logging :=
    { level := (environment.text? "CHATHUB_LOG_LEVEL").getD config.logging.level
      format := (environment.text? "CHATHUB_LOG_FORMAT").getD config.logging.format }

/-- A rule changes the settings if there is a text that it can use. -/
theorem applyOverride_fst (environment : Environment) (config : Config) (rule : Override) :
    (applyOverride environment config rule).1 =
      ((environment.text? rule.name).bind (rule.apply config)).getD config := by
  unfold applyOverride
  cases environment.text? rule.name with
  | none => rfl
  | some value =>
    simp only [Option.bind_some]
    cases rule.apply config value <;> rfl

/-- Rules apply one after the other. -/
theorem applyOverrides_fst (environment : Environment) (rules : List Override) (config : Config) :
    (applyOverrides environment rules config).1 =
      rules.foldl (fun config rule => (applyOverride environment config rule).1) config := by
  induction rules generalizing config with
  | nil => rfl
  | cons rule rest ih => exact ih _

variable {environment : Environment} {config : Config} {name : String}

/-- A rule that sets a field to the text of its variable. -/
theorem applyOverride_text (get : Config → String) {set : Config → String → Config}
    (same : ∀ config, set config (get config) = config) :
    (applyOverride environment config ⟨name, fun config text => some (set config text)⟩).1 =
      set config ((environment.text? name).getD (get config)) := by
  rw [applyOverride_fst]
  cases environment.text? name with
  | none => exact (same config).symm
  | some text => rfl

/-- A rule that sets a field to what it reads from its variable. -/
theorem applyOverride_read {α : Type} (get : Config → α) {set : Config → α → Config}
    {read : String → Option α} (same : ∀ config, set config (get config) = config) :
    (applyOverride environment config ⟨name, fun config text => (read text).map (set config)⟩).1 =
      set config (((environment.text? name).bind read).getD (get config)) := by
  rw [applyOverride_fst]
  cases environment.text? name with
  | none => exact (same config).symm
  | some text =>
    simp only [Option.bind_some]
    cases read text with
    | none => exact (same config).symm
    | some value => rfl

theorem override_fst (config : Config) (environment : Environment) :
    (config.override environment).1 = config.overridden environment := by
  rw [override, applyOverrides_fst, overrides,
    List.foldl_cons, applyOverride_text (·.server.host) fun _ => rfl,
    List.foldl_cons, applyOverride_read (·.server.port) fun _ => rfl,
    List.foldl_cons, applyOverride_read (·.server.maxPublishRecipients) fun _ => rfl,
    List.foldl_cons, applyOverride_read (·.hub.outboxCapacity) fun _ => rfl,
    List.foldl_cons, applyOverride_read (·.hub.fanoutQueue) fun _ => rfl,
    List.foldl_cons, applyOverride_read (·.hub.overflowPolicy) fun _ => rfl,
    List.foldl_cons, applyOverride_read (·.hub.duplicatePolicy) fun _ => rfl,
    List.foldl_cons, applyOverride_read (·.websocket.maxMessageSize) fun _ => rfl,
    List.foldl_cons, applyOverride_text (·.logging.level) fun _ => rfl,
    List.foldl_cons, applyOverride_text (·.logging.format) fun _ => rfl]
  rfl

/-- The variables that hold a size which must be positive. -/
def sizeVariables : List String :=
  ["CHATHUB_MAX_PUBLISH_RECIPIENTS", "CHATHUB_OUTBOX_CAPACITY", "CHATHUB_FANOUT_QUEUE",
    "CHATHUB_MAX_MESSAGE_SIZE"]

/-- No variable holds a value that its setting can take but must not have. -/
structure Environment.Harmless (environment : Environment) : Prop where
  sizes : ∀ name ∈ sizeVariables, (environment.text? name).bind readSize ≠ some 0
  format : ∀ format, environment.text? "CHATHUB_LOG_FORMAT" = some format →
    format = "pretty" ∨ format = "json"

theorem getD_ne_iff {α : Type} {found : Option α} {default bad : α} (good : default ≠ bad) :
    found.getD default ≠ bad ↔ found ≠ some bad := by
  cases found <;> simp [good]

/-- The environment leaves fit settings fit exactly if it is harmless, whatever they are. -/
theorem fit_overridden_iff {config : Config} (fit : config.Fit) (environment : Environment) :
    (config.overridden environment).Fit ↔ environment.Harmless := by
  constructor
  · intro still
    refine ⟨?_, fun format isSet => ?_⟩
    · simp only [sizeVariables, List.forall_mem_cons]
      exact ⟨(getD_ne_iff fit.maxPublishRecipients).mp still.maxPublishRecipients,
        (getD_ne_iff fit.outboxCapacity).mp still.outboxCapacity,
        (getD_ne_iff fit.fanoutQueue).mp still.fanoutQueue,
        (getD_ne_iff fit.maxMessageSize).mp still.maxMessageSize, by simp⟩
    · have known := still.format
      simpa only [overridden, isSet, Option.getD_some] using known
  · intro harmless
    have sizes := harmless.sizes
    simp only [sizeVariables, List.forall_mem_cons] at sizes
    obtain ⟨publish, outbox, fanout, message, -⟩ := sizes
    constructor
    case maxPublishRecipients => exact (getD_ne_iff fit.maxPublishRecipients).mpr publish
    case outboxCapacity => exact (getD_ne_iff fit.outboxCapacity).mpr outbox
    case registerQueue => exact fit.registerQueue
    case unregisterQueue => exact fit.unregisterQueue
    case fanoutQueue => exact (getD_ne_iff fit.fanoutQueue).mpr fanout
    case presenceChannel => exact fit.presenceChannel
    case maxMessageSize => exact (getD_ne_iff fit.maxMessageSize).mpr message
    case format =>
      have known := harmless.format
      simp only [overridden]
      cases isSet : environment.text? "CHATHUB_LOG_FORMAT" with
      | none => exact fit.format
      | some format => exact known format isSet

theorem fit_default : Fit {} := validate_eq_ok_iff.mp rfl

/-- What the environment makes of the defaults is fit exactly if the environment is harmless. -/
theorem fit_ofEnvironment_iff (environment : Environment) :
    (ofEnvironment environment).1.Fit ↔ environment.Harmless := by
  rw [ofEnvironment, override_fst]
  exact fit_overridden_iff fit_default environment

/-! ## Loading -/

/-- The settings of a file that can be loaded by itself are fit. -/
theorem fit_of_load {files : Files} {path : String} {config : Config}
    (loaded : load files path = .ok config) : config.Fit := by
  unfold load at loaded
  cases present : read files path with
  | error fault =>
    rw [present] at loaded
    cases loaded
  | ok written =>
    rw [present] at loaded
    obtain ⟨rfl, fit⟩ := check_eq_ok_iff.mp loaded
    exact fit

/-- A file that can be loaded by itself can be used exactly in a harmless environment. -/
theorem loadWith_eq_ok_iff {files : Files} {environment : Environment} {path : String}
    {config : Config} :
    (loadWith files environment path).1 = .ok config ↔
      ∃ loaded, load files path = .ok loaded ∧ config = loaded.overridden environment ∧
        environment.Harmless := by
  unfold loadWith
  cases loads : load files path with
  | error error => simp
  | ok loaded =>
    simp only [override_fst, check_eq_ok_iff, fit_overridden_iff (fit_of_load loads),
      Except.ok.injEq, exists_eq_left']

/-- Whatever can be used is fit. -/
theorem fit_of_loadWith {files : Files} {environment : Environment} {path : String}
    {config : Config} (loaded : (loadWith files environment path).1 = .ok config) :
    config.Fit := by
  obtain ⟨written, loads, rfl, harmless⟩ := loadWith_eq_ok_iff.mp loaded
  exact (fit_overridden_iff (fit_of_load loads) environment).mpr harmless

/-- A search comes to a file only in a harmless environment, and to fit settings exactly in one. -/
theorem fit_loadFirst_iff (files : Files) (environment : Environment) (paths : List String) :
    ((loadFirst files environment paths).config.Fit ↔ environment.Harmless) ∧
      ((loadFirst files environment paths).source ≠ none → environment.Harmless) := by
  induction paths with
  | nil =>
    refine ⟨fit_ofEnvironment_iff environment, fun found => absurd rfl found⟩
  | cons path rest ih =>
    rw [loadFirst]
    split
    next =>
      cases used : loadWith files environment path with
      | mk result ignored =>
        cases result with
        | ok config =>
          have loaded : (loadWith files environment path).1 = .ok config := by rw [used]
          obtain ⟨_, _, _, harmless⟩ := loadWith_eq_ok_iff.mp loaded
          exact ⟨iff_of_true (fit_of_loadWith loaded) harmless, fun _ => harmless⟩
        | error error => exact ih
    next => exact ih

/-! ## What may come out -/

/-- What is known of settings that have been loaded in one way or another. -/
structure Vetted (files : Files) (environment : Environment) (account : Option String) : Prop where
  validate_iff : ∀ config : Config, config.validate = .ok () ↔ config.Fit
  load : ∀ {path : String} {config : Config}, load files path = .ok config → config.Fit
  loadWith : ∀ {path : String} {config : Config},
    (loadWith files environment path).1 = .ok config → config.Fit
  loadFirst_source : ∀ paths : List String,
    (loadFirst files environment paths).source ≠ none →
      (loadFirst files environment paths).config.Fit
  loadFirst_iff : ∀ paths : List String,
    (loadFirst files environment paths).config.Fit ↔ environment.Harmless
  loadDefault_iff : (loadDefault files environment account).config.Fit ↔ environment.Harmless
  ofEnvironment_iff : (ofEnvironment environment).1.Fit ↔ environment.Harmless

/-- Loading a file gives fit settings or none. A search gives fit settings exactly if the
environment is harmless: otherwise it can use no file and falls back to settings that nobody has
checked. -/
theorem vetting (files : Files) (environment : Environment) (account : Option String) :
    Vetted files environment account := by
  constructor
  case validate_iff => exact fun config => validate_eq_ok_iff
  case load => exact fit_of_load
  case loadWith => exact fit_of_loadWith
  case loadFirst_source =>
    intro paths found
    obtain ⟨fit_iff, harmless⟩ := fit_loadFirst_iff files environment paths
    exact fit_iff.mpr (harmless found)
  case loadFirst_iff => exact fun paths => (fit_loadFirst_iff files environment paths).1
  case loadDefault_iff => exact (fit_loadFirst_iff files environment _).1
  case ofEnvironment_iff => exact fit_ofEnvironment_iff environment

/-- An environment in which one size is zero. -/
def withoutOutboxes : Environment := fun name =>
  if name = "CHATHUB_OUTBOX_CAPACITY" then some "0".toUTF8 else none

/-- An empty file, which by itself means the defaults, is refused because of the environment, and
then the environment has its way with the defaults. -/
theorem not_fit_of_loadFirst :
    ¬ ∀ (files : Files) (environment : Environment) (paths : List String),
      (loadFirst files environment paths).config.validate = .ok () := by
  intro always
  have passes := always (.ofList [("config.toml", .ok "".toUTF8)]) withoutOutboxes ["config.toml"]
  have refused : (loadFirst (.ofList [("config.toml", .ok "".toUTF8)]) withoutOutboxes
      ["config.toml"]).config.hub.outboxCapacity = 0 := by
    decide +kernel
  exact (validate_eq_ok_iff.mp passes).outboxCapacity refused

end Switchboard.Config
