import SubgraphLauncher.Settings.Overrides

/-!
# Where a setting comes from

Without overrides, a setting takes what its variable says in the environment, or else in an
environment file, or else what is built in. A file only adds to the environment: what is looked up
afterwards is looked up in the environment first.
-/

namespace SubgraphLauncher

/-- Looks a name up in the environment, and then among the variables that were added. -/
def lookBehind (environment added : Environment.Variables) (name : String) : Option String :=
  (Environment.get? environment name).or (Environment.get? added name)

theorem Environment.get?_append (environment added : Variables) :
    get? (environment ++ added) = lookBehind environment added := by
  funext name
  rw [lookBehind, get?, get?, get?, List.find?_append]
  cases environment.find? fun entry => entry.1 == name <;> rfl

namespace Setting

/-- The variable that a setting is read from. -/
def source? : Setting → Option String
  | discoveryTimeout => some "DEVRUNNER_DISCOVERY_TIMEOUT"
  | pollInterval => some "DEVRUNNER_DISCOVERY_POLL_INTERVAL"
  | probeTimeout => some "DEVRUNNER_PROBE_TIMEOUT"
  | scanBudget => some "DEVRUNNER_SCAN_BUDGET"
  | probePaths => none
  | notifyUrl => some "DEVRUNNER_NOTIFY_URL"
  | notifyTimeout => some "DEVRUNNER_NOTIFY_TIMEOUT"
  | logLevel => some "DEVRUNNER_LOG_LEVEL"
  | logFile => some "DEVRUNNER_LOG_FILE"

/-- The value of a setting whose variable is not set. -/
def builtIn : Setting → Value
  | discoveryTimeout => .float 5.0
  | pollInterval => .float 0.1
  | probeTimeout => .float 0.5
  | scanBudget => .float 0.75
  | probePaths => .tuple [.text "/", .text "/graphql", .text "/query"]
  | notifyUrl => .text "http://127.0.0.1:4099"
  | notifyTimeout => .float 2.0
  | logLevel => .text "INFO"
  | logFile => .null

/-- The value that the text of its variable gives to a setting. No text changes the paths. -/
def ofText (text : String) : Setting → Except (Failure Float) Value
  | probePaths => .ok probePaths.builtIn
  | notifyUrl => .ok (.text text)
  | logLevel => .ok (.text (upperCase text))
  | logFile => .ok (if text.isEmpty then .null else .text text)
  | _ => ((Value.text text).toFraction.map .float).mapError CoercionFault.failure

/-- The value of a setting where variables are looked up in this way. -/
def computed (look : String → Option String) (setting : Setting) : Except (Failure Float) Value :=
  match setting.source?.bind look with
  | none => .ok setting.builtIn
  | some text => setting.ofText text

end Setting

/-- The settings come from variables that are looked up in this way, and the home on record. -/
structure Settings.IsComputed (recordedHome : Option String) (look : String → Option String)
    (settings : Settings) : Prop where
  value : ∀ setting : Setting, setting.computed look = .ok (settings.value setting)
  directory : ∃ home, homeDirectory recordedHome (look "HOME") = .ok home ∧
    settings.directory =
      ((look "DEVRUNNER_CONFIG_DIR").map Path.ofText).getD (home.child ".devrunner")
  overrides : settings.overrides =
    ((look "DEVRUNNER_OVERRIDES_PATH").map Path.ofText).getD
      (settings.directory.child "overrides.json")

/-- Variables that are looked up in one way make one list of settings. -/
theorem Settings.IsComputed.unique {recordedHome : Option String} {look : String → Option String}
    {settings settings' : Settings} (h : settings.IsComputed recordedHome look)
    (h' : settings'.IsComputed recordedHome look) : settings = settings' := by
  have hvalue : settings.value = settings'.value := by
    funext setting
    exact Except.ok.inj ((h.value setting).symm.trans (h'.value setting))
  have hdirectory : settings.directory = settings'.directory := by
    obtain ⟨home, hhome, hpath⟩ := h.directory
    obtain ⟨home', hhome', hpath'⟩ := h'.directory
    rw [hpath, hpath', Except.ok.inj (hhome.symm.trans hhome')]
  have hoverrides : settings.overrides = settings'.overrides := by
    rw [h.overrides, h'.overrides, hdirectory]
  cases settings
  cases settings'
  cases hvalue
  cases hdirectory
  cases hoverrides
  rfl

theorem Setting.computed_number {look : String → Option String} {setting : Setting} {name : String}
    {default x : Float} (hsource : setting.source? = some name)
    (hdefault : setting.builtIn = .float default)
    (htext : ∀ text, setting.ofText text =
      ((Value.text text).toFraction.map .float).mapError CoercionFault.failure)
    (h : numberFrom (look name) default = .ok x) : setting.computed look = .ok (.float x) := by
  unfold numberFrom at h
  unfold Setting.computed
  rw [hsource, Option.bind_some]
  cases hlook : look name with
  | none =>
      rw [hlook] at h
      cases h
      exact congrArg Except.ok hdefault
  | some text =>
      dsimp only
      rw [hlook] at h
      rw [htext]
      cases hread : (Value.text text).toFraction with
      | error fault =>
          dsimp only at h
          rw [hread] at h
          cases h
      | ok y =>
          dsimp only at h
          rw [hread] at h
          cases h
          rfl

theorem upperCase_info : upperCase "INFO" = "INFO" := by decide

theorem isComputed_settingsFrom {recordedHome : Option String} {look : String → Option String}
    {settings : Settings} (h : settingsFrom recordedHome look = .ok settings) :
    settings.IsComputed recordedHome look := by
  unfold settingsFrom at h
  obtain ⟨home, hhome, h⟩ := bind_eq_ok_iff.mp h
  obtain ⟨discoveryTimeout, hdiscovery, h⟩ := bind_eq_ok_iff.mp h
  obtain ⟨pollInterval, hpoll, h⟩ := bind_eq_ok_iff.mp h
  obtain ⟨probeTimeout, hprobe, h⟩ := bind_eq_ok_iff.mp h
  obtain ⟨scanBudget, hscan, h⟩ := bind_eq_ok_iff.mp h
  obtain ⟨notifyTimeout, hnotify, h⟩ := bind_eq_ok_iff.mp h
  cases h
  constructor
  · intro setting
    cases setting with
    | discoveryTimeout => exact Setting.computed_number rfl rfl (fun _ => rfl) hdiscovery
    | pollInterval => exact Setting.computed_number rfl rfl (fun _ => rfl) hpoll
    | probeTimeout => exact Setting.computed_number rfl rfl (fun _ => rfl) hprobe
    | scanBudget => exact Setting.computed_number rfl rfl (fun _ => rfl) hscan
    | notifyTimeout => exact Setting.computed_number rfl rfl (fun _ => rfl) hnotify
    | probePaths => rfl
    | notifyUrl =>
        unfold Setting.computed
        cases hlook : look "DEVRUNNER_NOTIFY_URL" <;>
          simp [Setting.source?, Setting.builtIn, Setting.ofText, hlook]
    | logLevel =>
        unfold Setting.computed
        cases hlook : look "DEVRUNNER_LOG_LEVEL" <;>
          simp [Setting.source?, Setting.builtIn, Setting.ofText, hlook, upperCase_info]
    | logFile =>
        unfold Setting.computed
        cases hlook : look "DEVRUNNER_LOG_FILE" <;>
          simp [Setting.source?, Setting.builtIn, Setting.ofText, hlook]
  · refine ⟨home, hhome, ?_⟩
    dsimp only
    cases look "DEVRUNNER_CONFIG_DIR" <;> rfl
  · dsimp only
    cases look "DEVRUNNER_OVERRIDES_PATH" <;> rfl

/-- Settings that can be computed come from the environment and what files add to it. -/
theorem isComputed_settingsOf {surroundings : Surroundings} {settings : Settings}
    (h : settingsOf surroundings = .ok settings) :
    ∃ added, surroundings.added = .ok added ∧
      settings.IsComputed surroundings.recordedHome
        (lookBehind surroundings.environment added) := by
  obtain ⟨known, hknown, hsettings⟩ := bind_eq_ok_iff.mp h
  rw [Surroundings.known] at hknown
  cases hadded : surroundings.added with
  | error failure =>
      rw [hadded] at hknown
      cases hknown
  | ok added =>
      rw [hadded] at hknown
      cases hknown
      rw [Environment.get?_append] at hsettings
      exact ⟨added, rfl, isComputed_settingsFrom hsettings⟩

end SubgraphLauncher
