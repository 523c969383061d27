import Mathlib
import SubgraphLauncher.Proofs.Settings.Layers
import SubgraphLauncher.Proofs.Settings.Merge
import SubgraphLauncher.Settings.EnvironmentFile

/-!
# What stops the loading

Most of what can be wrong with an overrides file leads to a record, and the settings stay as they
are. What still ends the loading is told exactly here: bytes that are no text, numerals and brackets
beyond what the reader takes, and whole numbers that no fraction is near.
-/

namespace SubgraphLauncher

open SubgraphLauncher.Json (lastOf? membersOf?)

/-- The members of a file of overrides, as they are written. A file that is no object has none. -/
def overrideMembers (content : List UInt8) : List (Value × Value) :=
  match decodeFile content with
  | .ok chars => (membersOf? chars).getD []
  | .error _ => []

/-- The reader gets to the end of a text, or to a place where it is malformed. -/
structure Json.Reads (text : List Char) : Prop where
  notTooLong : ∀ digits, Json.parse text ≠ .error (.tooLong digits)
  notTooDeep : ∀ shape, Json.parse text ≠ .error (.tooDeep shape)

/-- A file is a text that the reader gets through. -/
def IsReadable (content : List UInt8) : Prop :=
  ∃ chars, decodeFile content = .ok chars ∧ Json.Reads chars

/-- How the application of a file came out for the settings it started from. -/
structure Applies (members : List (Value × Value)) (default : Settings)
    (outcome : Outcome Record Settings (Failure Float) Unit) : Prop where
  paths : outcome.state.paths = default.paths
  value : ∀ setting, outcome.state.value setting =
      (default.value setting).overridden (lastOf? setting.key members) ∨
    outcome.result ≠ .ok () ∧ outcome.state.value setting = default.value setting

theorem Applies.unchanged {default : Settings}
    {outcome : Outcome Record Settings (Failure Float) Unit} (h : outcome.state = default) :
    Applies [] default outcome := by
  rw [← h]
  exact ⟨rfl, fun _ => .inl rfl⟩

theorem membersOf?_eq_none {text : List Char}
    (h : ∀ entries, Json.parse text ≠ .ok (.object entries)) : membersOf? text = none := by
  cases hmembers : membersOf? text with
  | none => rfl
  | some members => exact absurd (Json.parse_eq_object_iff.mpr ⟨members, hmembers, rfl⟩) (h _)

theorem Json.Reads.of_ok {text : List Char} {document : Value}
    (h : Json.parse text = .ok document) : Json.Reads text := by
  constructor <;> simp [h]

/-- A document that is an object is applied to the end, unless an entry is in the way. -/
theorem applyOverrides_applies {text : List Char} {entries : List (Value × Value)}
    (h : Json.parse text = .ok (.object entries)) (settings : Settings) :
    Applies ((membersOf? text).getD []) settings (applyOverrides entries settings) ∧
    ((applyOverrides entries settings).result = .ok () ↔
      ∀ setting, (settings.value setting).obstacle?
        (lastOf? setting.key ((membersOf? text).getD [])) = none) := by
  obtain ⟨members, hmembers, rfl⟩ := Json.parse_eq_object_iff.mp h
  have hobject := Json.isObject_collect (Json.isName_of_membersOf? hmembers)
  have hvalue := applyOverrides_value hobject settings
  have hresult := applyOverrides_result_iff hobject settings
  simp only [Json.entryOf?_collect] at hvalue hresult
  rw [hmembers, Option.getD_some]
  exact ⟨⟨applyOverrides_keeps_paths _ settings, hvalue⟩, hresult⟩

theorem applyFile_cases (path : Path) (content : List UInt8) (settings : Settings) :
    Applies (overrideMembers content) settings (applyFile path content settings) ∧
    ((applyFile path content settings).result = .ok () ↔ IsReadable content ∧
      ∀ setting, (settings.value setting).obstacle?
        (lastOf? setting.key (overrideMembers content)) = none) := by
  unfold applyFile overrideMembers IsReadable
  cases hdecode : decodeFile content with
  | error failure => exact ⟨.unchanged rfl, by simp [Action.bind_apply, Action.ofExcept]⟩
  | ok chars =>
      rw [show (Action.ofExcept (.ok chars) : LoadAction (List Char)) = pure chars from rfl,
        pure_bind]
      dsimp only
      have hreadable : (∃ text, (Except.ok chars : Except (Failure Float) _) = .ok text ∧
          Json.Reads text) ↔ Json.Reads chars := by
        simp
      rw [hreadable]
      by_cases hobject : ∃ entries, Json.parse chars = .ok (.object entries)
      · obtain ⟨entries, hparse⟩ := hobject
        obtain ⟨happlies, hresult⟩ := applyOverrides_applies hparse settings
        rw [hparse, and_iff_right (Json.Reads.of_ok hparse)]
        exact ⟨⟨happlies.paths, happlies.value⟩, hresult⟩
      · have hnone := membersOf?_eq_none fun entries hparse => hobject ⟨entries, hparse⟩
        have hclear : ∀ setting,
            (settings.value setting).obstacle? (lastOf? setting.key []) = none := fun _ => rfl
        rw [hnone, Option.getD_none, and_iff_left hclear]
        cases hparse : Json.parse chars with
        | error fault =>
            cases fault with
            | malformed rule line column offset =>
                exact ⟨.unchanged rfl, fun _ => ⟨by simp [hparse], by simp [hparse]⟩, fun _ => rfl⟩
            | tooLong digits =>
                exact ⟨.unchanged rfl, nofun, fun h => absurd hparse (h.notTooLong digits)⟩
            | tooDeep shape =>
                exact ⟨.unchanged rfl, nofun, fun h => absurd hparse (h.notTooDeep shape)⟩
        | ok document =>
            cases document with
            | object entries => exact absurd ⟨entries, hparse⟩ hobject
            | _ => exact ⟨.unchanged rfl, fun _ => .of_ok hparse, fun _ => rfl⟩

/-! ## Files and settings -/

/-- The members of the file at a path; where no file is, there are none. -/
def overridesAt (tree : FileTree) (path : Path) : List (Value × Value) :=
  match tree.find path with
  | .ok (.file content) => overrideMembers content
  | _ => []

theorem loadOverrides_of_file {tree : FileTree} {settings : Settings} {content : List UInt8}
    (h : tree.find settings.overrides = .ok (.file content)) :
    loadOverrides tree settings = applyFile settings.overrides content settings := by
  unfold loadOverrides
  rw [Action.bind_apply, Action.current_apply]
  dsimp only
  rw [h]
  rfl

theorem loadOverrides_applies (tree : FileTree) (settings : Settings) :
    Applies (overridesAt tree settings.overrides) settings (loadOverrides tree settings) := by
  by_cases hfile : ∃ content, tree.find settings.overrides = .ok (.file content)
  · obtain ⟨content, hcontent⟩ := hfile
    rw [loadOverrides_of_file hcontent, overridesAt, hcontent]
    exact (applyFile_cases settings.overrides content settings).1
  · have hnone : overridesAt tree settings.overrides = [] := by
      unfold overridesAt
      split
      · next content hcontent => exact absurd ⟨content, hcontent⟩ hfile
      · rfl
    rw [hnone]
    refine .unchanged ?_
    unfold loadOverrides
    rw [Action.bind_apply, Action.current_apply]
    dsimp only
    cases hfind : tree.find settings.overrides with
    | error fault => cases fault <;> rfl
    | ok entry =>
        cases entry with
        | file content => exact absurd ⟨content, hfind⟩ hfile
        | directory => rfl

theorem loadSettings_of_computed {surroundings : Surroundings} {default : Settings}
    (h : settingsOf surroundings = .ok default) (overrides : Option Path) :
    loadSettings surroundings overrides =
      loadOverrides surroundings.tree
        { default with overrides := overrides.getD default.overrides } := by
  unfold loadSettings
  rw [h]

/-! ## Defaults -/

/-- The values that settings have without overrides. -/
inductive Value.IsDefault : Value → Prop
  | null : IsDefault .null
  | float (x : Float) : IsDefault (.float x)
  | text (s : String) : IsDefault (.text s)
  | tuple (items : List Value) : IsDefault (.tuple items)

theorem Setting.isDefault_builtIn (setting : Setting) : setting.builtIn.IsDefault := by
  cases setting <;> constructor

theorem Setting.isDefault_of_ofText {text : String} {setting : Setting} {value : Value}
    (h : setting.ofText text = .ok value) : value.IsDefault := by
  have hnumber : ((Value.text text).toFraction.map .float).mapError CoercionFault.failure =
      (.ok value : Except (Failure Float) Value) → value.IsDefault := by
    intro hread
    cases hfraction : (Value.text text).toFraction with
    | error fault =>
        rw [hfraction] at hread
        cases hread
    | ok x =>
        rw [hfraction] at hread
        cases hread
        exact .float x
  cases setting with
  | probePaths => cases h; constructor
  | notifyUrl => cases h; constructor
  | logLevel => cases h; constructor
  | logFile =>
      simp only [Setting.ofText] at h
      split at h <;> cases h <;> constructor
  | _ => exact hnumber h

theorem Setting.isDefault_of_computed {look : String → Option String} {setting : Setting}
    {value : Value} (h : setting.computed look = .ok value) : value.IsDefault := by
  unfold Setting.computed at h
  split at h
  · cases h
    exact setting.isDefault_builtIn
  · exact Setting.isDefault_of_ofText h

/-- All faults but two are passed over. -/
theorem CoercionFault.isSkipped_iff (fault : CoercionFault) :
    fault.isSkipped = true ↔ fault ≠ .infiniteWhole ∧ fault ≠ .tooLarge := by
  cases fault <;> simp [isSkipped, failureClass, FailureClass.valueError, FailureClass.typeError,
    FailureClass.overflowError]

theorem Value.obstacle?_some_eq_none_iff (default value : Value) :
    default.obstacle? (some value) = none ↔
      ∀ fault, default.alike value = .error fault → fault.isSkipped = true := by
  dsimp only [Value.obstacle?]
  cases default.alike value <;> simp

theorem Value.doubleOf_error {n : Int} {fault : CoercionFault}
    (h : Value.doubleOf n = .error fault) : fault = .tooLarge := by
  unfold Value.doubleOf at h
  dsimp only at h
  split at h <;> cases h
  rfl

/-- The only thing in the way of a default is a whole number that no fraction is near. -/
theorem Value.IsDefault.obstacle?_eq_none_iff {default : Value} (h : default.IsDefault)
    (override? : Option Value) :
    default.obstacle? override? = none ↔
      ∀ x n, default = .float x → override? = some (.int n) →
        Value.doubleOf n ≠ .error .tooLarge := by
  cases override? with
  | none => simp
  | some value =>
      rw [Value.obstacle?_some_eq_none_iff]
      simp only [CoercionFault.isSkipped_iff]
      cases h with
      | null => cases value <;> simp [Value.alike]
      | text s => cases value <;> simp [Value.alike]
      | tuple items => cases value <;> simp [Value.alike, Value.items, Except.map]
      | float x =>
          cases value with
          | int n =>
              have hread : (Value.float x).alike (.int n) = (Value.doubleOf n).map .float := rfl
              rw [hread]
              cases hdouble : Value.doubleOf n with
              | ok y => simp [Except.map, hdouble]
              | error fault =>
                  obtain rfl := Value.doubleOf_error hdouble
                  simp [Except.map, hdouble]
          | text s =>
              simp only [Value.alike, Value.toFraction, Except.map]
              cases Decimal.readFraction? s.toList <;> simp
          | _ => simp [Value.alike, Value.toFraction, Except.map]

theorem isDefault_of_computed {surroundings : Surroundings} {default : Settings}
    (h : settingsOf surroundings = .ok default) (setting : Setting) :
    (default.value setting).IsDefault := by
  obtain ⟨added, -, hcomputed⟩ := isComputed_settingsOf h
  exact Setting.isDefault_of_computed (hcomputed.value setting)

/-! ## Loading -/

/-- Nothing among members is in the way of a default. -/
def IsClear (members : List (Value × Value)) (default : Settings) : Prop :=
  ∀ setting x n, default.value setting = .float x → lastOf? setting.key members = some (.int n) →
    Value.doubleOf n ≠ .error .tooLarge

theorem loadSettings_of_file {surroundings : Surroundings} {overrides : Option Path}
    {default : Settings} {content : List UInt8} (hcomputed : settingsOf surroundings = .ok default)
    (hfile : surroundings.tree.find (overrides.getD default.overrides) = .ok (.file content)) :
    Applies (overrideMembers content)
        { default with overrides := overrides.getD default.overrides }
        (loadSettings surroundings overrides) ∧
      ((loadSettings surroundings overrides).result = .ok () ↔
        IsReadable content ∧ IsClear (overrideMembers content) default) := by
  rw [loadSettings_of_computed hcomputed, loadOverrides_of_file hfile]
  obtain ⟨happlies, hresult⟩ := applyFile_cases (overrides.getD default.overrides) content
    { default with overrides := overrides.getD default.overrides }
  refine ⟨happlies, hresult.trans (and_congr_right fun _ => forall_congr' fun setting => ?_)⟩
  exact (isDefault_of_computed hcomputed setting).obstacle?_eq_none_iff _

/-- An environment that names a home and nothing else. -/
def homeEnvironment : Environment.Variables := [("HOME", "/home/dev")]

def overridesFile : Path := ⟨"", [Text.rowOf "overrides.json"]⟩

/-- A host on which the working directory holds an overrides file and nothing else. -/
def overridesHost (content : List UInt8) : Surroundings where
  environment := homeEnvironment
  recordedHome := none
  reader := Environment.fileReader
  tree := ⟨[([Text.rowOf "work", Text.rowOf "overrides.json"], .file content)],
    [Text.rowOf "work"], []⟩

theorem overridesHost_find (content : List UInt8) :
    (overridesHost content).tree.find overridesFile = .ok (.file content) := by
  cbv

theorem exists_computed_overridesHost (content : List UInt8) :
    ∃ default, settingsOf (overridesHost content) = .ok default := by
  have hknown : (overridesHost content).known = .ok homeEnvironment := by cbv
  have hsettings : ∃ default,
      settingsFrom none (Environment.get? homeEnvironment) = .ok default := ⟨_, rfl⟩
  obtain ⟨default, hdefault⟩ := hsettings
  exact ⟨default, bind_eq_ok_iff.mpr ⟨_, hknown, hdefault⟩⟩

/-- Loading succeeds if the overrides file is readable and nothing in it is in the way of a default.
Either way, a setting keeps its default if the file holds nothing for it, or nothing that can be
made alike. -/
theorem loadSettings_ok_iff (surroundings : Surroundings) (overrides : Option Path)
    (default : Settings) (content : List UInt8)
    (hcomputed : settingsOf surroundings = .ok default)
    (hfile : surroundings.tree.find (overrides.getD default.overrides) = .ok (.file content)) :
    ((loadSettings surroundings overrides).result = .ok () ↔
      IsReadable content ∧ IsClear (overrideMembers content) default) ∧
    ∀ setting, (∀ value made, lastOf? setting.key (overrideMembers content) = some value →
        (default.value setting).alike value ≠ .ok made) →
      (loadSettings surroundings overrides).state.value setting = default.value setting := by
  obtain ⟨happlies, hresult⟩ := loadSettings_of_file hcomputed hfile
  refine ⟨hresult, fun setting hkept => ?_⟩
  rcases happlies.value setting with hmerged | ⟨-, hleft⟩
  · rw [hmerged]
    exact Value.overridden_eq_self hkept
  · exact hleft

/-- A file that is cut off after its first bracket. -/
theorem loadSettings_ok_iff_cutOff :
    ∃ default,
      (settingsOf (overridesHost [0x7B]) = .ok default ∧
        (overridesHost [0x7B]).tree.find overridesFile = .ok (.file [0x7B])) ∧
      (loadSettings (overridesHost [0x7B]) (some overridesFile)).result = .ok () ∧
      ∀ setting, (loadSettings (overridesHost [0x7B]) (some overridesFile)).state.value setting =
        default.value setting := by
  obtain ⟨default, hcomputed⟩ := exists_computed_overridesHost [0x7B]
  have hfile : (overridesHost [0x7B]).tree.find overridesFile = .ok (.file [0x7B]) :=
    overridesHost_find _
  have hdecode : decodeFile [0x7B] = .ok ['\x7b'] := by cbv
  have hparse : Json.parse ['\x7b'] = .error (.malformed .name 1 2 1) := by cbv
  have hmembers : overrideMembers [0x7B] = [] := by cbv
  obtain ⟨hresult, hkept⟩ := loadSettings_ok_iff (overridesHost [0x7B]) (some overridesFile)
    default [0x7B] hcomputed hfile
  refine ⟨default, ⟨hcomputed, hfile⟩, hresult.mpr ⟨⟨_, hdecode, ?_⟩, ?_⟩, fun setting => ?_⟩
  · constructor <;> simp [hparse]
  · rw [hmembers]
    exact fun _ _ _ _ h => by cases h
  · refine hkept setting ?_
    rw [hmembers]
    exact fun _ _ h => by cases h

/-- A byte that begins no character ends the loading. -/
theorem loadSettings_stops_undecodable :
    ∃ default,
      (settingsOf (overridesHost [0xFF]) = .ok default ∧
        (overridesHost [0xFF]).tree.find overridesFile = .ok (.file [0xFF])) ∧
      (loadSettings (overridesHost [0xFF]) (some overridesFile)).result ≠ .ok () := by
  obtain ⟨default, hcomputed⟩ := exists_computed_overridesHost [0xFF]
  have hfile : (overridesHost [0xFF]).tree.find ((some overridesFile).getD default.overrides) =
      .ok (.file [0xFF]) := overridesHost_find _
  have hdecode : Text.decodeUtf8 [0xFF] = .error ⟨0, 1, 0xFF, .badStart⟩ := by cbv
  refine ⟨default, ⟨hcomputed, hfile⟩, fun hok => ?_⟩
  obtain ⟨⟨chars, hchars, -⟩, -⟩ := (loadSettings_of_file hcomputed hfile).2.mp hok
  rw [decodeFile, hdecode] at hchars
  cases hchars

end SubgraphLauncher
