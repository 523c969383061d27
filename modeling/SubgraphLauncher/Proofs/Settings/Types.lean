import SubgraphLauncher.Proofs.Settings.Precedence

/-!
# The types of settings

An override is made alike the default that it replaces. So whatever an overrides file holds,
timeouts and budgets remain numbers with a fraction, the address of notices and the level remain
texts, and the paths remain a fixed sequence. A null alone is made alike nothing: it passes for any
default and takes the value of the setting away.
-/

namespace SubgraphLauncher

open SubgraphLauncher.Json (lastOf?)

/-- The name of the type of what is listed. -/
def Attribute.typeName : Attribute → String
  | .path _ => "PosixPath"
  | .value held => held.typeName
  | .keys _ => "set"

/-- The type of a setting that has a value. -/
def Setting.typeName : Setting → String
  | probePaths => "tuple"
  | notifyUrl | logLevel | logFile => "str"
  | _ => "float"

/-! ### One value -/

namespace Value

variable {sample value made : Value}

@[simp] theorem typeName_toText (value : Value) : value.toText.typeName = "str" := by
  cases value <;> rfl

@[simp] theorem alike_null (sample : Value) : sample.alike .null = .ok .null := by
  cases sample <;> rfl

theorem typeName_of_map {α : Type} {read : Except CoercionFault α} {build : α → Value}
    {name : String} (h : read.map build = .ok made) (hbuild : ∀ a, (build a).typeName = name) :
    made.typeName = name := by
  cases read with
  | error fault => simp [Except.map] at h
  | ok a =>
      simp only [Except.map, Except.ok.injEq] at h
      rw [← h, hbuild]

theorem typeName_of_alike (hsample : sample ≠ .null) (hvalue : value ≠ .null)
    (h : sample.alike value = .ok made) : made.typeName = sample.typeName := by
  cases sample with
  | null => exact absurd rfl hsample
  | bool b =>
      have hmade : made = .bool value.isYes := by cases value <;> simp_all [alike]
      rw [hmade]
      rfl
  | int n =>
      have hread : value.toWhole.map int = .ok made := by cases value <;> simp_all [alike]
      exact typeName_of_map hread fun _ => rfl
  | float x =>
      have hread : value.toFraction.map float = .ok made := by cases value <;> simp_all [alike]
      exact typeName_of_map hread fun _ => rfl
  | text s =>
      have hmade : made = value.toText := by cases value <;> simp_all [alike]
      rw [hmade]
      exact typeName_toText value
  | symbols row =>
      have hmade : made = value.toText := by cases value <;> simp_all [alike]
      rw [hmade]
      exact typeName_toText value
  | list items =>
      have hread : value.items.map list = .ok made := by cases value <;> simp_all [alike]
      exact typeName_of_map hread fun _ => rfl
  | tuple items =>
      -- A text is the only item of its sequence, and is not read as one.
      have hread : (∃ items, tuple items = made) ∨ value.items.map tuple = .ok made := by
        cases value with
        | null => exact absurd rfl hvalue
        | text s => exact .inl ⟨[text s], Except.ok.inj h⟩
        | symbols row => exact .inl ⟨[symbols row], Except.ok.inj h⟩
        | _ => exact .inr h
      rcases hread with ⟨items, rfl⟩ | hread
      · rfl
      · exact typeName_of_map hread fun _ => rfl
  | object entries =>
      have hread : value.toEntries.map object = .ok made := by cases value <;> simp_all [alike]
      exact typeName_of_map hread fun _ => rfl

@[simp] theorem overridden_null (default : Value) : default.overridden (some .null) = .null := by
  simp [overridden]

theorem typeName_overridden {default : Value} {override? : Option Value}
    (hdefault : default ≠ .null) (hoverride : override? ≠ some .null) :
    (default.overridden override?).typeName = default.typeName := by
  cases override? with
  | none => rfl
  | some value =>
      have hvalue : value ≠ .null := by
        intro h
        exact hoverride (congrArg some h)
      simp only [overridden]
      cases halike : default.alike value with
      | error fault => rfl
      | ok made => exact typeName_of_alike hdefault hvalue halike

end Value

/-! ### Defaults -/

theorem Setting.typeName_ofText {text : String} {setting : Setting} {value : Value}
    (h : setting.ofText text = .ok value) :
    value.typeName = setting.typeName ∨ setting = .logFile ∧ value = .null := by
  have hnumber : ((Value.text text).toFraction.map .float).mapError CoercionFault.failure =
      (.ok value : Except (Failure Float) Value) → value.typeName = "float" := by
    intro hread
    cases hfraction : (Value.text text).toFraction.map Value.float with
    | error fault => simp [hfraction, Except.mapError] at hread
    | ok made =>
        simp only [hfraction, Except.mapError, Except.ok.injEq] at hread
        rw [← hread]
        exact Value.typeName_of_map hfraction fun _ => rfl
  cases setting with
  | probePaths => cases h; exact .inl rfl
  | notifyUrl => cases h; exact .inl rfl
  | logLevel => cases h; exact .inl rfl
  | logFile =>
      simp only [Setting.ofText, Except.ok.injEq] at h
      split at h
      · exact .inr ⟨rfl, h.symm⟩
      · exact .inl (by rw [← h]; rfl)
  | _ => exact .inl (hnumber h)

/-- Defaults have the types of their settings. Only the file of the journal may have none. -/
theorem Setting.typeName_computed {look : String → Option String} {setting : Setting}
    {value : Value} (h : setting.computed look = .ok value) :
    value.typeName = setting.typeName ∨ setting = .logFile ∧ value = .null := by
  unfold Setting.computed at h
  split at h
  · simp only [Except.ok.injEq] at h
    rw [← h]
    cases setting <;> simp [Setting.builtIn, Setting.typeName, Value.typeName]
  · exact Setting.typeName_ofText h

/-! ### Settings -/

/-- A null is the last of the members with the key of a setting. -/
def TakesAway (members : List (Value × Value)) (key : String) : Prop :=
  (∃ setting : Setting, setting.key = key) ∧ lastOf? key members = some .null

theorem Settings.listed?_overridesKey (settings : Settings) :
    settings.listed? overridesKey = some (.path settings.overrides) := rfl

theorem Settings.IsMerged.typeName {settings default : Settings} {members : List (Value × Value)}
    (h : settings.IsMerged default members) {key : String} {listed : Attribute}
    (hlisted : default.listed? key = some listed) (hsome : listed ≠ .value .null) :
    ∃ kept, settings.listed? key = some kept ∧
      (TakesAway members key → kept = .value .null) ∧
      (¬ TakesAway members key → kept.typeName = listed.typeName) := by
  cases hfound : Setting.ofKey? key with
  | some setting =>
      obtain rfl := Setting.ofKey?_eq_some_iff.mp hfound
      rw [Settings.listed?_key, Option.some.injEq] at hlisted
      subst hlisted
      have hdefault : default.value setting ≠ .null := by
        intro hnull
        exact hsome (congrArg Attribute.value hnull)
      refine ⟨_, h.changed setting, ?_, ?_⟩
      · intro htaken
        rw [htaken.2, Value.overridden_null]
      · intro hkept
        show (Value.overridden _ _).typeName = (default.value setting).typeName
        exact Value.typeName_overridden hdefault fun hnull => hkept ⟨⟨setting, rfl⟩, hnull⟩
  | none =>
      have hfixed : ¬ TakesAway members key := by
        rintro ⟨⟨setting, rfl⟩, -⟩
        rw [Setting.ofKey?_eq_some_iff.mpr rfl] at hfound
        simp at hfound
      by_cases hpath : key = overridesKey
      · subst hpath
        rw [Settings.listed?_overridesKey, Option.some.injEq] at hlisted
        subst hlisted
        exact ⟨_, settings.listed?_overridesKey, fun htaken => absurd htaken hfixed, fun _ => rfl⟩
      · refine ⟨listed, ?_, fun htaken => absurd htaken hfixed, fun _ => rfl⟩
        rw [h.fixed key hfound hpath, hlisted]

/-- Settings that could be loaded, key by key. Where there is a default, what is listed in the end
is of its type, unless the overrides take the setting away with a null, which leaves nothing. The
defaults are of the types of their settings. -/
theorem loadSettings_keeps_types (surroundings : Surroundings) (overrides : Option Path)
    (hok : (loadSettings surroundings overrides).result = .ok ()) :
    let settings := (loadSettings surroundings overrides).state
    let members := overridesAt surroundings.tree settings.overrides
    ∃ added, ∃ default : Settings,
      surroundings.added = .ok added ∧
      default.IsComputed surroundings.recordedHome
        (lookBehind surroundings.environment added) ∧
      (∀ setting : Setting, (default.value setting).typeName = setting.typeName ∨
        setting = .logFile ∧ default.value setting = .null) ∧
      ∀ key listed, default.listed? key = some listed → listed ≠ .value .null →
        ∃ kept, settings.listed? key = some kept ∧
          (TakesAway members key → kept = .value .null) ∧
          (¬ TakesAway members key → kept.typeName = listed.typeName) := by
  intro settings members
  obtain ⟨added, default, hadded, hdefault, -, hmerged⟩ := exists_computed_of_loaded hok
  refine ⟨added, default, hadded, hdefault, ?_, ?_⟩
  · intro setting
    exact Setting.typeName_computed (hdefault.value setting)
  · intro key listed hlisted hsome
    exact hmerged.typeName hlisted hsome

/-- The timeout of notices is set to null, and the paths to a text. -/
def nullText : String := "\x7b\"NOTIFY_TIMEOUT\":null,\"GRAPHQL_PROBE_PATHS\":\"/api\"\x7d"

theorem nullText_members :
    Json.membersOf? nullText.toList =
      some [(.text "NOTIFY_TIMEOUT", .null), (.text "GRAPHQL_PROBE_PATHS", .text "/api")] := by
  have hkey : Json.readKey "\"NOTIFY_TIMEOUT\":null,\"GRAPHQL_PROBE_PATHS\":\"/api\"\x7d".toList =
      .ok (.text "NOTIFY_TIMEOUT", "null,\"GRAPHQL_PROBE_PATHS\":\"/api\"\x7d".toList) := by
    cbv
  have hvalue : Json.readValue 103 987 "null,\"GRAPHQL_PROBE_PATHS\":\"/api\"\x7d".toList =
      .ok (.null, ",\"GRAPHQL_PROBE_PATHS\":\"/api\"\x7d".toList) := rfl
  have hdelimiter : Json.readDelimiter '\x7d' ",\"GRAPHQL_PROBE_PATHS\":\"/api\"\x7d".toList =
      .ok (false, "\"GRAPHQL_PROBE_PATHS\":\"/api\"\x7d".toList) := rfl
  have hrest : Json.readMembers 103 987 "\"GRAPHQL_PROBE_PATHS\":\"/api\"\x7d".toList =
      .ok ([(.text "GRAPHQL_PROBE_PATHS", .text "/api")], []) := by
    cbv
  have hmembers : Json.readMembers 104 987
      "\"NOTIFY_TIMEOUT\":null,\"GRAPHQL_PROBE_PATHS\":\"/api\"\x7d".toList =
        .ok ([(.text "NOTIFY_TIMEOUT", .null), (.text "GRAPHQL_PROBE_PATHS", .text "/api")],
          []) := by
    rw [Json.readMembers]
    simp only [bind, Except.bind, hkey, hvalue, hdelimiter, hrest]
    rfl
  exact Json.membersOf?_eq_some_iff.mpr ⟨by decide, _, [], rfl, hmembers, rfl⟩

theorem decodeFile_nullText :
    decodeFile (Text.encodeUtf8 nullText) = .ok nullText.toList := by
  cbv

theorem loaded_nullText :
    overridesAt (layeredHost (Text.encodeUtf8 nullText)).tree overridesFile =
        [(.text "NOTIFY_TIMEOUT", .null), (.text "GRAPHQL_PROBE_PATHS", .text "/api")] ∧
      (loadedFrom nullText).result = .ok () :=
  loaded_layeredHost decodeFile_nullText nullText_members (by simp)

theorem nullText_overrides : (loadedFrom nullText).state.overrides = overridesFile := by
  obtain ⟨_, default, -, -, hpath, -⟩ := exists_computed_of_loaded loaded_nullText.2
  exact hpath

/-- A text takes the place of the paths as their only item. -/
theorem loadSettings_keeps_types_nullText :
    (loadedFrom nullText).result = .ok () ∧
      (∃ kept, (loadedFrom nullText).state.listed? "GRAPHQL_PROBE_PATHS" = some kept ∧
        kept.typeName = "tuple") ∧
      (loadedFrom nullText).state.listed? "NOTIFY_TIMEOUT" = some (.value .null) := by
  obtain ⟨hmembers, hok⟩ := loaded_nullText
  obtain ⟨_, default, -, -, htypes, hkeys⟩ :=
    loadSettings_keeps_types (layeredHost (Text.encodeUtf8 nullText)) (some overridesFile) hok
  have hpath : (loadSettings (layeredHost (Text.encodeUtf8 nullText))
      (some overridesFile)).state.overrides = overridesFile := nullText_overrides
  rw [hpath, hmembers] at hkeys
  have htype (setting : Setting) (hsetting : setting ≠ .logFile) :
      (default.value setting).typeName = setting.typeName :=
    (htypes setting).resolve_right fun h => hsetting h.1
  have hsome (setting : Setting) (hsetting : setting ≠ .logFile) :
      Attribute.value (default.value setting) ≠ .value .null := by
    intro hnull
    have hnone := htype setting hsetting
    rw [Attribute.value.inj hnull] at hnone
    cases setting <;> simp [Value.typeName, Setting.typeName] at hnone
  refine ⟨hok, ?_, ?_⟩
  · obtain ⟨kept, hlisted, -, hkept⟩ :=
      hkeys _ _ (default.listed?_key .probePaths) (hsome .probePaths (by simp))
    refine ⟨kept, hlisted, (hkept ?_).trans (htype .probePaths (by simp))⟩
    rintro ⟨-, hnull⟩
    simp [lastOf?, Value.entryOf?, Value.isText, Setting.key] at hnull
  · obtain ⟨kept, hlisted, htaken, -⟩ :=
      hkeys _ _ (default.listed?_key .notifyTimeout) (hsome .notifyTimeout (by simp))
    rw [← htaken ⟨⟨.notifyTimeout, rfl⟩, rfl⟩]
    exact hlisted

/-- A null leaves no number in the place of the timeout. -/
theorem loadSettings_takes_away_nullText :
    ∃ added, ∃ default : Settings,
      (layeredHost (Text.encodeUtf8 nullText)).added = .ok added ∧
      default.IsComputed none (lookBehind homeEnvironment added) ∧
      (loadedFrom nullText).result = .ok () ∧
      default.listed? "NOTIFY_TIMEOUT" = some (.value (.float 2.0)) ∧
      (loadedFrom nullText).state.listed? "NOTIFY_TIMEOUT" = some (.value .null) := by
  obtain ⟨hmembers, hok⟩ := loaded_nullText
  obtain ⟨added, default, hadded, hdefault, -, hmerged⟩ := exists_computed_of_loaded hok
  have hpath : (loadSettings (layeredHost (Text.encodeUtf8 nullText))
      (some overridesFile)).state.overrides = overridesFile := nullText_overrides
  rw [hpath, hmembers] at hmerged
  refine ⟨added, default, hadded, hdefault, hok, (default.listed?_key .notifyTimeout).trans ?_,
    (hmerged.changed .notifyTimeout).trans ?_⟩
  · obtain rfl : added = [("DEVRUNNER_NOTIFY_URL", "u")] :=
      Except.ok.inj (hadded.symm.trans layeredHost_added)
    rw [← Except.ok.inj (hdefault.value .notifyTimeout)]
    rfl
  · exact congrArg (fun value => some (Attribute.value value)) (Value.overridden_null _)

end SubgraphLauncher
