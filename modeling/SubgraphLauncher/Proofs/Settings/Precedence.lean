import SubgraphLauncher.Proofs.Settings.Loading
import SubgraphLauncher.Settings.Entries

/-!
# Which layer a setting comes from

Every entry of the loaded settings is told by its key alone: what the overrides file holds under it
where that counts, and otherwise what the environment, the environment file or the program itself
says. So entries do not depend on each other, nor on the order in which they are written.
-/

namespace SubgraphLauncher

open SubgraphLauncher.Json (lastOf?)

/-- The entries of settings that were made from defaults and the members of an overrides file. -/
structure Settings.IsMerged (settings default : Settings) (members : List (Value × Value)) :
    Prop where
  changed : ∀ setting : Setting, settings.listed? setting.key =
    some (.value ((default.value setting).overridden (lastOf? setting.key members)))
  fixed : ∀ key, Setting.ofKey? key = none → key ≠ overridesKey →
    settings.listed? key = default.listed? key

theorem Applies.isMerged {members : List (Value × Value)} {default : Settings} {overrides : Path}
    {outcome : Outcome Record Settings (Failure Float) Unit}
    (h : Applies members { default with overrides } outcome) (hok : outcome.result = .ok ()) :
    outcome.state.IsMerged default members := by
  constructor
  · intro setting
    rw [Settings.listed?_key]
    rcases h.value setting with hvalue | ⟨hfailed, -⟩
    · rw [hvalue]
    · exact absurd hok hfailed
  · intro key hfixed hother
    exact Settings.listed?_eq_of_directory (congrArg Prod.fst h.paths) hfixed hother

/-- Under a key, settings over the same defaults only differ if their members do. -/
theorem Settings.IsMerged.listed?_eq {default settings settings' : Settings}
    {members members' : List (Value × Value)} (h : settings.IsMerged default members)
    (h' : settings'.IsMerged default members') {key : String} (hother : key ≠ overridesKey)
    (hkey : lastOf? key members = lastOf? key members') :
    settings.listed? key = settings'.listed? key := by
  cases hfound : Setting.ofKey? key with
  | none => rw [h.fixed key hfound hother, h'.fixed key hfound hother]
  | some setting =>
      obtain rfl := Setting.ofKey?_eq_some_iff.mp hfound
      rw [h.changed, h'.changed, hkey]

theorem isName_of_overridesAt (tree : FileTree) (path : Path) :
    ∀ member ∈ overridesAt tree path, member.1.IsName := by
  intro member hmem
  unfold overridesAt at hmem
  split at hmem
  · next content _ =>
    unfold overrideMembers at hmem
    split at hmem
    · next chars _ =>
      cases hmembers : Json.membersOf? chars with
      | none =>
          rw [hmembers] at hmem
          cases hmem
      | some members =>
          rw [hmembers] at hmem
          exact Json.isName_of_membersOf? hmembers member hmem
    · cases hmem
  · cases hmem

/-- The order of an object's keys does not matter to what they stand for. -/
theorem lastOf?_eq_of_perm {tree tree' : FileTree} {path path' : Path}
    (h : (Json.collect (overridesAt tree path)).Perm (Json.collect (overridesAt tree' path')))
    (key : String) :
    lastOf? key (overridesAt tree path) = lastOf? key (overridesAt tree' path') := by
  rw [← Json.entryOf?_collect, ← Json.entryOf?_collect]
  exact (Json.isObject_collect (isName_of_overridesAt tree path)).entryOf?_perm h key

/-- Loading that succeeds has settled its defaults first. -/
theorem exists_computed_of_loaded {surroundings : Surroundings} {overrides : Option Path}
    (hok : (loadSettings surroundings overrides).result = .ok ()) :
    ∃ added, ∃ default : Settings,
      surroundings.added = .ok added ∧
      default.IsComputed surroundings.recordedHome
        (lookBehind surroundings.environment added) ∧
      (loadSettings surroundings overrides).state.overrides =
        overrides.getD default.overrides ∧
      (loadSettings surroundings overrides).state.IsMerged default
        (overridesAt surroundings.tree (loadSettings surroundings overrides).state.overrides) := by
  cases hcomputed : settingsOf surroundings with
  | error failure =>
      unfold loadSettings at hok
      rw [hcomputed] at hok
      cases hok
  | ok default =>
      obtain ⟨added, hadded, hdefault⟩ := isComputed_settingsOf hcomputed
      have happlies := loadOverrides_applies surroundings.tree
        { default with overrides := overrides.getD default.overrides }
      rw [← loadSettings_of_computed hcomputed] at happlies
      have hpath : (loadSettings surroundings overrides).state.overrides =
          overrides.getD default.overrides := congrArg Prod.snd happlies.paths
      rw [hpath]
      exact ⟨added, default, hadded, hdefault, rfl, happlies.isMerged hok⟩

/-! ### A directory with all layers -/

def notifyBinding : String := "DEVRUNNER_NOTIFY_URL=u"

/-- A host on which the working directory has an environment file and an overrides file. -/
def layeredHost (content : List UInt8) : Surroundings where
  environment := homeEnvironment
  recordedHome := none
  reader := Environment.fileReader
  tree := ⟨[([Text.rowOf "work", Text.rowOf ".env"], .file (Text.encodeUtf8 notifyBinding)),
    ([Text.rowOf "work", Text.rowOf "overrides.json"], .file content)], [Text.rowOf "work"], []⟩

section Layered

variable {content : List UInt8}

theorem layeredHost_find : (layeredHost content).tree.find overridesFile = .ok (.file content) := by
  cbv

theorem layeredHost_entry : (layeredHost content).tree.held?
    ((layeredHost content).tree.workingDirectory ++ [Environment.fileName]) =
      some (.file (Text.encodeUtf8 notifyBinding)) := by
  cbv

theorem decodeFile_notifyBinding :
    decodeFile (Text.encodeUtf8 notifyBinding) = .ok notifyBinding.toList := by
  cbv

theorem resolve_notifyBinding :
    Environment.resolve homeEnvironment [] (Environment.parse notifyBinding.toList) =
      [⟨"DEVRUNNER_NOTIFY_URL", some "u"⟩] := by
  decide

theorem layeredHost_added : (layeredHost content).added = .ok [("DEVRUNNER_NOTIFY_URL", "u")] := by
  have hskip : Environment.skipsFile (layeredHost content).environment = false := rfl
  have henvironment : (layeredHost content).environment = homeEnvironment := rfl
  rw [Surroundings.added, show (layeredHost content).reader = Environment.fileReader from rfl,
    Environment.fileReader, layeredHost_entry, hskip]
  refine bind_eq_ok_iff.mpr ⟨_, decodeFile_notifyBinding, ?_⟩
  rw [henvironment, Environment.added, resolve_notifyBinding]
  rfl

/-- Members without whole numbers are in the way of no default. -/
theorem loaded_layeredHost {chars : List Char} {members : List (Value × Value)}
    (hdecode : decodeFile content = .ok chars) (hmembers : Json.membersOf? chars = some members)
    (hwhole : ∀ member ∈ members, ∀ n, member.2 ≠ .int n) :
    overridesAt (layeredHost content).tree overridesFile = members ∧
      (loadSettings (layeredHost content) (some overridesFile)).result = .ok () := by
  have hcontent : overrideMembers content = members := by
    rw [overrideMembers, hdecode]
    dsimp only
    rw [hmembers, Option.getD_some]
  have hat : overridesAt (layeredHost content).tree overridesFile = members := by
    rw [overridesAt, layeredHost_find]
    exact hcontent
  have hknown : (layeredHost content).known =
      .ok [("HOME", "/home/dev"), ("DEVRUNNER_NOTIFY_URL", "u")] := by
    rw [Surroundings.known, layeredHost_added]
    rfl
  have hsettings : ∃ default, settingsFrom none
      (Environment.get? [("HOME", "/home/dev"), ("DEVRUNNER_NOTIFY_URL", "u")]) = .ok default :=
    ⟨_, rfl⟩
  obtain ⟨default, hdefault⟩ := hsettings
  have hcomputed : settingsOf (layeredHost content) = .ok default :=
    bind_eq_ok_iff.mpr ⟨_, hknown, hdefault⟩
  have hfile : (layeredHost content).tree.find ((some overridesFile).getD default.overrides) =
      .ok (.file content) := layeredHost_find
  refine ⟨hat, (loadSettings_of_file hcomputed hfile).2.mpr ⟨⟨_, hdecode, ?_⟩, ?_⟩⟩
  · exact .of_ok (Json.parse_eq_object_iff.mpr ⟨_, hmembers, rfl⟩)
  · rw [hcontent]
    intro setting x n _ hint
    exact absurd rfl (hwhole _ (List.mem_reverse.mp (Json.mem_of_entryOf? hint)) n)

end Layered

/-- One level is set twice, and a timeout to what is no number. -/
def repeatedText : String :=
  "\x7b\"LOG_LEVEL\":\"a\",\"NOTIFY_TIMEOUT\":\"x\",\"LOG_LEVEL\":\"b\"\x7d"

def singleText : String := "\x7b\"LOG_LEVEL\":\"b\"\x7d"

theorem repeatedText_members :
    Json.membersOf? repeatedText.toList =
      some [(.text "LOG_LEVEL", .text "a"), (.text "NOTIFY_TIMEOUT", .text "x"),
        (.text "LOG_LEVEL", .text "b")] := by
  cbv

theorem singleText_members :
    Json.membersOf? singleText.toList = some [(.text "LOG_LEVEL", .text "b")] := by
  cbv

theorem decodeFile_repeatedText :
    decodeFile (Text.encodeUtf8 repeatedText) = .ok repeatedText.toList := by
  cbv

theorem decodeFile_singleText :
    decodeFile (Text.encodeUtf8 singleText) = .ok singleText.toList := by
  cbv

/-- What `text` brings about in a working directory. -/
def loadedFrom (text : String) : Outcome Record Settings (Failure Float) Unit :=
  loadSettings (layeredHost (Text.encodeUtf8 text)) (some overridesFile)

/-! ### Precedence -/

/-- Settings that could be loaded, key by key. An override counts if its key is that of a setting
and its last value can be made alike the default. The default comes from the environment, or else
from what environment files add to it, or else is built in. Under any other key than that of the
path just read, the entry is the default. Two loadings in one environment, to which files add the
same, agree on every key for which their overrides hold the same, and on all keys if their objects
have the same entries in some order. -/
theorem loadSettings_precedence (surroundings : Surroundings) (overrides : Option Path)
    (hok : (loadSettings surroundings overrides).result = .ok ()) :
    (∃ added, ∃ default : Settings,
      surroundings.added = .ok added ∧
      default.IsComputed surroundings.recordedHome
        (lookBehind surroundings.environment added) ∧
      (loadSettings surroundings overrides).state.overrides =
        overrides.getD default.overrides ∧
      (loadSettings surroundings overrides).state.IsMerged default
        (overridesAt surroundings.tree (loadSettings surroundings overrides).state.overrides)) ∧
    ∀ (tree' : FileTree) (overrides' : Option Path),
      let surroundings' := { surroundings with tree := tree' }
      surroundings'.added = surroundings.added →
      (loadSettings surroundings' overrides').result = .ok () →
      let settings := (loadSettings surroundings overrides).state
      let settings' := (loadSettings surroundings' overrides').state
      let members := overridesAt surroundings.tree settings.overrides
      let members' := overridesAt tree' settings'.overrides
      (∀ key, key ≠ overridesKey → lastOf? key members = lastOf? key members' →
        settings.listed? key = settings'.listed? key) ∧
      ((Json.collect members).Perm (Json.collect members') →
        ∀ key, key ≠ overridesKey → settings.listed? key = settings'.listed? key) := by
  obtain ⟨added, default, hadded, hdefault, hpath, hmerged⟩ := exists_computed_of_loaded hok
  refine ⟨⟨added, default, hadded, hdefault, hpath, hmerged⟩, ?_⟩
  intro tree' overrides' surroundings' hsame hok'
  obtain ⟨added', default', hadded', hdefault', -, hmerged'⟩ := exists_computed_of_loaded hok'
  obtain rfl : added' = added := Except.ok.inj (hadded'.symm.trans (hsame.trans hadded))
  rw [← hdefault.unique hdefault'] at hmerged'
  refine ⟨fun key hother hkey => hmerged.listed?_eq hmerged' hother hkey,
    fun hperm key hother => hmerged.listed?_eq hmerged' hother ?_⟩
  exact lastOf?_eq_of_perm hperm key

theorem loadSettings_precedence_layered :
    (loadedFrom repeatedText).result = .ok () ∧
      (loadedFrom repeatedText).state.listed? "LOG_LEVEL" = some (.value (.text "b")) ∧
      (loadedFrom repeatedText).state.listed? "NOTIFY_URL" = some (.value (.text "u")) ∧
      (loadedFrom repeatedText).state.listed? "NOTIFY_TIMEOUT" = some (.value (.float 2.0)) ∧
      (loadedFrom singleText).result = .ok () ∧
      (loadedFrom repeatedText).state.listed? "LOG_LEVEL" =
        (loadedFrom singleText).state.listed? "LOG_LEVEL" := by
  obtain ⟨hrepeated, hok⟩ := loaded_layeredHost decodeFile_repeatedText repeatedText_members
    (by simp)
  obtain ⟨hsingle, hok'⟩ := loaded_layeredHost decodeFile_singleText singleText_members (by simp)
  obtain ⟨⟨added, default, hadded, hdefault, hpath, hmerged⟩, hagree⟩ :=
    loadSettings_precedence (layeredHost (Text.encodeUtf8 repeatedText)) (some overridesFile) hok
  obtain ⟨_, default', -, -, hpath', -⟩ := exists_computed_of_loaded hok'
  have hmembers := (congrArg (overridesAt _) hpath).trans hrepeated
  have hmembers' := (congrArg (overridesAt _) hpath').trans hsingle
  have hsame := (hagree (layeredHost (Text.encodeUtf8 singleText)).tree (some overridesFile)
    (layeredHost_added.trans layeredHost_added.symm) hok').1 "LOG_LEVEL" (by decide)
  have hlevel : (loadedFrom repeatedText).state.listed? "LOG_LEVEL" =
      (loadedFrom singleText).state.listed? "LOG_LEVEL" := by
    refine hsame ?_
    rw [hmembers]
    exact (congrArg (lastOf? "LOG_LEVEL") hmembers').symm
  rw [hmembers] at hmerged
  obtain rfl : added = [("DEVRUNNER_NOTIFY_URL", "u")] :=
    Except.ok.inj (hadded.symm.trans layeredHost_added)
  refine ⟨hok, (hmerged.changed .logLevel).trans ?_, (hmerged.changed .notifyUrl).trans ?_,
    (hmerged.changed .notifyTimeout).trans ?_, hok', hlevel⟩
  · rw [← Except.ok.inj (hdefault.value .logLevel)]
    rfl
  · rw [← Except.ok.inj (hdefault.value .notifyUrl)]
    rfl
  · rw [← Except.ok.inj (hdefault.value .notifyTimeout)]
    rfl

end SubgraphLauncher
