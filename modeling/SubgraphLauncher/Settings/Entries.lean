import SubgraphLauncher.Partner.Probe
import SubgraphLauncher.Settings.Basic

/-!
# The list of settings

Callers can list all settings by their keys. Beside those that a user may change there are two
paths, the query that probes send, and the keys that a user may change.
-/

namespace SubgraphLauncher

/-- What is listed under a key. -/
inductive Attribute
  | path (path : Path)
  | value (value : Value)
  | keys (keys : List String)

/-- The key of the path of the overrides file. -/
def overridesKey : String := "OVERRIDES_JSON_PATH"

namespace Settings

def fixedEntries (settings : Settings) : List (String × Attribute) :=
  [("CONFIG_DIR", .path settings.directory), (overridesKey, .path settings.overrides),
   ("GRAPHQL_PROBE_QUERY", .value (.text probeQuery)),
   ("MODIFIABLE_SETTINGS", .keys (Setting.all.map Setting.key))]

def openEntries (settings : Settings) : List (String × Attribute) :=
  Setting.all.map fun setting => (setting.key, .value (settings.value setting))

def entries (settings : Settings) : List (String × Attribute) :=
  settings.fixedEntries ++ settings.openEntries

def listed? (settings : Settings) (key : String) : Option Attribute := settings.entries.lookup key

theorem listed?_key (settings : Settings) (setting : Setting) :
    settings.listed? setting.key = some (.value (settings.value setting)) := by
  cases setting <;> rfl

/-- Under other keys nothing depends on the values of settings. -/
theorem listed?_eq_of_directory {settings settings' : Settings}
    (h : settings.directory = settings'.directory) {key : String}
    (hfixed : Setting.ofKey? key = none) (hother : key ≠ overridesKey) :
    settings.listed? key = settings'.listed? key := by
  have hopen : ∀ s : Settings, s.openEntries.lookup key = none := by
    intro s
    rw [List.lookup_eq_none_iff]
    intro entry hentry
    obtain ⟨setting, hsetting, rfl⟩ := List.mem_map.mp hentry
    have hkey := List.find?_eq_none.mp hfixed setting hsetting
    exact bne_iff_ne.mpr fun heq => hkey (beq_iff_eq.mpr heq.symm)
  unfold listed? entries
  rw [List.lookup_append, List.lookup_append, hopen, hopen]
  unfold fixedEntries
  rw [h]
  simp only [List.lookup_cons, List.lookup_nil, beq_eq_false_iff_ne.mpr hother]

end Settings

end SubgraphLauncher
