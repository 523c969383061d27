import SubgraphLauncher.Proofs.Frame
import SubgraphLauncher.Proofs.Settings.Members
import SubgraphLauncher.Settings.Overrides

/-!
# Overrides taken one by one

Entries are applied one after the other, each to the settings that those before it left behind. The
keys of an object are distinct, so no entry meets a setting that another one has changed, and the
whole comes down to each setting on its own: its default, and what its key stands for.
-/

namespace SubgraphLauncher

open SubgraphLauncher.Text (Symbol)
open SubgraphLauncher.Json (IsObject entryOf?_cons entryOf?_cons_eq_or)
open SubgraphLauncher.Value (entryOf?)

/-! ## One value -/

namespace Value

/-- A default under what its key stands for. What cannot be made alike leaves it as it is. -/
def overridden (default : Value) : Option Value → Value
  | none => default
  | some value =>
    match default.alike value with
    | .ok made => made
    | .error _ => default

/-- The fault that ends the loading where a value cannot be made alike a default. -/
def obstacle? (default : Value) : Option Value → Option CoercionFault
  | none => none
  | some value =>
    match default.alike value with
    | .ok _ => none
    | .error fault => if fault.isSkipped then none else some fault

@[simp] theorem overridden_none (default : Value) : default.overridden none = default := rfl

@[simp] theorem obstacle?_none (default : Value) : default.obstacle? none = none := rfl

theorem overridden_eq_self {default : Value} {override? : Option Value}
    (h : ∀ value made, override? = some value → default.alike value ≠ .ok made) :
    default.overridden override? = default := by
  cases override? with
  | none => rfl
  | some value =>
      dsimp only [overridden]
      cases halike : default.alike value with
      | error fault => rfl
      | ok made => exact absurd halike (h value made rfl)

end Value

/-! ## Keys -/

theorem Setting.ofKey?_eq_some_iff {key : String} {setting : Setting} :
    Setting.ofKey? key = some setting ↔ key = setting.key := by
  constructor
  · intro h
    have hkey := List.find?_some h
    exact (beq_iff_eq.mp hkey).symm
  · rintro rfl
    cases setting <;> rfl

/-- No key of a setting has a character that shows half of a surrogate pair. -/
theorem Setting.shown_half_not_mem_key (setting : Setting) (n : Nat) :
    (Symbol.half n).shown ∉ setting.key.toList := by
  have hascii : (setting.key.toList.all fun c =>
      decide (0 < c.toNat) && decide (c.toNat < 0x80)) = true := by
    cases setting <;> rfl
  intro hmem
  have hshown := List.all_eq_true.mp hascii _ hmem
  rw [Bool.and_eq_true, decide_eq_true_eq, decide_eq_true_eq] at hshown
  rw [Symbol.shown, Char.ofNat] at hshown
  by_cases hvalid : Nat.isValidChar (0x100000 + n)
  · rw [dif_pos hvalid] at hshown
    have hsize : (Char.ofNatAux (0x100000 + n) hvalid).toNat = 0x100000 + n := rfl
    omega
  · rw [dif_neg hvalid] at hshown
    exact absurd hshown.1 (by decide)

theorem exists_half_of_mapM_eq_none {row : List Symbol}
    (h : row.mapM Symbol.char? = none) : ∃ n, Symbol.half n ∈ row := by
  induction row with
  | nil => cases h
  | cons first rest ih =>
      cases first with
      | half n => exact ⟨n, List.mem_cons_self⟩
      | char c =>
          rw [List.mapM_cons] at h
          have hrest : rest.mapM Symbol.char? = none := by
            cases hchars : rest.mapM Symbol.char? with
            | none => rfl
            | some cs =>
                rw [hchars] at h
                cases h
          obtain ⟨n, hn⟩ := ih hrest
          exact ⟨n, List.mem_cons_of_mem _ hn⟩

/-- A key of an object is shown as the key of a setting only if it is that text. -/
theorem Value.IsName.isText_key_iff {key : Value} (h : key.IsName) {setting : Setting} :
    key.isText setting.key = true ↔ Setting.ofKey? key.shown = some setting := by
  rw [Setting.ofKey?_eq_some_iff]
  obtain ⟨row, rfl⟩ := h
  unfold Value.ofSymbols
  split
  · next cs hchars => exact beq_iff_eq
  · next hchars =>
    refine ⟨nofun, fun hshown => ?_⟩
    obtain ⟨n, hn⟩ := exists_half_of_mapM_eq_none hchars
    refine absurd ?_ (setting.shown_half_not_mem_key n)
    rw [← hshown, Value.shown, Text.shownRow, String.toList_ofList]
    exact List.mem_map_of_mem hn

/-- What one entry alone gives to a setting. -/
theorem entryOf?_singleton {key : Value} (hkey : key.IsName) (value : Value) (setting : Setting) :
    entryOf? setting.key [(key, value)] =
      if Setting.ofKey? key.shown = some setting then some value else none := by
  rw [entryOf?_cons]
  exact if_congr hkey.isText_key_iff rfl rfl

/-! ## One entry -/

theorem Settings.set_value (settings : Settings) (setting : Setting) :
    settings.set setting (settings.value setting) = settings := by
  unfold Settings.set
  congr
  funext s
  split
  · next hs => rw [hs]
  · rfl

theorem applyOverride_apply (key : String) (value : Value) (settings : Settings) :
    (applyOverride key value settings).state = (match Setting.ofKey? key with
      | none => settings
      | some setting =>
        settings.set setting ((settings.value setting).overridden (some value))) ∧
    (applyOverride key value settings).result = (match Setting.ofKey? key with
      | none => .ok ()
      | some setting =>
        match (settings.value setting).obstacle? (some value) with
        | none => .ok ()
        | some fault => .error fault.failure) := by
  unfold applyOverride
  cases Setting.ofKey? key with
  | none =>
      dsimp only
      split <;> exact ⟨rfl, rfl⟩
  | some setting =>
      dsimp only [Value.overridden, Value.obstacle?]
      rw [Action.bind_apply, Action.current_apply]
      dsimp only
      cases (settings.value setting).alike value with
      | ok made => exact ⟨rfl, rfl⟩
      | error fault =>
          dsimp only
          rw [Settings.set_value]
          split <;> exact ⟨rfl, rfl⟩

/-- To each setting an entry is what an object with this entry alone would be. -/
theorem applyOverride_value {key : Value} (hkey : key.IsName) (value : Value) (settings : Settings)
    (setting : Setting) :
    (applyOverride key.shown value settings).state.value setting =
      (settings.value setting).overridden (entryOf? setting.key [(key, value)]) := by
  rw [(applyOverride_apply key.shown value settings).1, entryOf?_singleton hkey]
  cases Setting.ofKey? key.shown with
  | none => rfl
  | some found =>
      by_cases hsetting : setting = found
      · simp [Settings.set, hsetting]
      · simp [Settings.set, hsetting, Ne.symm hsetting]

theorem applyOverride_result_iff {key : Value} (hkey : key.IsName) (value : Value)
    (settings : Settings) :
    (applyOverride key.shown value settings).result = .ok () ↔
      ∀ setting,
        (settings.value setting).obstacle? (entryOf? setting.key [(key, value)]) = none := by
  rw [(applyOverride_apply key.shown value settings).2]
  simp only [entryOf?_singleton hkey]
  cases Setting.ofKey? key.shown with
  | none => simp
  | some found =>
      have hfound : (∀ setting, (settings.value setting).obstacle?
          (if some found = some setting then some value else none) = none) ↔
          (settings.value found).obstacle? (some value) = none := by
        constructor
        · intro h
          simpa using h found
        · intro h setting
          split
          · next hsetting =>
            cases hsetting
            exact h
          · rfl
      rw [hfound]
      dsimp only
      cases (settings.value found).obstacle? (some value) <;> simp

/-! ## All entries -/

theorem Value.overridden_or (default : Value) {first rest : Option Value}
    (h : first = none ∨ rest = none) :
    default.overridden (first.or rest) = (default.overridden first).overridden rest := by
  rcases h with rfl | rfl
  · rfl
  · rw [Option.or_none, Value.overridden_none]

theorem Value.obstacle?_or (default : Value) {first rest : Option Value}
    (h : first = none ∨ rest = none) :
    default.obstacle? (first.or rest) = none ↔
      default.obstacle? first = none ∧ (default.overridden first).obstacle? rest = none := by
  rcases h with rfl | rfl <;> simp

variable {entries : List (Value × Value)}

/-- Where the entries are applied to the end, each setting is its default under what its key stands
for. Otherwise some settings are left as they were. -/
theorem applyOverrides_value (h : IsObject entries) (settings : Settings) (setting : Setting) :
    (applyOverrides entries settings).state.value setting =
        (settings.value setting).overridden (entryOf? setting.key entries) ∨
      (applyOverrides entries settings).result ≠ .ok () ∧
        (applyOverrides entries settings).state.value setting = settings.value setting := by
  induction entries generalizing settings with
  | nil => exact .inl rfl
  | cons entry rest ih =>
      obtain ⟨key, value⟩ := entry
      have hstep := applyOverride_value (h.names _ List.mem_cons_self) value settings setting
      have halone := h.entryOf?_eq_none_or setting.key
      rw [entryOf?_cons_eq_or, Value.overridden_or _ halone, ← hstep]
      have hrest : (applyOverrides ((key, value) :: rest) settings).state.value setting =
            ((applyOverride key.shown value settings).state.value setting).overridden
              (entryOf? setting.key rest) ∨
          (applyOverrides ((key, value) :: rest) settings).result ≠ .ok () ∧
            (applyOverrides ((key, value) :: rest) settings).state.value setting =
              (applyOverride key.shown value settings).state.value setting := by
        rw [applyOverrides, Action.bind_apply]
        cases (applyOverride key.shown value settings).result with
        | error failure => exact .inr ⟨nofun, rfl⟩
        | ok _ => exact ih h.tail _
      rcases hrest with hdone | ⟨hfailed, hleft⟩
      · exact .inl hdone
      · rcases halone with hfirst | hlast
        · rw [hfirst] at hstep
          exact .inr ⟨hfailed, hleft.trans hstep⟩
        · rw [hlast]
          exact .inl hleft

theorem applyOverrides_result_iff (h : IsObject entries) (settings : Settings) :
    (applyOverrides entries settings).result = .ok () ↔
      ∀ setting, (settings.value setting).obstacle? (entryOf? setting.key entries) = none := by
  induction entries generalizing settings with
  | nil => simp [applyOverrides, entryOf?]
  | cons entry rest ih =>
      obtain ⟨key, value⟩ := entry
      have hkey : key.IsName := h.names _ List.mem_cons_self
      have hsplit : ∀ setting,
          (settings.value setting).obstacle? (entryOf? setting.key ((key, value) :: rest)) = none ↔
            (settings.value setting).obstacle? (entryOf? setting.key [(key, value)]) = none ∧
              ((applyOverride key.shown value settings).state.value setting).obstacle?
                (entryOf? setting.key rest) = none := by
        intro setting
        rw [entryOf?_cons_eq_or, Value.obstacle?_or _ (h.entryOf?_eq_none_or setting.key),
          applyOverride_value hkey]
      simp only [hsplit, forall_and]
      rw [← applyOverride_result_iff hkey, ← ih h.tail, applyOverrides, Action.bind_apply]
      cases (applyOverride key.shown value settings).result <;> simp

/-- The paths among settings, which no entry changes. -/
def Settings.paths (settings : Settings) : Path × Path := (settings.directory, settings.overrides)

theorem applyOverride_keeps_paths (key : String) (value : Value) :
    Action.Keeps Settings.paths (applyOverride key value) := by
  intro settings
  rw [(applyOverride_apply key value settings).1]
  split <;> rfl

theorem applyOverrides_keeps_paths (entries : List (Value × Value)) :
    Action.Keeps Settings.paths (applyOverrides entries) := by
  induction entries with
  | nil => exact Action.keeps_pure ()
  | cons entry rest ih => exact (applyOverride_keeps_paths entry.1.shown entry.2).bind fun _ => ih

end SubgraphLauncher
