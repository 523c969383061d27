import SubgraphLauncher.Proofs.Settings.Types

/-!
# Settled values

What is made alike a sample is of its type, or nothing at all, and what is of the type of a sample
is made alike it by leaving it alone. So making a value alike a second time changes nothing, and a
setting that is in force may be written back as its own override, also where the document that holds
it has a list in place of a fixed sequence.
-/

namespace SubgraphLauncher

namespace Value

variable {sample value made : Value}

@[simp] theorem isYes_bool (b : Bool) : (bool b).isYes = b := by
  cases b <;> decide

/-- Where nothing was set before, anything is taken as it is. -/
@[simp] theorem null_alike (value : Value) : null.alike value = .ok value := by
  cases value <;> rfl

/-- A value of the type of the sample is left alone. -/
theorem alike_of_typeName_eq (h : value.typeName = sample.typeName) :
    sample.alike value = .ok value := by
  cases sample with
  | null => exact null_alike value
  | bool b =>
      -- A truth value is read from the word that shows it, which is a yes just for the true one.
      cases value with
      | bool c => exact congrArg (fun yes => Except.ok (bool yes)) (isYes_bool c)
      | _ => simp [typeName] at h
  | _ => cases value <;> first | rfl | simp [typeName] at h

theorem alike_self (sample : Value) : sample.alike sample = .ok sample :=
  alike_of_typeName_eq rfl

/-- What has been made alike stays. -/
theorem alike_of_alike (hmade : sample.alike value = .ok made) :
    sample.alike made = .ok made := by
  by_cases hvalue : value = null
  · rw [hvalue, alike_null] at hmade
    rw [← Except.ok.inj hmade, alike_null]
  · by_cases hsample : sample = null
    · rw [hsample, null_alike]
    · exact alike_of_typeName_eq (typeName_of_alike hsample hvalue hmade)

/-- What a document holds in the place of a value. Documents know no fixed sequences. -/
def documented : Value → Value
  | tuple items => list items
  | value => value

/-- What has been made alike is made again from a document. -/
theorem alike_documented (hmade : sample.alike value = .ok made)
    (hvalue : ∀ items, value ≠ tuple items) : sample.alike made.documented = .ok made := by
  cases made with
  | tuple items =>
      have hsome : value ≠ null := by
        rintro rfl
        rw [alike_null] at hmade
        cases hmade
      have hsample : sample ≠ null := by
        rintro rfl
        rw [null_alike] at hmade
        exact hvalue items (Except.ok.inj hmade)
      have htype := typeName_of_alike hsample hsome hmade
      cases sample with
      | tuple others => rfl
      | _ => simp [typeName] at htype
  | _ => exact alike_of_alike hmade

theorem overridden_of_alike (hmade : sample.alike value = .ok made) :
    sample.overridden (some value) = made := by
  simp only [overridden, hmade]

theorem obstacle?_of_alike (hmade : sample.alike value = .ok made) :
    sample.obstacle? (some value) = none := by
  simp only [obstacle?, hmade]

end Value

theorem applyOverride_of_alike {settings : Settings} {setting : Setting} {value made : Value}
    (hmade : (settings.value setting).alike value = .ok made) :
    (applyOverride setting.key value settings).result = .ok () ∧
      (applyOverride setting.key value settings).state = settings.set setting made := by
  obtain ⟨hstate, hresult⟩ := applyOverride_apply setting.key value settings
  rw [Setting.ofKey?_eq_some_iff.mpr rfl] at hstate hresult
  refine ⟨?_, ?_⟩
  · rw [hresult]
    dsimp only
    rw [Value.obstacle?_of_alike hmade]
  · rw [hstate]
    dsimp only
    rw [Value.overridden_of_alike hmade]

/-- Making a value alike is done once and for all. What comes out of it is made alike the same
sample without a change, as is the sample itself, and it is made again from what a document holds in
its place. So a setting in force may be its own override: written back, it is taken without a fault
and leads to the settings that there were. -/
theorem Value.alike_settles {sample value made : Value} (hmade : sample.alike value = .ok made) :
    sample.alike made = .ok made ∧ sample.alike sample = .ok sample ∧
      ((∀ items, value ≠ .tuple items) → sample.alike made.documented = .ok made) ∧
      ∀ (settings : Settings) (setting : Setting), settings.value setting = sample →
        (applyOverride setting.key value settings).state.value setting = made ∧
        (applyOverride setting.key made settings).result = .ok () ∧
        (applyOverride setting.key made settings).state =
          (applyOverride setting.key value settings).state := by
  refine ⟨alike_of_alike hmade, alike_self sample, alike_documented hmade, ?_⟩
  rintro settings setting rfl
  obtain ⟨-, hstate⟩ := applyOverride_of_alike hmade
  obtain ⟨hresult, hagain⟩ := applyOverride_of_alike (alike_of_alike hmade)
  refine ⟨?_, hresult, hagain.trans hstate.symm⟩
  rw [hstate]
  simp [Settings.set]

/-- Settings that hold one path wherever a setting may be. -/
def onePath : Settings := ⟨⟨"", []⟩, ⟨"", []⟩, fun _ => .tuple [.text "/"]⟩

/-- A text in the place of the paths becomes their only item, and a list of this item is taken for
the same. -/
theorem alike_settles_onePath :
    (Value.tuple [.text "/"]).alike (.text "/api") = .ok (.tuple [.text "/api"]) ∧
      (Value.tuple [.text "/"]).alike (.tuple [.text "/api"]) = .ok (.tuple [.text "/api"]) ∧
      (Value.tuple [.text "/"]).alike (.list [.text "/api"]) = .ok (.tuple [.text "/api"]) ∧
      (applyOverride "GRAPHQL_PROBE_PATHS" (.tuple [.text "/api"]) onePath).state =
        (applyOverride "GRAPHQL_PROBE_PATHS" (.text "/api") onePath).state := by
  have hmade : (Value.tuple [.text "/"]).alike (.text "/api") = .ok (.tuple [.text "/api"]) := rfl
  obtain ⟨hagain, -, hdocument, hsettings⟩ := Value.alike_settles hmade
  exact ⟨hmade, hagain, hdocument (fun _ => nofun), (hsettings onePath .probePaths rfl).2.2⟩

end SubgraphLauncher
