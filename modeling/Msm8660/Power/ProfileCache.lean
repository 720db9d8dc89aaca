import Msm8660.Power.PowerHal

/-!
# Recorded and applied profiles

`set_power_profile` skips a request for the profile that `current_power_profile` records, so
a profile should be recorded only when its settings have been written. It is recorded as well
when the scaling governor cannot be read and nothing is written. The runs in which every
request for another profile can read it are those that go right (`recordsApplied_iff`); in
others the same request is skipped when it is repeated (`not_recordsApplied`).
-/

set_option autoImplicit false

namespace Msm8660.Power

open Machine

/-- A step of the module. -/
abbrev PowerStep := Step PowerState PowerCall PowerEffect

/-- The step tries to write the settings of a profile for the governor that it reads. -/
def Applies (taken : PowerStep) (selected : Profile) : Prop :=
  ∃ profile content governor, taken.input = .hintSetProfile profile content ∧
    profileOf profile = some selected ∧ getScalingGovernor content = some governor ∧
    taken.outputs = settingsWrites governor selected

/-- A request of the step for a valid profile other than the current one reads the governor. -/
def ReadsGovernor (taken : PowerStep) : Prop :=
  ∀ profile content, taken.input = .hintSetProfile profile content →
    isProfileValid profile = true → profile ≠ taken.before.currentPowerProfile →
      content.isSome = true

/-- What is recorded has been applied. Whenever `current_power_profile` is valid, the last call
that changed it applied this profile; a request that cannot read the governor leaves it as it
is, and the first that can, when the same profile is requested later, applies it. -/
structure RecordsApplied (calls : List PowerCall) : Prop where
  applied : ∀ earlier later, calls = earlier ++ later →
    ∀ selected, profileOf (powerHal.run .initial earlier).currentPowerProfile = some selected →
      ∃ taken, lastChange PowerState.currentPowerProfile (powerHal.steps .initial earlier) =
        some taken ∧ Applies taken selected
  unreadable : ∀ taken ∈ powerHal.steps .initial calls, ∀ profile,
    taken.input = .hintSetProfile profile none →
      taken.after.currentPowerProfile = taken.before.currentPowerProfile
  repeated : ∀ earlier between later profile content selected,
    calls = earlier ++ .hintSetProfile profile none ::
      (between ++ .hintSetProfile profile (some content) :: later) →
    profileOf profile = some selected →
    profile ≠ (powerHal.run .initial earlier).currentPowerProfile →
    (∀ other, .hintSetProfile profile (some other) ∉ between) →
      Applies (powerHal.stepOn
        (powerHal.run .initial (earlier ++ .hintSetProfile profile none :: between))
        (.hintSetProfile profile (some content))) selected

/-! ## Steps -/

theorem isProfileValid_of_profileOf {profile : ℤ} {selected : Profile}
    (valid : profileOf profile = some selected) : isProfileValid profile = true := by
  rw [← isSome_profileOf, valid, Option.isSome_some]

/-- A request for another profile. -/
theorem setPowerProfile_other {state : PowerState} {profile : ℤ} {selected : Profile}
    (valid : profileOf profile = some selected) (other : profile ≠ state.currentPowerProfile)
    (content : Option (List UInt8)) :
    setPowerProfile state profile content =
      ({ state with currentPowerProfile := profile }, profileWrites content selected) := by
  simp only [setPowerProfile, valid, other, if_false]

/-- Only a request for another profile changes what is recorded. -/
theorem step_cases (state : PowerState) (call : PowerCall) :
    (powerHal.step state call).1.currentPowerProfile = state.currentPowerProfile ∨
      ∃ profile content selected, call = .hintSetProfile profile content ∧
        profileOf profile = some selected ∧ profile ≠ state.currentPowerProfile := by
  cases call with
  | powerSetInteractive on =>
      left
      simp only [powerHal, powerSetInteractive]
      split <;> rfl
  | hintInteraction opens writes =>
      left
      simp only [powerHal, hintInteraction]
      split
      · rfl
      · split
        · rfl
        · split <;> rfl
  | hintSetProfile profile content =>
      cases valid : profileOf profile with
      | none =>
          left
          simp only [powerHal, setPowerProfile, valid]
      | some selected =>
          by_cases same : profile = state.currentPowerProfile
          · left
            simp only [powerHal, setPowerProfile, valid, if_pos same]
          · exact Or.inr ⟨profile, content, selected, rfl, valid, same⟩
  | hintLowPower => exact Or.inl rfl

/-- A change of what is recorded applies the profile, if the governor is read. -/
theorem applies_of_changed {state : PowerState} {call : PowerCall}
    (reads : ReadsGovernor (powerHal.stepOn state call))
    (changed : (powerHal.stepOn state call).after.currentPowerProfile ≠
      state.currentPowerProfile)
    {selected : Profile}
    (recorded : profileOf (powerHal.stepOn state call).after.currentPowerProfile =
      some selected) :
    Applies (powerHal.stepOn state call) selected := by
  rcases step_cases state call with same | ⟨profile, content, chosen, rfl, valid, other⟩
  · exact absurd same changed
  · have readable := reads profile content rfl (isProfileValid_of_profileOf valid) other
    obtain ⟨bytes, rfl⟩ := Option.isSome_iff_exists.mp readable
    have step : powerHal.step state (.hintSetProfile profile (some bytes)) = _ :=
      setPowerProfile_other valid other (some bytes)
    rw [stepOn, step, valid] at recorded
    obtain rfl := Option.some.inj recorded
    refine ⟨profile, some bytes, _, rfl, valid, rfl, ?_⟩
    rw [stepOn, step]
    rfl

/-- A request for another profile that cannot read the governor is recorded. -/
theorem changed_of_unreadable {state : PowerState} {profile : ℤ}
    (valid : isProfileValid profile = true) (other : profile ≠ state.currentPowerProfile) :
    (powerHal.stepOn state (.hintSetProfile profile none)).after.currentPowerProfile ≠
      state.currentPowerProfile := by
  rw [← isSome_profileOf] at valid
  obtain ⟨selected, selects⟩ := Option.isSome_iff_exists.mp valid
  have step : powerHal.step state (.hintSetProfile profile none) = _ :=
    setPowerProfile_other selects other none
  rw [stepOn, step]
  exact other

/-! ## Runs -/

theorem RecordsApplied.of_reads {calls : List PowerCall}
    (reads : ∀ taken ∈ powerHal.steps .initial calls, ReadsGovernor taken) :
    RecordsApplied calls := by
  refine ⟨?_, ?_, ?_⟩
  · rintro earlier later rfl selected recorded
    have last := run_lastChange (M := powerHal) PowerState.currentPowerProfile .initial earlier
    cases changed : lastChange PowerState.currentPowerProfile (powerHal.steps .initial earlier) with
    | none =>
        rw [changed] at last
        rw [last] at recorded
        cases recorded
    | some taken =>
        rw [changed] at last
        obtain ⟨member, differs, final⟩ := last
        obtain ⟨before, call, after, rfl, rfl⟩ := mem_steps.mp member
        refine ⟨_, rfl, applies_of_changed (reads _ ?_) differs (final ▸ recorded)⟩
        rw [steps_append]
        exact List.mem_append_left _ member
  · intro taken member profile unreadable
    have readable := reads taken member profile none unreadable
    obtain ⟨before, call, after, rfl, rfl⟩ := mem_steps.mp member
    obtain rfl : call = .hintSetProfile profile none := unreadable
    rcases step_cases (powerHal.run .initial before) (.hintSetProfile profile none) with
      same | ⟨_, _, _, request, valid, other⟩
    · exact same
    · cases request
      exact absurd (readable (isProfileValid_of_profileOf valid) other) Bool.false_ne_true
  · rintro earlier between later profile content selected rfl valid other -
    have member : powerHal.stepOn (powerHal.run .initial earlier) (.hintSetProfile profile none) ∈
        powerHal.steps .initial (earlier ++ .hintSetProfile profile none ::
          (between ++ .hintSetProfile profile (some content) :: later)) :=
      mem_steps.mpr ⟨earlier, _, _, rfl, rfl⟩
    exact absurd (reads _ member profile none rfl (isProfileValid_of_profileOf valid) other)
      Bool.false_ne_true

/-- **What is recorded has been applied** in the runs where every request for a valid profile
other than the current one can read the scaling governor, and in no others. -/
theorem recordsApplied_iff (calls : List PowerCall) :
    RecordsApplied calls ↔ ∀ taken ∈ powerHal.steps .initial calls, ReadsGovernor taken := by
  refine ⟨fun records taken member profile content request valid other => ?_,
    RecordsApplied.of_reads⟩
  cases content with
  | some bytes => rfl
  | none =>
      have unchanged := records.unreadable taken member profile request
      obtain ⟨before, call, after, rfl, rfl⟩ := mem_steps.mp member
      obtain rfl : call = .hintSetProfile profile none := request
      exact absurd unchanged (changed_of_unreadable valid other)

/-- **A profile is never applied**: the first request cannot read the governor, and when it is
repeated it is skipped. -/
theorem not_recordsApplied : ¬ ∀ calls, RecordsApplied calls := by
  intro all
  have applies := (all [.hintSetProfile 1 none,
    .hintSetProfile 1 (some (ascii "ondemand\n"))]).repeated [] [] [] 1 (ascii "ondemand\n")
      .balanced rfl rfl (by decide) (fun _ member => absurd member List.not_mem_nil)
  obtain ⟨profile, content, governor, -, -, -, writes⟩ := applies
  exact settingsWrites_ne_nil governor .balanced writes.symm

end Msm8660.Power
