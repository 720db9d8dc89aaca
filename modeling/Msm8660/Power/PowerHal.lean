import Mathlib.Data.List.DropRight
import Msm8660.Lib.CString
import Msm8660.Lib.Machine
import Msm8660.Lib.Printf

/-!
# The power HAL

`set_power_profile` reads the name of the scaling governor and writes the settings that the
profile has for it; the profile is remembered, and a request for the one remembered is
skipped. The other calls of the module only read what is remembered.

The HAL is a `Machine` whose inputs are the calls together with what the files in `/sys` do
in them, and whose outputs are the writes that are tried (`powerHal`). What a failing write
prints does not matter.
-/

set_option autoImplicit false

namespace Msm8660.Power

/-! ## The settings of the profiles -/

/-- The profiles, in the order of their numbers. -/
inductive Profile where
  | powerSave
  | balanced
  | highPerformance
  | biasPower
  | biasPerformance
deriving DecidableEq

/-- `PROFILE_MAX`. -/
def profileMax : ℤ := 5

/-- `is_profile_valid`. -/
def isProfileValid (profile : ℤ) : Bool := 0 ≤ profile && profile < profileMax

/-- The row of the tables that a number selects. -/
def profileOf : ℤ → Option Profile
  | 0 => some .powerSave
  | 1 => some .balanced
  | 2 => some .highPerformance
  | 3 => some .biasPower
  | 4 => some .biasPerformance
  | _ => none

/-- The valid numbers are those that select a row. -/
theorem isSome_profileOf (profile : ℤ) :
    (profileOf profile).isSome = isProfileValid profile := by
  unfold profileOf
  split
  case h_6 zero one two three four =>
    simp only [imp_false] at zero one two three four
    have outside : ¬ (0 ≤ profile ∧ profile < profileMax) := by
      rw [profileMax]
      omega
    simpa [isProfileValid] using outside
  all_goals rfl

/-- `ondemand_power_profile`. -/
structure OndemandPowerProfile where
  inputBoostOn : ℤ
  upThreshold : ℤ
  ioIsBusy : ℤ
  samplingDownFactor : ℤ
  downDifferential : ℤ
  upThresholdMultiCore : ℤ
  downDifferentialMultiCore : ℤ
  optimalFreq : ℤ
  syncFreq : ℤ
  upThresholdAnyCpuLoad : ℤ
  samplingRate : ℤ
  scalingMaxFreq : ℤ
  scalingMinFreq : ℤ
  inputBoostFreqs : List UInt8
  gpuGovernor : List UInt8

/-- `ondemand_profiles`. -/
def ondemandProfiles : Profile → OndemandPowerProfile
  | .powerSave =>
      { inputBoostOn := 0
        upThreshold := 90
        ioIsBusy := 0
        samplingDownFactor := 2
        downDifferential := 10
        upThresholdMultiCore := 70
        downDifferentialMultiCore := 3
        optimalFreq := 486000
        syncFreq := 540000
        upThresholdAnyCpuLoad := 80
        samplingRate := 50000
        scalingMaxFreq := 1026000
        scalingMinFreq := 192000
        inputBoostFreqs := ascii "756000 540000"
        gpuGovernor := ascii "ondemand" }
  | .biasPower =>
      { inputBoostOn := 1
        upThreshold := 90
        ioIsBusy := 1
        samplingDownFactor := 2
        downDifferential := 10
        upThresholdMultiCore := 70
        downDifferentialMultiCore := 3
        optimalFreq := 918000
        syncFreq := 1026000
        upThresholdAnyCpuLoad := 80
        samplingRate := 50000
        scalingMaxFreq := 1026000
        scalingMinFreq := 192000
        inputBoostFreqs := ascii "972000 864000"
        gpuGovernor := ascii "ondemand" }
  | .balanced =>
      { inputBoostOn := 1
        upThreshold := 90
        ioIsBusy := 1
        samplingDownFactor := 2
        downDifferential := 10
        upThresholdMultiCore := 70
        downDifferentialMultiCore := 3
        optimalFreq := 918000
        syncFreq := 1026000
        upThresholdAnyCpuLoad := 80
        samplingRate := 50000
        scalingMaxFreq := 1512000
        scalingMinFreq := 384000
        inputBoostFreqs := ascii "1242000 1026000"
        gpuGovernor := ascii "ondemand" }
  | .biasPerformance =>
      { inputBoostOn := 1
        upThreshold := 90
        ioIsBusy := 1
        samplingDownFactor := 2
        downDifferential := 10
        upThresholdMultiCore := 70
        downDifferentialMultiCore := 3
        optimalFreq := 918000
        syncFreq := 1026000
        upThresholdAnyCpuLoad := 80
        samplingRate := 50000
        scalingMaxFreq := 1512000
        scalingMinFreq := 756000
        inputBoostFreqs := ascii "1242000 1026000"
        gpuGovernor := ascii "ondemand" }
  | .highPerformance =>
      { inputBoostOn := 0
        upThreshold := 90
        ioIsBusy := 1
        samplingDownFactor := 2
        downDifferential := 10
        upThresholdMultiCore := 70
        downDifferentialMultiCore := 3
        optimalFreq := 1512000
        syncFreq := 1512000
        upThresholdAnyCpuLoad := 80
        samplingRate := 50000
        scalingMaxFreq := 1512000
        scalingMinFreq := 1512000
        inputBoostFreqs := ascii "1512000 1512000"
        gpuGovernor := ascii "performance" }

/-- `interactive_power_profile`. -/
structure InteractivePowerProfile where
  inputBoostOn : ℤ
  boost : ℤ
  boostpulseDuration : ℤ
  goHispeedLoad : ℤ
  hispeedFreq : ℤ
  ioIsBusy : ℤ
  minSampleTime : ℤ
  samplingDownFactor : ℤ
  targetLoads : List UInt8
  scalingMaxFreq : ℤ
  scalingMinFreq : ℤ
  inputBoostFreqs : List UInt8
  gpuGovernor : List UInt8

/-- `interactive_profiles`. -/
def interactiveProfiles : Profile → InteractivePowerProfile
  | .powerSave =>
      { inputBoostOn := 1
        boost := 0
        boostpulseDuration := 0
        goHispeedLoad := 90
        hispeedFreq := 486000
        ioIsBusy := 0
        minSampleTime := 60000
        samplingDownFactor := 100000
        targetLoads := ascii "95"
        scalingMaxFreq := 1026000
        scalingMinFreq := 192000
        inputBoostFreqs := ascii "756000 540000"
        gpuGovernor := ascii "ondemand" }
  | .biasPower =>
      { inputBoostOn := 1
        boost := 0
        boostpulseDuration := 0
        goHispeedLoad := 90
        hispeedFreq := 486000
        ioIsBusy := 0
        minSampleTime := 60000
        samplingDownFactor := 100000
        targetLoads := ascii "95"
        scalingMaxFreq := 1026000
        scalingMinFreq := 192000
        inputBoostFreqs := ascii "972000 864000"
        gpuGovernor := ascii "ondemand" }
  | .balanced =>
      { inputBoostOn := 1
        boost := 0
        boostpulseDuration := 80000
        goHispeedLoad := 90
        hispeedFreq := 918000
        ioIsBusy := 1
        minSampleTime := 80000
        samplingDownFactor := 100000
        targetLoads := ascii "90"
        scalingMaxFreq := 1512000
        scalingMinFreq := 384000
        inputBoostFreqs := ascii "1242000 1026000"
        gpuGovernor := ascii "ondemand" }
  | .biasPerformance =>
      { inputBoostOn := 1
        boost := 0
        boostpulseDuration := 80000
        goHispeedLoad := 90
        hispeedFreq := 918000
        ioIsBusy := 1
        minSampleTime := 80000
        samplingDownFactor := 100000
        targetLoads := ascii "90"
        scalingMaxFreq := 1512000
        scalingMinFreq := 756000
        inputBoostFreqs := ascii "1242000 1026000"
        gpuGovernor := ascii "ondemand" }
  | .highPerformance =>
      { inputBoostOn := 0
        boost := 1
        boostpulseDuration := 0
        goHispeedLoad := 50
        hispeedFreq := 1242000
        ioIsBusy := 1
        minSampleTime := 60000
        samplingDownFactor := 100000
        targetLoads := ascii "80"
        scalingMaxFreq := 1512000
        scalingMinFreq := 384000
        inputBoostFreqs := ascii "1512000 1512000"
        gpuGovernor := ascii "performance" }

/-- `alt_power_profile`. -/
structure AltPowerProfile where
  inputBoostOn : ℤ
  scalingMaxFreq : ℤ
  scalingMinFreq : ℤ
  inputBoostFreqs : List UInt8
  gpuGovernor : List UInt8

/-- `alt_profiles`. -/
def altProfiles : Profile → AltPowerProfile
  | .powerSave =>
      { inputBoostOn := 1
        scalingMaxFreq := 1026000
        scalingMinFreq := 192000
        inputBoostFreqs := ascii "756000 540000"
        gpuGovernor := ascii "ondemand" }
  | .biasPower =>
      { inputBoostOn := 1
        scalingMaxFreq := 1026000
        scalingMinFreq := 192000
        inputBoostFreqs := ascii "972000 864000"
        gpuGovernor := ascii "ondemand" }
  | .balanced =>
      { inputBoostOn := 1
        scalingMaxFreq := 1512000
        scalingMinFreq := 384000
        inputBoostFreqs := ascii "1242000 1026000"
        gpuGovernor := ascii "ondemand" }
  | .biasPerformance =>
      { inputBoostOn := 1
        scalingMaxFreq := 1512000
        scalingMinFreq := 756000
        inputBoostFreqs := ascii "1242000 1026000"
        gpuGovernor := ascii "ondemand" }
  | .highPerformance =>
      { inputBoostOn := 0
        scalingMaxFreq := 1512000
        scalingMinFreq := 384000
        inputBoostFreqs := ascii "1512000 1512000"
        gpuGovernor := ascii "performance" }

/-! ## Files in `/sys` -/

/-- What a call does besides changing the variables. -/
inductive PowerEffect where
  /-- `sysfs_write_str`. -/
  | sysfsWriteStr (path s : List UInt8)
  /-- The `write` to the file `boostpulse`. -/
  | boostpulse
deriving DecidableEq

/-- `sysfs_write_int`. -/
def sysfsWriteInt (path : List UInt8) (value : ℤ) : PowerEffect :=
  .sysfsWriteStr path (formatInt 0 value)

def cpufreqPath : List UInt8 := ascii "/sys/devices/system/cpu/cpu0/cpufreq/"
def interactivePath : List UInt8 := ascii "/sys/devices/system/cpu/cpufreq/interactive/"
def ondemandPath : List UInt8 := ascii "/sys/devices/system/cpu/cpufreq/ondemand/"
def gpuGovernorPath : List UInt8 := ascii "/sys/class/kgsl/kgsl-3d0/pwrscale/trustzone/governor"
def inputBoostPath : List UInt8 := ascii "/sys/kernel/cpu_input_boost/"

/-- The size of `governor`. -/
def sizeofGovernor : ℕ := 20

/-- `sysfs_read` into `governor`, of a file that has this content if it can be opened and
read: the string that is there then. -/
def sysfsRead (content : Option (List UInt8)) : Option (List UInt8) :=
  content.map fun bytes => (bytes.take (sizeofGovernor - 1)).takeWhile (· ≠ 0)

/-- `get_scaling_governor`: the name in `governor` if the file is read. -/
def getScalingGovernor (content : Option (List UInt8)) : Option (List UInt8) :=
  (sysfsRead content).map fun governor => governor.rdropWhile fun byte => byte == 10 || byte == 13

/-! ## The calls -/

/-- The variables of the module. `governor` is read anew before it is looked at, and
`boostpulse_fd` matters as a file that is open or not. -/
structure PowerState where
  currentPowerProfile : ℤ
  boostpulseFd : Bool
deriving DecidableEq

def PowerState.initial : PowerState := ⟨-1, false⟩

/-- The settings for the governor `ondemand`. -/
def ondemandWrites (settings : OndemandPowerProfile) : List PowerEffect :=
  [sysfsWriteInt (inputBoostPath ++ ascii "enabled") settings.inputBoostOn,
    sysfsWriteInt (ondemandPath ++ ascii "up_threshold") settings.upThreshold,
    sysfsWriteInt (ondemandPath ++ ascii "io_is_busy") settings.ioIsBusy,
    sysfsWriteInt (ondemandPath ++ ascii "sampling_down_factor") settings.samplingDownFactor,
    sysfsWriteInt (ondemandPath ++ ascii "down_differential") settings.downDifferential,
    sysfsWriteInt (ondemandPath ++ ascii "up_threshold_multi_core")
      settings.upThresholdMultiCore,
    sysfsWriteInt (ondemandPath ++ ascii "down_differential_multi_core")
      settings.downDifferentialMultiCore,
    sysfsWriteInt (ondemandPath ++ ascii "optimal_freq") settings.optimalFreq,
    sysfsWriteInt (ondemandPath ++ ascii "sync_freq") settings.syncFreq,
    sysfsWriteInt (ondemandPath ++ ascii "up_threshold_any_cpu_load")
      settings.upThresholdAnyCpuLoad,
    sysfsWriteInt (ondemandPath ++ ascii "sampling_rate") settings.samplingRate,
    sysfsWriteInt (cpufreqPath ++ ascii "scaling_max_freq") settings.scalingMaxFreq,
    sysfsWriteInt (cpufreqPath ++ ascii "scaling_min_freq") settings.scalingMinFreq,
    .sysfsWriteStr (inputBoostPath ++ ascii "ib_freqs") settings.inputBoostFreqs,
    .sysfsWriteStr gpuGovernorPath settings.gpuGovernor]

/-- The settings for the governor `interactive`. The first is written to a directory. -/
def interactiveWrites (settings : InteractivePowerProfile) : List PowerEffect :=
  [sysfsWriteInt inputBoostPath settings.inputBoostOn,
    sysfsWriteInt (interactivePath ++ ascii "boost") settings.boost,
    sysfsWriteInt (interactivePath ++ ascii "boostpulse_duration") settings.boostpulseDuration,
    sysfsWriteInt (interactivePath ++ ascii "go_hispeed_load") settings.goHispeedLoad,
    sysfsWriteInt (interactivePath ++ ascii "hispeed_freq") settings.hispeedFreq,
    sysfsWriteInt (interactivePath ++ ascii "io_is_busy") settings.ioIsBusy,
    sysfsWriteInt (interactivePath ++ ascii "min_sample_time") settings.minSampleTime,
    sysfsWriteInt (interactivePath ++ ascii "sampling_down_factor") settings.samplingDownFactor,
    .sysfsWriteStr (interactivePath ++ ascii "target_loads") settings.targetLoads,
    sysfsWriteInt (cpufreqPath ++ ascii "scaling_max_freq") settings.scalingMaxFreq,
    sysfsWriteInt (cpufreqPath ++ ascii "scaling_min_freq") settings.scalingMinFreq,
    .sysfsWriteStr (inputBoostPath ++ ascii "ib_freqs") settings.inputBoostFreqs,
    .sysfsWriteStr gpuGovernorPath settings.gpuGovernor]

/-- The settings for other governors. -/
def altWrites (settings : AltPowerProfile) : List PowerEffect :=
  [sysfsWriteInt inputBoostPath settings.inputBoostOn,
    sysfsWriteInt (cpufreqPath ++ ascii "scaling_max_freq") settings.scalingMaxFreq,
    sysfsWriteInt (cpufreqPath ++ ascii "scaling_min_freq") settings.scalingMinFreq,
    .sysfsWriteStr (inputBoostPath ++ ascii "ib_freqs") settings.inputBoostFreqs,
    .sysfsWriteStr gpuGovernorPath settings.gpuGovernor]

/-- The settings of a profile for a governor. -/
def settingsWrites (governor : List UInt8) (profile : Profile) : List PowerEffect :=
  if strncmp (governor ++ [0]) (ascii "ondemand" ++ [0]) 8 = 0 then
    ondemandWrites (ondemandProfiles profile)
  else if strncmp (governor ++ [0]) (ascii "interactive" ++ [0]) 11 = 0 then
    interactiveWrites (interactiveProfiles profile)
  else altWrites (altProfiles profile)

/-- What is written once `get_scaling_governor` has been tried. -/
def profileWrites (scalingGovernor : Option (List UInt8)) (profile : Profile) :
    List PowerEffect :=
  match getScalingGovernor scalingGovernor with
  | none => []
  | some governor => settingsWrites governor profile

/-- `set_power_profile`, with what `scaling_governor` contains if it can be read. -/
def setPowerProfile (state : PowerState) (profile : ℤ) (scalingGovernor : Option (List UInt8)) :
    PowerState × List PowerEffect :=
  match profileOf profile with
  | none => (state, [])
  | some selected =>
      if profile = state.currentPowerProfile then (state, [])
      else
        ({ state with currentPowerProfile := profile }, profileWrites scalingGovernor selected)

/-- `power_set_interactive`. -/
def powerSetInteractive (state : PowerState) : PowerState × List PowerEffect :=
  match profileOf state.currentPowerProfile with
  | none => (state, [])
  | some selected =>
      let settings := interactiveProfiles selected
      (state,
        [sysfsWriteInt (interactivePath ++ ascii "hispeed_freq") settings.hispeedFreq,
          sysfsWriteInt (interactivePath ++ ascii "go_hispeed_load") settings.goHispeedLoad,
          .sysfsWriteStr (interactivePath ++ ascii "target_loads") settings.targetLoads])

/-- `POWER_HINT_INTERACTION`, with whether the file `boostpulse` can be opened, which is tried
if it is not open, and written. -/
def hintInteraction (state : PowerState) (opens writes : Bool) : PowerState × List PowerEffect :=
  match profileOf state.currentPowerProfile with
  | none => (state, [])
  | some selected =>
      if (interactiveProfiles selected).boostpulseDuration = 0 then (state, [])
      else if state.boostpulseFd || opens then
        ({ state with boostpulseFd := writes }, [.boostpulse])
      else (state, [])

/-- The calls of the module. -/
inductive PowerCall where
  | powerSetInteractive (on : ℤ)
  | hintInteraction (opens writes : Bool)
  | hintSetProfile (profile : ℤ) (scalingGovernor : Option (List UInt8))
  | hintLowPower
deriving DecidableEq

/-- The module: `power_set_interactive` and `power_hint`. -/
def powerHal : Machine PowerState PowerCall PowerEffect where
  step state
    | .powerSetInteractive _ => powerSetInteractive state
    | .hintInteraction opens writes => hintInteraction state opens writes
    | .hintSetProfile profile scalingGovernor => setPowerProfile state profile scalingGovernor
    | .hintLowPower => (state, [])

theorem settingsWrites_ne_nil (governor : List UInt8) (profile : Profile) :
    settingsWrites governor profile ≠ [] := by
  unfold settingsWrites
  split
  · exact List.cons_ne_nil _ _
  · split <;> exact List.cons_ne_nil _ _

end Msm8660.Power
