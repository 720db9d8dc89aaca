import Msm8660.Lib.Machine
import Mathlib.Data.Int.Notation

/-!
# The camera wrapper

`CameraWrapper.cpp` hands the calls of a camera device on to the vendor's and keeps three
flags for all devices: whether the preview runs, whether it is to be restarted, and whether
there has been a video. `previewRunning` is true exactly while the vendor's preview runs if
no device is released or closed with its preview running, and if the preview that follows a
recording starts exactly where one was running (`previewAgrees_iff`).

Of the vendor it is assumed that its preview runs after a `start_preview` that has succeeded,
and no more after one that has not, or after `stop_preview`, `release`, `close` or `open`.
-/

set_option autoImplicit false

namespace Msm8660.Camera

def einval : ℤ := 22

def enomem : ℤ := 12

/-- `REAR_CAMERA_ID`. -/
def rearCameraId : ℤ := 0

/-- The calls of the vendor's module and device, with their results. -/
inductive VendorCall where
  | deviceOpen (rv : ℤ)
  | startPreview (ret : ℤ)
  | stopPreview
  | setParameters (ret : ℤ)
  | startRecording (ret : ℤ)
  | stopRecording
  | release
  | close
deriving DecidableEq, Repr

/-- The static variables, and the `id` of the device that is open. -/
structure CameraWrapper where
  previewRunning : Bool
  restartPreview : Bool
  wasVideo : Bool
  gVendorModule : Bool
  device : Option ℤ
deriving DecidableEq, Repr

/-- What the environment answers to `camera_device_open`. -/
structure OpenAnswers where
  /-- `atoi(name)`, if there is a name -/
  name : Option ℤ
  /-- `hw_get_module_by_class` -/
  vendorModule : ℤ
  numCameras : ℤ
  /-- the first `malloc` succeeds -/
  deviceAllocated : Bool
  /-- the vendor's `open` -/
  opened : ℤ
  /-- the second `malloc` succeeds -/
  opsAllocated : Bool
deriving DecidableEq, Repr

/-- The state afterwards, the result and the calls of the vendor. -/
abbrev Wrapped := CameraWrapper × ℤ × List VendorCall

namespace CameraWrapper

/-- The static variables before the first call. -/
def initial : CameraWrapper := ⟨false, false, false, false, none⟩

variable (wrapper : CameraWrapper)

/-- `camera_fixup_setparams`; `recordHint` is the value of `KEY_RECORDING_HINT`. -/
def cameraFixupSetparams (id : ℤ) (recordHint : Option String) : CameraWrapper :=
  let isVideo := recordHint = some "true"
  let wasVideo := isVideo ∨ wrapper.wasVideo = true
  { wrapper with
    wasVideo := wasVideo
    restartPreview := if id = rearCameraId ∧ wrapper.previewRunning = true ∧ wasVideo then true
      else wrapper.restartPreview }

/-- `camera_start_preview`. A device is `none` where the pointer is NULL. -/
def cameraStartPreview (device : Option ℤ) (ret : ℤ) : Wrapped :=
  match device with
  | none => (wrapper, -einval, [])
  | some _ => ({ wrapper with previewRunning := ret = 0 }, ret, [.startPreview ret])

/-- `camera_stop_preview`. -/
def cameraStopPreview (device : Option ℤ) : CameraWrapper × List VendorCall :=
  match device with
  | none => (wrapper, [])
  | some _ => ({ wrapper with previewRunning := false }, [.stopPreview])

/-- `camera_start_recording`. -/
def cameraStartRecording (device : Option ℤ) (ret : ℤ) : Wrapped :=
  match device with
  | none => (wrapper, einval, [])
  | some _ => ({ wrapper with wasVideo := false }, ret, [.startRecording ret])

/-- `camera_stop_recording`, with the result of `start_preview`. -/
def cameraStopRecording (device : Option ℤ) (started : ℤ) : CameraWrapper × List VendorCall :=
  match device with
  | none => (wrapper, [])
  | some _ => (wrapper, [.stopRecording, .stopPreview, .startPreview started])

/-- `camera_set_parameters`, with the results of `set_parameters` and of `start_preview`. -/
def cameraSetParameters (device : Option ℤ) (recordHint : Option String) (ret started : ℤ) :
    Wrapped :=
  match device with
  | none => (wrapper, -einval, [])
  | some id =>
      let wrapper := wrapper.cameraFixupSetparams id recordHint
      let (wrapper, stopping) :=
        if wrapper.restartPreview then wrapper.cameraStopPreview device else (wrapper, [])
      if wrapper.restartPreview then
        let (wrapper, _, starting) := wrapper.cameraStartPreview device started
        ({ wrapper with restartPreview := false }, ret,
          stopping ++ .setParameters ret :: starting)
      else (wrapper, ret, stopping ++ [.setParameters ret])

/-- `camera_release`. -/
def cameraRelease (device : Option ℤ) : CameraWrapper × List VendorCall :=
  match device with
  | none => (wrapper, [])
  | some _ => (wrapper, [.release])

/-- `camera_device_close`. -/
def cameraDeviceClose (device : Option ℤ) : Wrapped :=
  match device with
  | none => (wrapper, -einval, [])
  | some _ => ({ wrapper with device := none }, 0, [.close])

/-- `camera_device_open`. -/
def cameraDeviceOpen (answers : OpenAnswers) : Wrapped :=
  match answers.name with
  | none => (wrapper, 0, [])
  | some cameraId =>
      if wrapper.gVendorModule = false ∧ answers.vendorModule ≠ 0 then (wrapper, -einval, [])
      else
        let wrapper := { wrapper with gVendorModule := true }
        if answers.numCameras < cameraId then (wrapper, -einval, [])
        else if answers.deviceAllocated = false then (wrapper, -enomem, [])
        else
          let wrapper := { wrapper with wasVideo := false }
          if answers.opened ≠ 0 then (wrapper, answers.opened, [.deviceOpen answers.opened])
          else if answers.opsAllocated = false then (wrapper, -enomem, [.deviceOpen answers.opened])
          else ({ wrapper with device := some cameraId }, 0, [.deviceOpen answers.opened])

end CameraWrapper

/-! ## Runs -/

/-- A call of the wrapper, with the results of the vendor. -/
inductive CameraOp where
  | deviceOpen (answers : OpenAnswers)
  | startPreview (ret : ℤ)
  | stopPreview
  | setParameters (recordHint : Option String) (ret started : ℤ)
  | startRecording (ret : ℤ)
  | stopRecording (started : ℤ)
  | release
  | deviceClose
deriving DecidableEq, Repr

/-- A call for the device that is open, or for a NULL pointer. -/
structure CameraInput where
  isNull : Bool
  op : CameraOp
deriving DecidableEq, Repr

/-- The device that a call is for. -/
def CameraWrapper.given (wrapper : CameraWrapper) (input : CameraInput) : Option ℤ :=
  if input.isNull then none else wrapper.device

/-- A call of the wrapper. No device is opened while one is open. -/
def CameraWrapper.call (wrapper : CameraWrapper) (input : CameraInput) :
    CameraWrapper × List VendorCall :=
  let device := wrapper.given input
  match input.op with
  | .deviceOpen answers =>
      if wrapper.device.isSome then (wrapper, [])
      else ((wrapper.cameraDeviceOpen answers).1, (wrapper.cameraDeviceOpen answers).2.2)
  | .startPreview ret =>
      ((wrapper.cameraStartPreview device ret).1, (wrapper.cameraStartPreview device ret).2.2)
  | .stopPreview => wrapper.cameraStopPreview device
  | .setParameters recordHint ret started =>
      ((wrapper.cameraSetParameters device recordHint ret started).1,
        (wrapper.cameraSetParameters device recordHint ret started).2.2)
  | .startRecording ret =>
      ((wrapper.cameraStartRecording device ret).1, (wrapper.cameraStartRecording device ret).2.2)
  | .stopRecording started => wrapper.cameraStopRecording device started
  | .release => wrapper.cameraRelease device
  | .deviceClose => ((wrapper.cameraDeviceClose device).1, (wrapper.cameraDeviceClose device).2.2)

/-- Whether the vendor's preview runs after a call. -/
def previewAfter (running : Bool) : VendorCall → Bool
  | .startPreview ret => ret = 0
  | .stopPreview | .release | .close | .deviceOpen _ => false
  | .setParameters _ | .startRecording _ | .stopRecording => running

/-- The wrapper, beside the vendor's preview. -/
def cameraSystem : Machine (CameraWrapper × Bool) CameraInput VendorCall where
  step state input :=
    let (wrapper, calls) := state.1.call input
    ((wrapper, calls.foldl previewAfter state.2), calls)

/-- Before the first call, the vendor has no device. -/
def cameraStart : CameraWrapper × Bool := (.initial, false)

/-- The preview runs on the device that is open exactly if the wrapper says so. -/
def Agrees (state : CameraWrapper × Bool) : Prop :=
  state.1.previewRunning = (state.1.device.isSome && state.2)

/-- After the step the wrapper is right, and if the step has set parameters, it has not
started a preview. -/
def AgreesAfter (taken : Machine.Step (CameraWrapper × Bool) CameraInput VendorCall) : Prop :=
  Agrees taken.after ∧
    ∀ recordHint ret started, taken.input.op = .setParameters recordHint ret started →
      taken.after.2 = true → taken.before.2 = true

/-- The call leaves a preview that runs alone, and starts none that does not. -/
def Tracked (wrapper : CameraWrapper) (input : CameraInput) : Prop :=
  match input.op with
  | .release | .deviceClose => wrapper.given input ≠ none → wrapper.previewRunning = false
  | .stopRecording started =>
      wrapper.given input ≠ none → (started = 0 ↔ wrapper.previewRunning = true)
  | _ => True

/-! ## One call -/

section Calls

variable {wrapper : CameraWrapper} {running : Bool}

/-- A preview is restarted only if it runs. -/
theorem cameraFixupSetparams_spec (idle : wrapper.restartPreview = false) (id : ℤ)
    (recordHint : Option String) :
    let fixed := wrapper.cameraFixupSetparams id recordHint
    fixed.previewRunning = wrapper.previewRunning ∧ fixed.device = wrapper.device ∧
      (fixed.restartPreview = true → wrapper.previewRunning = true) := by
  refine ⟨rfl, rfl, ?_⟩
  intro restarts
  simp only [CameraWrapper.cameraFixupSetparams, idle] at restarts
  split at restarts
  · next restart => exact restart.2.1
  · cases restarts

/-- Parameters are set with the preview as it was, or the preview ran and is restarted. -/
theorem cameraSetParameters_cases (idle : wrapper.restartPreview = false) (id : ℤ)
    (recordHint : Option String) (ret started : ℤ) :
    let done := wrapper.cameraSetParameters (some id) recordHint ret started
    done.1.restartPreview = false ∧ done.1.device = wrapper.device ∧
      (done.1.previewRunning = wrapper.previewRunning ∧ done.2.2 = [.setParameters ret] ∨
        wrapper.previewRunning = true ∧ done.1.previewRunning = decide (started = 0) ∧
          done.2.2 = [.stopPreview, .setParameters ret, .startPreview started]) := by
  obtain ⟨preview, device, restarts⟩ := cameraFixupSetparams_spec idle id recordHint
  simp only [CameraWrapper.cameraSetParameters]
  generalize wrapper.cameraFixupSetparams id recordHint = fixed at preview device restarts
  cases restart : fixed.restartPreview with
  | true =>
      simp only [if_true, CameraWrapper.cameraStopPreview, restart,
        CameraWrapper.cameraStartPreview]
      exact ⟨trivial, device, Or.inr ⟨restarts restart, trivial, rfl⟩⟩
  | false =>
      simp only [Bool.false_eq_true, if_false, restart]
      exact ⟨trivial, device, Or.inl ⟨preview, rfl⟩⟩

/-- A fresh device shows no preview. -/
theorem cameraDeviceOpen_cases (answers : OpenAnswers) :
    let done := wrapper.cameraDeviceOpen answers
    done.1.previewRunning = wrapper.previewRunning ∧
      done.1.restartPreview = wrapper.restartPreview ∧
      (done.1.device = wrapper.device ∨ done.2.2 = [.deviceOpen answers.opened]) := by
  unfold CameraWrapper.cameraDeviceOpen
  cases answers.name with
  | none => exact ⟨rfl, rfl, Or.inl rfl⟩
  | some cameraId =>
      dsimp only
      split
      · exact ⟨rfl, rfl, Or.inl rfl⟩
      · split
        · exact ⟨rfl, rfl, Or.inl rfl⟩
        · split
          · exact ⟨rfl, rfl, Or.inl rfl⟩
          · split
            · exact ⟨rfl, rfl, Or.inr rfl⟩
            · split
              · exact ⟨rfl, rfl, Or.inr rfl⟩
              · exact ⟨rfl, rfl, Or.inr rfl⟩

/-- Between two calls, no restart is due. -/
theorem call_restartPreview (idle : wrapper.restartPreview = false) (input : CameraInput) :
    (wrapper.call input).1.restartPreview = false := by
  unfold CameraWrapper.call
  generalize wrapper.given input = device
  cases input.op with
  | deviceOpen answers =>
      dsimp only
      split
      · exact idle
      · exact (cameraDeviceOpen_cases answers).2.1.trans idle
  | setParameters recordHint ret started =>
      cases device with
      | none => exact idle
      | some id => exact (cameraSetParameters_cases idle id recordHint ret started).1
  | startPreview ret => cases device <;> exact idle
  | stopPreview => cases device <;> exact idle
  | startRecording ret => cases device <;> exact idle
  | stopRecording started => cases device <;> exact idle
  | release => cases device <;> exact idle
  | deviceClose => cases device <;> exact idle

/-- A call for a NULL pointer, other than `open`, does nothing. -/
theorem call_null {input : CameraInput} (null : wrapper.given input = none)
    (other : ∀ answers, input.op ≠ .deviceOpen answers) : wrapper.call input = (wrapper, []) := by
  unfold CameraWrapper.call
  rw [null]
  cases op : input.op with
  | deviceOpen answers => exact absurd op (other answers)
  | _ => rfl

theorem device_of_given {input : CameraInput} {id : ℤ} (given : wrapper.given input = some id) :
    wrapper.device = some id := by
  unfold CameraWrapper.given at given
  split at given
  · cases given
  · exact given

theorem agrees_iff : Agrees (wrapper, running) ↔
    wrapper.previewRunning = (wrapper.device.isSome && running) := Iff.rfl

/-- A call that changes nothing. -/
theorem agreesAfter_of_idle (agrees : Agrees (wrapper, running)) {input : CameraInput}
    (nothing : wrapper.call input = (wrapper, [])) :
    AgreesAfter (cameraSystem.stepOn (wrapper, running) input) := by
  have after : (cameraSystem.stepOn (wrapper, running) input).after = (wrapper, running) := by
    simp only [cameraSystem, Machine.stepOn, nothing]
    rfl
  rw [AgreesAfter, after]
  exact ⟨agrees, fun _ _ _ _ runs => runs⟩

/-- A new device. -/
theorem agreesAfter_deviceOpen (agrees : Agrees (wrapper, running)) (isNull : Bool)
    (answers : OpenAnswers) : AgreesAfter
      (cameraSystem.stepOn (wrapper, running) ⟨isNull, .deviceOpen answers⟩) := by
  refine ⟨?_, fun _ _ _ sets => by cases sets⟩
  cases device : wrapper.device with
  | some id =>
      have nothing : wrapper.call ⟨isNull, .deviceOpen answers⟩ = (wrapper, []) := by
        simp only [CameraWrapper.call, device, Option.isSome_some, if_true]
      exact (agreesAfter_of_idle agrees nothing).1
  | none =>
      obtain ⟨preview, -, which⟩ := @cameraDeviceOpen_cases wrapper answers
      have off : wrapper.previewRunning = false := by
        rw [agrees_iff, device] at agrees
        exact agrees
      simp only [cameraSystem, Machine.stepOn, CameraWrapper.call, device, Option.isSome_none,
        Bool.false_eq_true, if_false, agrees_iff, preview, off]
      rcases which with none_ | fresh
      · rw [none_, device]
        rfl
      · rw [fresh]
        exact (Bool.and_false _).symm

/-- Parameters are set. -/
theorem agreesAfter_setParameters (agrees : Agrees (wrapper, running))
    (idle : wrapper.restartPreview = false) {isNull : Bool} {recordHint : Option String}
    {ret started id : ℤ}
    (given : wrapper.given ⟨isNull, .setParameters recordHint ret started⟩ = some id) :
    AgreesAfter
      (cameraSystem.stepOn (wrapper, running) ⟨isNull, .setParameters recordHint ret started⟩) := by
  have device := device_of_given given
  have before : wrapper.previewRunning = running := by
    rw [agrees_iff, device] at agrees
    exact agrees
  obtain ⟨-, same, which⟩ := cameraSetParameters_cases idle id recordHint ret started
  simp only [AgreesAfter, cameraSystem, Machine.stepOn, CameraWrapper.call, given, agrees_iff, same,
    device, Option.isSome_some, Bool.true_and]
  rcases which with ⟨preview, calls⟩ | ⟨runs, preview, calls⟩
  · rw [preview, calls]
    exact ⟨before, fun _ _ _ _ runs => runs⟩
  · rw [preview, calls]
    exact ⟨rfl, fun _ _ _ _ _ => before ▸ runs⟩

/-- A call that does not set parameters. -/
theorem agreesAfter_other {input : CameraInput}
    (other : ∀ recordHint ret started, input.op ≠ .setParameters recordHint ret started) :
    AgreesAfter (cameraSystem.stepOn (wrapper, running) input) ↔
      (wrapper.call input).1.previewRunning = ((wrapper.call input).1.device.isSome &&
        (wrapper.call input).2.foldl previewAfter running) :=
  and_iff_left fun recordHint ret started sets => absurd sets (other recordHint ret started)

/-- **What the wrapper's view of the preview needs to stay right.** -/
theorem agreesAfter_iff (agrees : Agrees (wrapper, running))
    (idle : wrapper.restartPreview = false) (input : CameraInput) :
    AgreesAfter (cameraSystem.stepOn (wrapper, running) input) ↔ Tracked wrapper input := by
  obtain ⟨isNull, op⟩ := input
  by_cases opens : ∃ answers, op = .deviceOpen answers
  · obtain ⟨answers, rfl⟩ := opens
    exact iff_of_true (agreesAfter_deviceOpen agrees isNull answers) trivial
  · cases given : wrapper.given ⟨isNull, op⟩ with
    | none =>
        have nothing := call_null given fun answers same => opens ⟨answers, same⟩
        refine iff_of_true (agreesAfter_of_idle agrees nothing) ?_
        unfold Tracked
        rw [given]
        cases op <;> simp
    | some id =>
        have device := device_of_given given
        have before : wrapper.previewRunning = running := by
          rw [agrees_iff, device] at agrees
          exact agrees
        by_cases sets : ∃ recordHint ret started, op = .setParameters recordHint ret started
        · obtain ⟨recordHint, ret, started, rfl⟩ := sets
          exact iff_of_true (agreesAfter_setParameters agrees idle given) trivial
        · rw [agreesAfter_other fun recordHint ret started same =>
            sets ⟨recordHint, ret, started, same⟩]
          cases op with
          | deviceOpen answers => exact absurd ⟨answers, rfl⟩ opens
          | setParameters recordHint ret started =>
              exact absurd ⟨recordHint, ret, started, rfl⟩ sets
          | startPreview ret =>
              simp [CameraWrapper.call, given, CameraWrapper.cameraStartPreview, previewAfter,
                device, Tracked]
          | stopPreview =>
              simp [CameraWrapper.call, given, CameraWrapper.cameraStopPreview, previewAfter,
                Tracked]
          | startRecording ret =>
              simp [CameraWrapper.call, given, CameraWrapper.cameraStartRecording, previewAfter,
                device, before, Tracked]
          | stopRecording started =>
              simp only [CameraWrapper.call, given, CameraWrapper.cameraStopRecording, Tracked,
                ne_eq, reduceCtorEq, not_false_eq_true, true_imp_iff, device, Option.isSome_some,
                Bool.true_and, List.foldl_cons, List.foldl_nil, previewAfter]
              cases wrapper.previewRunning <;> simp
          | release =>
              simp [CameraWrapper.call, given, CameraWrapper.cameraRelease, previewAfter, Tracked]
          | deviceClose =>
              simp [CameraWrapper.call, given, CameraWrapper.cameraDeviceClose, Tracked]

end Calls

/-- **The wrapper's view of the preview is right after every call exactly if every call is
tracked.** Then no preview is started by setting parameters. -/
theorem previewAgrees_iff (inputs : List CameraInput) :
    (∀ taken ∈ cameraSystem.steps cameraStart inputs, AgreesAfter taken) ↔
      ∀ taken ∈ cameraSystem.steps cameraStart inputs, Tracked taken.before.1 taken.input := by
  apply @Machine.steps_iff _ _ _ cameraSystem
    (fun state => Agrees state ∧ state.1.restartPreview = false)
  · rintro ⟨wrapper, running⟩ input ⟨agrees, idle⟩
    exact agreesAfter_iff agrees idle input
  · rintro ⟨wrapper, running⟩ input ⟨_, idle⟩ after
    exact ⟨after.1, call_restartPreview idle input⟩
  · exact ⟨rfl, rfl⟩

/-- The answers to a successful `open` of the rear camera. -/
def OpenAnswers.rear : OpenAnswers := ⟨some rearCameraId, 0, 2, true, 0, true⟩

/-- **A camera that is closed with its preview running** leaves the flag set. In the next
session, setting parameters for a video starts a preview that does not run. -/
theorem not_previewAgrees :
    ¬ ∀ taken ∈ cameraSystem.steps cameraStart
      [⟨false, .deviceOpen .rear⟩, ⟨false, .startPreview 0⟩, ⟨false, .deviceClose⟩,
        ⟨false, .deviceOpen .rear⟩, ⟨false, .setParameters (some "true") 0 0⟩],
      AgreesAfter taken := by
  intro agrees
  have last := (List.forall_mem_cons.mp (List.forall_mem_cons.mp (List.forall_mem_cons.mp
    (List.forall_mem_cons.mp (List.forall_mem_cons.mp agrees).2).2).2).2).1
  have started := last.2 _ _ _ rfl
  revert started
  decide

end Msm8660.Camera
