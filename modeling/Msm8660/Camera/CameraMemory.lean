import Mathlib.Data.Finset.Option
import Msm8660.Camera.CameraWrapper

/-!
# The memory of the camera wrapper

What `CameraWrapper.cpp` allocates and frees: a device and its table of operations, which live
from `camera_device_open` to `camera_device_close`, and the texts of parameters. Beside them
there are the vendor's devices and texts. Any number of devices may be open, and every `malloc`
may fail. A function that frees or follows a dangling pointer has no result here.

The runs are those of a caller that has some devices and some texts. A block is lost when it is
in use and the caller has nothing by which it could be freed.
-/

set_option autoImplicit false

namespace Msm8660.Camera

/-- The keys of `CameraParameters`: those that have names of their own here, and others. -/
inductive ParameterKey where
  | supportedFocusModes
  | preferredPreviewSizeForVideo
  | rotation
  | other (key : String)
deriving DecidableEq, Repr

/-- The values by their keys, which `flatten` writes into a text. -/
abbrev Parameters := ParameterKey → Option String

/-- `wrapper_camera_device_t`. A pointer is `none` where it is NULL. -/
structure WrapperCameraDevice (κ : Type*) where
  id : ℤ
  ops : Option κ
  vendor : Option κ
deriving DecidableEq

/-- What is at an address that is in use. -/
inductive Block (κ : Type*) where
  | wrapperDevice (device : WrapperCameraDevice κ)
  | cameraDeviceOps
  | vendorDevice
  | text (params : Parameters)

/-- The blocks in use, and whether `gVendorModule` is set. -/
structure CameraMemory (κ : Type*) where
  gVendorModule : Bool
  heap : κ → Option (Block κ)

/-- What the environment answers to `camera_device_open`, with the addresses. -/
structure OpenCall (κ : Type*) where
  /-- `atoi(name)`, if there is a name -/
  name : Option ℤ
  /-- `hw_get_module_by_class` -/
  vendorModule : ℤ
  numCameras : ℤ
  /-- the first `malloc` -/
  cameraDevice : Option κ
  /-- the vendor's `open` -/
  opened : ℤ
  /-- the vendor's device, if the vendor's `open` succeeds -/
  vendor : κ
  /-- the second `malloc` -/
  cameraOps : Option κ
deriving DecidableEq

/-- `camera_fixup_getparams`. -/
def cameraFixupGetparams (id : ℤ) (settings : Parameters) : Parameters :=
  let params := if id = rearCameraId then
      Function.update settings .supportedFocusModes
        (some "auto,macro,fixed,continuous-video,face-priority")
    else settings
  let params := Function.update params .preferredPreviewSizeForVideo
    (some (if id ≠ 0 then "640x480" else "1280x720"))
  let params := Function.update params .rotation (some "0")
  Function.update params (.other "preview-frame-rate-mode") (some "frame-rate-fixed")

variable {κ : Type*} [DecidableEq κ]

namespace CameraMemory

variable (memory : CameraMemory κ)

/-- A block at an address. -/
def store (address : κ) (block : Block κ) : CameraMemory κ :=
  { memory with heap := Function.update memory.heap address (some block) }

/-- What `strdup` has copied to, if it has found memory. -/
def storeCopy (copy : Option κ) (params : Parameters) : CameraMemory κ :=
  match copy with
  | none => memory
  | some address => memory.store address (.text params)

/-- `free`. -/
def free (address : κ) : Option (CameraMemory κ) :=
  match memory.heap address with
  | none => none
  | some _ => some { memory with heap := Function.update memory.heap address none }

/-- What a pointer to a device points to. -/
def wrapperDevice (device : κ) : Option (WrapperCameraDevice κ) :=
  match memory.heap device with
  | some (.wrapperDevice contents) => some contents
  | _ => none

/-- `VENDOR_CALL`: the vendor's device that a call goes to. -/
def vendorCall (device : κ) : Option κ := do
  let contents ← memory.wrapperDevice device
  let vendor ← contents.vendor
  match memory.heap vendor with
  | some .vendorDevice => some vendor
  | _ => none

/-- `camera_set_parameters`, with what `strdup` returns and the result of the vendor. -/
def cameraSetParameters (device : Option κ) (params : Parameters) (copy : Option κ) (ret : ℤ) :
    Option (CameraMemory κ × ℤ) :=
  match device with
  | none => some (memory, -einval)
  | some device => do
      let _ ← memory.wrapperDevice device
      let memory := memory.storeCopy copy params
      let _ ← memory.vendorCall device
      return (memory, ret)

/-- `camera_get_parameters`, with the vendor's text and with what `strdup` returns. -/
def cameraGetParameters (device : Option κ) (answer : κ) (params : Parameters)
    (copy : Option κ) : Option (CameraMemory κ × Option κ) :=
  match device with
  | none => some (memory, none)
  | some device => do
      let _ ← memory.vendorCall device
      let memory := memory.store answer (.text params)
      let contents ← memory.wrapperDevice device
      let memory := memory.storeCopy copy (cameraFixupGetparams contents.id params)
      let _ ← memory.vendorCall device
      -- the vendor's `put_parameters`
      let memory ← memory.free answer
      return (memory, copy)

/-- `camera_put_parameters`. -/
def cameraPutParameters (params : Option κ) : Option (CameraMemory κ) :=
  match params with
  | none => some memory
  | some address => memory.free address

/-- The other operations of a device only hand on to the vendor. -/
def cameraCall (device : Option κ) : Option (CameraMemory κ) :=
  match device with
  | none => some memory
  | some device => (memory.vendorCall device).map fun _ => memory

/-- `camera_device_close`. -/
def cameraDeviceClose (device : Option κ) : Option (CameraMemory κ × ℤ) :=
  match device with
  | none => some (memory, -einval)
  | some device => do
      let contents ← memory.wrapperDevice device
      let vendor ← memory.vendorCall device
      -- the vendor's `close`
      let memory ← memory.free vendor
      let memory ← match contents.ops with
        | none => some memory
        | some ops => memory.free ops
      let memory ← memory.free device
      return (memory, 0)

/-- `camera_device_open`: the memory, the result, and what is written to `*device`, if anything
is. -/
def cameraDeviceOpen (call : OpenCall κ) : Option (CameraMemory κ × ℤ × Option (Option κ)) :=
  match call.name with
  | none => some (memory, 0, none)
  | some cameraId =>
      if memory.gVendorModule = false ∧ call.vendorModule ≠ 0 then some (memory, -einval, none)
      else
        let memory := { memory with gVendorModule := true }
        if call.numCameras < cameraId then some (memory, -einval, some none)
        else match call.cameraDevice with
          | none => some (memory, -enomem, some none)
          | some device =>
              let memory := memory.store device (.wrapperDevice ⟨cameraId, none, none⟩)
              if call.opened ≠ 0 then do
                let memory ← memory.free device
                return (memory, call.opened, some none)
              else
                let memory := memory.store call.vendor .vendorDevice
                let memory :=
                  memory.store device (.wrapperDevice ⟨cameraId, none, some call.vendor⟩)
                match call.cameraOps with
                | none => do
                    let memory ← memory.free device
                    return (memory, -enomem, some none)
                | some ops =>
                    let memory := memory.store ops .cameraDeviceOps
                    let memory := memory.store device
                      (.wrapperDevice ⟨cameraId, some ops, some call.vendor⟩)
                    some (memory, 0, some (some device))

end CameraMemory

/-- The same answers without the addresses. -/
def OpenCall.answers (call : OpenCall κ) : OpenAnswers where
  name := call.name
  vendorModule := call.vendorModule
  numCameras := call.numCameras
  deviceAllocated := call.cameraDevice.isSome
  opened := call.opened
  opsAllocated := call.cameraOps.isSome

/-- With the memory, a device is opened as it is without. -/
theorem cameraDeviceOpen_agrees {memory after : CameraMemory κ} {wrapper : CameraWrapper}
    {call : OpenCall κ} {rv : ℤ} {written : Option (Option κ)}
    (same : wrapper.gVendorModule = memory.gVendorModule)
    (opens : memory.cameraDeviceOpen call = some (after, rv, written)) :
    (wrapper.cameraDeviceOpen call.answers).2.1 = rv ∧
      (wrapper.cameraDeviceOpen call.answers).1.gVendorModule = after.gVendorModule := by
  obtain ⟨name, vendorModule, numCameras, cameraDevice, opened, vendor, cameraOps⟩ := call
  unfold CameraMemory.cameraDeviceOpen at opens
  unfold CameraWrapper.cameraDeviceOpen OpenCall.answers
  cases name with
  | none =>
      cases opens
      exact ⟨rfl, same⟩
  | some cameraId =>
      dsimp only at opens ⊢
      by_cases missing : memory.gVendorModule = false ∧ vendorModule ≠ 0
      · rw [if_pos missing] at opens
        cases opens
        simp [same, missing]
      · rw [if_neg missing] at opens
        by_cases few : numCameras < cameraId
        · rw [if_pos few] at opens
          cases opens
          simp [same, missing, few]
        · rw [if_neg few] at opens
          cases cameraDevice with
          | none =>
              cases opens
              simp [same, missing, few]
          | some device =>
              dsimp only at opens
              by_cases refused : opened ≠ 0
              · rw [if_pos refused] at opens
                simp only [CameraMemory.store, CameraMemory.free, Function.update_self] at opens
                cases opens
                simp [same, missing, few, refused]
              · rw [if_neg refused] at opens
                cases cameraOps with
                | none =>
                    simp only [CameraMemory.store, CameraMemory.free,
                      Function.update_self] at opens
                    cases opens
                    simp [same, missing, few, refused]
                | some ops =>
                    cases opens
                    simp [same, missing, few, refused, CameraMemory.store]

/-! ## Runs -/

/-- A call of the wrapper, with what the environment answers. -/
inductive CameraMemoryCall (κ : Type*) where
  | deviceOpen (call : OpenCall κ)
  | deviceClose (device : Option κ)
  | setParameters (device : Option κ) (params : Parameters) (copy : Option κ) (ret : ℤ)
  | getParameters (device : Option κ) (answer : κ) (params : Parameters) (copy : Option κ)
  | putParameters (params : Option κ)
  | other (device : Option κ)

/-- The memory, as long as no call has gone wrong, and the devices and texts that the caller
has. -/
structure CameraProcess (κ : Type*) where
  memory : Option (CameraMemory κ)
  devices : Finset κ
  texts : Finset κ

namespace CameraProcess

variable (process : CameraProcess κ)

/-- A call, and what the caller has afterwards. -/
def call (input : CameraMemoryCall κ) : CameraProcess κ :=
  match process.memory with
  | none => process
  | some memory =>
      match input with
      | .deviceOpen call =>
          match memory.cameraDeviceOpen call with
          | none => { process with memory := none }
          | some (memory, _, written) =>
              match written with
              | some (some device) =>
                  { process with memory := memory, devices := insert device process.devices }
              | _ => { process with memory := memory }
      | .deviceClose device =>
          match memory.cameraDeviceClose device with
          | none => { process with memory := none }
          | some (memory, _) =>
              { process with memory := memory
                             devices := process.devices \ device.toFinset }
      | .setParameters device params copy ret =>
          { process with
            memory := (memory.cameraSetParameters device params copy ret).map Prod.fst }
      | .getParameters device answer params copy =>
          match memory.cameraGetParameters device answer params copy with
          | none => { process with memory := none }
          | some (memory, text) =>
              { process with memory := memory, texts := process.texts ∪ text.toFinset }
      | .putParameters params =>
          { process with memory := memory.cameraPutParameters params
                         texts := process.texts \ params.toFinset }
      | .other device => { process with memory := memory.cameraCall device }

end CameraProcess

/-- The addresses that a call gets from the environment. -/
def CameraMemoryCall.fresh : CameraMemoryCall κ → List κ
  | .deviceOpen call => call.cameraDevice.toList ++ call.vendor :: call.cameraOps.toList
  | .setParameters _ _ copy _ => copy.toList
  | .getParameters _ answer _ copy => answer :: copy.toList
  | _ => []

/-- The device that a call is for. -/
def CameraMemoryCall.device : CameraMemoryCall κ → Option κ
  | .deviceClose device | .setParameters device .. | .getParameters device .. | .other device =>
      device
  | _ => none

/-- The text that a call gives back. -/
def CameraMemoryCall.text : CameraMemoryCall κ → Option κ
  | .putParameters params => params
  | _ => none

/-- What the caller and the environment keep to: a call is for a device that is open, or for
NULL, a text is given back once, and addresses that are in use are not given out. -/
structure Orderly (process : CameraProcess κ) (input : CameraMemoryCall κ) : Prop where
  device : ∀ device, input.device = some device → device ∈ process.devices
  text : ∀ text, input.text = some text → text ∈ process.texts
  unused : ∀ memory, process.memory = some memory →
    ∀ address ∈ input.fresh, memory.heap address = none
  apart : input.fresh.Nodup

/-- The wrapper and its caller. -/
def cameraProcess : Machine (CameraProcess κ) (CameraMemoryCall κ) Unit where
  step process input := (process.call input, [])

/-- Before the first call nothing is allocated. -/
def CameraProcess.start : CameraProcess κ := ⟨some ⟨false, fun _ => none⟩, ∅, ∅⟩

/-- A block that belongs to a device that the caller has, or is a text that it has. -/
def Held (memory : CameraMemory κ) (devices texts : Finset κ) (address : κ) : Prop :=
  address ∈ texts ∨ ∃ device ∈ devices, address = device ∨
    ∃ contents, memory.wrapperDevice device = some contents ∧
      (contents.ops = some address ∨ contents.vendor = some address)

/-- **A block in use that nobody can free any more.** -/
def Lost (memory : CameraMemory κ) (devices texts : Finset κ) (address : κ) : Prop :=
  memory.heap address ≠ none ∧ ¬ Held memory devices texts address

/-- There is no memory for the operations of a device that the vendor has opened. -/
def OpenCall.LosesVendor (call : OpenCall κ) (gVendorModule : Bool) : Prop :=
  (∃ cameraId, call.name = some cameraId ∧ cameraId ≤ call.numCameras) ∧
    (gVendorModule = true ∨ call.vendorModule = 0) ∧ call.cameraDevice ≠ none ∧
    call.opened = 0 ∧ call.cameraOps = none

/-- The block that a call loses: the copy of the parameters, or the vendor's device. -/
def Loses (taken : Machine.Step (CameraProcess κ) (CameraMemoryCall κ) Unit) (address : κ) :
    Prop :=
  match taken.input with
  | .setParameters device _ copy _ => device ≠ none ∧ copy = some address
  | .deviceOpen call => ∃ memory, taken.before.memory = some memory ∧
      call.LosesVendor memory.gVendorModule ∧ call.vendor = address
  | _ => False

end Msm8660.Camera
