import Msm8660.Camera.CameraMemory

/-!
# What the camera wrapper loses

As long as the caller closes a device once and gives a text back once, no call of the wrapper
goes wrong. Lost are exactly the text that `camera_set_parameters` makes, at every call, and the
vendor's device of a `camera_device_open` that finds no memory for the operations (`lost_iff`).
-/

set_option autoImplicit false

namespace Msm8660.Camera

variable {κ : Type*} [DecidableEq κ]

/-! ## What the caller has -/

/-- The devices and the texts that the caller has are in memory, and no two devices share a
block. -/
structure Sound (memory : CameraMemory κ) (devices texts : Finset κ) : Prop where
  blocks : ∀ device ∈ devices, ∃ id ops vendor,
    memory.heap device = some (.wrapperDevice ⟨id, some ops, some vendor⟩) ∧
      memory.heap ops = some .cameraDeviceOps ∧ memory.heap vendor = some .vendorDevice
  apart : ∀ device ∈ devices, ∀ other ∈ devices, ∀ contents contents',
    memory.wrapperDevice device = some contents → memory.wrapperDevice other = some contents' →
      (contents.ops = contents'.ops ∨ contents.vendor = contents'.vendor) → device = other
  copies : ∀ text ∈ texts, ∃ params, memory.heap text = some (.text params)

section Memory

variable {memory memory' : CameraMemory κ} {devices texts : Finset κ} {address : κ}

omit [DecidableEq κ] in
theorem wrapperDevice_of_heap {device : κ} {contents : WrapperCameraDevice κ}
    (block : memory.heap device = some (.wrapperDevice contents)) :
    memory.wrapperDevice device = some contents := by
  rw [CameraMemory.wrapperDevice, block]

omit [DecidableEq κ] in
/-- What is held is in use, and is no text unless it is one of those that the caller has. -/
theorem Sound.block (sound : Sound memory devices texts)
    (held : Held memory devices texts address) : memory.heap address ≠ none ∧
      ∀ params, memory.heap address = some (.text params) → address ∈ texts := by
  rcases held with text | ⟨device, open_, here⟩
  · obtain ⟨params, block⟩ := sound.copies address text
    exact ⟨by simp [block], fun _ _ => text⟩
  · obtain ⟨id, ops, vendor, block, opsBlock, vendorBlock⟩ := sound.blocks device open_
    rcases here with rfl | ⟨contents, points, part⟩
    · exact ⟨by simp [block], fun params isText => by simp [block] at isText⟩
    · obtain rfl := Option.some.inj ((wrapperDevice_of_heap block).symm.trans points)
      rcases part with same | same
      · obtain rfl := Option.some.inj same
        exact ⟨by simp [opsBlock], fun params isText => by simp [opsBlock] at isText⟩
      · obtain rfl := Option.some.inj same
        exact ⟨by simp [vendorBlock], fun params isText => by simp [vendorBlock] at isText⟩

omit [DecidableEq κ] in
/-- The caller may let go of something. -/
theorem Sound.mono (sound : Sound memory devices texts) {devices' texts' : Finset κ}
    (fewer : devices' ⊆ devices) (fewer' : texts' ⊆ texts) : Sound memory devices' texts' where
  blocks := fun device open_ => sound.blocks device (fewer open_)
  apart := fun device open_ other open' => sound.apart device (fewer open_) other (fewer open')
  copies := fun text has => sound.copies text (fewer' has)

omit [DecidableEq κ] in
/-- **What happens elsewhere does not matter.** -/
theorem Sound.agree (sound : Sound memory devices texts)
    (same : ∀ address, Held memory devices texts address →
      memory'.heap address = memory.heap address) :
    Sound memory' devices texts ∧
      ∀ address, Held memory' devices texts address ↔ Held memory devices texts address := by
  have contents (device : κ) (open_ : device ∈ devices) :
      memory'.wrapperDevice device = memory.wrapperDevice device := by
    rw [CameraMemory.wrapperDevice, same device (Or.inr ⟨device, open_, Or.inl rfl⟩)]
    rfl
  refine ⟨⟨?_, ?_, ?_⟩, fun address => ?_⟩
  · intro device open_
    obtain ⟨id, ops, vendor, block, opsBlock, vendorBlock⟩ := sound.blocks device open_
    have points := wrapperDevice_of_heap block
    refine ⟨id, ops, vendor, ?_, ?_, ?_⟩
    · rw [same device (Or.inr ⟨device, open_, Or.inl rfl⟩), block]
    · rw [same ops (Or.inr ⟨device, open_, Or.inr ⟨_, points, Or.inl rfl⟩⟩), opsBlock]
    · rw [same vendor (Or.inr ⟨device, open_, Or.inr ⟨_, points, Or.inr rfl⟩⟩), vendorBlock]
  · intro device open_ other open' first second points points'
    rw [contents device open_] at points
    rw [contents other open'] at points'
    exact sound.apart device open_ other open' first second points points'
  · intro text has
    obtain ⟨params, block⟩ := sound.copies text has
    exact ⟨params, by rw [same text (Or.inl has), block]⟩
  · refine or_congr Iff.rfl (exists_congr fun device => and_congr_right fun open_ => ?_)
    rw [contents device open_]

omit [DecidableEq κ] in
theorem vendorCall_eq {device vendor : κ} {id : ℤ} {ops : Option κ}
    (points : memory.wrapperDevice device = some ⟨id, ops, some vendor⟩)
    (vendorBlock : memory.heap vendor = some .vendorDevice) :
    memory.vendorCall device = some vendor := by
  rw [CameraMemory.vendorCall, points]
  simp only [Option.bind_eq_bind, Option.bind_some, vendorBlock]

omit [DecidableEq κ] in
/-- The vendor's device can be called. -/
theorem Sound.vendorCall (sound : Sound memory devices texts) {device : κ}
    (open_ : device ∈ devices) : ∃ contents vendor,
      memory.wrapperDevice device = some contents ∧ memory.vendorCall device = some vendor := by
  obtain ⟨id, ops, vendor, block, -, vendorBlock⟩ := sound.blocks device open_
  have points := wrapperDevice_of_heap block
  exact ⟨_, vendor, points, vendorCall_eq points vendorBlock⟩

theorem held_insert_text {text : κ} : Held memory devices (insert text texts) address ↔
    address = text ∨ Held memory devices texts address := by
  rw [Held, Finset.mem_insert, or_assoc]
  rfl

theorem held_insert_device {device ops vendor : κ} {id : ℤ}
    (points : memory.wrapperDevice device = some ⟨id, some ops, some vendor⟩) :
    Held memory (insert device devices) texts address ↔
      (address = device ∨ address = ops ∨ address = vendor) ∨
        Held memory devices texts address := by
  simp only [Held, Finset.mem_insert, or_and_right, exists_or, exists_eq_left, points,
    Option.some.injEq, exists_eq_left', eq_comm (a := address), or_left_comm]

/-! ### More blocks -/

/-- **A block that is stored where nothing was is one that nobody holds.** -/
theorem Sound.store (sound : Sound memory devices texts) (unused : memory.heap address = none)
    (block : Block κ) :
    Sound (memory.store address block) devices texts ∧
      (∀ other, Held (memory.store address block) devices texts other ↔
        Held memory devices texts other) ∧
      ∀ other, Lost (memory.store address block) devices texts other ↔
        Lost memory devices texts other ∨ other = address := by
  have elsewhere {other : κ} (different : other ≠ address) :
      (memory.store address block).heap other = memory.heap other :=
    Function.update_of_ne different _ _
  have here : (memory.store address block).heap address = some block :=
    Function.update_self ..
  have untouched (other : κ) (holds : Held memory devices texts other) :
      (memory.store address block).heap other = memory.heap other :=
    elsewhere fun same => (sound.block holds).1 (same ▸ unused)
  obtain ⟨sound', held⟩ := sound.agree untouched
  refine ⟨sound', held, fun other => ?_⟩
  rw [Lost, Lost, held]
  by_cases same : other = address
  · subst same
    have notHeld : ¬ Held memory devices texts other := fun holds =>
      (sound.block holds).1 unused
    simp [here, notHeld]
  · simp [elsewhere same, same]

/-- A text that is stored for the caller. -/
theorem Sound.storeText (sound : Sound memory devices texts) {text : κ}
    (unused : memory.heap text = none) (params : Parameters) :
    Sound (memory.store text (.text params)) devices (insert text texts) ∧
      ∀ other, Lost (memory.store text (.text params)) devices (insert text texts) other ↔
        Lost memory devices texts other := by
  obtain ⟨sound', held, lost⟩ := sound.store unused (.text params)
  refine ⟨⟨sound'.blocks, sound'.apart, fun other has => ?_⟩, fun other => ?_⟩
  · rcases Finset.mem_insert.mp has with rfl | has
    · exact ⟨params, Function.update_self ..⟩
    · exact sound'.copies other has
  · rw [Lost, held_insert_text, not_or, and_left_comm, and_comm, ← Lost, lost]
    constructor
    · rintro ⟨lost | same, different⟩
      · exact lost
      · exact absurd same different
    · rintro ⟨used, notHeld⟩
      exact ⟨Or.inl ⟨used, notHeld⟩, fun same => used (same ▸ unused)⟩

/-- A device with its blocks that is stored for the caller. -/
theorem Sound.insertDevice (sound : Sound memory devices texts) {device ops vendor : κ} {id : ℤ}
    (block : memory.heap device = some (.wrapperDevice ⟨id, some ops, some vendor⟩))
    (opsBlock : memory.heap ops = some .cameraDeviceOps)
    (vendorBlock : memory.heap vendor = some .vendorDevice)
    (opsFree : ¬ Held memory devices texts ops) (vendorFree : ¬ Held memory devices texts vendor) :
    Sound memory (insert device devices) texts := by
  have points := wrapperDevice_of_heap block
  -- another device has other blocks
  have different {other : κ} (open_ : other ∈ devices) {contents : WrapperCameraDevice κ}
      (points' : memory.wrapperDevice other = some contents) :
      ¬ (contents.ops = some ops ∨ contents.vendor = some vendor) := by
    rintro (same | same)
    · exact opsFree (Or.inr ⟨other, open_, Or.inr ⟨contents, points', Or.inl same⟩⟩)
    · exact vendorFree (Or.inr ⟨other, open_, Or.inr ⟨contents, points', Or.inr same⟩⟩)
  refine ⟨?_, ?_, sound.copies⟩
  · intro other among
    rcases Finset.mem_insert.mp among with rfl | open_
    · exact ⟨id, ops, vendor, block, opsBlock, vendorBlock⟩
    · exact sound.blocks other open_
  · intro first among second among' contents contents' points' points'' shared
    rcases Finset.mem_insert.mp among with rfl | open_ <;>
      rcases Finset.mem_insert.mp among' with rfl | open'
    · rfl
    · obtain rfl := Option.some.inj (points.symm.trans points')
      exact absurd (shared.imp Eq.symm Eq.symm) (different open' points'')
    · obtain rfl := Option.some.inj (points.symm.trans points'')
      exact absurd shared (different open_ points')
    · exact sound.apart first open_ second open' contents contents' points' points'' shared

/-! ### Fewer blocks -/

omit [DecidableEq κ] in
/-- **Freeing what the caller lets go of loses nothing.** -/
theorem Sound.remove (sound : Sound memory devices texts) {devices' texts' : Finset κ}
    (fewer : devices' ⊆ devices) (fewer' : texts' ⊆ texts) {Removed : κ → Prop}
    (split : ∀ address, Held memory devices texts address ↔
      Removed address ∨ Held memory devices' texts' address)
    (apart : ∀ address, Removed address → ¬ Held memory devices' texts' address)
    (freed : ∀ address, Removed address → memory'.heap address = none)
    (kept : ∀ address, ¬ Removed address → memory'.heap address = memory.heap address) :
    Sound memory' devices' texts' ∧
      ∀ address, Lost memory' devices' texts' address ↔ Lost memory devices texts address := by
  obtain ⟨sound', held⟩ := (sound.mono fewer fewer').agree fun address holds =>
    kept address fun removed => apart address removed holds
  refine ⟨sound', fun address => ?_⟩
  rw [Lost, Lost, held, split, not_or]
  by_cases removed : Removed address
  · simp [freed address removed, removed]
  · simp [kept address removed, removed]

theorem free_eq {block : Block κ} (used : memory.heap address = some block) :
    memory.free address =
      some { memory with heap := Function.update memory.heap address none } := by
  rw [CameraMemory.free, used]

/-- Freeing what has been stored. -/
theorem free_store (unused : memory.heap address = none) (block : Block κ) :
    (memory.store address block).free address = some memory := by
  simp only [CameraMemory.store, CameraMemory.free, Function.update_self, Function.update_idem,
    ← unused, Function.update_eq_self]

/-- What is stored at two addresses is stored in either order. -/
theorem store_comm {other : κ} (different : address ≠ other) (block block' : Block κ) :
    (memory.store address block).store other block' =
      (memory.store other block').store address block := by
  simp only [CameraMemory.store, Function.update_comm different]

theorem store_store (block block' : Block κ) :
    (memory.store address block).store address block' = memory.store address block' := by
  simp only [CameraMemory.store, Function.update_idem]

/-- A text that is given back. -/
theorem Sound.freeText (sound : Sound memory devices texts) {text : κ} (has : text ∈ texts) :
    ∃ after, memory.free text = some after ∧ Sound after devices (texts.erase text) ∧
      ∀ address, Lost after devices (texts.erase text) address ↔
        Lost memory devices texts address := by
  obtain ⟨params, block⟩ := sound.copies text has
  refine ⟨_, free_eq block, ?_⟩
  have fewer := Finset.erase_subset text texts
  refine sound.remove (Finset.Subset.refl _) fewer (fun address => ?_) ?_
    (fun address (same : address = text) => same ▸ Function.update_self ..)
    (fun address different => Function.update_of_ne different _ _)
  · rw [← held_insert_text, Finset.insert_erase has]
  · rintro address rfl holds
    have given := ((sound.mono (Finset.Subset.refl _) fewer).block holds).2 params block
    exact absurd given (Finset.notMem_erase _ _)

/-- A device has three blocks of its own. -/
theorem Sound.apart_erase (sound : Sound memory devices texts) {device ops vendor : κ} {id : ℤ}
    (open_ : device ∈ devices)
    (points : memory.wrapperDevice device = some ⟨id, some ops, some vendor⟩)
    (own : address = device ∨ address = ops ∨ address = vendor) :
    ¬ Held memory (devices.erase device) texts address := by
  obtain ⟨id', ops', vendor', block, opsBlock, vendorBlock⟩ := sound.blocks device open_
  obtain ⟨-, ⟨⟩, ⟨⟩⟩ := Option.some.inj (points.symm.trans (wrapperDevice_of_heap block))
  rintro (text | ⟨other, among, here⟩)
  · obtain ⟨params, isText⟩ := sound.copies address text
    rcases own with rfl | rfl | rfl
    · cases block.symm.trans isText
    · cases opsBlock.symm.trans isText
    · cases vendorBlock.symm.trans isText
  · obtain ⟨different, open'⟩ := Finset.mem_erase.mp among
    obtain ⟨id', ops', vendor', block', opsBlock', vendorBlock'⟩ := sound.blocks other open'
    have points' := wrapperDevice_of_heap block'
    have share := sound.apart other open' device open_ _ _ points' points
    rcases here with rfl | ⟨contents, points'', part⟩
    · rcases own with rfl | rfl | rfl
      · exact different rfl
      · cases opsBlock.symm.trans block'
      · cases vendorBlock.symm.trans block'
    · obtain rfl := Option.some.inj (points'.symm.trans points'')
      rcases part with same | same
      · obtain rfl := Option.some.inj same
        rcases own with rfl | rfl | rfl
        · cases block.symm.trans opsBlock'
        · exact different (share (Or.inl rfl))
        · cases vendorBlock.symm.trans opsBlock'
      · obtain rfl := Option.some.inj same
        rcases own with rfl | rfl | rfl
        · cases block.symm.trans vendorBlock'
        · cases opsBlock.symm.trans vendorBlock'
        · exact different (share (Or.inr rfl))

/-- **Closing a device frees its three blocks.** -/
theorem Sound.close (sound : Sound memory devices texts) {device : κ} (open_ : device ∈ devices) :
    ∃ after, memory.cameraDeviceClose (some device) = some (after, 0) ∧
      Sound after (devices.erase device) texts ∧
      ∀ address, Lost after (devices.erase device) texts address ↔
        Lost memory devices texts address := by
  obtain ⟨id, ops, vendor, block, opsBlock, vendorBlock⟩ := sound.blocks device open_
  have points := wrapperDevice_of_heap block
  have vendorNotOps : ops ≠ vendor := by
    rintro rfl
    cases opsBlock.symm.trans vendorBlock
  have notVendor : device ≠ vendor := by
    rintro rfl
    cases block.symm.trans vendorBlock
  have notOps : device ≠ ops := by
    rintro rfl
    cases block.symm.trans opsBlock
  have call := vendorCall_eq points vendorBlock
  have closes : memory.cameraDeviceClose (some device) = some
      ({ memory with heap := Function.update (Function.update (Function.update memory.heap
        vendor none) ops none) device none }, 0) := by
    simp only [CameraMemory.cameraDeviceClose, points, call, CameraMemory.free, vendorBlock,
      Function.update_of_ne vendorNotOps, opsBlock, Function.update_of_ne notOps,
      Function.update_of_ne notVendor, block, Option.bind_eq_bind, Option.bind_some,
      Option.pure_def]
  refine ⟨_, closes, ?_⟩
  refine sound.remove (Finset.erase_subset _ _) (Finset.Subset.refl _) (fun address => ?_)
    (fun address own => sound.apart_erase open_ points own) ?_ ?_
  · rw [← held_insert_device points, Finset.insert_erase open_]
  · rintro address (rfl | rfl | rfl)
    · exact Function.update_self ..
    · exact (Function.update_of_ne notOps.symm _ _).trans (Function.update_self ..)
    · exact (Function.update_of_ne notVendor.symm _ _).trans
        ((Function.update_of_ne vendorNotOps.symm _ _).trans (Function.update_self ..))
  · intro address others
    obtain ⟨notDevice, others⟩ := not_or.mp others
    obtain ⟨notOps', notVendor'⟩ := not_or.mp others
    exact (Function.update_of_ne notDevice _ _).trans ((Function.update_of_ne notOps' _ _).trans
      (Function.update_of_ne notVendor' _ _))

/-- A copy is stored for nobody. -/
theorem Sound.storeCopy (sound : Sound memory devices texts) {copy : Option κ}
    (unused : ∀ address, copy = some address → memory.heap address = none)
    (params : Parameters) :
    Sound (memory.storeCopy copy params) devices texts ∧
      ∀ address, Lost (memory.storeCopy copy params) devices texts address ↔
        Lost memory devices texts address ∨ copy = some address := by
  cases copy with
  | none => exact ⟨sound, fun address => by simp [CameraMemory.storeCopy]⟩
  | some text =>
      obtain ⟨sound', -, lost⟩ := sound.store (unused text rfl) (.text params)
      refine ⟨sound', fun address => (lost address).trans (or_congr Iff.rfl ?_)⟩
      rw [Option.some.injEq, eq_comm]

/-- **Setting parameters loses the copy.** -/
theorem Sound.setParameters (sound : Sound memory devices texts) {device : κ}
    (open_ : device ∈ devices) {copy : Option κ}
    (unused : ∀ address, copy = some address → memory.heap address = none)
    (params : Parameters) (ret : ℤ) :
    memory.cameraSetParameters (some device) params copy ret =
      some (memory.storeCopy copy params, ret) := by
  obtain ⟨contents, -, points, -⟩ := sound.vendorCall open_
  obtain ⟨-, vendor, -, call⟩ := (sound.storeCopy unused params).1.vendorCall open_
  simp only [CameraMemory.cameraSetParameters, points, call, Option.bind_eq_bind,
    Option.bind_some, Option.pure_def]

/-- **Getting parameters leaves the copy only.** -/
theorem Sound.getParameters (sound : Sound memory devices texts) {device answer : κ}
    (open_ : device ∈ devices) {copy : Option κ} (unused : memory.heap answer = none)
    (unused' : ∀ address, copy = some address → memory.heap address = none)
    (apart : copy ≠ some answer) (params : Parameters) : ∃ fixed,
      memory.cameraGetParameters (some device) answer params copy =
        some (memory.storeCopy copy fixed, copy) := by
  obtain ⟨-, vendor, -, call⟩ := sound.vendorCall open_
  obtain ⟨sound', -, -⟩ := sound.store unused (.text params)
  obtain ⟨contents, -, points, -⟩ := sound'.vendorCall open_
  have stillUnused (address : κ) (isCopy : copy = some address) :
      (memory.store answer (.text params)).heap address = none := by
    have different : address ≠ answer := fun same => apart (same ▸ isCopy)
    exact (Function.update_of_ne different _ _).trans (unused' address isCopy)
  obtain ⟨sound'', -⟩ := sound'.storeCopy stillUnused (cameraFixupGetparams contents.id params)
  obtain ⟨-, vendor', -, call'⟩ := sound''.vendorCall open_
  refine ⟨cameraFixupGetparams contents.id params, ?_⟩
  -- freeing the vendor's text undoes its storing
  have freed : ((memory.store answer (.text params)).storeCopy copy
      (cameraFixupGetparams contents.id params)).free answer =
        some (memory.storeCopy copy (cameraFixupGetparams contents.id params)) := by
    cases copy with
    | none => exact free_store unused _
    | some text =>
        have different : answer ≠ text := fun same => apart (congrArg some same.symm)
        have stillUnused' : (memory.store text (.text (cameraFixupGetparams contents.id
            params))).heap answer = none :=
          (Function.update_of_ne different _ _).trans unused
        rw [CameraMemory.storeCopy, store_comm different, free_store stillUnused']
        rfl
  simp only [CameraMemory.cameraGetParameters, call, points, call', freed, Option.bind_eq_bind,
    Option.bind_some, Option.pure_def]

omit [DecidableEq κ] in
theorem Sound.sameHeap (sound : Sound memory devices texts) (same : memory'.heap = memory.heap) :
    Sound memory' devices texts ∧
      ∀ address, Lost memory' devices texts address ↔ Lost memory devices texts address := by
  obtain ⟨sound', held⟩ := sound.agree fun address _ => congrFun same address
  refine ⟨sound', fun address => ?_⟩
  rw [Lost, Lost, held, same]

/-- What the caller has after `camera_device_open`. -/
def devicesAfter (devices : Finset κ) : Option (Option κ) → Finset κ
  | some (some device) => insert device devices
  | _ => devices

/-- The three blocks of a new device. -/
theorem Sound.newDevice (sound : Sound memory devices texts) {device ops vendor : κ}
    (unused : ∀ address ∈ [device, vendor, ops], memory.heap address = none)
    (apart : [device, vendor, ops].Nodup) (id : ℤ) :
    let after := ((memory.store vendor .vendorDevice).store ops .cameraDeviceOps).store device
      (.wrapperDevice ⟨id, some ops, some vendor⟩)
    Sound after (insert device devices) texts ∧
      ∀ address, Lost after (insert device devices) texts address ↔
        Lost memory devices texts address := by
  intro after
  have notHeld {address : κ} (among : address ∈ [device, vendor, ops]) :
      ¬ Held memory devices texts address := fun holds =>
    (sound.block holds).1 (unused address among)
  have notVendor : vendor ≠ device := fun same => by simp [same] at apart
  have notOps : ops ≠ device := fun same => by simp [same] at apart
  have vendorNotOps : vendor ≠ ops := fun same => by simp [same] at apart
  have block : after.heap device = some (.wrapperDevice ⟨id, some ops, some vendor⟩) :=
    Function.update_self ..
  have opsBlock : after.heap ops = some .cameraDeviceOps :=
    (Function.update_of_ne notOps _ _).trans (Function.update_self ..)
  have vendorBlock : after.heap vendor = some .vendorDevice :=
    (Function.update_of_ne notVendor _ _).trans
      ((Function.update_of_ne vendorNotOps _ _).trans (Function.update_self ..))
  have others (address : κ) (foreign : address ∉ [device, vendor, ops]) :
      after.heap address = memory.heap address := by
    simp only [List.mem_cons, List.not_mem_nil, or_false, not_or] at foreign
    exact (Function.update_of_ne foreign.1 _ _).trans
      ((Function.update_of_ne foreign.2.2 _ _).trans (Function.update_of_ne foreign.2.1 _ _))
  obtain ⟨sound', held⟩ := sound.agree fun address holds =>
    others address fun among => notHeld among holds
  have opsFree : ¬ Held after devices texts ops := by
    rw [held]
    exact notHeld (by simp)
  have vendorFree : ¬ Held after devices texts vendor := by
    rw [held]
    exact notHeld (by simp)
  refine ⟨sound'.insertDevice block opsBlock vendorBlock opsFree vendorFree, fun address => ?_⟩
  rw [Lost, Lost, held_insert_device (wrapperDevice_of_heap block), held, not_or]
  by_cases among : address ∈ [device, vendor, ops]
  · have own : address = device ∨ address = ops ∨ address = vendor := by
      simpa [or_comm, or_left_comm] using among
    simp [own, unused address among]
  · have foreign : ¬ (address = device ∨ address = ops ∨ address = vendor) := by
      simpa [or_comm, or_left_comm] using among
    simp [foreign, others address among]

/-- **Opening a device** allocates its three blocks, or nothing, or the vendor's device only. -/
theorem Sound.deviceOpen (sound : Sound memory devices texts) {call : OpenCall κ}
    (unused : ∀ address ∈ (CameraMemoryCall.deviceOpen call).fresh, memory.heap address = none)
    (apart : (CameraMemoryCall.deviceOpen call).fresh.Nodup) : ∃ after rv written,
      memory.cameraDeviceOpen call = some (after, rv, written) ∧
        Sound after (devicesAfter devices written) texts ∧
        ∀ address, Lost after (devicesAfter devices written) texts address ↔
          Lost memory devices texts address ∨
            call.LosesVendor memory.gVendorModule ∧ call.vendor = address := by
  -- nothing stays allocated where the vendor's device is not lost
  have nothing {after : CameraMemory κ} (same : after.heap = memory.heap)
      (spared : ¬ call.LosesVendor memory.gVendorModule) :
      Sound after devices texts ∧ ∀ address, Lost after devices texts address ↔
        Lost memory devices texts address ∨
          call.LosesVendor memory.gVendorModule ∧ call.vendor = address := by
    obtain ⟨sound', lost⟩ := sound.sameHeap same
    refine ⟨sound', fun address => (lost address).trans ?_⟩
    rw [or_iff_left fun both => spared both.1]
  unfold CameraMemory.cameraDeviceOpen
  dsimp only
  generalize set : ({ memory with gVendorModule := true } : CameraMemory κ) = memory'
  have same : memory'.heap = memory.heap := set ▸ rfl
  cases name : call.name with
  | none =>
      refine ⟨_, _, _, rfl, nothing rfl fun loses => ?_⟩
      obtain ⟨⟨cameraId, named, -⟩, -⟩ := loses
      cases name.symm.trans named
  | some cameraId =>
      by_cases module_ : memory.gVendorModule = false ∧ call.vendorModule ≠ 0
      · simp only [if_pos module_]
        refine ⟨_, _, _, rfl, nothing rfl fun loses => ?_⟩
        obtain ⟨-, set | found, -⟩ := loses
        · exact absurd (set.symm.trans module_.1) (by decide)
        · exact module_.2 found
      · simp only [if_neg module_]
        by_cases few : call.numCameras < cameraId
        · simp only [if_pos few]
          refine ⟨_, _, _, rfl, nothing same fun loses => ?_⟩
          obtain ⟨⟨cameraId', named, bound⟩, -⟩ := loses
          cases name.symm.trans named
          exact absurd few (not_lt.mpr bound)
        · simp only [if_neg few]
          cases device_ : call.cameraDevice with
          | none => exact ⟨_, _, _, rfl, nothing same fun loses => loses.2.2.1 device_⟩
          | some device =>
              have fresh : (CameraMemoryCall.deviceOpen call).fresh =
                  device :: call.vendor :: call.cameraOps.toList := by
                rw [CameraMemoryCall.fresh, device_]
                rfl
              simp only [fresh, ← same] at unused apart
              have deviceUnused := unused device (List.mem_cons_self ..)
              have vendorUnused := unused call.vendor (by simp)
              have notVendor : device ≠ call.vendor := fun same => by simp [same] at apart
              dsimp only
              by_cases refused : call.opened ≠ 0
              · have freed := free_store deviceUnused
                  (.wrapperDevice ⟨cameraId, none, none⟩)
                rw [if_pos refused, freed]
                exact ⟨_, _, _, rfl, nothing same fun loses => refused loses.2.2.2.1⟩
              · rw [if_neg refused, store_comm notVendor, store_store]
                cases ops_ : call.cameraOps with
                | none =>
                    have loses : call.LosesVendor memory.gVendorModule := by
                      refine ⟨⟨cameraId, name, not_lt.mp few⟩, ?_, by simp [device_],
                        not_not.mp refused, ops_⟩
                      by_contra neither
                      obtain ⟨unset, missing⟩ := not_or.mp neither
                      exact module_ ⟨Bool.eq_false_iff.mpr unset, missing⟩
                    have stillUnused : (memory'.store call.vendor .vendorDevice).heap device =
                        none := (Function.update_of_ne notVendor _ _).trans deviceUnused
                    obtain ⟨sound', lost⟩ := sound.sameHeap same
                    obtain ⟨sound'', -, lost'⟩ := sound'.store vendorUnused .vendorDevice
                    dsimp only
                    rw [free_store stillUnused]
                    refine ⟨_, _, _, rfl, sound'', fun address => ?_⟩
                    change Lost _ devices texts address ↔ _
                    rw [lost', lost, and_iff_right loses, eq_comm (a := address)]
                | some ops =>
                    have spared : ¬ call.LosesVendor memory.gVendorModule := fun loses => by
                      cases ops_.symm.trans loses.2.2.2.2
                    rw [ops_] at unused apart
                    obtain ⟨sound', lost⟩ := sound.sameHeap same
                    have notOps : device ≠ ops := fun same => by simp [same] at apart
                    obtain ⟨sound'', lost'⟩ := sound'.newDevice unused apart cameraId
                    dsimp only
                    rw [store_comm notOps, store_store]
                    refine ⟨_, _, _, rfl, sound'', fun address => (lost' address).trans ?_⟩
                    rw [lost, or_iff_left fun both => spared both.1]

end Memory

/-! ## Runs of the wrapper -/

/-- No call has gone wrong, and what the caller has is in memory. -/
def CameraProcess.Sane (process : CameraProcess κ) : Prop :=
  ∃ memory, process.memory = some memory ∧ Sound memory process.devices process.texts

/-- A block is lost. -/
def CameraProcess.HasLost (process : CameraProcess κ) (address : κ) : Prop :=
  ∃ memory, process.memory = some memory ∧ Lost memory process.devices process.texts address

/-- What a step does. -/
def Accounted (taken : Machine.Step (CameraProcess κ) (CameraMemoryCall κ) Unit) : Prop :=
  taken.after.Sane ∧ ∀ address,
    taken.after.HasLost address ↔ taken.before.HasLost address ∨ Loses taken address

section Steps

variable {memory : CameraMemory κ} {devices texts : Finset κ}

omit [DecidableEq κ] in
theorem hasLost_iff {address : κ} :
    CameraProcess.HasLost ⟨some memory, devices, texts⟩ address ↔
      Lost memory devices texts address := by
  simp [CameraProcess.HasLost]

omit [DecidableEq κ] in
theorem sane_iff : CameraProcess.Sane ⟨some memory, devices, texts⟩ ↔
    Sound memory devices texts := by
  simp [CameraProcess.Sane]

/-- A call that ends in a sound memory and has lost what it is said to lose. -/
theorem accounted_of {input : CameraMemoryCall κ} {after : CameraMemory κ}
    {devices' texts' : Finset κ}
    (reached : CameraProcess.call ⟨some memory, devices, texts⟩ input =
      ⟨some after, devices', texts'⟩)
    (sound : Sound after devices' texts')
    (lost : ∀ address, Lost after devices' texts' address ↔ Lost memory devices texts address ∨
      Loses (cameraProcess.stepOn ⟨some memory, devices, texts⟩ input) address) :
    Accounted (cameraProcess.stepOn ⟨some memory, devices, texts⟩ input) := by
  have end_ : (cameraProcess.stepOn ⟨some memory, devices, texts⟩ input).after =
    ⟨some after, devices', texts'⟩ := reached
  rw [Accounted, end_]
  refine ⟨sane_iff.mpr sound, fun address => ?_⟩
  rw [hasLost_iff, lost]
  exact or_congr hasLost_iff.symm Iff.rfl

/-- A call that does nothing. -/
theorem accounted_of_idle (sound : Sound memory devices texts) {input : CameraMemoryCall κ}
    (reached : CameraProcess.call ⟨some memory, devices, texts⟩ input =
      ⟨some memory, devices, texts⟩)
    (spared : ∀ address,
      ¬ Loses (cameraProcess.stepOn ⟨some memory, devices, texts⟩ input) address) :
    Accounted (cameraProcess.stepOn ⟨some memory, devices, texts⟩ input) :=
  accounted_of reached sound fun address => (or_iff_left (spared address)).symm

/-- **Every orderly call is accounted for.** -/
theorem accounted (sound : Sound memory devices texts) {input : CameraMemoryCall κ}
    (orderly : Orderly ⟨some memory, devices, texts⟩ input) :
    Accounted (cameraProcess.stepOn ⟨some memory, devices, texts⟩ input) := by
  have unused := orderly.unused memory rfl
  cases input with
  | deviceOpen call =>
      obtain ⟨after, rv, written, opens, sound', lost⟩ := sound.deviceOpen unused orderly.apart
      refine accounted_of ?_ sound' fun address => (lost address).trans ?_
      · simp only [CameraProcess.call, opens]
        rcases written with _ | _ | device <;> rfl
      · simp [Loses, Machine.stepOn]
  | deviceClose device =>
      cases device with
      | none => exact accounted_of_idle sound (by simp [CameraProcess.call,
          CameraMemory.cameraDeviceClose]) fun _ => id
      | some device =>
          obtain ⟨after, closes, sound', lost⟩ := sound.close (orderly.device device rfl)
          refine accounted_of ?_ sound' fun address => (lost address).trans (or_iff_left id).symm
          simp only [CameraProcess.call, closes, Option.toFinset_some,
            Finset.sdiff_singleton_eq_erase]
  | setParameters device params copy ret =>
      cases device with
      | none => exact accounted_of_idle sound rfl fun _ loses => loses.1 rfl
      | some device =>
          have unused' (address : κ) (isCopy : copy = some address) :
              memory.heap address = none :=
            unused address (by simp [CameraMemoryCall.fresh, isCopy])
          have sets := sound.setParameters (orderly.device device rfl) unused' params ret
          obtain ⟨sound', lost⟩ := sound.storeCopy unused' params
          refine accounted_of ?_ sound' fun address => (lost address).trans ?_
          · simp only [CameraProcess.call, sets, Option.map_some]
          · simp [Loses, Machine.stepOn]
  | getParameters device answer params copy =>
      cases device with
      | none => exact accounted_of_idle sound (by simp [CameraProcess.call,
          CameraMemory.cameraGetParameters]) fun _ => id
      | some device =>
          have apart : copy ≠ some answer := by
            rintro rfl
            exact absurd orderly.apart (by simp [CameraMemoryCall.fresh])
          have unused' (address : κ) (isCopy : copy = some address) :
              memory.heap address = none :=
            unused address (by simp [CameraMemoryCall.fresh, isCopy])
          obtain ⟨fixed, gets⟩ := sound.getParameters (orderly.device device rfl)
            (unused answer (List.mem_cons_self ..)) unused' apart params
          cases copy with
          | none =>
              refine accounted_of_idle sound ?_ fun _ => id
              simp only [CameraProcess.call, gets, CameraMemory.storeCopy, Option.toFinset_none,
                Finset.union_empty]
          | some text =>
              obtain ⟨sound', lost⟩ := sound.storeText (unused' text rfl) fixed
              refine accounted_of ?_ sound' fun address =>
                (lost address).trans (or_iff_left id).symm
              simp only [CameraProcess.call, gets, CameraMemory.storeCopy, Option.toFinset_some,
                Finset.union_singleton]
  | putParameters params =>
      cases params with
      | none => exact accounted_of_idle sound (by simp [CameraProcess.call,
          CameraMemory.cameraPutParameters]) fun _ => id
      | some text =>
          obtain ⟨after, frees, sound', lost⟩ := sound.freeText (orderly.text text rfl)
          refine accounted_of ?_ sound' fun address => (lost address).trans (or_iff_left id).symm
          simp only [CameraProcess.call, CameraMemory.cameraPutParameters, frees,
            Option.toFinset_some, Finset.sdiff_singleton_eq_erase]
  | other device =>
      refine accounted_of_idle sound ?_ fun _ => id
      cases device with
      | none => rfl
      | some device =>
          obtain ⟨-, vendor, -, call⟩ := sound.vendorCall (orderly.device device rfl)
          simp only [CameraProcess.call, CameraMemory.cameraCall, call, Option.map_some]

end Steps

/-- **No orderly run goes wrong, and the blocks that are lost are the ones that its calls have
lost**: the copies that `camera_set_parameters` has made, and the vendor's devices that
`camera_device_open` has not closed. -/
theorem lost_iff {inputs : List (CameraMemoryCall κ)}
    (orderly : ∀ taken ∈ cameraProcess.steps CameraProcess.start inputs,
      Orderly taken.before taken.input) :
    (cameraProcess.run CameraProcess.start inputs).Sane ∧
      ∀ address, (cameraProcess.run CameraProcess.start inputs).HasLost address ↔
        ∃ taken ∈ cameraProcess.steps CameraProcess.start inputs, Loses taken address := by
  have step (process : CameraProcess κ) (input : CameraMemoryCall κ) (sane : process.Sane)
      (orderly : Orderly process input) : Accounted (cameraProcess.stepOn process input) := by
    obtain ⟨_, devices, texts⟩ := process
    obtain ⟨memory, rfl, sound⟩ := sane
    exact accounted sound orderly
  have start : (CameraProcess.start : CameraProcess κ).Sane := by
    refine sane_iff.mpr ⟨fun _ open_ => ?_, fun _ open_ => ?_, fun _ has => ?_⟩
    · cases open_
    · cases open_
    · cases has
  have nothing (address : κ) : ¬ (CameraProcess.start : CameraProcess κ).HasLost address :=
    fun lost => (hasLost_iff.mp lost).1 rfl
  have kept (process : CameraProcess κ) (input : CameraMemoryCall κ) (sane : process.Sane)
      (orderly : Orderly process input) : (cameraProcess.step process input).1.Sane :=
    (step process input sane orderly).1
  refine ⟨?_, fun address => ?_⟩
  · exact Machine.run_spared (fun process input sane (_ : True) orderly =>
      kept process input sane orderly) start (fun _ _ => trivial) orderly
  · have gained := @Machine.run_gains _ _ _ cameraProcess CameraProcess.Sane
      (fun process => process.HasLost address) (fun taken => Orderly taken.before taken.input)
      (fun taken => Loses taken address) kept
      (fun process input sane orderly => (step process input sane orderly).2 address) _ start
      inputs orderly
    rw [gained, or_iff_right (nothing address)]

/-- A session in which parameters are set once. -/
def oneSetting : List (CameraMemoryCall ℕ) :=
  [.deviceOpen ⟨some rearCameraId, 0, 2, some 0, 0, 1, some 2⟩,
    .setParameters (some 0) (fun _ => none) (some 3) 0, .deviceClose (some 0)]

/-- The copy is still there when the device is closed. -/
theorem lost_iff_oneSetting : (cameraProcess.run CameraProcess.start oneSetting).HasLost 3 := by
  refine ((lost_iff ?_).2 3).mpr ⟨_, List.mem_cons_of_mem _ (List.mem_cons_self ..), ?_⟩
  · refine List.forall_mem_cons.mpr ⟨?_, List.forall_mem_cons.mpr ⟨?_, List.forall_mem_cons.mpr
      ⟨?_, fun _ member => absurd member List.not_mem_nil⟩⟩⟩
    · exact ⟨fun _ given => (nomatch given), fun _ given => (nomatch given),
        fun _ found _ _ => Option.some.inj found ▸ rfl, by decide⟩
    · exact ⟨fun _ given => Option.some.inj given ▸ by decide, fun _ given => (nomatch given),
        fun _ found _ among => List.mem_singleton.mp among ▸ Option.some.inj found ▸ rfl,
        by decide⟩
    · exact ⟨fun _ given => Option.some.inj given ▸ by decide, fun _ given => (nomatch given),
        fun _ _ _ among => absurd among List.not_mem_nil, by decide⟩
  · exact ⟨by decide, rfl⟩

end Msm8660.Camera
