import Mathlib.Order.Bounds.Basic
import Msm8660.Lib.Machine
import Msm8660.Sensors.AkmSensor

/-!
# The delays of the AKM driver

`setDelay` is to note the delay of a sensor in its slot of `mDelays`, and `update_delay` passes
the shortest delay of the enabled sensors to the device. But the `switch` of `setDelay` gives
no value to `what`, which stays -1: every delay is stored in the word in front of the array,
which is one of the pending event of significant motion, and no slot is ever written
(`mDelays_run`). So the sequences of calls that keep their delays are those that set none
(`delaysKept_iff`), and what the device gets is the shortest of what the memory held when the
driver was built (`ioctl_run`). The shortest delay is also cut to 16 bits on its way
(`delay_eq_iff`).
-/

set_option autoImplicit false

namespace Msm8660.Sensors

/-- The index of a sensor in the arrays. -/
def AkmIndex.index : AkmIndex → ℕ
  | .accelerometer => 0
  | .magneticField => 1
  | .orientation => 2
  | .significantMotion => 3

/-- The driver with the words of eight bytes from `mDelays` on. Those in front of it are parts
of `mPendingEvents`. The constructor writes none of the array. -/
structure AkmDelays where
  akm : AkmSensor
  mDelays : ℤ → ℕ

/-- What a call does beside its result: `mDelays[index] = ns`, and `ECS_IOCTL_APP_SET_DELAY`. -/
inductive DelayEffect where
  | stored (index : ℤ) (ns : ℕ)
  | ioctl (delay : ℤ)
deriving DecidableEq, Repr

namespace AkmDelays

/-- The loop of `update_delay`. -/
def wanted (delays : AkmDelays) : ℕ :=
  AkmIndex.all.foldl (fun wanted j =>
    if delays.akm.mEnabled j then
      if wanted < delays.mDelays j.index then wanted else delays.mDelays j.index
    else wanted) 18446744073709551615

/-- "short delay = int64_t(wanted) / 1000000". -/
def delay (wanted : ℕ) : ℤ :=
  (((wanted : ℤ).bmod 18446744073709551616).tdiv 1000000).bmod 65536

/-- `AkmSensor::update_delay`, with the error of the `ioctl`, 0 for none. -/
def updateDelay (delays : AkmDelays) (errno : ℤ) : ℤ × List DelayEffect :=
  if AkmIndex.all.any delays.akm.mEnabled then (-errno, [.ioctl (delay delays.wanted)]) else (0, [])

/-- `AkmSensor::setDelay`. Nothing changes `what`. -/
def setDelay (delays : AkmDelays) (handle ns errno : ℤ) : AkmDelays × ℤ × List DelayEffect :=
  let what : ℤ := -1
  if ns < 0 then (delays, -einval, [])
  else match AkmIndex.ofHandle handle with
    | none => (delays, -einval, [])
    | some .significantMotion => (delays, 0, [])
    | some _ =>
        let delays := { delays with mDelays := Function.update delays.mDelays what ns.toNat }
        let (err, effects) := delays.updateDelay errno
        (delays, err, .stored what ns.toNat :: effects)

end AkmDelays

/-- A call of `enable` or of `setDelay`, with the result of the library or the error of the
`ioctl`. -/
inductive DelayOp where
  | enable (handle en library : ℤ)
  | setDelay (handle ns errno : ℤ)

/-- The driver with its delays. -/
def delayDriver : Machine AkmDelays DelayOp DelayEffect where
  step delays op := match op with
    | .enable handle en library =>
        ({ delays with akm := (delays.akm.enable handle en library).1 }, [])
    | .setDelay handle ns errno =>
        ((delays.setDelay handle ns errno).1, (delays.setDelay handle ns errno).2.2)

/-- The sensor for which an operation sets a delay, and the delay, which is an `int64_t`. -/
def DelayOp.Sets (op : DelayOp) (j : AkmIndex) (delay : ℕ) : Prop :=
  ∃ handle ns errno, op = .setDelay handle ns errno ∧ AkmIndex.ofHandle handle = some j ∧
    j ≠ .significantMotion ∧ 0 ≤ ns ∧ ns < 9223372036854775808 ∧ delay = ns.toNat

/-- The delay that these operations have set last for a sensor. -/
def LastDelay (ops : List DelayOp) (j : AkmIndex) (delay : ℕ) : Prop :=
  ∃ earlier op later, ops = earlier ++ op :: later ∧ op.Sets j delay ∧
    ∀ other ∈ later, ∀ delay', ¬ other.Sets j delay'

/-- What a call that sets a delay is to do, after the operations before it. -/
structure KeepsDelay (taken : Machine.Step AkmDelays DelayOp DelayEffect)
    (earlier : List DelayOp) (j : AkmIndex) (delay : ℕ) : Prop where
  stored : ∀ (index : ℤ) (value : ℕ), .stored index value ∈ taken.outputs ↔
    index = j.index ∧ value = delay
  slots : taken.after.mDelays = Function.update taken.before.mDelays j.index delay
  events : taken.after.akm = taken.before.akm
  fastest : ∀ passed : ℤ, .ioctl passed ∈ taken.outputs →
    ∃ wanted : ℕ, IsLeast {ns | ∃ k, taken.before.akm.mEnabled k = true ∧
        LastDelay (earlier ++ [taken.input]) k ns} wanted ∧ passed = wanted / 1000000

/-- Every call that sets a delay in a sequence of operations does what it is to do. -/
def DelaysKept (start : AkmDelays) (ops : List DelayOp) : Prop :=
  ∀ earlier op later j delay, ops = earlier ++ op :: later → op.Sets j delay →
    KeepsDelay (delayDriver.stepOn (delayDriver.run start earlier) op) earlier j delay

/-! ## Where the delays are stored -/

section Stored

variable (delays : AkmDelays)

/-- A call that sets a delay stores it in front of the array. -/
theorem DelayOp.Sets.stored {op : DelayOp} {j : AkmIndex} {delay : ℕ} (sets : op.Sets j delay) :
    .stored (-1) delay ∈ (delayDriver.step delays op).2 := by
  obtain ⟨handle, ns, errno, rfl, known, other, nonneg, -, rfl⟩ := sets
  have step : (delayDriver.step delays (.setDelay handle ns errno)).2 =
      (delays.setDelay handle ns errno).2.2 := rfl
  rw [step, AkmDelays.setDelay]
  dsimp only
  rw [if_neg (by omega), known]
  cases j with
  | significantMotion => exact absurd rfl other
  | accelerometer => exact List.mem_cons_self ..
  | magneticField => exact List.mem_cons_self ..
  | orientation => exact List.mem_cons_self ..

/-- No operation writes a slot of the array, or any word but the one in front of it. -/
theorem mDelays_step (op : DelayOp) {index : ℤ} (other : index ≠ -1) :
    (delayDriver.step delays op).1.mDelays index = delays.mDelays index := by
  cases op with
  | enable handle en library => rfl
  | setDelay handle ns errno =>
      have step : (delayDriver.step delays (.setDelay handle ns errno)).1 =
          (delays.setDelay handle ns errno).1 := rfl
      rw [step, AkmDelays.setDelay]
      dsimp only
      split
      · rfl
      · split
        · rfl
        · rfl
        · exact Function.update_of_ne other _ _

/-- **No sequence of calls writes a slot of the array.** -/
theorem mDelays_run (ops : List DelayOp) {index : ℤ} (other : index ≠ -1) :
    (delayDriver.run delays ops).mDelays index = delays.mDelays index := by
  induction ops generalizing delays with
  | nil => rfl
  | cons op rest ih => rw [Machine.run_cons, ih, mDelays_step delays op other]

end Stored

/-- **A sequence of calls keeps its delays exactly if it sets none.** -/
theorem delaysKept_iff (start : AkmDelays) (ops : List DelayOp) :
    DelaysKept start ops ↔ ∀ op ∈ ops, ∀ j delay, ¬ op.Sets j delay := by
  constructor
  · intro kept op member j delay sets
    obtain ⟨earlier, later, split⟩ := List.append_of_mem member
    have keeps := kept earlier op later j delay split sets
    obtain ⟨inside, -⟩ := (keeps.stored (-1) delay).mp (sets.stored _)
    omega
  · intro none_ earlier op later j delay split sets
    refine absurd sets (none_ op ?_ j delay)
    rw [split]
    exact List.mem_append_right _ (List.mem_cons_self ..)

/-- **A delay of one second for the accelerometer** is stored in front of the array. -/
theorem not_delaysKept : ¬ DelaysKept ⟨.initial fun _ => ⟨⟨0, 0⟩, 0, 0, 0⟩, fun _ => 0⟩
    [.setDelay idA 1000000000 0] := by
  intro kept
  have sets : (DelayOp.setDelay idA 1000000000 0).Sets .accelerometer 1000000000 :=
    ⟨idA, 1000000000, 0, rfl, rfl, nofun, by decide, by decide, rfl⟩
  have keeps := kept [] _ [] .accelerometer 1000000000 rfl sets
  have shown := sets.stored ⟨.initial fun _ => ⟨⟨0, 0⟩, 0, 0, 0⟩, fun _ => 0⟩
  obtain ⟨inside, -⟩ := (keeps.stored (-1) 1000000000).mp shown
  cases inside

/-! ## What the device gets -/

section Wanted

/-- A shortest value among a start and the slots of what is enabled. -/
structure Shortest (enabled : AkmIndex → Bool) (slot : AkmIndex → ℕ) (start : ℕ)
    (indices : List AkmIndex) (wanted : ℕ) : Prop where
  below : wanted ≤ start
  slots : ∀ j ∈ indices, enabled j = true → wanted ≤ slot j
  found : wanted = start ∨ ∃ j ∈ indices, enabled j = true ∧ slot j = wanted

/-- The loop of `update_delay` finds it. -/
theorem shortest_foldl (enabled : AkmIndex → Bool) (slot : AkmIndex → ℕ) (start : ℕ)
    (indices : List AkmIndex) :
    Shortest enabled slot start indices (indices.foldl (fun wanted j =>
      if enabled j then if wanted < slot j then wanted else slot j else wanted) start) := by
  induction indices generalizing start with
  | nil => exact ⟨Nat.le_refl _, fun _ member => absurd member List.not_mem_nil, Or.inl rfl⟩
  | cons j rest ih =>
      rw [List.foldl_cons]
      generalize next : (if enabled j then if start < slot j then start else slot j
        else start) = shorter
      have later := ih shorter
      have below : shorter ≤ start := by
        rw [← next]
        split
        · split <;> omega
        · exact Nat.le_refl _
      refine ⟨Nat.le_trans later.below below, ?_, ?_⟩
      · intro k member on
        rcases List.mem_cons.mp member with rfl | behind
        · rw [if_pos on] at next
          refine Nat.le_trans later.below ?_
          split at next <;> omega
        · exact later.slots k behind on
      · rcases later.found with same | ⟨k, member, on, same⟩
        · rw [same, ← next]
          split
          · next on =>
              split
              · exact Or.inl rfl
              · exact Or.inr ⟨j, List.mem_cons_self .., on, rfl⟩
          · exact Or.inl rfl
        · exact Or.inr ⟨k, List.mem_cons_of_mem _ member, on, same⟩

variable {delays : AkmDelays}

/-- **`update_delay` finds the shortest slot of the enabled sensors.** -/
theorem isLeast_wanted (asked : AkmIndex.all.any delays.akm.mEnabled = true)
    (words : ∀ j : AkmIndex, delays.mDelays j.index < 18446744073709551616) :
    IsLeast {ns | ∃ j : AkmIndex, delays.akm.mEnabled j = true ∧ delays.mDelays j.index = ns}
      delays.wanted := by
  have shortest := shortest_foldl delays.akm.mEnabled (fun j => delays.mDelays j.index)
    18446744073709551615 AkmIndex.all
  obtain ⟨k, -, on⟩ := List.any_eq_true.mp asked
  constructor
  · rcases shortest.found with start | ⟨j, -, enabled, same⟩
    · refine ⟨k, on, ?_⟩
      have least := shortest.slots k k.mem_all on
      have bound := words k
      have same : delays.wanted = 18446744073709551615 := start
      rw [same]
      omega
    · exact ⟨j, enabled, same⟩
  · rintro ns ⟨j, enabled, rfl⟩
    exact shortest.slots j j.mem_all enabled

/-- **The device gets it in milliseconds exactly if these fit into 15 bits.** -/
theorem delay_eq_iff {wanted : ℕ} (word : wanted < 18446744073709551616) :
    AkmDelays.delay wanted = (wanted : ℤ) / 1000000 ↔ wanted < 32768 * 1000000 := by
  constructor
  · intro same
    have bound : AkmDelays.delay wanted < 32768 := Int.bmod_lt (by omega)
    omega
  · intro short
    have nonneg : (0 : ℤ) ≤ wanted := Int.natCast_nonneg _
    have word : (wanted : ℤ).bmod 18446744073709551616 = wanted :=
      Int.bmod_eq_of_le (by omega) (by omega)
    unfold AkmDelays.delay
    rw [word, Int.tdiv_eq_ediv_of_nonneg nonneg]
    exact Int.bmod_eq_of_le (by omega) (by omega)

end Wanted

/-- What a call passes to the device, it passes of the words behind its own store. -/
theorem ioctl_step {delays : AkmDelays} {op : DelayOp} {passed : ℤ}
    (shown : .ioctl passed ∈ (delayDriver.step delays op).2) :
    ∃ after : AkmDelays, after.akm = delays.akm ∧
      (∀ j : AkmIndex, after.mDelays j.index = delays.mDelays j.index) ∧
      AkmIndex.all.any after.akm.mEnabled = true ∧
      passed = AkmDelays.delay after.wanted := by
  cases op with
  | enable handle en library => exact absurd shown List.not_mem_nil
  | setDelay handle ns errno =>
      have step : (delayDriver.step delays (.setDelay handle ns errno)).2 =
          (delays.setDelay handle ns errno).2.2 := rfl
      rw [step, AkmDelays.setDelay] at shown
      dsimp only at shown
      split at shown
      · exact absurd shown List.not_mem_nil
      · split at shown
        · exact absurd shown List.not_mem_nil
        · exact absurd shown List.not_mem_nil
        · refine ⟨{ delays with mDelays := Function.update delays.mDelays (-1) ns.toNat }, rfl,
            ?_, ?_⟩
          · intro j
            have other : (j.index : ℤ) ≠ -1 := by omega
            exact Function.update_of_ne other ns.toNat delays.mDelays
          · rw [AkmDelays.updateDelay] at shown
            split at shown
            · next asked =>
                refine ⟨asked, ?_⟩
                simpa using shown
            · simp at shown

/-- **What the device gets is the shortest slot that the memory held at first**, whatever
delays have been set. -/
theorem ioctl_run {start : AkmDelays}
    (words : ∀ j : AkmIndex, start.mDelays j.index < 18446744073709551616)
    (earlier : List DelayOp) (op : DelayOp) {passed : ℤ}
    (shown : .ioctl passed ∈ (delayDriver.step (delayDriver.run start earlier) op).2) :
    ∃ wanted : ℕ, IsLeast {ns | ∃ j : AkmIndex,
        (delayDriver.run start earlier).akm.mEnabled j = true ∧ start.mDelays j.index = ns} wanted ∧
      passed = AkmDelays.delay wanted := by
  obtain ⟨after, akm, slots, asked, same⟩ := ioctl_step shown
  have kept : ∀ j : AkmIndex, after.mDelays j.index = start.mDelays j.index := by
    intro j
    rw [slots, mDelays_run start earlier (by omega)]
  have words' : ∀ j : AkmIndex, after.mDelays j.index < 18446744073709551616 := by
    simpa only [kept] using words
  have least := isLeast_wanted asked words'
  simp only [kept, akm] at least
  exact ⟨after.wanted, least, same⟩

end Msm8660.Sensors
