import Msm8660.Lib.Machine
import Msm8660.Sensors.AkmSensor

/-!
# What `AkmSensor::readEvents` reports of a stream

A reference takes the input events one at a time: an event of type `EV_REL` is processed, and
a sync event emits the pending sensors that are enabled, in the order of their indices,
disables significant motion behind its event, and clears the mask. It knows neither reads nor
room nor timestamps.

`readEvents` stops where its room ends, also between two events of one sync event, and goes on
there when it is called again. With the mask that it has left, the sync event emits in the
reference just what is still to be emitted (`AkmLoop.Keeps`), so the events of all calls
together are a beginning of those of the reference, and all of them when a call has returned
less than its room (`readEvents_reference`).
-/

set_option autoImplicit false

namespace Msm8660.Sensors

/-- An event without its timestamp. -/
def SensorsEvent.untimed (event : SensorsEvent) : SensorsEvent := { event with timestamp := 0 }

namespace AkmSensor

/-- The driver without timestamps and without what its reader holds. -/
def timeless (akm : AkmSensor) : AkmSensor :=
  { akm with
    mInputReader := .new 32 fun _ => ⟨⟨0, 0⟩, 0, 0, 0⟩
    mPendingEvents := fun j => (akm.mPendingEvents j).untimed }

/-- The driver with no bit of `mPendingMask` set. -/
def clearMask (akm : AkmSensor) : AkmSensor := { akm with mPendingMask := fun _ => false }

end AkmSensor

/-! ## The reference -/

/-- A step of the reference: the driver, the answers that `akm_disable_sensor` has yet to give,
and what is emitted. -/
structure ReferenceStep where
  akm : AkmSensor
  answers : List ℤ
  events : List SensorsEvent

namespace AkmSensor

/-- Whether a sync event emits a sensor. -/
def emits (akm : AkmSensor) (j : AkmIndex) : Bool := akm.mPendingMask j && akm.mEnabled j

/-- A sync event of the reference. -/
def referenceSync (akm : AkmSensor) (answers : List ℤ) : ReferenceStep :=
  let events := (AkmIndex.all.filter akm.emits).map akm.mPendingEvents
  if akm.emits .significantMotion then
    let (after, _, calls) := akm.enable idSm 0 (answers.headD 0)
    ⟨after.clearMask, answers.drop calls.length, events⟩
  else ⟨akm.clearMask, answers, events⟩

/-- One event of the reference. -/
def referenceStep (akm : AkmSensor) (answers : List ℤ) (event : InputEvent) : ReferenceStep :=
  if event.type = evRel then ⟨akm.processEvent event.code event.value, answers, []⟩
  else if event.type = evSyn then akm.referenceSync answers
  else ⟨akm, answers, []⟩

/-- The events that the reference emits of a stream. -/
def reference : List InputEvent → AkmSensor → List ℤ → List SensorsEvent
  | [], _, _ => []
  | event :: rest, akm, answers =>
      let step := akm.referenceStep answers event
      step.events ++ reference rest step.akm step.answers

theorem reference_cons (event : InputEvent) (rest : List InputEvent) (akm : AkmSensor)
    (answers : List ℤ) : reference (event :: rest) akm answers =
      (akm.referenceStep answers event).events ++
        reference rest (akm.referenceStep answers event).akm
          (akm.referenceStep answers event).answers := rfl

end AkmSensor

/-! ## The driver without timestamps -/

section Timeless

open AkmSensor

variable (akm : AkmSensor)

theorem AkmSensor.timeless_setPending (j : AkmIndex) {change : SensorsEvent → SensorsEvent}
    (commutes : ∀ event, (change event).untimed = change event.untimed) :
    (akm.setPending j change).timeless = akm.timeless.setPending j change := by
  have events : (fun k => ((akm.setPending j change).mPendingEvents k).untimed) =
      (akm.timeless.setPending j change).mPendingEvents := by
    funext k
    by_cases same : k = j
    · rw [same]
      simp only [setPending, timeless, Function.update_self]
      exact commutes _
    · simp only [setPending, timeless, Function.update_of_ne same]
  rw [timeless, events]
  rfl

theorem AkmSensor.timeless_notePending (j : AkmIndex) {change : SensorsEvent → SensorsEvent}
    (commutes : ∀ event, (change event).untimed = change event.untimed) :
    (akm.notePending j change).timeless = akm.timeless.notePending j change := by
  unfold notePending
  rw [← akm.timeless_setPending j commutes]
  rfl

theorem AkmSensor.timeless_detectMotion :
    akm.detectMotion.timeless = akm.timeless.detectMotion := by
  have moved : ∀ motion, AkmSensor.timeless { akm with mMotionValue := motion } =
      { akm.timeless with mMotionValue := motion } := fun _ => rfl
  unfold detectMotion
  dsimp only
  split
  · next found =>
      rw [timeless_notePending, moved]
      · exact (if_pos found).symm
      · exact fun _ => rfl
  · next none_ => exact (if_neg none_).symm

/-- `processEvent` looks at no timestamp. -/
theorem AkmSensor.timeless_processEvent (code : ℕ) (value : ℤ) :
    (akm.processEvent code value).timeless = akm.timeless.processEvent code value := by
  have acceleration : ∀ z : ℚ,
      (akm.notePending .accelerometer fun event => { event with z := z }).detectMotion.timeless =
        (akm.timeless.notePending .accelerometer fun event =>
          { event with z := z }).detectMotion := by
    intro z
    rw [timeless_detectMotion, timeless_notePending]
    exact fun _ => rfl
  simp only [processEvent, apply_ite timeless]
  refine ite_congr rfl (fun _ => akm.timeless_notePending _ fun _ => rfl) fun _ => ?_
  refine ite_congr rfl (fun _ => akm.timeless_notePending _ fun _ => rfl) fun _ => ?_
  refine ite_congr rfl (fun _ => acceleration _) fun _ => ?_
  refine ite_congr rfl (fun _ => akm.timeless_notePending _ fun _ => rfl) fun _ => ?_
  refine ite_congr rfl (fun _ => akm.timeless_notePending _ fun _ => rfl) fun _ => ?_
  refine ite_congr rfl (fun _ => akm.timeless_notePending _ fun _ => rfl) fun _ => ?_
  refine ite_congr rfl (fun _ => akm.timeless_notePending _ fun _ => rfl) fun _ => ?_
  refine ite_congr rfl (fun _ => akm.timeless_notePending _ fun _ => rfl) fun _ => ?_
  refine ite_congr rfl (fun _ => akm.timeless_notePending _ fun _ => rfl) fun _ => ?_
  exact ite_congr rfl (fun _ => akm.timeless_notePending _ fun _ => rfl) fun _ => rfl

/-- `enable` looks at the counter and the bits, and changes nothing else. -/
theorem AkmSensor.enable_frame (other : AkmSensor) (count : other.mAccRefCount = akm.mAccRefCount)
    (enabled : other.mEnabled = akm.mEnabled) (handle en library : ℤ) :
    other.enable handle en library =
      ({ other with
        mAccRefCount := (akm.enable handle en library).1.mAccRefCount
        mEnabled := (akm.enable handle en library).1.mEnabled },
        (akm.enable handle en library).2) := by
  have same : other = { other with
      mAccRefCount := akm.mAccRefCount, mEnabled := akm.mEnabled } := by
    rw [← count, ← enabled]
  have shares : ∀ sensorType en, other.shares sensorType en = akm.shares sensorType en := by
    intro sensorType en
    rw [shares, count]
    rfl
  have switched : ∀ what newState, other.switch what newState =
      { other with
        mAccRefCount := (akm.switch what newState).mAccRefCount
        mEnabled := (akm.switch what newState).mEnabled } := by
    intro what newState
    rw [switch, count, enabled]
    rfl
  unfold enable
  cases AkmIndex.ofHandle handle with
  | none => exact congrArg (·, _) same
  | some what =>
      dsimp only
      rw [enabled, shares, switched]
      split
      · split
        · rfl
        · split
          · rfl
          · exact congrArg (·, _) same
      · exact congrArg (·, _) same

end Timeless

/-! ## One sync event -/

section Sync

open AkmSensor

variable {akm : AkmSensor}

/-- The driver with another mask. -/
def AkmSensor.withMask (akm : AkmSensor) (mask : AkmIndex → Bool) : AkmSensor :=
  { akm with mPendingMask := mask }

/-- A sync event that emits the same does the same. -/
theorem AkmSensor.referenceSync_withMask {mask : AkmIndex → Bool}
    (same : (akm.withMask mask).emits = akm.emits) (answers : List ℤ) :
    (akm.withMask mask).referenceSync answers = akm.referenceSync answers := by
  have disabled := akm.enable_frame (akm.withMask mask) rfl rfl idSm 0 (answers.headD 0)
  have before := akm.enable_frame akm rfl rfl idSm 0 (answers.headD 0)
  unfold referenceSync
  rw [same, disabled]
  refine ite_congr rfl (fun _ => ?_) fun _ => rfl
  rw [before]
  rfl

/-- A sync event without pending sensors does nothing. -/
theorem AkmSensor.referenceSync_nothing (nothing : ∀ j, akm.mPendingMask j = false)
    (answers : List ℤ) : akm.referenceSync answers = ⟨akm, answers, []⟩ := by
  have silent : ∀ j, akm.emits j = false := fun j => by rw [emits, nothing, Bool.false_and]
  have clear : akm.clearMask = akm := by
    have mask : akm.mPendingMask = fun _ => false := funext nothing
    rw [clearMask, ← mask]
  have events : AkmIndex.all.filter akm.emits = [] :=
    List.filter_eq_nil_iff.mpr fun j _ => Bool.eq_false_iff.mp (silent j)
  rw [referenceSync, events, silent, clear]
  rfl

/-- The library is asked for nothing, or it gives its answer. -/
theorem AkmSensor.enable_asks (akm : AkmSensor) (handle en library : ℤ) :
    ((akm.enable handle en library).2.2 = [] ∧
        ∀ answer, akm.enable handle en answer = akm.enable handle en library) ∨
      ∃ call, (akm.enable handle en library).2.2 = [call] ∧ call.err = library := by
  unfold enable
  cases AkmIndex.ofHandle handle with
  | none => exact Or.inl ⟨rfl, fun _ => rfl⟩
  | some what =>
      dsimp only
      split
      · split
        · exact Or.inl ⟨rfl, fun _ => rfl⟩
        · split
          · exact Or.inr ⟨_, rfl, rfl⟩
          · exact Or.inr ⟨_, rfl, rfl⟩
      · exact Or.inl ⟨rfl, fun _ => rfl⟩

/-- With the answers that the library has given, the same calls are made. -/
theorem AkmSensor.enable_answer (akm : AkmSensor) (handle en library : ℤ) (more : List ℤ) :
    let given := (akm.enable handle en library).2.2.map LibraryCall.err ++ more
    akm.enable handle en (given.headD 0) = akm.enable handle en library ∧
      given.drop (akm.enable handle en library).2.2.length = more := by
  dsimp only
  rcases akm.enable_asks handle en library with ⟨none_, same⟩ | ⟨call, asked, answer⟩
  · refine ⟨same _, ?_⟩
    rw [none_]
    rfl
  · rw [asked]
    refine ⟨?_, rfl⟩
    rw [List.map_singleton, List.singleton_append, List.headD_cons, answer]

/-- The driver behind an event that has been emitted, or passed over. -/
theorem AkmSensor.timeless_stamped (j : AkmIndex) (now : ℤ) (mask : AkmIndex → Bool) :
    AkmSensor.timeless { akm.setPending j fun event => { event with timestamp := now } with
      mPendingMask := mask } = akm.timeless.withMask mask := by
  have events : (fun k => ((akm.setPending j fun event =>
      { event with timestamp := now }).mPendingEvents k).untimed) =
        akm.timeless.mPendingEvents := by
    funext k
    by_cases same : k = j
    · rw [same]
      simp only [setPending, timeless, Function.update_self]
      rfl
    · simp only [setPending, timeless, Function.update_of_ne same]
  rw [timeless, events]
  rfl

end Sync

section Emit

open AkmSensor

variable {loop middle after : AkmLoop}

/-- What has been emitted in a stretch of the loop, and behind it a sync event of the
reference, are a sync event of the reference before it. -/
def AkmLoop.Emits (loop after : AkmLoop) : Prop :=
  ∃ events calls, after.received = loop.received ++ events ∧ after.calls = loop.calls ++ calls ∧
    ∀ more, loop.sensor.timeless.referenceSync (calls.map LibraryCall.err ++ more) =
      { after.sensor.timeless.referenceSync more with
        events := events.map SensorsEvent.untimed ++
          (after.sensor.timeless.referenceSync more).events }

theorem AkmLoop.Emits.refl (loop : AkmLoop) : loop.Emits loop :=
  ⟨[], [], (List.append_nil _).symm, (List.append_nil _).symm, fun _ => rfl⟩

theorem AkmLoop.Emits.trans (first : loop.Emits middle) (second : middle.Emits after) :
    loop.Emits after := by
  obtain ⟨events, calls, received, made, same⟩ := first
  obtain ⟨events', calls', received', made', same'⟩ := second
  refine ⟨events ++ events', calls ++ calls', ?_, ?_, fun more => ?_⟩
  · rw [received', received, List.append_assoc]
  · rw [made', made, List.append_assoc]
  · rw [List.map_append, List.append_assoc, same, same', List.map_append, List.append_assoc]

section Single

variable {akm : AkmSensor} {j : AkmIndex} {earlier later : List AkmIndex}

/-- The sensors that a sync event emits behind those that are clear. -/
theorem AkmSensor.filter_emits (split : AkmIndex.all = earlier ++ j :: later)
    (clear : ∀ i ∈ earlier, akm.mPendingMask i = false) :
    AkmIndex.all.filter akm.emits = (j :: later).filter akm.emits := by
  have silent : earlier.filter akm.emits = [] := by
    refine List.filter_eq_nil_iff.mpr fun i member => ?_
    rw [emits, clear i member]
    exact Bool.false_ne_true
  rw [split, List.filter_append, silent, List.nil_append]

/-- No sensor comes twice. -/
theorem AkmIndex.not_mem_of_split (split : AkmIndex.all = earlier ++ j :: later) :
    j ∉ earlier ∧ j ∉ later := by
  have once : AkmIndex.all.Nodup := by decide
  rw [split, List.nodup_append] at once
  obtain ⟨-, behind, apart⟩ := once
  exact ⟨fun member => apart j member j (List.mem_cons_self ..) rfl,
    (List.nodup_cons.mp behind).1⟩

/-- **A sync event emits its first sensor and then the rest.** -/
theorem AkmSensor.referenceSync_first (split : AkmIndex.all = earlier ++ j :: later)
    (clear : ∀ i ∈ earlier, akm.mPendingMask i = false) (here : akm.emits j = true)
    (other : j ≠ .significantMotion) (answers : List ℤ) :
    let rest := akm.withMask (Function.update akm.mPendingMask j false)
    akm.referenceSync answers = { rest.referenceSync answers with
      events := akm.mPendingEvents j :: (rest.referenceSync answers).events } := by
  intro rest
  obtain ⟨notEarlier, notLater⟩ := AkmIndex.not_mem_of_split split
  have elsewhere : ∀ i, i ≠ j → rest.emits i = akm.emits i := by
    intro i apart
    have same : rest.mPendingMask i = akm.mPendingMask i := Function.update_of_ne apart _ _
    rw [emits, same]
    rfl
  have gone : rest.emits j = false := by
    have clear : rest.mPendingMask j = false := Function.update_self ..
    rw [emits, clear, Bool.false_and]
  have clear' : ∀ i ∈ earlier, rest.mPendingMask i = false := by
    intro i member
    have apart : i ≠ j := fun same => notEarlier (same ▸ member)
    rw [← clear i member]
    exact Function.update_of_ne apart _ _
  have behind : later.filter rest.emits = later.filter akm.emits :=
    List.filter_congr fun i member => elsewhere i fun same => notLater (same ▸ member)
  have first : AkmIndex.all.filter akm.emits = j :: AkmIndex.all.filter rest.emits := by
    rw [filter_emits split clear, filter_emits split clear', List.filter_cons_of_pos here,
      List.filter_cons_of_neg (Bool.eq_false_iff.mp gone), behind]
  have disabled := akm.enable_frame rest rfl rfl idSm 0 (answers.headD 0)
  have before := akm.enable_frame akm rfl rfl idSm 0 (answers.headD 0)
  unfold referenceSync
  rw [first, elsewhere _ (Ne.symm other), disabled]
  split
  · rw [before]
    rfl
  · rfl

/-- **Significant motion is emitted last**, and the library gives its answer. -/
theorem AkmSensor.referenceSync_motion
    (clear : ∀ i, i ≠ .significantMotion → akm.mPendingMask i = false)
    (here : akm.emits .significantMotion = true) (library : ℤ) (more : List ℤ) :
    akm.referenceSync
        ((akm.enable idSm 0 library).2.2.map LibraryCall.err ++ more) =
      ⟨(akm.enable idSm 0 library).1.clearMask, more, [akm.mPendingEvents .significantMotion]⟩ := by
  obtain ⟨same, left⟩ := akm.enable_answer idSm 0 library more
  have only : AkmIndex.all.filter akm.emits = [.significantMotion] := by
    have split : AkmIndex.all =
        [.accelerometer, .magneticField, .orientation] ++ .significantMotion :: [] := rfl
    rw [filter_emits split, List.filter_cons_of_pos here, List.filter_nil]
    intro i member
    refine clear i ?_
    rintro rfl
    revert member
    decide
  rw [referenceSync, if_pos here, only, same]
  dsimp only
  rw [left]
  rfl

/-- Behind it nothing is left. -/
theorem AkmSensor.referenceSync_last
    (clear : ∀ i, i ≠ .significantMotion → akm.mPendingMask i = false)
    (here : akm.emits .significantMotion = true) (library : ℤ) (more : List ℤ) :
    let rest := akm.withMask (Function.update akm.mPendingMask .significantMotion false)
    akm.referenceSync ((rest.enable idSm 0 library).2.2.map LibraryCall.err ++ more) =
      { (rest.enable idSm 0 library).1.referenceSync more with
        events := [akm.mPendingEvents .significantMotion] ++
          ((rest.enable idSm 0 library).1.referenceSync more).events } := by
  intro rest
  have mask : rest.mPendingMask = fun _ => false := by
    funext i
    have own : rest.mPendingMask .significantMotion = false := by simp [rest, withMask]
    by_cases motion : i = .significantMotion
    · rw [motion, own]
    · exact (Function.update_of_ne motion _ _).trans (clear i motion)
  have disabled := akm.enable_frame rest rfl rfl idSm 0 library
  have before := akm.enable_frame akm rfl rfl idSm 0 library
  have left : (rest.enable idSm 0 library).1.mPendingMask = fun _ => false := by
    rw [AkmSensor.enable_mPendingMask, mask]
  rw [referenceSync_nothing fun j => congrFun left j, disabled]
  dsimp only
  rw [referenceSync_motion clear here library more, before]
  rw [mask]
  rfl

/-- Nothing comes behind significant motion. -/
theorem AkmIndex.last_of_split {earlier later : List AkmIndex}
    (split : AkmIndex.all = earlier ++ .significantMotion :: later) : later = [] := by
  rcases earlier with _ | ⟨_, _ | ⟨_, _ | ⟨_, _ | ⟨_, _⟩⟩⟩⟩ <;> simp_all [AkmIndex.all]

end Single

/-- The disable behind the event of significant motion, without timestamps. -/
theorem AkmSensor.timeless_enable (akm : AkmSensor) (handle en library : ℤ) :
    (akm.enable handle en library).1.timeless = (akm.timeless.enable handle en library).1 ∧
      (akm.enable handle en library).2 = (akm.timeless.enable handle en library).2 := by
  have timed := akm.timeless.enable_frame akm rfl rfl handle en library
  have before := akm.timeless.enable_frame akm.timeless rfl rfl handle en library
  rw [timed]
  refine ⟨?_, rfl⟩
  rw [before]
  rfl

/-- Clearing the bit of a sensor that is not enabled changes nothing of what is emitted. -/
theorem AkmSensor.emits_withMask_disabled {akm : AkmSensor} {j : AkmIndex}
    (disabled : akm.mEnabled j = false) :
    (akm.withMask (Function.update akm.mPendingMask j false)).emits = akm.emits := by
  have enabled : (akm.withMask (Function.update akm.mPendingMask j false)).mEnabled =
      akm.mEnabled := rfl
  funext i
  rw [emits, emits, enabled]
  by_cases same : i = j
  · rw [same, disabled, Bool.and_false, Bool.and_false]
  · have kept : (akm.withMask (Function.update akm.mPendingMask j false)).mPendingMask i =
        akm.mPendingMask i := Function.update_of_ne same _ _
    rw [kept]

/-- Emitting a sensor, when those before it have been. -/
theorem AkmLoop.emits_emit (answers : SyncAnswers) {j : AkmIndex} {earlier later : List AkmIndex}
    (split : AkmIndex.all = earlier ++ j :: later)
    (clear : loop.count ≠ 0 → ∀ i ∈ earlier, loop.sensor.mPendingMask i = false) :
    loop.Emits (loop.emit answers j) := by
  unfold AkmLoop.emit
  split
  · next asked =>
      have clear : ∀ i ∈ earlier, loop.sensor.timeless.mPendingMask i = false := clear asked.1
      generalize stamped : ({ loop.sensor.setPending j fun event =>
          { event with timestamp := answers.now } with
        mPendingMask := Function.update loop.sensor.mPendingMask j false } : AkmSensor) = sensor
      have timeless : sensor.timeless = loop.sensor.timeless.withMask
          (Function.update loop.sensor.timeless.mPendingMask j false) := by
        rw [← stamped]
        exact timeless_stamped j answers.now _
      have event : (sensor.mPendingEvents j).untimed = loop.sensor.timeless.mPendingEvents j :=
        congrFun (congrArg AkmSensor.mPendingEvents timeless) j
      have enabled : sensor.mEnabled = loop.sensor.mEnabled := by
        rw [← stamped]
        rfl
      dsimp only
      split
      · next on =>
          have here : loop.sensor.timeless.emits j = true :=
            Bool.and_eq_true_iff.mpr ⟨asked.2, enabled ▸ on⟩
          split
          · next motion =>
              subst motion
              obtain ⟨disabled, calls⟩ := sensor.timeless_enable idSm 0 answers.library
              have others : ∀ i, i ≠ .significantMotion →
                  loop.sensor.timeless.mPendingMask i = false := by
                intro i apart
                have member := i.mem_all
                rw [split, AkmIndex.last_of_split split, List.mem_append,
                  List.mem_singleton] at member
                exact clear i (member.resolve_right apart)
              rw [timeless] at disabled calls
              refine ⟨[sensor.mPendingEvents .significantMotion], _, rfl, rfl, fun more => ?_⟩
              have made := congrArg Prod.snd calls
              dsimp only
              rw [made, disabled, List.map_singleton, event]
              exact referenceSync_last others here answers.library more
          · next other =>
              refine ⟨[sensor.mPendingEvents j], [], rfl, (List.append_nil _).symm, fun more => ?_⟩
              dsimp only
              rw [timeless, List.map_singleton, event]
              exact referenceSync_first split clear here other more
      · next off =>
          refine ⟨[], [], (List.append_nil _).symm, (List.append_nil _).symm, fun more => ?_⟩
          dsimp only
          rw [timeless]
          have disabled : loop.sensor.timeless.mEnabled j = false :=
            enabled ▸ Bool.eq_false_iff.mpr off
          exact (referenceSync_withMask (emits_withMask_disabled disabled) more).symm
  · exact .refl loop

/-- The `for` loop emits what the reference does, as far as there is room. -/
theorem AkmLoop.emits_emitAll (answers : SyncAnswers) (loop : AkmLoop) :
    loop.Emits (loop.emitAll answers) := by
  have from_ : ∀ earlier later : List AkmIndex, AkmIndex.all = earlier ++ later →
      (earlier.foldl (emit answers) loop).Emits
        (later.foldl (emit answers) (earlier.foldl (emit answers) loop)) := by
    intro earlier later
    induction later generalizing earlier with
    | nil => exact fun _ => .refl _
    | cons j rest ih =>
        intro split
        have visited := loop.emitted answers earlier
        have first : (earlier.foldl (emit answers) loop).Emits
            ((earlier.foldl (emit answers) loop).emit answers j) :=
          emits_emit answers split visited.cleared
        have second := ih (earlier ++ [j]) (by rw [split, List.append_cons])
        rw [List.foldl_append, List.foldl_cons, List.foldl_nil] at second
        exact first.trans second
  exact from_ [] AkmIndex.all rfl

end Emit

/-! ## A stretch of the loop -/

section Keeps

open AkmSensor

variable {loop middle after : AkmLoop}

/-- **What a stretch of the loop has emitted, and behind it the reference of the rest of the
stream**, are the reference of the stream before it, with the answers that the library has
given. -/
def AkmLoop.Keeps (loop : AkmLoop) (delivered : List InputEvent) (after : AkmLoop) : Prop :=
  ∃ events calls, after.received = loop.received ++ events ∧ after.calls = loop.calls ++ calls ∧
    ∀ more later,
      reference (loop.sensor.mInputReader.content ++ (delivered ++ later)) loop.sensor.timeless
          (calls.map LibraryCall.err ++ more) =
        events.map SensorsEvent.untimed ++
          reference (after.sensor.mInputReader.content ++ later) after.sensor.timeless more

theorem AkmLoop.Keeps.refl (loop : AkmLoop) : loop.Keeps [] loop :=
  ⟨[], [], (List.append_nil _).symm, (List.append_nil _).symm, fun _ _ => rfl⟩

theorem AkmLoop.Keeps.trans {delivered delivered' : List InputEvent}
    (first : loop.Keeps delivered middle) (second : middle.Keeps delivered' after) :
    loop.Keeps (delivered ++ delivered') after := by
  obtain ⟨events, calls, received, made, same⟩ := first
  obtain ⟨events', calls', received', made', same'⟩ := second
  refine ⟨events ++ events', calls ++ calls', ?_, ?_, fun more later => ?_⟩
  · rw [received', received, List.append_assoc]
  · rw [made', made, List.append_assoc]
  · rw [List.map_append, List.append_assoc, List.append_assoc, same, same', List.map_append,
      List.append_assoc]

/-- A turn that takes an event which emits nothing. -/
theorem AkmLoop.keeps_silent {event : InputEvent} {rest : List InputEvent} {sensor : AkmSensor}
    (content : loop.sensor.mInputReader.content = event :: rest)
    (left : sensor.mInputReader.content = rest)
    (step : ∀ answers, loop.sensor.timeless.referenceStep answers event =
      ⟨sensor.timeless, answers, []⟩) : loop.Keeps [] { loop with sensor := sensor } := by
  refine ⟨[], [], (List.append_nil _).symm, (List.append_nil _).symm, fun more later => ?_⟩
  rw [content, left, List.cons_append, reference_cons, step]
  rfl

/-- The `for` loop of a sync event, which stays unread. -/
theorem AkmLoop.keeps_sync (answers : SyncAnswers) {event : InputEvent}
    {rest : List InputEvent} (content : loop.sensor.mInputReader.content = event :: rest)
    (sync : event.type = evSyn) : loop.Keeps [] (loop.emitAll answers) := by
  obtain ⟨events, calls, received, made, same⟩ := loop.emits_emitAll answers
  have reader : (loop.emitAll answers).sensor.mInputReader = loop.sensor.mInputReader :=
    (loop.emitted answers AkmIndex.all).reader
  have step : ∀ (akm : AkmSensor) answers,
      akm.referenceStep answers event = akm.referenceSync answers := by
    intro akm answers
    rw [referenceStep, if_neg (by rw [sync]; decide), if_pos sync]
  refine ⟨events, calls, received, made, fun more later => ?_⟩
  rw [reader, content, List.cons_append, List.cons_append, reference_cons, reference_cons, step,
    step, same]
  exact List.append_assoc ..

/-- **The `while` loop keeps the reference.** -/
theorem AkmLoop.keeps_readWhile (fuel : ℕ) (answers : ℕ → SyncAnswers) (loop : AkmLoop)
    (order : loop.sensor.mInputReader.InOrder) : loop.Keeps [] (readWhile fuel answers loop) := by
  induction fuel generalizing answers loop with
  | zero => exact .refl loop
  | succ fuel ih =>
      unfold readWhile
      split
      · exact .refl loop
      · split
        · exact .refl loop
        · next event shown =>
            obtain ⟨content, order'⟩ := InputEventCircularReader.content_eq_cons order shown
            split
            · next relative =>
                have reader : (loop.sensor.processEvent event.code event.value).next.mInputReader =
                    loop.sensor.mInputReader.next := by
                  rw [AkmSensor.next_mInputReader, AkmSensor.processEvent_mInputReader]
                refine (keeps_silent content (by rw [reader]) fun given => ?_).trans
                  (ih _ _ (by rwa [reader]))
                rw [referenceStep, if_pos relative, ← timeless_processEvent]
                rfl
            · next notRelative =>
                split
                · next sync =>
                    dsimp only
                    have emitted := loop.keeps_sync (answers 0) content sync
                    have reader : (loop.emitAll (answers 0)).sensor.mInputReader =
                        loop.sensor.mInputReader :=
                      (loop.emitted (answers 0) AkmIndex.all).reader
                    split
                    · next nothing =>
                        have content' := content
                        rw [← reader] at content' order'
                        refine emitted.trans ((keeps_silent content' rfl fun given => ?_).trans
                          (ih _ _ order'))
                        have clear : ∀ j,
                            (loop.emitAll (answers 0)).sensor.timeless.mPendingMask j = false := by
                          intro j
                          have bit := List.all_eq_true.mp nothing j j.mem_all
                          have mask : (loop.emitAll (answers 0)).sensor.mPendingMask j = false := by
                            simpa using bit
                          exact mask
                        rw [referenceStep, if_neg notRelative, if_pos sync,
                          referenceSync_nothing clear]
                        rfl
                    · exact emitted.trans (ih _ _ (by rwa [reader]))
                · next other =>
                    refine (keeps_silent content rfl fun given => ?_).trans (ih _ _ order')
                    rw [referenceStep, if_neg notRelative, if_neg other]
                    rfl

end Keeps

/-! ## Calls -/

/-- A call of `readEvents`, with the answers to the sync events that it handles. -/
structure AkmCall where
  count : ℤ
  syncs : ℕ → SyncAnswers

/-- The driver in a sequence of calls: what `read` has still to give, the events that have been
returned, and the calls of the library. -/
structure AkmRun where
  akm : AkmSensor
  reads : List ReadResult
  returned : List SensorsEvent
  calls : List LibraryCall

/-- The number of events for which a call had room, and the number that it returned. -/
structure AkmReturn where
  count : ℤ
  nb : ℤ

/-- The calls of `readEvents`, one after the other. -/
def akmReads : Machine AkmRun AkmCall AkmReturn where
  step run call := match run.akm.readEvents call.count ⟨run.reads, 0, call.syncs⟩ with
    | none => (run, [])
    | some (reading, reads, calls) =>
        (⟨reading.sensors, reads, run.returned ++ reading.stored, run.calls ++ calls⟩,
          [⟨call.count, reading.nb⟩])

/-- What has been returned of a stream, and behind it the reference of the rest, are the
reference of the stream. -/
structure AkmRun.Follows (start run : AkmRun) (delivered : List InputEvent) : Prop where
  order : run.akm.mInputReader.InOrder
  taken : start.reads.flatMap ReadResult.delivered =
    delivered ++ run.reads.flatMap ReadResult.delivered
  reference : ∀ more later,
    AkmSensor.reference (start.akm.mInputReader.content ++ (delivered ++ later))
        start.akm.timeless (run.calls.map LibraryCall.err ++ more) =
      run.returned.map SensorsEvent.untimed ++
        AkmSensor.reference (run.akm.mInputReader.content ++ later) run.akm.timeless more

section Calls

open AkmSensor

variable {akm : AkmSensor}

/-- **A call of `readEvents` keeps the reference.** -/
theorem AkmSensor.readEvents_keeps (order : akm.mInputReader.InOrder) {count now : ℤ}
    {reads rest : List ReadResult} {syncs : ℕ → SyncAnswers}
    {reading : Reading AkmSensor SensorsEvent} {calls : List LibraryCall}
    (read : akm.readEvents count ⟨reads, now, syncs⟩ = some (reading, rest, calls)) :
    ∃ delivered, AkmRun.Follows ⟨akm, reads, [], []⟩ ⟨reading.sensors, rest, reading.stored, calls⟩
      delivered := by
  unfold readEvents at read
  split at read
  · cases read
    exact ⟨[], order, rfl, fun _ _ => rfl⟩
  · split at read
    · cases read
    · next mInputReader n left filled =>
        obtain ⟨order', delivered, content, taken, -⟩ :=
          InputEventCircularReader.content_fill order filled
        dsimp only at read
        split at read
        · cases read
          refine ⟨delivered, order', taken, fun more later => ?_⟩
          dsimp only
          rw [content, List.append_assoc]
          rfl
        · cases read
          have ends := AkmLoop.readWhile_ends syncs
            ⟨⟨{ akm with mInputReader := mInputReader }, count, []⟩, []⟩ order'
            (Or.inr (Nat.le_refl _))
          obtain ⟨events, calls, received, made, same⟩ := AkmLoop.keeps_readWhile
            mInputReader.available syncs
            ⟨⟨{ akm with mInputReader := mInputReader }, count, []⟩, []⟩ order'
          refine ⟨delivered, ends.1, taken, fun more later => ?_⟩
          rw [List.nil_append] at received made
          dsimp only at same ⊢
          rw [received, made, ← same, content, List.append_assoc]
          rfl

theorem AkmRun.Follows.trans {start middle after : AkmRun} {delivered delivered' : List InputEvent}
    (first : start.Follows middle delivered)
    (second : AkmRun.Follows ⟨middle.akm, middle.reads, [], []⟩ after delivered') :
    start.Follows ⟨after.akm, after.reads, middle.returned ++ after.returned,
      middle.calls ++ after.calls⟩ (delivered ++ delivered') where
  order := second.order
  taken := by
    have taken := second.taken
    dsimp only at taken
    rw [first.taken, taken, List.append_assoc]
  reference more later := by
    have same := second.reference more later
    dsimp only at same ⊢
    rw [List.map_append, List.append_assoc, List.append_assoc, first.reference, same,
      List.map_append, List.append_assoc]

/-- Every call keeps it. -/
theorem AkmRun.Follows.step {start run : AkmRun} {delivered : List InputEvent}
    (follows : start.Follows run delivered) (call : AkmCall) :
    ∃ delivered', start.Follows (akmReads.step run call).1 delivered' := by
  simp only [akmReads]
  split
  · exact ⟨delivered, follows⟩
  · next reading reads calls read =>
      obtain ⟨delivered', kept⟩ := readEvents_keeps follows.order read
      exact ⟨delivered ++ delivered', follows.trans kept⟩

/-- So does every sequence of calls. -/
theorem akmReads_run (order : akm.mInputReader.InOrder) (reads : List ReadResult)
    (calls : List AkmCall) :
    ∃ delivered, AkmRun.Follows ⟨akm, reads, [], []⟩ (akmReads.run ⟨akm, reads, [], []⟩ calls)
      delivered := by
  have always : ∀ call ∈ calls, (fun _ : AkmCall => True) call := fun _ _ => trivial
  exact @Machine.run_induction _ _ _ akmReads
    (fun run => ∃ delivered, AkmRun.Follows ⟨akm, reads, [], []⟩ run delivered) (fun _ => True)
    (fun _ call ⟨_, follows⟩ _ => follows.step call) ⟨akm, reads, [], []⟩
    ⟨[], order, rfl, fun _ _ => rfl⟩ calls always

/-- A call that returns fewer events than it had room for leaves nothing unread. -/
theorem akmReads_empty {run : AkmRun} (order : run.akm.mInputReader.InOrder) {call : AkmCall}
    (room : 1 ≤ call.count) {returned : AkmReturn}
    (member : returned ∈ (akmReads.step run call).2) (some_ : 0 ≤ returned.nb)
    (fewer : returned.nb < returned.count) :
    (akmReads.step run call).1.akm.mInputReader.content = [] := by
  simp only [akmReads] at member ⊢
  split at member
  · exact absurd member List.not_mem_nil
  · next reading reads calls read =>
      rw [List.mem_singleton.mp member] at some_ fewer
      dsimp only at some_ fewer
      obtain ⟨-, ⟨negative, -⟩ | all | empty⟩ := readEvents_cases order room read
      · omega
      · omega
      · exact empty

/-- **`readEvents` loses, doubles and reorders nothing**, whatever the reads and the rooms of
its calls: the events returned are a beginning of those of the reference for the stream, with
the answers that the library has given, and all of them for what has been read when a call
returns fewer than it had room for. -/
theorem readEvents_reference (order : akm.mInputReader.InOrder) (reads : List ReadResult)
    (calls : List AkmCall) (rooms : ∀ call ∈ calls, 1 ≤ call.count) :
    let start : AkmRun := ⟨akm, reads, [], []⟩
    let run := akmReads.run start calls
    let stream := akm.mInputReader.content ++ reads.flatMap ReadResult.delivered
    (∀ more, run.returned.map SensorsEvent.untimed <+:
      reference stream akm.timeless (run.calls.map LibraryCall.err ++ more)) ∧
    ∀ earlier last, calls = earlier ++ [last] →
      ∀ returned ∈ (akmReads.step (akmReads.run start earlier) last).2,
        0 ≤ returned.nb → returned.nb < returned.count →
        ∃ consumed, stream = consumed ++ run.reads.flatMap ReadResult.delivered ∧
          ∀ more, run.returned.map SensorsEvent.untimed =
            reference consumed akm.timeless (run.calls.map LibraryCall.err ++ more) := by
  intro start run stream
  obtain ⟨delivered, follows⟩ := akmReads_run order reads calls
  have taken : reads.flatMap ReadResult.delivered =
    delivered ++ run.reads.flatMap ReadResult.delivered := follows.taken
  refine ⟨fun more => ?_, ?_⟩
  · have whole := follows.reference more (run.reads.flatMap ReadResult.delivered)
    rw [← taken] at whole
    exact ⟨_, whole.symm⟩
  · intro earlier last split returned member some_ fewer
    obtain ⟨before, reached⟩ := akmReads_run order reads earlier
    have room : 1 ≤ last.count := rooms last (by rw [split]; simp)
    have empty := akmReads_empty reached.order room member some_ fewer
    have same : run = (akmReads.step (akmReads.run start earlier) last).1 := by
      dsimp only [run]
      rw [split, Machine.run_append]
      rfl
    rw [← same] at empty
    refine ⟨akm.mInputReader.content ++ delivered, ?_, fun more => ?_⟩
    · dsimp only [stream]
      rw [taken, List.append_assoc]
    · have whole := follows.reference more []
      have nothing :
          (akmReads.run ⟨akm, reads, [], []⟩ calls).akm.mInputReader.content = [] := empty
      dsimp only at whole
      rw [nothing, List.append_nil, List.nil_append, reference, List.append_nil] at whole
      exact whole.symm

/-- One packet for two sensors, and room for one event at a time. -/
theorem readEvents_reference_cut :
    let akm : AkmSensor := { initial fun _ => ⟨⟨0, 0⟩, 0, 0, 0⟩ with
      mEnabled := fun j => j = .magneticField ∨ j = .orientation }
    let time : Timeval := ⟨0, 0⟩
    let reads : List ReadResult := [.events [⟨time, evRel, eventTypeMagvX, 5⟩,
      ⟨time, evRel, eventTypeYaw, 3⟩, ⟨time, evSyn, 0, 0⟩], .events [], .events []]
    let calls : List AkmCall := [⟨1, fun _ => ⟨7, 0⟩⟩, ⟨1, fun _ => ⟨9, 0⟩⟩, ⟨1, fun _ => ⟨9, 0⟩⟩]
    let run := akmReads.run ⟨akm, reads, [], []⟩ calls
    run.returned.map SensorsEvent.sensor = [idM, idO] ∧
      ∀ more, run.returned.map SensorsEvent.untimed <+:
        reference (akm.mInputReader.content ++ reads.flatMap ReadResult.delivered) akm.timeless
          (run.calls.map LibraryCall.err ++ more) := by
  intro akm time reads calls run
  have order : akm.mInputReader.InOrder := InputEventCircularReader.inOrder_new (by decide) _
  refine ⟨by decide +kernel, ?_⟩
  exact (readEvents_reference order reads calls (by decide)).1

end Calls

end Msm8660.Sensors
