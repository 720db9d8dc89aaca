import Msm8660.Gps.LocEngControl

/-!
# Deleting aiding data

"Aiding data can only be deleted when GPS engine is off": a request adds its mask
to `aiding_data_for_deletion`, and behind every message the loop hands the mask to
the adapter unless the engine is on. So the engine is off when aiding data is
deleted, nothing waits while it is off (`DeletesInTime`), and no bit is lost or
invented on the way from the requests to the adapter (`aidingData_account`).
-/

set_option autoImplicit false

namespace Msm8660.Gps

/-- The aiding data that a message asks to delete. -/
def LocEngMsg.aidingData : LocEngMsg → BitVec 16
  | .deleteAidingData type => type
  | _ => 0

/-- The aiding data that the messages of a run ask to delete. -/
def requestedData : List ThreadInput → BitVec 16
  | [] => 0
  | .handle msg _ :: rest => msg.aidingData ||| requestedData rest
  | .niWrite _ _ :: rest => requestedData rest

/-- The aiding data deleted so far, after one more call. -/
def deletedData (deleted : BitVec 16) : Call → BitVec 16
  | .adapter (.deleteAidingData f) => deleted ||| f
  | _ => deleted

/-- What was deleted and what waits is this mask. -/
def Accounts (mask : BitVec 16) (data : LocEngData) (deleted : BitVec 16) : Prop :=
  deleted ||| data.aidingDataForDeletion = mask

section Handlers

variable {data : LocEngData} {deleted : BitVec 16}

theorem deletedData_of_other {call : Call}
    (other : ∀ mask, call ≠ .adapter (.deleteAidingData mask)) (deleted : BitVec 16) :
    deletedData deleted call = deleted := by
  cases call with
  | adapter inner =>
      cases inner with
      | deleteAidingData f => exact absurd rfl (other f)
      | _ => rfl
  | _ => rfl

namespace LocEngData

/-- A request adds its mask; no handler deletes anything itself. -/
theorem handleMsg_aidingData (conf : LocGpsCfg) (nmea : NmeaGenerator) (data : LocEngData)
    (answers : Answers) (msg : LocEngMsg) :
    (data.handleMsg conf nmea answers msg).Ensures
      (·.aidingDataForDeletion = data.aidingDataForDeletion ||| msg.aidingData)
      fun call => ∀ mask, call ≠ .adapter (.deleteAidingData mask) := by
  have none : data.aidingDataForDeletion ||| 0 = data.aidingDataForDeletion := BitVec.or_zero
  by_cases stop : msg = .stopFix
  · subst stop
    rw [handleMsg]
    split
    · exact Outcome.Ensures.silent none.symm
    · refine Outcome.Ensures.mono (locEngStopHandler_defers ⟨rfl, rfl, rfl, rfl⟩ answers)
        (fun after kept => ?_) fun _ other => other
      exact kept.2.2.2.trans none.symm
  · by_cases deletion : ∃ type, msg = .deleteAidingData type
    · obtain ⟨type, rfl⟩ := deletion
      exact Outcome.Ensures.silent rfl
    · have noMask : msg.aidingData = 0 := by
        cases msg with
        | deleteAidingData type => exact absurd ⟨type, rfl⟩ deletion
        | _ => rfl
      refine Outcome.Ensures.mono (handleMsg_defers conf nmea data answers stop
        fun type same => deletion ⟨type, same⟩) (fun after kept => ?_) fun _ other => other
      rw [noMask, none]
      exact kept.2.2.2

/-- A handler passes the account on, with what its message asks for. -/
theorem handleMsg_accounts (conf : LocGpsCfg) (nmea : NmeaGenerator) {mask : BitVec 16}
    (accounts : Accounts mask data deleted) (answers : Answers) (msg : LocEngMsg) :
    (data.handleMsg conf nmea answers msg).Observed deletedData
      (Accounts (mask ||| msg.aidingData)) deleted := by
  refine Outcome.Observed.of_ensures
    (Outcome.Ensures.mono (handleMsg_aidingData conf nmea data answers msg) (fun _ kept => kept)
      fun call other => deletedData_of_other other) fun after kept => ?_
  rw [Accounts, kept, ← BitVec.or_assoc, accounts]

/-- A stop deletes nothing. -/
theorem stopCalls_deletedData (data : LocEngData) (answers : Answers) (deleted : BitVec 16) :
    (data.stopCalls answers).foldl deletedData deleted = deleted := by
  unfold stopCalls
  split <;> rfl

/-- What the loop deletes no longer waits. -/
theorem afterMsg_accounts {mask : BitVec 16} (accounts : Accounts mask data deleted)
    (answers : Answers) (msg : LocEngMsg) :
    (data.afterMsg answers msg).Observed deletedData (Accounts mask) deleted := by
  have stops : (if data.stopsAfter msg then data.stopCalls answers else []).foldl deletedData
      deleted = deleted := by
    split
    · exact stopCalls_deletedData data answers deleted
    · rfl
  rw [afterMsg_eq]
  refine Outcome.Observed.some ?_
  rw [List.foldl_append, stops]
  cases data.deletesAfter with
  | true =>
      change deleted ||| data.aidingDataForDeletion ||| 0 = mask
      exact BitVec.or_zero.trans accounts
  | false => exact accounts

theorem handle_accounts (conf : LocGpsCfg) (nmea : NmeaGenerator) {mask : BitVec 16}
    (accounts : Accounts mask data deleted) (answers : Answers) (msg : LocEngMsg) :
    (data.handle conf nmea answers msg).Observed deletedData
      (Accounts (mask ||| msg.aidingData)) deleted := by
  unfold handle
  split
  · exact (handleMsg_accounts conf nmea accounts answers msg).andThen
      fun after seen accounts => afterMsg_accounts accounts answers msg
  · intro after reached
    exact absurd reached (Option.not_mem_none after)

/-- Behind a message, what waits does so because the engine is on. -/
theorem afterMsg_waits (data : LocEngData) (answers : Answers) (msg : LocEngMsg) :
    ∀ after ∈ (data.afterMsg answers msg).1, after.aidingDataForDeletion ≠ 0 →
      after.engineStatus = .gpsStatusEngineOn := by
  intro after reached waits
  rw [afterMsg_eq] at reached
  cases reached
  have waits : (if data.deletesAfter then 0 else data.aidingDataForDeletion) ≠ 0 := waits
  by_contra off
  have off : data.engineStatus ≠ .gpsStatusEngineOn := off
  split at waits
  · exact absurd rfl waits
  · next kept =>
      refine absurd waits ?_
      simpa [deletesAfter, off] using kept

/-- The loop deletes only while the engine is not on. -/
theorem afterMsg_deletes (data : LocEngData) (answers : Answers) (msg : LocEngMsg)
    {mask : BitVec 16}
    (deletes : .adapter (.deleteAidingData mask) ∈ (data.afterMsg answers msg).2) :
    ∃ after ∈ (data.afterMsg answers msg).1, after.engineStatus ≠ .gpsStatusEngineOn := by
  rcases mem_afterMsg deletes with stop | ⟨-, due⟩
  · rcases mem_stopCalls stop with same | same <;> cases same
  · rw [afterMsg_eq]
    refine ⟨_, rfl, ?_⟩
    have off : data.engineStatus ≠ .gpsStatusEngineOn ∧ data.aidingDataForDeletion ≠ 0 := by
      simpa [deletesAfter] using due
    exact off.1

theorem handle_waits (conf : LocGpsCfg) (nmea : NmeaGenerator) (data : LocEngData)
    (answers : Answers) (msg : LocEngMsg) :
    ∀ after ∈ (data.handle conf nmea answers msg).1, after.aidingDataForDeletion ≠ 0 →
      after.engineStatus = .gpsStatusEngineOn := by
  intro final reached
  unfold handle at reached
  split at reached
  · obtain ⟨after, -, last⟩ := Outcome.exists_of_mem_andThen reached
    exact after.afterMsg_waits answers msg final last
  · exact absurd reached (Option.not_mem_none final)

theorem handle_deletes (conf : LocGpsCfg) (nmea : NmeaGenerator) (data : LocEngData)
    (answers : Answers) (msg : LocEngMsg) {mask : BitVec 16}
    (deletes : .adapter (.deleteAidingData mask) ∈ (data.handle conf nmea answers msg).2) :
    ∃ after ∈ (data.handle conf nmea answers msg).1,
      after.engineStatus ≠ .gpsStatusEngineOn := by
  unfold handle at deletes ⊢
  split at deletes
  · next alive =>
      rw [if_pos alive]
      rcases Outcome.emitted_of_andThen deletes with early | ⟨after, handled, late⟩
      · exact absurd rfl ((data.handleMsg_aidingData conf nmea answers msg).every _ early mask)
      · obtain ⟨final, reached, off⟩ := after.afterMsg_deletes answers msg late
        exact ⟨final, Outcome.mem_andThen handled reached, off⟩
  · exact absurd deletes List.not_mem_nil

end LocEngData

/-- Aiding data is deleted in a step only if the engine is not on after it, and
after a message aiding data waits only if it is. -/
structure DeletesInTime (taken : Machine.Step (Option LocEngData) ThreadInput Call) : Prop where
  deletes : ∀ mask, .adapter (.deleteAidingData mask) ∈ taken.outputs →
    ∃ after ∈ taken.after, after.engineStatus ≠ .gpsStatusEngineOn
  waits : ∀ msg answers, taken.input = .handle msg answers → ∀ after ∈ taken.after,
    after.aidingDataForDeletion ≠ 0 → after.engineStatus = .gpsStatusEngineOn

/-! ## Runs -/

variable {conf : LocGpsCfg} {nmea : NmeaGenerator}

theorem deletesInTime (state : Option LocEngData) (input : ThreadInput) :
    DeletesInTime ((locEngThread conf nmea).stepOn state input) := by
  cases state with
  | none =>
      refine ⟨fun mask deletes => absurd deletes List.not_mem_nil, fun _ _ _ after reached => ?_⟩
      exact absurd reached (Option.not_mem_none after)
  | some data =>
      cases input with
      | niWrite niNotifyCb ni =>
          refine ⟨fun mask deletes => absurd deletes List.not_mem_nil, fun msg answers same => ?_⟩
          cases same
      | handle msg answers =>
          exact ⟨fun mask deletes => data.handle_deletes conf nmea answers msg deletes,
            fun _ _ _ => data.handle_waits conf nmea answers msg⟩

/-- **The account of a run**: what was deleted together with what waits is what
waited at first together with what was asked for. -/
theorem accounts_run {mask : BitVec 16} (accounts : Accounts mask data deleted)
    (inputs : List ThreadInput) :
    ∀ final ∈ (locEngThread conf nmea).run (some data) inputs,
      Accounts (mask ||| requestedData inputs) final
        (((locEngThread conf nmea).outputs (some data) inputs).foldl deletedData deleted) := by
  intro final reached
  induction inputs generalizing mask data deleted with
  | nil =>
      cases reached
      exact accounts.trans BitVec.or_zero.symm
  | cons input rest ih =>
      rw [Machine.run_cons] at reached
      rw [Machine.outputs_cons, List.foldl_append]
      cases next : ((locEngThread conf nmea).step (some data) input).1 with
      | none =>
          rw [next, locEngThread_over] at reached
          exact absurd reached (Option.not_mem_none final)
      | some after =>
          rw [next] at reached
          cases input with
          | niWrite niNotifyCb ni =>
              cases next
              exact ih (by exact accounts) reached
          | handle msg answers =>
              have kept := data.handle_accounts conf nmea accounts answers msg after next
              have later := ih kept reached
              rwa [BitVec.or_assoc] at later

end Handlers

/-- **Deletions of aiding data are deferred while the engine is on, and none is lost
or invented**: every step of the thread deletes in time, and in every state that it
reaches, the masks deleted so far and the mask that waits are the masks asked for,
together with the one that waited at first. -/
theorem aidingData_account (conf : LocGpsCfg) (nmea : NmeaGenerator) (data : LocEngData)
    (inputs : List ThreadInput) :
    (∀ taken ∈ (locEngThread conf nmea).steps (some data) inputs, DeletesInTime taken) ∧
    ∀ final ∈ (locEngThread conf nmea).run (some data) inputs,
      ((locEngThread conf nmea).outputs (some data) inputs).foldl deletedData 0 |||
          final.aidingDataForDeletion =
        data.aidingDataForDeletion ||| requestedData inputs := by
  constructor
  · intro taken member
    obtain ⟨earlier, input, later, -, rfl⟩ := Machine.mem_steps.mp member
    exact deletesInTime _ input
  · exact accounts_run BitVec.zero_or inputs

end Msm8660.Gps
