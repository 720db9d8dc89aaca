import Msm8660.Gps.LocEngNifs

/-!
# The connection that the modem is told

When the framework has opened a data connection, its APN and its bearer reach the modem with the
status of each ATL handle. They are kept by the state machine in between, which may wait, be
asked by more clients and be restarted.

`status_tells_opened` says that whatever happens, a status carries the APN and the bearer that
the framework gave last for this interface, and none if it has given none.
-/

set_option autoImplicit false

namespace Msm8660.Gps

/-- An APN with its bearer. -/
abbrev Connection := Option (List UInt8) × Option ℤ

/-- What the framework has given last for an interface. The last input comes first. -/
def lastOpened (nif : Nif) : List ThreadInput → Connection
  | [] => (none, none)
  | .handle (.atlOpenSuccess agpsType apn length bearerType) _ :: earlier =>
      if answerNif agpsType = nif then (some (apn.take length), some bearerType)
      else lastOpened nif earlier
  | _ :: earlier => lastOpened nif earlier

/-- The messages that set the APN of a machine. -/
def LocEngMsg.opens (nif : Nif) : LocEngMsg → Bool
  | .atlOpenSuccess agpsType _ _ _ => answerNif agpsType = nif
  | _ => false

/-- The machine of an interface is there and sound, with this APN and bearer. -/
def Keeps (nif : Nif) (connection : Connection) (data : LocEngData) : Prop :=
  ∃ m, data.nif nif = some m ∧ Sound nif m ∧ (m.mAPN, m.mBearer) = connection

/-- A status for an ATL handle carries this APN and bearer. -/
def TellsStatus (nif : Nif) (connection : Connection) (calls : List ClientCall) : Prop :=
  ∀ handle isSucc apn bear agpsType, .atlOpenStatus handle isSucc apn bear agpsType ∈ calls →
    (apn, bear) = connection ∧ (agpsType = nif.type ∨ agpsType = agpsTypeInvalid)

/-- So does every status among the effects of a machine. -/
def EffectTells (nif : Nif) (connection : Connection) (effect : Effect) : Prop :=
  ∀ s status calls, effect = .notified s status calls → TellsStatus nif connection calls

/-- So does every status that a handler passes on for a machine. -/
def CallTells (nif : Nif) (connection : Connection) (call : Call) : Prop :=
  ∀ effect, call.effectOn nif = some effect → EffectTells nif connection effect

/-- The calls that leave the APN and the bearer of a machine alone. -/
def KeepsConnection (nif nif' : Nif) (op : AgpsOp) : Prop :=
  Admissible nif' op ∧
    (nif' = nif → (∀ apn len, op ≠ .setAPN apn len) ∧ ∀ bearer, op ≠ .setBearer bearer)

section Machines

variable {nif : Nif} {m m' : AgpsStateMachine} {op : AgpsOp} {effects : List Effect}

/-- What a machine tells is its own APN and bearer. -/
theorem notice_tells (type : m.mType = nif.type) (status : AgpsRsrcStatus) (s : Subscriber) :
    EffectTells nif (m.mAPN, m.mBearer) (notice m status s) := by
  rintro s' status' calls told handle isSucc apn bear agpsType member
  obtain ⟨rfl, rfl, rfl⟩ := Effect.notified.inj told
  cases s <;> cases status <;> simp [Subscriber.handleRsrcStatus] at member
  all_goals
    obtain ⟨-, -, rfl, rfl, rfl⟩ := member
    refine ⟨rfl, ?_⟩
    split
    · exact Or.inr rfl
    · exact Or.inl type

/-- The other effects tell nothing. -/
theorem onRsrcEvent_tells (connection : Connection) (oldState newState : AgpsState)
    (event : AgpsRsrcStatus) :
    EffectTells nif connection (.onRsrcEvent oldState newState event) :=
  fun _ _ _ same => nomatch same

theorem sendRsrcRequest_tells (connection : Connection) (action : AGpsStatusValue)
    (sent : Option AGpsExtStatus) :
    EffectTells nif connection (.sendRsrcRequest action sent) := fun _ _ _ same => nomatch same

/-- **A move tells the APN and the bearer of the machine**, and only two of the moves change
them. -/
theorem Move.tells (move : Move nif m op m' effects) (sound : Sound nif m)
    (apn : ∀ apn len, op ≠ .setAPN apn len) (bearer : ∀ bearer, op ≠ .setBearer bearer) :
    (m'.mAPN, m'.mBearer) = (m.mAPN, m.mBearer) ∧
      ∀ effect ∈ effects, EffectTells nif (m.mAPN, m.mBearer) effect := by
  have told := notice_tells sound.type
  cases move with
  | setAPN name len => exact absurd rfl (apn name len)
  | setBearer value => exact absurd rfl (bearer value)
  | granted state | denied state | forced state =>
      refine ⟨rfl, List.forall_mem_append.mpr ⟨?_, ?_⟩⟩
      · exact List.forall_mem_map.mpr fun s _ => told _ s
      · exact List.forall_mem_singleton.mpr (onRsrcEvent_tells _ _ _ _)
  | _ =>
      refine ⟨rfl, ?_⟩
      simp [told, onRsrcEvent_tells, sendRsrcRequest_tells, releaseRequest]

end Machines

section Handlers

variable {nif : Nif} {connection : Connection} {data : LocEngData}

namespace LocEngData

/-- A call of a machine keeps and tells the connection. -/
theorem callNif_keeps (keeps : Keeps nif connection data) {nif' : Nif} {op : AgpsOp}
    (allowed : KeepsConnection nif nif' op) :
    (data.callNif nif' op).Ensures (Keeps nif connection) (CallTells nif connection) := by
  obtain ⟨m, here, sound, rfl⟩ := keeps
  by_cases same : nif' = nif
  · subst same
    obtain ⟨apn, bearer⟩ := allowed.2 rfl
    have move := sound.move allowed.1
    obtain ⟨kept, told⟩ := move.tells sound apn bearer
    rw [callNif_eq here sound.servicer]
    refine Outcome.Ensures.some ⟨_, nif_setNif .., move.sound sound, kept⟩ fun call member => ?_
    obtain ⟨effect, listed, rfl⟩ := List.mem_map.mp member
    intro effect' same
    simp only [Call.effectOn, if_true, Option.some.injEq] at same
    exact same ▸ told effect listed
  · have quiet : ∀ call ∈ (data.callNif nif' op).2, call.effectOn nif = none := by
      unfold callNif
      split
      · simp [Call.effectOn]
      · dsimp only
        split
        · simp [Call.effectOn]
        · simp [done, Call.effectOn, same]
    constructor
    case every =>
      intro call member effect here
      exact absurd (here.symm.trans (quiet call member)) (Option.some_ne_none effect)
    case post =>
      intro after reached
      unfold callNif at reached
      split at reached
      · cases reached
      · dsimp only at reached
        split at reached
        · cases reached
        · cases reached
          exact ⟨m, (nif_setNif_of_ne data same _).trans here, sound, rfl⟩

/-- What leaves the machines alone tells nothing. -/
theorem frame_keeps {mute : LocMuteSession} {outcome : Handling}
    (keeps : Keeps nif connection data) (frame : Frame data mute True outcome) :
    outcome.Ensures (Keeps nif connection) (CallTells nif connection) := by
  obtain ⟨m, here, sound, same⟩ := keeps
  refine Outcome.Ensures.mono frame
    (fun after framed => ⟨m, (congrFun framed.1 nif).trans here, sound, same⟩)
    fun call quiet effect told => ?_
  exact absurd (told.symm.trans (quiet.1 nif)) (Option.some_ne_none effect)

/-- What is put together of such calls keeps and tells the connection. -/
theorem callsNifs_keeps {outcome : Handling}
    (calls : CallsNifs (KeepsConnection nif) data outcome) (keeps : Keeps nif connection data) :
    outcome.Ensures (Keeps nif connection) (CallTells nif connection) := by
  induction calls with
  | call nif' op allowed => exact callNif_keeps keeps allowed
  | framed frame harmless => exact frame_keeps keeps frame
  | andThen start rest started continued =>
      exact (started keeps).andThen fun after kept => continued after kept

/-- The other messages leave the connection of a machine alone. -/
theorem allowsCalls_of_other {answers : Answers} {msg : LocEngMsg} (other : msg.opens nif = false) :
    AllowsCalls (KeepsConnection nif) answers msg where
  subscribe _ _ serves _ _ := ⟨serves, fun _ => ⟨nofun, nofun⟩⟩
  unsubscribe _ _ serves := ⟨serves, fun _ => ⟨nofun, nofun⟩⟩
  event _ _ := ⟨trivial, fun _ => ⟨nofun, nofun⟩⟩
  drop _ shared := ⟨shared, fun _ => ⟨nofun, nofun⟩⟩
  opens agpsType apn length bearerType same := by
    subst same
    have elsewhere : answerNif agpsType ≠ nif := of_decide_eq_false other
    exact ⟨⟨trivial, fun here => absurd here elsewhere⟩,
      ⟨trivial, fun here => absurd here elsewhere⟩⟩

/-- The two calls that set the connection tell nothing. -/
theorem callNif_setBearer (keeps : Keeps nif connection data) (bearer : ℤ)
    (told : Connection) :
    (data.callNif nif (.setBearer bearer)).Ensures (Keeps nif (connection.1, some bearer))
      (CallTells nif told) := by
  obtain ⟨m, here, sound, rfl⟩ := keeps
  rw [callNif_eq here sound.servicer]
  exact Outcome.Ensures.silent ⟨_, nif_setNif .., sound_step nif m _ sound trivial, rfl⟩

theorem callNif_setAPN (keeps : Keeps nif connection data) (apn : List UInt8) (length : ℕ)
    (told : Connection) :
    (data.callNif nif (.setAPN (some apn) length)).Ensures
      (Keeps nif (some (apn.take length), connection.2)) (CallTells nif told) := by
  obtain ⟨m, here, sound, rfl⟩ := keeps
  rw [callNif_eq here sound.servicer]
  exact Outcome.Ensures.silent ⟨_, nif_setNif .., sound_step nif m _ sound trivial, rfl⟩

/-- `LOC_ENG_MSG_ATL_OPEN_SUCCESS` sets the connection before it is told. -/
theorem atlOpenSuccess_keeps (keeps : Keeps nif connection data) {agpsType : AGpsType}
    (here : answerNif agpsType = nif) (apn : List UInt8) (length : ℕ) (bearerType : ℤ) :
    (data.atlOpenSuccess agpsType apn length bearerType).Ensures
      (Keeps nif (some (apn.take length), some bearerType))
      (CallTells nif (some (apn.take length), some bearerType)) := by
  unfold atlOpenSuccess
  rw [here]
  refine (callNif_setBearer keeps bearerType _).andThen fun data keeps => ?_
  refine (callNif_setAPN keeps apn length _).andThen fun data keeps => ?_
  exact callNif_keeps keeps ⟨trivial, fun _ => ⟨nofun, nofun⟩⟩

/-- **The handler of a message keeps what was opened last, and tells it.** -/
theorem handleMsg_keeps (conf : LocGpsCfg) (nmea : NmeaGenerator) {past : List ThreadInput}
    (keeps : Keeps nif (lastOpened nif past) data) (answers : Answers) (msg : LocEngMsg) :
    (data.handleMsg conf nmea answers msg).Ensures
      (Keeps nif (lastOpened nif (.handle msg answers :: past)))
      (CallTells nif (lastOpened nif (.handle msg answers :: past))) := by
  cases other : msg.opens nif with
  | true =>
      cases msg with
      | atlOpenSuccess agpsType apn length bearerType =>
          have here : answerNif agpsType = nif := of_decide_eq_true other
          simp only [lastOpened, here, if_true]
          exact atlOpenSuccess_keeps keeps here apn length bearerType
      | _ => cases other
  | false =>
      have same : lastOpened nif (.handle msg answers :: past) = lastOpened nif past := by
        cases msg with
        | atlOpenSuccess agpsType apn length bearerType =>
            exact if_neg (of_decide_eq_false other)
        | _ => rfl
      rw [same]
      cases reaches : msg.reachesNif with
      | true =>
          exact callsNifs_keeps (handleMsg_callsNifs conf nmea data (allowsCalls_of_other other)
            reaches) keeps
      | false =>
          exact frame_keeps keeps ((handleMsg_frame conf nmea data answers reaches).mono
            fun _ => trivial)

/-- So does a round of the loop. -/
theorem handle_keeps (conf : LocGpsCfg) (nmea : NmeaGenerator) {past : List ThreadInput}
    (keeps : Keeps nif (lastOpened nif past) data) (answers : Answers) (msg : LocEngMsg) :
    (data.handle conf nmea answers msg).Ensures
      (Keeps nif (lastOpened nif (.handle msg answers :: past)))
      (CallTells nif (lastOpened nif (.handle msg answers :: past))) := by
  unfold handle
  split
  · refine (handleMsg_keeps conf nmea keeps answers msg).andThen fun after kept => ?_
    exact frame_keeps kept (afterMsg_frame (Framed.refl after) answers msg)
  · exact Outcome.Ensures.none fun _ member => absurd member List.not_mem_nil

end LocEngData

/-- And so does the thread. -/
theorem locEngThread_keeps (conf : LocGpsCfg) (nmea : NmeaGenerator) {past : List ThreadInput}
    (keeps : Keeps nif (lastOpened nif past) data) (input : ThreadInput) :
    Outcome.Ensures (Keeps nif (lastOpened nif (input :: past)))
      (CallTells nif (lastOpened nif (input :: past)))
      ((locEngThread conf nmea).step (some data) input) := by
  cases input with
  | handle msg answers => exact LocEngData.handle_keeps conf nmea keeps answers msg
  | niWrite niNotifyCb ni =>
      obtain ⟨m, here, sound, same⟩ := keeps
      refine Outcome.Ensures.silent ⟨m, ?_, sound, same⟩
      cases nif <;> exact here

end Handlers

section Runs

variable {conf : LocGpsCfg} {nmea : NmeaGenerator} {data : LocEngData}

/-- After any run a machine has what the framework has given last. -/
theorem keeps_run (started : data.Started) (nif : Nif) (inputs : List ThreadInput) :
    ∀ after ∈ (locEngThread conf nmea).run (some data) inputs,
      Keeps nif (lastOpened nif inputs.reverse) after := by
  have start : ∀ before ∈ some data, Keeps nif (lastOpened nif []) before := by
    intro before same
    cases same
    exact ⟨_, started.nifs nif, Sound.init nif, rfl⟩
  have kept (state : Option LocEngData) (past : List ThreadInput) (input : ThreadInput)
      (keeps : ∀ before ∈ state, Keeps nif (lastOpened nif past) before) :
      ∀ after ∈ ((locEngThread conf nmea).step state input).1,
        Keeps nif (lastOpened nif (input :: past)) after := by
    cases state with
    | none => exact fun after reached => absurd reached (Option.not_mem_none after)
    | some before => exact (locEngThread_keeps conf nmea (keeps before rfl) input).post
  have run := Machine.run_past kept start inputs
  rwa [List.append_nil] at run

/-- **A status for an ATL handle carries the APN and the bearer that the framework gave last for
the interface**, in every run of the thread. -/
theorem status_tells_opened (started : data.Started) {nif : Nif} {s : Subscriber}
    {status : AgpsRsrcStatus} {calls : List ClientCall} {handle : BitVec 32} {isSucc : Bool}
    {apn : Option (List UInt8)} {bear : Option ℤ} {agpsType : AGpsType} (earlier : List ThreadInput)
    (input : ThreadInput)
    (told : .agps nif (.notified s status calls) ∈
      ((locEngThread conf nmea).step ((locEngThread conf nmea).run (some data) earlier) input).2)
    (carried : .atlOpenStatus handle isSucc apn bear agpsType ∈ calls) :
    (apn, bear) = lastOpened nif (input :: earlier.reverse) ∧
      (agpsType = nif.type ∨ agpsType = agpsTypeInvalid) := by
  have keeps := @keeps_run conf nmea data started nif earlier
  cases reached : (locEngThread conf nmea).run (some data) earlier with
  | none =>
      rw [reached] at told
      exact absurd told List.not_mem_nil
  | some before =>
      rw [reached] at told keeps
      have every := (locEngThread_keeps conf nmea (keeps before rfl) input).every _ told
      exact every _ (by simp [Call.effectOn]) s status calls rfl handle isSucc apn bear agpsType
        carried

theorem status_tells_opened_web :
    ((some [119, 101, 98], some 0) : Connection) =
        lastOpened .agnssNif
          [.handle (.atlOpenSuccess agpsTypeSupl [119, 101, 98] 3 0) .success,
            .handle (.requestAtl 5 agpsTypeSupl) .success] ∧
      (agpsTypeSupl = Nif.agnssNif.type ∨ agpsTypeSupl = agpsTypeInvalid) := by
  have told : .agps .agnssNif (.notified
      (.atl ⟨5, false, List.Vector.replicate 16 0⟩) .rsrcGranted
        [.atlOpenStatus 5 true (some [119, 101, 98]) (some 0) agpsTypeSupl]) ∈
      ((locEngThread locDefaultParameters .silent).step
        ((locEngThread locDefaultParameters .silent).run (some .started)
          [.handle (.requestAtl 5 agpsTypeSupl) .success])
        (.handle (.atlOpenSuccess agpsTypeSupl [119, 101, 98] 3 0) .success)).2 := by
    decide
  exact status_tells_opened LocEngData.started_started _ _ told (List.mem_singleton_self _)

end Runs

end Msm8660.Gps
