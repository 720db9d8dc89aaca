import Msm8660.Gps.AgpsInvariant
import Msm8660.Gps.LocEngNifs

/-!
# Answers of the framework

The functions of `AGpsInterface` through which the framework answers a request
for a data connection. They do not say which request they answer: every one of
them names `AGPS_TYPE_SUPL`, and the thread dispatches the message that it queues
by this type.

So an answer reaches the machine that asked exactly when that machine is
`agnss_nif` and a message is queued at all (`answerReaches_iff`).
-/

set_option autoImplicit false

namespace Msm8660.Gps

/-- `AGPS_APN_BEARER_IPV4`. -/
def agpsApnBearerIpv4 : ℤ := 0

/-- `MAX_APN_LEN`. -/
def maxApnLen : ℕ := 100

/-- The type of an answer as an `AGpsStatusValue`, which has 16 bits and no
sign. -/
def AGpsType.toStatusValue (agpsType : AGpsType) : AGpsType := agpsType % 0x10000

namespace LocEngData

/-! ## The interface -/

/-- `loc_eng_agps_open`: the result and the messages queued. -/
def locEngAgpsOpen (data : LocEngData) (agpsType : AGpsType) (apn : Option (List UInt8))
    (bearerType : ℤ) : ℤ × List LocEngMsg :=
  if data.context && data.agpsStatusCb then
    match apn with
    | none => (0, [])
    | some name =>
        let apnLen := min name.length maxApnLen
        (0, [.atlOpenSuccess agpsType.toStatusValue (name.take apnLen) apnLen bearerType])
  else (-1, [])

/-- `loc_eng_agps_closed`. -/
def locEngAgpsClosed (data : LocEngData) (agpsType : AGpsType) : ℤ × List LocEngMsg :=
  if data.context && data.agpsStatusCb then (0, [.atlClosed agpsType.toStatusValue]) else (-1, [])

/-- `loc_eng_agps_open_failed`. -/
def locEngAgpsOpenFailed (data : LocEngData) (agpsType : AGpsType) : ℤ × List LocEngMsg :=
  if data.context && data.agpsStatusCb then (0, [.atlOpenFailed agpsType.toStatusValue])
  else (-1, [])

/-- `loc_agps_open`. -/
def locAgpsOpen (data : LocEngData) (apn : Option (List UInt8)) : ℤ × List LocEngMsg :=
  data.locEngAgpsOpen agpsTypeSupl apn agpsApnBearerIpv4

/-- `loc_agps_closed`. -/
def locAgpsClosed (data : LocEngData) : ℤ × List LocEngMsg := data.locEngAgpsClosed agpsTypeSupl

/-- `loc_agps_open_failed`. -/
def locAgpsOpenFailed (data : LocEngData) : ℤ × List LocEngMsg :=
  data.locEngAgpsOpenFailed agpsTypeSupl

end LocEngData

/-- The calls of `AGpsInterface` that answer a request. -/
inductive AgpsAnswer where
  | agpsOpen (apn : Option (List UInt8))
  | agpsClosed
  | agpsOpenFailed
deriving DecidableEq

/-- The messages that an answer queues. -/
def AgpsAnswer.queued (data : LocEngData) : AgpsAnswer → List LocEngMsg
  | .agpsOpen apn => (data.locAgpsOpen apn).2
  | .agpsClosed => data.locAgpsClosed.2
  | .agpsOpenFailed => data.locAgpsOpenFailed.2

/-- What an answer tells the machine that asked. -/
def AgpsAnswer.event : AgpsAnswer → AgpsRsrcStatus
  | .agpsOpen _ => .rsrcGranted
  | .agpsClosed => .rsrcReleased
  | .agpsOpenFailed => .rsrcDenied

/-! ## Dispatching -/

/-- The machine whose state handles an event in a call, with the event. -/
def Call.dispatched : Call → Option (Nif × AgpsRsrcStatus)
  | .agps nif (.onRsrcEvent _ _ event) => some (nif, event)
  | _ => none

/-- The machines whose states have handled an event, in this order, each with
its event. -/
def dispatchedTo (calls : List Call) : List (Nif × AgpsRsrcStatus) :=
  calls.filterMap Call.dispatched

section Dispatching

variable {conf : LocGpsCfg} {nmea : NmeaGenerator} {data : LocEngData} {nif : Nif}

theorem dispatchedTo_notices (m : AgpsStateMachine) (status : AgpsRsrcStatus)
    (list : List Subscriber) :
    dispatchedTo ((list.map (notice m status)).map (Call.agps nif)) = [] := by
  apply List.filterMap_eq_nil_iff.mpr
  intro call member
  obtain ⟨effect, inNotices, rfl⟩ := List.mem_map.mp member
  obtain ⟨s, -, rfl⟩ := List.mem_map.mp inNotices
  rfl

/-- One state handles an answer, whatever it does with it. -/
theorem Move.dispatched_once {m m' : AgpsStateMachine} {status : AgpsRsrcStatus}
    {effects : List Effect} (move : Move nif m (.onRsrcEvent status) m' effects)
    (answer : status = .rsrcGranted ∨ status = .rsrcReleased ∨ status = .rsrcDenied) :
    dispatchedTo (effects.map (Call.agps nif)) = [(nif, status)] := by
  have told : ∀ status oldState newState, dispatchedTo ((m.mSubscribers.map (notice m status) ++
      [Effect.onRsrcEvent oldState newState status]).map (Call.agps nif)) = [(nif, status)] := by
    intro status oldState newState
    rw [List.map_append, dispatchedTo, List.filterMap_append]
    exact congrArg (· ++ [(nif, status)]) (dispatchedTo_notices m status m.mSubscribers)
  cases move with
  | granted state => exact told _ _ _
  | denied state => exact told _ _ _
  | forced state => exact told _ _ _
  | closed wifi state list closes => rfl
  | ignored ignores => rfl
  | unrecognized other => rcases answer with rfl | rfl | rfl <;> exact absurd other (by decide)

/-- An answer that reaches a machine of a running instance is handled there. -/
theorem LocEngData.Running.callNif_answer (running : data.Running) (nif : Nif)
    {status : AgpsRsrcStatus}
    (answer : status = .rsrcGranted ∨ status = .rsrcReleased ∨ status = .rsrcDenied) :
    ∃ after calls, data.callNif nif (.onRsrcEvent status) = (some after, calls) ∧
      dispatchedTo calls = [(nif, status)] := by
  obtain ⟨m, here, sound⟩ := running.nifs nif
  exact ⟨_, _, callNif_eq here sound.servicer _, (sound.event_move status).dispatched_once answer⟩

/-- A call that sets a member of a machine dispatches nothing. -/
theorem LocEngData.Running.callNif_set (running : data.Running) (nif : Nif) (op : AgpsOp)
    (admissible : Admissible nif op) (quiet : ∀ m, (agpsMachine.step m op).2 = []) :
    ∃ after, data.callNif nif op = (some after, []) ∧ after.Running := by
  obtain ⟨m, here, sound⟩ := running.nifs nif
  have called := LocEngData.callNif_eq here sound.servicer op
  rw [quiet, List.map_nil] at called
  refine ⟨_, called, ⟨?_, ?_, fun other => ?_⟩⟩
  · cases nif <;> exact running.context
  · cases nif <;> exact running.agpsStatusCb
  · by_cases same : nif = other
    · subst same
      exact ⟨_, LocEngData.nif_setNif _ _ _, sound_step _ _ _ sound admissible⟩
    · rw [LocEngData.nif_setNif_of_ne _ same]
      exact running.nifs other

theorem dispatchedTo_afterMsg (data : LocEngData) (answers : Answers) (msg : LocEngMsg) :
    dispatchedTo (data.afterMsg answers msg).2 = [] := by
  apply List.filterMap_eq_nil_iff.mpr
  intro call member
  have quiet := ((LocEngData.afterMsg_frame (LocEngData.Framed.refl data) answers msg :
    Frame data _ False _).every call member).1
  cases call with
  | agps nif effect => exact absurd (quiet nif) (by simp [Call.effectOn])
  | _ => rfl

/-- The machine that a message of the framework is for, with what it is told. -/
def LocEngMsg.answered : LocEngMsg → Option (Nif × AgpsRsrcStatus)
  | .atlOpenSuccess agpsType .. => some (answerNif agpsType, .rsrcGranted)
  | .atlClosed agpsType => some (answerNif agpsType, .rsrcReleased)
  | .atlOpenFailed agpsType => some (answerNif agpsType, .rsrcDenied)
  | _ => none

/-- **A message of the framework is dispatched by its type**, to one machine. -/
theorem LocEngData.Running.dispatchedTo_handle (running : data.Running) (answers : Answers)
    {msg : LocEngMsg} {status : AgpsRsrcStatus} (answered : msg.answered = some (nif, status)) :
    dispatchedTo (data.handle conf nmea answers msg).2 = [(nif, status)] := by
  have handled : ∃ after calls, data.handleMsg conf nmea answers msg = (some after, calls) ∧
      dispatchedTo calls = [(nif, status)] := by
    cases msg with
    | atlClosed agpsType =>
        cases answered
        exact running.callNif_answer _ (Or.inr (Or.inl rfl))
    | atlOpenFailed agpsType =>
        cases answered
        exact running.callNif_answer _ (Or.inr (Or.inr rfl))
    | atlOpenSuccess agpsType apn length bearerType =>
        cases answered
        obtain ⟨first, bearer, running⟩ := running.callNif_set (answerNif agpsType)
          (.setBearer bearerType) trivial fun _ => rfl
        obtain ⟨second, name, running⟩ := running.callNif_set (answerNif agpsType)
          (.setAPN (some apn) length) trivial fun _ => rfl
        obtain ⟨after, calls, granted, once⟩ :=
          running.callNif_answer (answerNif agpsType) (Or.inl rfl)
        refine ⟨after, calls, ?_, once⟩
        simp only [handleMsg, atlOpenSuccess, bearer, Outcome.andThen_some, name, granted,
          List.nil_append]
    | _ => cases answered
  obtain ⟨after, calls, same, once⟩ := handled
  rw [handle, if_pos running.context, same, Outcome.andThen_some, dispatchedTo,
    List.filterMap_append]
  exact congrArg₂ (· ++ ·) once (dispatchedTo_afterMsg after answers msg)

/-! ## Who gets the answer -/

/-- Whether a machine waits for the connection that it asked for. -/
def LocEngData.waits (data : LocEngData) (nif : Nif) : Bool :=
  (data.nif nif).any fun m => m.mStatePtr == .pending

/-- An answer queues a message, and whenever the thread handles it, after any
other messages, the machines that wait now are told what the framework answers,
and no other machine is told anything. -/
def AgpsAnswer.Reaches (conf : LocGpsCfg) (nmea : NmeaGenerator) (answering : LocEngData)
    (answer : AgpsAnswer) : Prop :=
  ∃ msg, answer.queued answering = [msg] ∧
    ∀ nif, answering.waits nif = true → ∀ later,
      ∀ handling ∈ (locEngThread conf nmea).run (some answering) later, ∀ answers,
        dispatchedTo (handling.handle conf nmea answers msg).2 = [(nif, answer.event)]

/-- A running instance queues one message for every answer but an opened
connection without a name, and the message is for `agnss_nif`. -/
theorem LocEngData.Running.queued_answer (running : data.Running) (answer : AgpsAnswer) :
    (answer = .agpsOpen none ∧ answer.queued data = []) ∨
      (answer ≠ .agpsOpen none ∧ ∃ msg, answer.queued data = [msg] ∧
        msg.answered = some (.agnssNif, answer.event)) := by
  have alive : (data.context && data.agpsStatusCb) = true := by
    rw [running.context, running.agpsStatusCb]
    rfl
  cases answer with
  | agpsClosed =>
      refine Or.inr ⟨by simp, .atlClosed agpsTypeSupl.toStatusValue, ?_, rfl⟩
      simp only [AgpsAnswer.queued, locAgpsClosed, locEngAgpsClosed, alive, if_true]
  | agpsOpenFailed =>
      refine Or.inr ⟨by simp, .atlOpenFailed agpsTypeSupl.toStatusValue, ?_, rfl⟩
      simp only [AgpsAnswer.queued, locAgpsOpenFailed, locEngAgpsOpenFailed, alive, if_true]
  | agpsOpen apn =>
      cases apn with
      | none =>
          refine Or.inl ⟨rfl, ?_⟩
          simp only [AgpsAnswer.queued, locAgpsOpen, locEngAgpsOpen, alive, if_true]
      | some name =>
          refine Or.inr ⟨by simp, .atlOpenSuccess agpsTypeSupl.toStatusValue
            (name.take (min name.length maxApnLen)) (min name.length maxApnLen)
            agpsApnBearerIpv4, ?_, rfl⟩
          simp only [AgpsAnswer.queued, locAgpsOpen, locEngAgpsOpen, alive, if_true]

/-- **The answer reaches the machine that asked exactly when that is
`agnss_nif`** and the answer is not an opened connection without a name, which
queues nothing. The answer may come in any state that the thread reaches, with
one machine waiting, and may be handled after any other messages. -/
theorem answerReaches_iff (conf : LocGpsCfg) (nmea : NmeaGenerator) (data : LocEngData)
    (started : data.Started) (inputs : List ThreadInput) (answering : LocEngData)
    (reached : answering ∈ (locEngThread conf nmea).run (some data) inputs)
    (one : ∃! nif, answering.waits nif = true) (answer : AgpsAnswer) :
    answer.Reaches conf nmea answering ↔
      answering.waits .agnssNif = true ∧ answer ≠ .agpsOpen none := by
  have running := running_run started inputs answering reached
  obtain ⟨asked, waits, unique⟩ := one
  rcases running.queued_answer answer with ⟨nameless, nothing⟩ | ⟨named, msg, queued, answered⟩
  · constructor
    · rintro ⟨msg, queued, -⟩
      rw [nothing] at queued
      cases queued
    · exact fun fits => absurd nameless fits.2
  · constructor
    · rintro ⟨first, same, reaches⟩
      cases List.singleton_inj.mp (same.symm.trans queued)
      have toAsked := reaches asked waits [] answering rfl .success
      rw [running.dispatchedTo_handle _ answered] at toAsked
      have agnss : Nif.agnssNif = asked := congrArg Prod.fst (List.singleton_inj.mp toAsked)
      exact ⟨agnss ▸ waits, named⟩
    · rintro ⟨agnss, -⟩
      refine ⟨msg, queued, fun nif waiting later handling inRun answers => ?_⟩
      have all : handling ∈ (locEngThread conf nmea).run (some data) (inputs ++ later) := by
        rw [Machine.run_append, Option.mem_def.mp reached]
        exact inRun
      rw [unique nif waiting, ← unique .agnssNif agnss]
      exact (running_run started _ handling all).dispatchedTo_handle answers answered

/-- The instance in which a machine waits for the connection, on behalf of an ATL
client. -/
def LocEngData.waiting (nif : Nif) : LocEngData :=
  LocEngData.started.setNif nif
    ((Gps.locEngAgpsInit nif).subscribeRsrc atlClient).1

theorem LocEngData.waiting_waits (asked nif : Nif) :
    (LocEngData.waiting asked).waits nif = true ↔ nif = asked := by
  cases asked <;> cases nif <;> decide

/-- The framework opens the connection that `agnss_nif` waits for. -/
theorem answerReaches_iff_agnss :
    (LocEngData.waiting .agnssNif).waits .agnssNif = true ∧
      (AgpsAnswer.agpsOpen (some [97])).Reaches locDefaultParameters .silent
        (.waiting .agnssNif) :=
  ⟨by decide, (answerReaches_iff locDefaultParameters .silent .started LocEngData.started_started
    [.handle (.requestAtl 7 agpsTypeSupl) .success] (.waiting .agnssNif) (by decide)
    ⟨.agnssNif, (LocEngData.waiting_waits _ _).mpr rfl,
      fun nif waits => (LocEngData.waiting_waits _ nif).mp waits⟩
    (.agpsOpen (some [97]))).mpr ⟨by decide, by decide⟩⟩

/-- The framework opens the connection that `internet_nif` waits for, and
`agnss_nif` is told. -/
theorem not_answerReaches_internet :
    LocEngData.waiting .internetNif ∈ (locEngThread locDefaultParameters .silent).run
        (some .started) [.handle (.requestAtl 7 agpsTypeWwanAny) .success] ∧
      (∃! nif, (LocEngData.waiting .internetNif).waits nif = true) ∧
      (AgpsAnswer.agpsOpen (some [97])).queued (.waiting .internetNif) =
        [.atlOpenSuccess 1 [97] 1 0] ∧
      ¬ (AgpsAnswer.agpsOpen (some [97])).Reaches locDefaultParameters .silent
        (.waiting .internetNif) := by
  refine ⟨by decide, ⟨.internetNif, (LocEngData.waiting_waits _ _).mpr rfl,
    fun nif waits => (LocEngData.waiting_waits _ nif).mp waits⟩, by decide, ?_⟩
  rintro ⟨msg, queued, reaches⟩
  have sent : (AgpsAnswer.agpsOpen (some [97])).queued (.waiting .internetNif) =
      [.atlOpenSuccess 1 [97] 1 0] := by decide
  cases List.singleton_inj.mp (queued.symm.trans sent)
  have wrong := reaches .internetNif (by decide) [] (.waiting .internetNif) rfl .success
  exact absurd wrong (by decide)

end Dispatching

end Msm8660.Gps
