import Msm8660.Gps.AgpsMoves
import Msm8660.Gps.LocEngFrames

/-!
# The machines of the thread

A handler reaches a state machine through its public operations only, and with
clients of the kinds that the machine serves. So a run of the thread is a run of
each of its three machines (`nif_runs`), and what is proved of the runs of one
machine holds in the thread: in every state it reaches, the machines are there and
sound (`running_run`).
-/

set_option autoImplicit false

namespace Msm8660.Gps

/-- The client that a message subscribes. -/
def LocEngMsg.client (answers : Answers) : LocEngMsg → Option Subscriber
  | .requestBit _ ipv4Addr ipv6Addr => some (.bit (.new ipv4Addr ipv6Addr))
  | .requestAtl handle type =>
      some (.atl ⟨handle, type == agpsTypeInvalid, answers.overlay (atlNif type)⟩)
  | .requestWifi senderId ssid password =>
      some (.wifi (.new ssid password senderId (answers.overlay .wifiNif)))
  | _ => none

/-- The admissible calls of a machine in which nobody but this client
subscribes. -/
def Takes (client : Option Subscriber) (nif : Nif) (op : AgpsOp) : Prop :=
  Admissible nif op ∧ ∀ s, op = .subscribeRsrc s → client = some s

/-- Whether the handler of a message subscribes its client. -/
def LocEngMsg.subscribes : LocEngMsg → Bool
  | .requestBit ifType .. => (bitNif ifType).isSome
  | .requestAtl .. => true
  | .requestWifi senderId .. => senderId = .quipc ∨ senderId = .msapm
  | _ => false

/-- Such calls, and subscriptions only when the message subscribes. -/
def Asks (answers : Answers) (msg : LocEngMsg) (nif : Nif) (op : AgpsOp) : Prop :=
  Takes (msg.client answers) nif op ∧ ∀ s, op = .subscribeRsrc s → msg.subscribes = true

/-- A handler that consists of such calls of the machines and of parts that leave
them alone. -/
inductive CallsNifs (Allowed : Nif → AgpsOp → Prop) : LocEngData → Handling → Prop where
  | call {data : LocEngData} (nif : Nif) (op : AgpsOp) (allowed : Allowed nif op) :
      CallsNifs Allowed data (data.callNif nif op)
  | framed {data : LocEngData} {mute : LocMuteSession} {outcome : Handling}
      (frame : Frame data mute True outcome) (harmless : Harmless outcome) :
      CallsNifs Allowed data outcome
  | andThen {data : LocEngData} {first : Handling} {next : LocEngData → Handling}
      (start : CallsNifs Allowed data first)
      (rest : ∀ after : LocEngData, CallsNifs Allowed after (next after)) :
      CallsNifs Allowed data (first.andThen next)

/-- The handler takes such steps of every sound machine. -/
def Acts (client : Option Subscriber) (data : LocEngData) (outcome : Handling) : Prop :=
  ∀ nif m, data.nif nif = some m → Sound nif m →
    Outcome.ActsAs agpsMachine (Takes client nif) (LocEngData.nif · nif) (Call.effectOn nif) m
      outcome

/-- Admissible calls keep a machine sound. -/
theorem sound_step (nif : Nif) (m : AgpsStateMachine) (op : AgpsOp) (sound : Sound nif m)
    (admissible : Admissible nif op) : Sound nif (agpsMachine.step m op).1 :=
  (sound.move admissible).sound sound

section Handlers

variable {client : Option Subscriber} {data : LocEngData}

theorem Takes.admissible {nif : Nif} {op : AgpsOp} (takes : Takes client nif op) :
    Admissible nif op := takes.1

theorem asks_subscribe {answers : Answers} {msg : LocEngMsg} {nif : Nif} {s : Subscriber}
    (serves : nif.Serves s) (client : msg.client answers = some s)
    (subscribes : msg.subscribes = true) : Asks answers msg nif (.subscribeRsrc s) :=
  ⟨⟨serves, fun _ same => by cases same; exact client⟩, fun _ _ => subscribes⟩

theorem asks_unsubscribe {answers : Answers} {msg : LocEngMsg} {nif : Nif} {s : Subscriber}
    (serves : nif.Serves s) : Asks answers msg nif (.unsubscribeRsrc s) :=
  ⟨⟨serves, fun _ same => by cases same⟩, fun _ same => by cases same⟩

theorem asks_event {answers : Answers} {msg : LocEngMsg} (nif : Nif) (status : AgpsRsrcStatus) :
    Asks answers msg nif (.onRsrcEvent status) :=
  ⟨⟨trivial, fun _ same => by cases same⟩, fun _ same => by cases same⟩

theorem asks_setBearer {answers : Answers} {msg : LocEngMsg} (nif : Nif) (bearer : ℤ) :
    Asks answers msg nif (.setBearer bearer) :=
  ⟨⟨trivial, fun _ same => by cases same⟩, fun _ same => by cases same⟩

theorem asks_setAPN {answers : Answers} {msg : LocEngMsg} (nif : Nif)
    (apn : Option (List UInt8)) (len : ℕ) : Asks answers msg nif (.setAPN apn len) :=
  ⟨⟨trivial, fun _ same => by cases same⟩, fun _ same => by cases same⟩

theorem asks_drop {answers : Answers} {msg : LocEngMsg} {nif : Nif} (shared : nif ≠ .wifiNif) :
    Asks answers msg nif .dropAllSubscribers :=
  ⟨⟨shared, fun _ same => by cases same⟩, fun _ same => by cases same⟩

theorem CallsNifs.done_nil {Allowed : Nif → AgpsOp → Prop} (data : LocEngData) :
    CallsNifs Allowed data (data.done []) :=
  .framed (Frame.done_nil (LocEngData.Framed.refl data)) Harmless.done_nil

theorem sound_takes (nif : Nif) (m : AgpsStateMachine) (op : AgpsOp) (sound : Sound nif m)
    (takes : Takes client nif op) : Sound nif (agpsMachine.step m op).1 :=
  sound_step nif m op sound takes.1

theorem Acts.of_frame {mute : LocMuteSession} {outcome : Handling}
    (frame : Frame data mute True outcome) : Acts client data outcome :=
  fun nif _ seen _ => Outcome.ActsAs.quiet (fun call member => (frame.every call member).1 nif)
    fun after reached => (congrFun (frame.post after reached).1 nif).trans seen

theorem Acts.andThen {first : Handling} {next : LocEngData → Handling}
    (start : Acts client data first) (rest : ∀ data, Acts client data (next data)) :
    Acts client data (first.andThen next) :=
  fun nif m seen sound => Outcome.ActsAs.andThen (sound_takes nif) sound (start nif m seen sound)
    fun after _ => rest after nif

namespace LocEngData

@[simp] theorem nif_setNif (data : LocEngData) (nif : Nif) (m : AgpsStateMachine) :
    (data.setNif nif m).nif nif = some m := by
  cases nif <;> rfl

theorem nif_setNif_of_ne (data : LocEngData) {nif nif' : Nif} (other : nif ≠ nif')
    (m : AgpsStateMachine) : (data.setNif nif m).nif nif' = data.nif nif' := by
  cases nif <;> cases nif' <;> first | rfl | exact absurd rfl other

theorem setNif_self {data : LocEngData} {nif : Nif} {m : AgpsStateMachine}
    (here : data.nif nif = some m) : data.setNif nif m = data := by
  cases data
  cases nif <;> · simp only [LocEngData.nif] at here
                  subst here
                  rfl

theorem effectOn_self (nif : Nif) (effects : List Effect) :
    (effects.map (Call.agps nif)).filterMap (Call.effectOn nif) = effects := by
  rw [List.filterMap_map]
  exact (List.filterMap_congr fun effect _ => by simp [Call.effectOn]).trans List.filterMap_some

/-- A call of a machine with a servicer goes through. -/
theorem callNif_eq {nif : Nif} {m : AgpsStateMachine} (here : data.nif nif = some m)
    (servicer : m.mServicer = true) (op : AgpsOp) :
    data.callNif nif op = (data.setNif nif (agpsMachine.step m op).1).done
      ((agpsMachine.step m op).2.map (.agps nif)) := by
  simp [callNif, here, servicer]

theorem callNif_acts (data : LocEngData) (nif : Nif) (op : AgpsOp)
    (takes : Takes client nif op) : Acts client data (data.callNif nif op) := by
  intro nif' m seen sound
  by_cases same : nif = nif'
  · subst same
    rw [callNif_eq seen sound.servicer]
    exact Outcome.ActsAs.step takes (effectOn_self _ _) fun _ same => by
      cases same
      exact nif_setNif _ _ _
  · have quiet : ∀ call ∈ (data.callNif nif op).2, call.effectOn nif' = none := by
      unfold callNif
      split
      · simp [Call.effectOn]
      · simp only []
        split
        · simp [Call.effectOn]
        · simp [done, Call.effectOn, same]
    apply Outcome.ActsAs.quiet quiet
    intro after reached
    unfold callNif at reached
    split at reached
    · cases reached
    · simp only [] at reached
      split at reached
      · cases reached
      · cases reached
        exact (nif_setNif_of_ne data same _).trans seen

/-- Calls that take such steps act on the machines by them. -/
theorem acts_of_callsNifs {Allowed : Nif → AgpsOp → Prop} {outcome : Handling}
    (implies : ∀ nif op, Allowed nif op → Takes client nif op)
    (calls : CallsNifs Allowed data outcome) : Acts client data outcome := by
  induction calls with
  | call nif op allowed => exact callNif_acts _ nif op (implies nif op allowed)
  | framed frame harmless => exact Acts.of_frame frame
  | andThen start rest started continued => exact Acts.andThen started continued

/-- What the handlers of the messages for the machines call. -/
structure AllowsCalls (Allowed : Nif → AgpsOp → Prop) (answers : Answers) (msg : LocEngMsg) :
    Prop where
  subscribe : ∀ nif s, nif.Serves s → msg.client answers = some s → msg.subscribes = true →
    Allowed nif (.subscribeRsrc s)
  unsubscribe : ∀ nif s, nif.Serves s → Allowed nif (.unsubscribeRsrc s)
  event : ∀ nif status, Allowed nif (.onRsrcEvent status)
  opens : ∀ agpsType apn length bearerType, msg = .atlOpenSuccess agpsType apn length bearerType →
    Allowed (answerNif agpsType) (.setBearer bearerType) ∧
      Allowed (answerNif agpsType) (.setAPN (some apn) length)
  drop : ∀ nif, nif ≠ .wifiNif → Allowed nif .dropAllSubscribers

/-- Whatever allows these calls allows the handler. -/
theorem handleMsg_callsNifs {Allowed : Nif → AgpsOp → Prop} (conf : LocGpsCfg)
    (nmea : NmeaGenerator) (data : LocEngData) {answers : Answers} {msg : LocEngMsg}
    (allows : AllowsCalls Allowed answers msg) (reaches : msg.reachesNif = true) :
    CallsNifs Allowed data (data.handleMsg conf nmea answers msg) := by
  cases msg with
  | requestBit ifType ipv4Addr ipv6Addr =>
      cases ifType with
      | supl =>
          exact .call .agnssNif (.subscribeRsrc (.bit _)) (allows.subscribe _ _ trivial rfl rfl)
      | any =>
          exact .call .internetNif (.subscribeRsrc (.bit _)) (allows.subscribe _ _ trivial rfl rfl)
      | wifi => exact .done_nil data
  | releaseBit ifType ipv4Addr ipv6Addr =>
      cases ifType with
      | supl => exact .call .agnssNif (.unsubscribeRsrc (.bit _)) (allows.unsubscribe _ _ trivial)
      | any =>
          exact .call .internetNif (.unsubscribeRsrc (.bit _)) (allows.unsubscribe _ _ trivial)
      | wifi => exact .done_nil data
  | requestAtl handle type =>
      refine .call (atlNif type) (.subscribeRsrc (.atl _)) (allows.subscribe _ _ ?_ rfl rfl)
      unfold atlNif
      split <;> trivial
  | releaseAtl handle =>
      refine .andThen (.call .agnssNif (.unsubscribeRsrc (.atl _)) (allows.unsubscribe _ _ trivial))
        fun after => ?_
      split
      · split
        · exact .done_nil after
        · exact .call .internetNif (.unsubscribeRsrc (.atl _)) (allows.unsubscribe _ _ trivial)
      · exact .done_nil after
  | requestWifi senderId ssid password =>
      simp only [handleMsg, requestWifi]
      split
      · next served =>
          exact .call .wifiNif (.subscribeRsrc (.wifi _))
            (allows.subscribe _ _ trivial rfl (decide_eq_true served))
      · exact .done_nil data
  | releaseWifi senderId ssid password =>
      exact .call .wifiNif (.unsubscribeRsrc (.wifi _)) (allows.unsubscribe _ _ trivial)
  | atlOpenSuccess agpsType apn length bearerType =>
      obtain ⟨bearer, name⟩ := allows.opens agpsType apn length bearerType rfl
      refine .andThen (.call (answerNif agpsType) (.setBearer _) bearer) fun after => ?_
      refine .andThen (.call (answerNif agpsType) (.setAPN _ _) name) fun after => ?_
      exact .call (answerNif agpsType) (.onRsrcEvent _) (allows.event _ _)
  | atlClosed agpsType => exact .call (answerNif agpsType) (.onRsrcEvent _) (allows.event _ _)
  | atlOpenFailed agpsType => exact .call (answerNif agpsType) (.onRsrcEvent _) (allows.event _ _)
  | engineUp =>
      simp only [handleMsg, locEngHandleEngineUp]
      refine .andThen (.framed (locEngReinit_frame (Framed.refl data) conf answers)
        (locEngReinit_harmless data conf answers)) fun after => ?_
      refine .andThen ?_ fun after =>
        .framed (engineBack_frame (Framed.refl after) answers) (engineBack_harmless after answers)
      split
      · refine .andThen (.call .agnssNif .dropAllSubscribers (allows.drop _ (by simp))) ?_
        intro after
        refine .andThen (.call .internetNif .dropAllSubscribers (allows.drop _ (by simp)))
          fun after => ?_
        exact .framed (locEngAgpsReinit_frame (Framed.refl after) answers)
          (locEngAgpsReinit_harmless after answers)
      · exact .done_nil after
  | _ => cases reaches

/-- **The handler of a message for the machines calls them as the message asks**,
and does nothing to them besides. -/
theorem handleMsg_calls (conf : LocGpsCfg) (nmea : NmeaGenerator) (data : LocEngData)
    (answers : Answers) {msg : LocEngMsg} (reaches : msg.reachesNif = true) :
    CallsNifs (Asks answers msg) data (data.handleMsg conf nmea answers msg) := by
  refine handleMsg_callsNifs conf nmea data ⟨?_, ?_, ?_, ?_, ?_⟩ reaches
  · exact fun _ _ serves client subscribes => asks_subscribe serves client subscribes
  · exact fun _ _ serves => asks_unsubscribe serves
  · exact fun nif status => asks_event nif status
  · exact fun agpsType apn length bearerType _ =>
      ⟨asks_setBearer (answerNif agpsType) bearerType,
        asks_setAPN (answerNif agpsType) (some apn) length⟩
  · exact fun _ shared => asks_drop shared

/-- **A round of the loop acts on the machines by admissible steps.** -/
theorem handle_acts (conf : LocGpsCfg) (nmea : NmeaGenerator) (data : LocEngData)
    (answers : Answers) (msg : LocEngMsg) :
    Acts (msg.client answers) data (data.handle conf nmea answers msg) := by
  have handled : Acts (msg.client answers) data (data.handleMsg conf nmea answers msg) := by
    cases reaches : msg.reachesNif with
    | true =>
        exact acts_of_callsNifs (fun _ _ asks => asks.1)
          (handleMsg_calls conf nmea data answers reaches)
    | false =>
        exact Acts.of_frame ((handleMsg_frame conf nmea data answers reaches).mono
          fun _ => trivial)
  unfold handle
  split
  · exact handled.andThen fun after =>
      Acts.of_frame (afterMsg_frame (Framed.refl after) answers msg)
  · exact fun _ _ _ _ => Outcome.ActsAs.quiet (fun _ member => absurd member List.not_mem_nil)
      fun _ reached => absurd reached (Option.not_mem_none _)

end LocEngData

end Handlers

/-! ## Runs -/

section Runs

variable {conf : LocGpsCfg} {nmea : NmeaGenerator} {data : LocEngData}

/-- The client that an input brings. -/
def ThreadInput.client : ThreadInput → Option Subscriber
  | .handle msg answers => msg.client answers
  | .niWrite _ _ => none

theorem locEngThread_acts (input : ThreadInput) :
    Acts input.client data ((locEngThread conf nmea).step (some data) input) := by
  cases input with
  | handle msg answers => exact data.handle_acts conf nmea answers msg
  | niWrite niNotifyCb ni =>
      refine fun nif _ seen _ => Outcome.ActsAs.quiet
        (fun _ member => absurd member List.not_mem_nil) fun _ same => ?_
      cases same
      exact (by cases nif <;> exact seen)

/-- **A run of the thread is a run of each of its machines**: there are
admissible calls that lead the machine where the thread leads it, and the effects
of the thread on its behalf are the effects of these calls. -/
theorem nif_runs (conf : LocGpsCfg) (nmea : NmeaGenerator) {nif : Nif} {m : AgpsStateMachine}
    (here : data.nif nif = some m) (sound : Sound nif m) (inputs : List ThreadInput) :
    Outcome.ActsAs agpsMachine (Admissible nif) (LocEngData.nif · nif) (Call.effectOn nif) m
      ((locEngThread conf nmea).run (some data) inputs,
        (locEngThread conf nmea).outputs (some data) inputs) :=
  Outcome.run_actsAs (sound_step nif) sound (fun _ => rfl)
    (fun _ input held seen fits => (locEngThread_acts input nif held seen fits).mono
      fun _ takes => takes.admissible) here inputs

/-- An instance after `loc_eng_agps_init` with a `status_cb`. -/
structure LocEngData.Started (data : LocEngData) : Prop where
  context : data.context = true
  agpsStatusCb : data.agpsStatusCb = true
  nifs : ∀ nif, data.nif nif = some (Gps.locEngAgpsInit nif)

/-- An instance whose three machines are there. -/
def LocEngData.started : LocEngData :=
  { LocEngData.listening with
    agpsStatusCb := true
    agnssNif := some (Gps.locEngAgpsInit .agnssNif)
    internetNif := some (Gps.locEngAgpsInit .internetNif)
    wifiNif := some (Gps.locEngAgpsInit .wifiNif) }

theorem LocEngData.started_started : LocEngData.started.Started :=
  ⟨rfl, rfl, fun nif => by cases nif <;> rfl⟩

theorem LocEngData.started_locEngAgpsInit {fresh : LocEngData} (context : fresh.context = true)
    (first : fresh.agpsStatusCb = false) (answers : Answers) :
    ∀ after ∈ (fresh.locEngAgpsInit answers true).1, after.Started := by
  intro after reached
  simp only [LocEngData.locEngAgpsInit, context, first, Bool.not_true, Bool.or_self,
    Bool.false_eq_true, if_false] at reached
  obtain ⟨nif, alive, set, -⟩ := (locEngAgpsReinit_frame (Framed.refl _) answers :
    Frame _ _ False _).post after reached
  refine ⟨alive, set, fun name => ?_⟩
  rw [nif]
  cases name <;> rfl

/-- What a run of the thread keeps: the instance is alive, and the three machines
are there and sound. -/
structure LocEngData.Running (data : LocEngData) : Prop where
  context : data.context = true
  agpsStatusCb : data.agpsStatusCb = true
  nifs : ∀ nif, ∃ m, data.nif nif = some m ∧ Sound nif m

theorem LocEngData.Started.running (started : data.Started) : data.Running :=
  ⟨started.context, started.agpsStatusCb, fun nif => ⟨_, started.nifs nif, Sound.init nif⟩⟩

theorem LocEngData.Running.step (running : data.Running) (input : ThreadInput) :
    ∀ after ∈ ((locEngThread conf nmea).step (some data) input).1, after.Running := by
  intro after reached
  have nifs : ∀ nif, ∃ m, after.nif nif = some m ∧ Sound nif m := fun nif => by
    obtain ⟨m, here, sound⟩ := running.nifs nif
    exact (locEngThread_acts input nif m here sound).kept (sound_takes nif) sound after reached
  cases input with
  | handle msg answers =>
      obtain ⟨alive, set, -⟩ := (data.handle_frame conf nmea answers msg).post after reached
      exact ⟨alive.trans running.context, set.trans running.agpsStatusCb, nifs⟩
  | niWrite niNotifyCb ni =>
      cases reached
      exact ⟨running.context, running.agpsStatusCb, nifs⟩

/-- In every state that the thread reaches the machines are there and sound. -/
theorem running_run (started : data.Started) (inputs : List ThreadInput) :
    ∀ after ∈ (locEngThread conf nmea).run (some data) inputs, after.Running := by
  have kept : ∀ (state : Option LocEngData) input, (∀ data ∈ state, data.Running) → True →
      ∀ after ∈ ((locEngThread conf nmea).step state input).1, after.Running := by
    intro state input running _
    cases state with
    | none => exact fun after reached => absurd reached (Option.not_mem_none after)
    | some data => exact (running data rfl).step input
  exact Machine.run_induction kept (fun after same => by cases same; exact started.running)
    fun _ _ => trivial

end Runs

end Msm8660.Gps
