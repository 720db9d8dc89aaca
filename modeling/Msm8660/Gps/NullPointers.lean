import Msm8660.Gps.LocEngInit
import Msm8660.Gps.LocEngNifs

/-!
# Components that are not there

`loc_eng_init` accepts callbacks that are not set, and until `loc_eng_agps_init`
there are no state machines; without a `status_cb` they are there and have no
servicer. Most handlers ask before they use a pointer. Three do not: the messages
for a state machine use it without asking, a machine calls its servicer for every
client it takes, and the sentences of a report go to `nmea_cb`. A run uses no null
pointer exactly when it meets none of the three (`nullPointer_free_iff`).
-/

set_option autoImplicit false

namespace Msm8660.Gps

/-- Whether the handler of a message uses a state machine without asking for it. -/
def LocEngMsg.callsNif : LocEngMsg → Bool
  | .requestBit ifType .. | .releaseBit ifType .. => (bitNif ifType).isSome
  | .requestWifi senderId .. => senderId = .quipc ∨ senderId = .msapm
  | .requestAtl .. | .releaseAtl _ | .releaseWifi .. | .atlOpenSuccess .. | .atlClosed _
  | .atlOpenFailed _ => true
  | _ => false

namespace LocEngData

/-- The sentences that the handler of a report generates. -/
def sentences (nmea : NmeaGenerator) (data : LocEngData) : LocEngMsg → List (List UInt8)
  | .reportPosition location locationExtended .. =>
      if data.muteSessionState ≠ .locMuteSessInSession ∧ data.generateNmea = true ∧
        location.positionSource = ulpLocationIsFromGnss then
        (nmea.generatePos data.nmeaCache location locationExtended).2
      else []
  | .reportSv svStatus locationExtended _ =>
      if data.muteSessionState ≠ .locMuteSessInSession ∧ data.generateNmea = true then
        (nmea.generateSv data.nmeaCache svStatus locationExtended).2
      else []
  | _ => []

/-- The instance lacks what the handler of a message uses: the state machines before
`loc_eng_agps_init`, the servicer of a machine that has none, or `nmea_cb`. -/
def Lacks (nmea : NmeaGenerator) (data : LocEngData) (msg : LocEngMsg) : Prop :=
  msg.callsNif = true ∧ data.agnssNif = none ∨
    msg.subscribes = true ∧ data.agpsStatusCb = false ∨
    data.sentences nmea msg ≠ [] ∧ data.nmeaCb = false

end LocEngData

/-! ## Machines without a servicer -/

/-- A machine without a servicer, as `loc_eng_agps_init` constructs it without a
`status_cb`. -/
structure AgpsStateMachine.Idle (m : AgpsStateMachine) : Prop where
  servicer : m.mServicer = false
  state : m.mStatePtr = .released
  list : m.mSubscribers = []

section Machines

variable {m : AgpsStateMachine}

/-- Whatever is not a subscription leaves the machine idle. -/
theorem AgpsStateMachine.Idle.step (idle : m.Idle) {op : AgpsOp}
    (other : ∀ s, op ≠ .subscribeRsrc s) :
    (agpsMachine.step m op).1.Idle ∧ callsServicer (agpsMachine.step m op).2 = false := by
  obtain ⟨servicer, state, list⟩ := idle
  cases op with
  | subscribeRsrc s => exact absurd rfl (other s)
  | unsubscribeRsrc s =>
      have absent := m.unsubscribeRsrc_absent (s := s) (by simp [list])
      simp only [agpsMachine, absent]
      exact ⟨⟨servicer, state, list⟩, rfl⟩
  | onRsrcEvent event =>
      have quiet : ∀ answer : StateEvent, (∀ s, answer ≠ .subscribe s) →
          (∀ place s, answer ≠ .unsubscribe place s) →
          (m.stateOnRsrcEvent answer).1.Idle ∧
            callsServicer (m.stateOnRsrcEvent answer).2 = false := by
        intro answer joins leaves
        simp only [AgpsStateMachine.stateOnRsrcEvent, state]
        cases answer with
        | subscribe s => exact absurd rfl (joins s)
        | unsubscribe place s => exact absurd rfl (leaves place s)
        | _ =>
            simp only [AgpsStateMachine.releasedOnRsrcEvent, AgpsStateMachine.hasSubscribers_eq,
              list]
            exact ⟨⟨servicer, rfl, rfl⟩, rfl⟩
      cases event with
      | rsrcGranted =>
          exact quiet .granted (fun _ same => by cases same) fun _ _ same => by cases same
      | rsrcReleased =>
          exact quiet .released (fun _ same => by cases same) fun _ _ same => by cases same
      | rsrcDenied =>
          exact quiet .denied (fun _ same => by cases same) fun _ _ same => by cases same
      | _ => exact ⟨⟨servicer, state, list⟩, rfl⟩
  | dropAllSubscribers => exact ⟨⟨servicer, state, rfl⟩, rfl⟩
  | setAPN apn len =>
      cases apn with
      | none => exact ⟨⟨servicer, state, list⟩, rfl⟩
      | some name => exact ⟨⟨servicer, state, list⟩, rfl⟩
  | setBearer bearer => exact ⟨⟨servicer, state, list⟩, rfl⟩

/-- A subscription calls the servicer. -/
theorem AgpsStateMachine.Idle.subscribe (idle : m.Idle) (s : Subscriber) :
    callsServicer (agpsMachine.step m (.subscribeRsrc s)).2 = true := by
  obtain ⟨-, state, list⟩ := idle
  have listed : (m.addSubscriber s).mSubscribers = [s.clone] := by
    simp [m.addSubscriber_eq, list]
  have request := (m.addSubscriber s).sendRsrcRequest_request listed s.isInactive_clone
  simp [agpsMachine, AgpsStateMachine.subscribeRsrc, AgpsStateMachine.hasSubscribers_eq, list,
    AgpsStateMachine.stateOnRsrcEvent, state, AgpsStateMachine.releasedOnRsrcEvent, request,
    callsServicer]

/-- What a message asks of an idle machine without subscribing anybody. -/
theorem AgpsStateMachine.Idle.asked (idle : m.Idle) {answers : Answers} {msg : LocEngMsg}
    (silent : msg.subscribes = false) {nif : Nif} {op : AgpsOp} (asks : Asks answers msg nif op) :
    (agpsMachine.step m op).1.Idle ∧
      (callsServicer (agpsMachine.step m op).2 = true → m.mServicer = true) := by
  have other : ∀ s, op ≠ .subscribeRsrc s := by
    intro s same
    cases (asks.2 s same).symm.trans silent
  obtain ⟨next, quiet⟩ := idle.step other
  exact ⟨next, fun calls => by cases quiet.symm.trans calls⟩

end Machines

/-! ## Handlers -/

/-- The three machines are there and satisfy `P`. -/
def LocEngData.ServedBy (P : Nif → AgpsStateMachine → Prop) (data : LocEngData) : Prop :=
  ∀ nif, ∃ m, data.nif nif = some m ∧ P nif m

section Handlers

variable {conf : LocGpsCfg} {nmea : NmeaGenerator} {answers : Answers} {data : LocEngData}
variable {P : Nif → AgpsStateMachine → Prop}

namespace LocEngData

/-- A call of a machine that is not there. -/
theorem callNif_missing {nif : Nif} (missing : data.nif nif = none) (op : AgpsOp) :
    data.callNif nif op = (none, [.nullPointer]) := by
  simp only [callNif, missing]

/-- A call that needs a servicer that is not there. -/
theorem callNif_unserved {nif : Nif} {m : AgpsStateMachine} (here : data.nif nif = some m)
    (servicer : m.mServicer = false) {op : AgpsOp}
    (calls : callsServicer (agpsMachine.step m op).2 = true) :
    data.callNif nif op = (none, [.nullPointer]) := by
  simp [callNif, here, servicer, calls]

/-- A call that a machine can take. -/
theorem callNif_served (served : data.ServedBy P) {nif : Nif} {op : AgpsOp}
    (fits : ∀ m, P nif m → P nif (agpsMachine.step m op).1 ∧
      (callsServicer (agpsMachine.step m op).2 = true → m.mServicer = true)) :
    (data.callNif nif op).Ensures (ServedBy P) (·.usesNull = false) := by
  obtain ⟨m, here, holds⟩ := served nif
  obtain ⟨next, servicer⟩ := fits m holds
  have through : (callsServicer (agpsMachine.step m op).2 && !m.mServicer) = false := by
    cases calls : callsServicer (agpsMachine.step m op).2 with
    | false => rfl
    | true => simp [servicer calls]
  simp only [callNif, here, through, Bool.false_eq_true, if_false]
  refine Outcome.Ensures.some (fun nif' => ?_) fun call member => ?_
  · by_cases same : nif = nif'
    · subst same
      exact ⟨_, nif_setNif _ _ _, next⟩
    · rw [nif_setNif_of_ne data same]
      exact served nif'
  · obtain ⟨effect, -, rfl⟩ := List.mem_map.mp member
    rfl

end LocEngData

/-- A handler that consists of calls that the machines can take. -/
theorem CallsNifs.served {Allowed : Nif → AgpsOp → Prop} {outcome : Handling}
    (fits : ∀ nif m op, P nif m → Allowed nif op → P nif (agpsMachine.step m op).1 ∧
      (callsServicer (agpsMachine.step m op).2 = true → m.mServicer = true))
    (calls : CallsNifs Allowed data outcome) (served : data.ServedBy P) :
    outcome.Ensures (LocEngData.ServedBy P) (·.usesNull = false) := by
  induction calls with
  | call nif op allowed =>
      exact LocEngData.callNif_served served fun m holds => fits nif m op holds allowed
  | framed frame harmless =>
      refine ⟨fun after reached nif => ?_, harmless⟩
      rw [(frame.post after reached).1]
      exact served nif
  | andThen start rest started continued =>
      exact Outcome.Ensures.andThen (started served) fun after => continued after

/-- A harmless handler uses no null pointer. -/
theorem Harmless.nullPointer_notMem {outcome : Handling} (harmless : Harmless outcome) :
    .nullPointer ∉ outcome.2 :=
  fun member => absurd (harmless _ member) (by simp [Call.usesNull])

/-! ## Sentences -/

namespace LocEngData

theorem nullPointer_locEngNmeaSend (data : LocEngData) (sentences : List (List UInt8)) :
    .nullPointer ∈ (data.locEngNmeaSend sentences).2 ↔ sentences ≠ [] ∧ data.nmeaCb = false := by
  unfold locEngNmeaSend
  split
  · next fine =>
      have harmless : .nullPointer ∉ sentences.map Call.nmeaCb := by simp
      exact iff_of_false harmless fun lacks => fine.elim lacks.1 (by simp [lacks.2])
  · next lacks =>
      exact iff_of_true (List.mem_singleton.mpr rfl) (by simpa [not_or] using lacks)

/-- What the handlers of both reports do last. -/
theorem nullPointer_sends (data : LocEngData) {c : Prop} [Decidable c]
    (generated : NmeaCache × List (List UInt8)) :
    .nullPointer ∈ (if c then { data with nmeaCache := generated.1 }.locEngNmeaSend generated.2
        else data.done []).2 ↔
      (if c then generated.2 else []) ≠ [] ∧ data.nmeaCb = false := by
  by_cases sends : c
  · rw [if_pos sends, if_pos sends]
    exact nullPointer_locEngNmeaSend _ generated.2
  · rw [if_neg sends, if_neg sends]
    exact iff_of_false List.not_mem_nil fun lacks => lacks.1 rfl

theorem nullPointer_reportSv (data : LocEngData) (svStatus : GpsSvStatus)
    (locationExtended : GpsLocationExtended) (svExt : Pointer) :
    .nullPointer ∈ (data.reportSv nmea svStatus locationExtended svExt).2 ↔
      data.sentences nmea (.reportSv svStatus locationExtended svExt) ≠ [] ∧
      data.nmeaCb = false := by
  by_cases muted : data.muteSessionState = .locMuteSessInSession
  · simp [reportSv, sentences, muted, done]
  · simp only [reportSv, sentences, ne_eq, muted, not_false_eq_true, true_and, if_false]
    refine Outcome.mem_andThen_iff ?_ ⟨data, ?_, ?_⟩
    · split <;> simp [done]
    · rfl
    · exact nullPointer_sends data (nmea.generateSv data.nmeaCache svStatus locationExtended)

/-- What the handler of a fix does first does not matter. -/
theorem nullPointer_behind_fix (data : LocEngData) {fix : List Call} (told : .nullPointer ∉ fix)
    {single intermediate Q : Prop} [Decidable single] [Decidable intermediate]
    {next : LocEngData → Handling}
    (decides : ∀ navigating,
      .nullPointer ∈ (next { data with navigating := navigating }).2 ↔ Q) :
    .nullPointer ∈ (((data.done fix).andThen fun data =>
      if fix ≠ [] ∧ single then { data with navigating := false }.done
        (if intermediate then [.adapter .stopFix] else [])
      else data.done []).andThen next).2 ↔ Q := by
  by_cases stops : fix ≠ [] ∧ single
  · refine Outcome.mem_andThen_iff ?_ ⟨{ data with navigating := false }, ?_, decides false⟩
    · simp only [done, Outcome.andThen_some, if_pos stops]
      split <;> simp [told]
    · simp only [done, Outcome.andThen_some, if_pos stops]
      rfl
  · refine Outcome.mem_andThen_iff ?_ ⟨data, ?_, decides data.navigating⟩
    · simp only [done, Outcome.andThen_some, if_neg stops, List.append_nil]
      exact told
    · simp only [done, Outcome.andThen_some, if_neg stops]
      rfl

theorem nullPointer_reportPosition (data : LocEngData) (location : GpsLocation)
    (locationExtended : GpsLocationExtended) (locationExt : Pointer) (status : LocSessStatus)
    (technologyMask : BitVec 32) :
    .nullPointer ∈ (data.reportPosition conf nmea answers location locationExtended locationExt
        status technologyMask).2 ↔
      data.sentences nmea
        (.reportPosition location locationExtended locationExt status technologyMask) ≠ [] ∧
      data.nmeaCb = false := by
  by_cases muted : data.muteSessionState = .locMuteSessInSession
  · simp [reportPosition, sentences, muted, done]
  · simp only [reportPosition, sentences, ne_eq, muted, not_false_eq_true, true_and, if_false]
    refine nullPointer_behind_fix data ?_ fun navigating => ?_
    · split
      · split
        · simp
        · split <;> simp
      · simp
    · exact nullPointer_sends { data with navigating := navigating }
        (nmea.generatePos data.nmeaCache location locationExtended)

/-! ## Messages -/

/-- A message that does not reach a machine uses a null pointer only for sentences. -/
theorem handleMsg_other {msg : LocEngMsg} (other : msg.reachesNif = false) :
    .nullPointer ∈ (data.handleMsg conf nmea answers msg).2 ↔
      data.sentences nmea msg ≠ [] ∧ data.nmeaCb = false := by
  have silent {msg : LocEngMsg} (harmless : Harmless (data.handleMsg conf nmea answers msg))
      (none : data.sentences nmea msg = []) :
      .nullPointer ∈ (data.handleMsg conf nmea answers msg).2 ↔
        data.sentences nmea msg ≠ [] ∧ data.nmeaCb = false :=
    iff_of_false harmless.nullPointer_notMem fun lacks => lacks.1 none
  cases msg with
  | reportPosition location locationExtended locationExt status technologyMask =>
      exact data.nullPointer_reportPosition location locationExtended locationExt status
        technologyMask
  | reportSv svStatus locationExtended svExt =>
      exact data.nullPointer_reportSv svStatus locationExtended svExt
  | quit => exact silent (fun _ member => absurd member List.not_mem_nil) rfl
  | requestNi notify passThroughData => exact silent (withNi_harmless data _) rfl
  | startFix => exact silent (locEngStartHandler_harmless data answers) rfl
  | stopFix =>
      exact silent (Harmless.ite (fun _ => Harmless.done_nil) fun _ =>
        locEngStopHandler_harmless data answers) rfl
  | reportStatus status => exact silent (locEngReportStatus_harmless data status) rfl
  | engineDown =>
      exact silent ((withNi_harmless data _).andThen fun after =>
        locEngReportStatus_harmless after _) rfl
  | reportNmea sentence => exact silent (callback_harmless data data.nmeaCb rfl) rfl
  | requestXtraData => exact silent (callback_harmless data data.downloadRequestCb rfl) rfl
  | requestTime => exact silent (callback_harmless data data.requestUtcTimeCb rfl) rfl
  | requestNetworkPosition request =>
      exact silent (callback_harmless data data.ulpNetworkCallback rfl) rfl
  | requestPhoneContext request =>
      exact silent (callback_harmless data data.ulpPhoneContextReqCb rfl) rfl
  | enableData enable apn => exact silent (by simp [Harmless, handleMsg, done, Call.usesNull]) rfl
  | requestPosition => exact silent Harmless.done_nil rfl
  | deleteAidingData type => exact silent Harmless.done_nil rfl
  | other => exact silent Harmless.done_nil rfl
  | requestBit | releaseBit | requestAtl | releaseAtl | requestWifi | releaseWifi
  | atlOpenSuccess | atlClosed | atlOpenFailed | engineUp => cases other
  | _ => exact silent (Harmless.done_single rfl) rfl

/-- Without machines every message for them uses a null pointer. -/
theorem handleMsg_missing (missing : ∀ nif, data.nif nif = none) {msg : LocEngMsg}
    (calls : msg.callsNif = true) :
    data.handleMsg conf nmea answers msg = (none, [.nullPointer]) := by
  have refused (nif : Nif) (op : AgpsOp) : data.callNif nif op = (none, [.nullPointer]) :=
    callNif_missing (missing nif) op
  cases msg with
  | requestBit ifType ipv4Addr ipv6Addr =>
      cases ifType with
      | wifi => cases calls
      | _ => simp only [handleMsg, requestBit, bitNif, refused]
  | releaseBit ifType ipv4Addr ipv6Addr =>
      cases ifType with
      | wifi => cases calls
      | _ => simp only [handleMsg, releaseBit, bitNif, refused]
  | requestAtl handle type => simp only [handleMsg, requestAtl, refused]
  | releaseAtl handle => simp only [handleMsg, releaseAtl, refused, Outcome.andThen_none]
  | requestWifi senderId ssid password =>
      simp only [handleMsg, requestWifi, if_pos (of_decide_eq_true calls), refused]
  | releaseWifi senderId ssid password => simp only [handleMsg, releaseWifi, refused]
  | atlOpenSuccess agpsType apn length bearerType =>
      simp only [handleMsg, atlOpenSuccess, refused, Outcome.andThen_none]
  | atlClosed agpsType => simp only [handleMsg, refused]
  | atlOpenFailed agpsType => simp only [handleMsg, refused]
  | _ => cases calls

/-- Without servicers every subscription uses a null pointer. -/
theorem handleMsg_subscribes (unserved : data.ServedBy fun _ m => m.Idle) {msg : LocEngMsg}
    (subscribes : msg.subscribes = true) :
    data.handleMsg conf nmea answers msg = (none, [.nullPointer]) := by
  have refused (nif : Nif) (s : Subscriber) :
      data.callNif nif (.subscribeRsrc s) = (none, [.nullPointer]) := by
    obtain ⟨m, here, idle⟩ := unserved nif
    exact callNif_unserved here idle.servicer (idle.subscribe s)
  cases msg with
  | requestBit ifType ipv4Addr ipv6Addr =>
      cases ifType with
      | wifi => cases subscribes
      | _ => simp only [handleMsg, requestBit, bitNif, refused]
  | requestAtl handle type => simp only [handleMsg, requestAtl, refused]
  | requestWifi senderId ssid password =>
      simp only [handleMsg, requestWifi, if_pos (of_decide_eq_true subscribes), refused]
  | _ => cases subscribes

/-- The handler of a message that does not reach a machine does not call one. -/
theorem silent_of_reachesNif {msg : LocEngMsg} (other : msg.reachesNif = false) :
    msg.callsNif = false ∧ msg.subscribes = false := by
  cases msg <;> first | exact ⟨rfl, rfl⟩ | cases other

/-- A message for a machine is no report. -/
theorem sentences_of_reachesNif {msg : LocEngMsg} (reaches : msg.reachesNif = true) :
    data.sentences nmea msg = [] := by
  cases msg <;> first | rfl | cases reaches

theorem callsNif_of_subscribes {msg : LocEngMsg} (subscribes : msg.subscribes = true) :
    msg.callsNif = true := by
  cases msg <;> first | exact subscribes | rfl | cases subscribes

/-- Without a `status_cb` the other messages leave the machines alone. -/
theorem handleMsg_unset (unset : data.agpsStatusCb = false) {msg : LocEngMsg}
    (reaches : msg.reachesNif = true) (silent : msg.callsNif = false) :
    ∃ mute, (data.handleMsg conf nmea answers msg).Ensures (·.Framed data mute)
      (·.usesNull = false) := by
  have framed := Framed.refl data
  have nothing : (data.done []).Ensures (·.Framed data data.muteSessionState)
      (·.usesNull = false) :=
    Outcome.Ensures.silent framed
  cases msg with
  | requestBit ifType ipv4Addr ipv6Addr =>
      cases ifType with
      | wifi => exact ⟨_, nothing⟩
      | _ => cases silent
  | releaseBit ifType ipv4Addr ipv6Addr =>
      cases ifType with
      | wifi => exact ⟨_, nothing⟩
      | _ => cases silent
  | requestWifi senderId ssid password =>
      simp only [handleMsg, requestWifi, if_neg (of_decide_eq_false silent)]
      exact ⟨_, nothing⟩
  | engineUp =>
      refine ⟨data.muteSessionState.report .gpsStatusEngineOn, ?_⟩
      have start : (data.locEngReinit conf answers).Ensures
          (·.Framed data data.muteSessionState) (·.usesNull = false) :=
        ⟨(locEngReinit_frame framed conf answers : Frame _ _ False _).post,
          locEngReinit_harmless data conf answers⟩
      simp only [handleMsg, locEngHandleEngineUp]
      apply Outcome.Ensures.andThen start
      intro after framed
      have unset : ¬ after.agpsStatusCb = true := by
        rw [framed.2.2.1, unset]
        exact Bool.false_ne_true
      rw [if_neg unset]
      exact ⟨(engineBack_frame framed answers : Frame _ _ False _).post,
        engineBack_harmless after answers⟩
  | requestAtl | releaseAtl | releaseWifi | atlOpenSuccess | atlClosed | atlOpenFailed =>
      cases silent
  | _ => cases reaches

end LocEngData

/-- How far `loc_eng_agps_init` has come: there are no machines, or they have no
servicer, or there is a `status_cb` and they have. -/
inductive Staged (set : Bool) (nifs : Nif → Option AgpsStateMachine) : Prop where
  | missing (unset : set = false) (missing : ∀ nif, nifs nif = none)
  | unserved (unset : set = false) (unserved : ∀ nif, ∃ m, nifs nif = some m ∧ m.Idle)
  | served (set : set = true) (served : ∀ nif, ∃ m, nifs nif = some m ∧ Sound nif m)

namespace LocEngData

theorem not_lacks {msg : LocEngMsg} (speechless : data.sentences nmea msg = [])
    (there : msg.callsNif = true → data.agnssNif ≠ none)
    (accepted : msg.subscribes = true → data.agpsStatusCb = true) : ¬ data.Lacks nmea msg := by
  rintro (⟨calls, missing⟩ | ⟨subscribes, unset⟩ | ⟨speaks, -⟩)
  · exact there calls missing
  · rw [accepted subscribes] at unset
    cases unset
  · exact speaks speechless

/-- **A handler uses a null pointer exactly when something is missing**, and leaves
the stage as it is. -/
theorem handleMsg_staged (staged : Staged data.agpsStatusCb data.nif) (conf : LocGpsCfg)
    (nmea : NmeaGenerator) (answers : Answers) (msg : LocEngMsg) :
    (∀ after ∈ (data.handleMsg conf nmea answers msg).1,
        Staged data.agpsStatusCb after.nif) ∧
      (.nullPointer ∈ (data.handleMsg conf nmea answers msg).2 ↔ data.Lacks nmea msg) := by
  have fine {outcome : Handling} (harmless : Harmless outcome) (present : ¬ data.Lacks nmea msg) :
      .nullPointer ∈ outcome.2 ↔ data.Lacks nmea msg :=
    iff_of_false harmless.nullPointer_notMem present
  have fails (lacks : data.Lacks nmea msg) :
      (∀ after ∈ ((none, [.nullPointer]) : Handling).1, Staged data.agpsStatusCb after.nif) ∧
        (.nullPointer ∈ ((none, [.nullPointer]) : Handling).2 ↔ data.Lacks nmea msg) :=
    ⟨fun _ reached => absurd reached (Option.not_mem_none _),
      iff_of_true (List.mem_singleton.mpr rfl) lacks⟩
  cases reaches : msg.reachesNif with
  | false =>
      refine ⟨fun after reached => ?_, ?_⟩
      · rw [((handleMsg_frame conf nmea data answers reaches).post after reached).1]
        exact staged
      · obtain ⟨calls, subscribes⟩ := silent_of_reachesNif reaches
        simp [handleMsg_other reaches, Lacks, calls, subscribes]
  | true =>
      have speechless : data.sentences nmea msg = [] := sentences_of_reachesNif reaches
      cases staged with
      | missing unset missing =>
          cases calls : msg.callsNif with
          | true =>
              rw [handleMsg_missing missing calls]
              exact fails (Or.inl ⟨calls, missing .agnssNif⟩)
          | false =>
              obtain ⟨mute, plain⟩ := handleMsg_unset unset reaches calls
              refine ⟨fun after reached => ?_, fine plain.every ?_⟩
              · rw [(plain.post after reached).1]
                exact .missing unset missing
              · have asked {met : Prop} (asks : msg.subscribes = true) : met :=
                  absurd ((callsNif_of_subscribes asks).symm.trans calls) (by simp)
                exact not_lacks speechless (fun uses => absurd (uses.symm.trans calls) (by simp))
                  asked
      | unserved unset unserved =>
          cases subscribes : msg.subscribes with
          | true =>
              rw [handleMsg_subscribes unserved subscribes]
              exact fails (Or.inr (Or.inl ⟨subscribes, unset⟩))
          | false =>
              have served := (handleMsg_calls conf nmea data answers reaches).served
                (fun _ _ _ idle asks => idle.asked subscribes asks) unserved
              obtain ⟨m, here, -⟩ := unserved .agnssNif
              exact ⟨fun after reached => .unserved unset (served.post after reached),
                fine served.every (not_lacks speechless
                  (fun _ none => by cases here.symm.trans none)
                  fun asks => absurd (asks.symm.trans subscribes) (by simp))⟩
      | served set sound =>
          have served := (handleMsg_calls conf nmea data answers reaches).served
            (fun nif m op sound asks => ⟨sound_takes nif m op sound asks.1,
              fun _ => sound.servicer⟩) sound
          obtain ⟨m, here, -⟩ := sound .agnssNif
          exact ⟨fun after reached => .served set (served.post after reached),
            fine served.every (not_lacks speechless (fun _ none => by cases here.symm.trans none)
              fun _ => set)⟩

/-- One round of the loop. -/
theorem handle_staged (alive : data.context = true) (staged : Staged data.agpsStatusCb data.nif)
    (conf : LocGpsCfg) (nmea : NmeaGenerator) (answers : Answers) (msg : LocEngMsg) :
    (∀ after ∈ (data.handle conf nmea answers msg).1, Staged after.agpsStatusCb after.nif) ∧
      (.nullPointer ∈ (data.handle conf nmea answers msg).2 ↔ data.Lacks nmea msg) := by
  obtain ⟨kept, lacks⟩ := data.handleMsg_staged staged conf nmea answers msg
  have still := (data.handle_frame conf nmea answers msg).post
  have whole : data.handle conf nmea answers msg =
      (data.handleMsg conf nmea answers msg).andThen fun data => data.afterMsg answers msg :=
    if_pos alive
  refine ⟨fun after reached => ?_, ?_⟩
  · rw [(still after reached).2.1]
    rw [whole] at reached
    obtain ⟨middle, early, late⟩ := Outcome.exists_of_mem_andThen reached
    rw [((afterMsg_frame (Framed.refl middle) answers msg : Frame _ _ False _).post after late).1]
    exact kept middle early
  · rw [whole, ← lacks]
    constructor
    · intro member
      rcases Outcome.emitted_of_andThen member with early | ⟨after, -, late⟩
      · exact early
      · exact absurd late (afterMsg_harmless after answers msg).nullPointer_notMem
    · intro early
      exact Outcome.mem_andThen_left early _

/-! ## Starting -/

theorem reinitUntil_harmless (data : LocEngData) (conf : LocGpsCfg) (reinits : ℕ → Answers)
    (tries : ℕ) : Harmless (data.reinitUntil conf reinits tries) := by
  induction tries generalizing data with
  | zero => exact Harmless.done_nil
  | succ tries ih =>
      refine (locEngReinit_harmless data conf _).andThen fun after => ?_
      exact Harmless.ite (fun _ => Harmless.done_nil) fun _ => ih after

/-- `loc_eng_init` leaves an instance that is there alone, and else there are no
machines. -/
theorem locEngInit_staged (staged : Staged data.agpsStatusCb data.nif) (conf : LocGpsCfg)
    (call : InitCall) :
    (data.locEngInit conf call).Ensures (fun after => Staged after.agpsStatusCb after.nif)
      (·.usesNull = false) := by
  have kept : (data.done []).Ensures (fun after => Staged after.agpsStatusCb after.nif)
      (·.usesNull = false) :=
    Outcome.Ensures.silent staged
  unfold locEngInit
  split
  · exact kept
  · split
    · exact kept
    · split
      · exact kept
      · simp only []
        split
        · refine ⟨fun after reached => ?_, reinitUntil_harmless _ conf call.reinits 30⟩
          rw [reinitUntil_data] at reached
          cases reached
          exact .missing rfl fun nif => by cases nif <;> rfl
        · exact Outcome.Ensures.silent (.missing rfl fun nif => by cases nif <;> rfl)

/-- `loc_eng_agps_init` constructs the machines once there is a `status_cb`, and
constructs them anew until then. -/
theorem locEngAgpsInit_staged (staged : Staged data.agpsStatusCb data.nif) (answers : Answers)
    (statusCb : Bool) :
    (data.locEngAgpsInit answers statusCb).Ensures
      (fun after => Staged after.agpsStatusCb after.nif) (·.usesNull = false) := by
  unfold locEngAgpsInit
  split
  · exact Outcome.Ensures.silent staged
  · refine ⟨fun after reached => ?_, locEngAgpsReinit_harmless _ answers⟩
    have framed := (locEngAgpsReinit_frame (Framed.refl _) answers : Frame _ _ False _).post after
      reached
    rw [framed.1, framed.2.2.1]
    cases statusCb with
    | false => exact .unserved rfl fun nif => by cases nif <;> exact ⟨_, rfl, rfl, rfl, rfl⟩
    | true => exact .served rfl fun nif => by cases nif <;> exact ⟨_, rfl, Sound.init _⟩

theorem locEngSetServerProxy_staged (staged : Staged data.agpsStatusCb data.nif)
    (answers : Answers) (type : LocServerType) (hostname : List UInt8) (port : ℤ) :
    (data.locEngSetServerProxy answers type hostname port).Ensures
      (fun after => Staged after.agpsStatusCb after.nif) (·.usesNull = false) := by
  unfold locEngSetServerProxy
  split
  · refine ⟨fun after reached => ?_, locEngSetServer_harmless data answers type hostname port⟩
    have framed := (locEngSetServer_frame (Framed.refl data) answers type hostname port :
      Frame _ _ False _).post after reached
    rw [framed.1, framed.2.2.1]
    exact staged
  · cases type <;> exact Outcome.Ensures.silent (by exact staged)

end LocEngData

end Handlers

/-! ## Runs -/

/-- A step in which a message is handled that needs something missing. -/
def UsesNull (nmea : NmeaGenerator) (taken : Machine.Step (Option LocEngData) InstanceInput Call) :
    Prop :=
  ∃ data msg answers, taken.before = some data ∧ taken.input = .thread (.handle msg answers) ∧
    data.context = true ∧ data.Lacks nmea msg

section Runs

variable {conf : LocGpsCfg} {nmea : NmeaGenerator}

/-- A step that handles no message. -/
theorem staged_of_quiet {data : LocEngData} {input : InstanceInput}
    (other : ∀ msg answers, input ≠ .thread (.handle msg answers))
    (ensures : Outcome.Ensures (fun after => Staged after.agpsStatusCb after.nif)
      (·.usesNull = false) ((locEngInstance conf nmea).step (some data) input)) :
    (∀ after ∈ ((locEngInstance conf nmea).step (some data) input).1,
        Staged after.agpsStatusCb after.nif) ∧
      (.nullPointer ∈ ((locEngInstance conf nmea).step (some data) input).2 ↔
        UsesNull nmea ((locEngInstance conf nmea).stepOn (some data) input)) := by
  refine ⟨ensures.post, iff_of_false (Harmless.nullPointer_notMem ensures.every) ?_⟩
  rintro ⟨_, msg, answers, -, same, -⟩
  exact other msg answers same

/-- What every step of an instance does with its stage. -/
theorem locEngInstance_staged {state : Option LocEngData}
    (staged : ∀ data ∈ state, Staged data.agpsStatusCb data.nif) (input : InstanceInput) :
    (∀ after ∈ ((locEngInstance conf nmea).step state input).1,
        Staged after.agpsStatusCb after.nif) ∧
      (.nullPointer ∈ ((locEngInstance conf nmea).step state input).2 ↔
        UsesNull nmea ((locEngInstance conf nmea).stepOn state input)) := by
  cases state with
  | none =>
      refine ⟨fun _ reached => absurd reached (Option.not_mem_none _),
        iff_of_false List.not_mem_nil ?_⟩
      rintro ⟨data, msg, answers, alive, -⟩
      cases alive
  | some data =>
      have staged := staged data rfl
      cases input with
      | init call =>
          exact staged_of_quiet (fun _ _ same => by cases same)
            (LocEngData.locEngInit_staged staged conf call)
      | agpsInit statusCb answers =>
          exact staged_of_quiet (fun _ _ same => by cases same)
            (LocEngData.locEngAgpsInit_staged staged answers statusCb)
      | setServerProxy type hostname port answers =>
          exact staged_of_quiet (fun _ _ same => by cases same)
            (LocEngData.locEngSetServerProxy_staged staged answers type hostname port)
      | thread input =>
          cases input with
          | niWrite niNotifyCb ni =>
              exact staged_of_quiet (fun _ _ same => by cases same)
                (Outcome.Ensures.silent (by exact staged))
          | handle msg answers =>
              cases alive : data.context with
              | false =>
                  have stopped : (locEngInstance conf nmea).step (some data)
                      (.thread (.handle msg answers)) = (none, []) := if_neg (by simp [alive])
                  rw [stopped]
                  refine ⟨fun _ reached => absurd reached (Option.not_mem_none _),
                    iff_of_false List.not_mem_nil ?_⟩
                  rintro ⟨_, _, _, here, -, dead, -⟩
                  cases here
                  exact absurd dead (by simp [alive])
              | true =>
                  obtain ⟨kept, lacks⟩ := data.handle_staged alive staged conf nmea answers msg
                  refine ⟨kept, lacks.trans ?_⟩
                  constructor
                  · intro lacks
                    exact ⟨data, msg, answers, rfl, rfl, alive, lacks⟩
                  · rintro ⟨_, _, _, here, same, -, lacks⟩
                    cases here
                    cases same
                    exact lacks

/-- **A run uses no null pointer exactly when every message finds what its handler
uses.** -/
theorem nullPointer_free_iff (conf : LocGpsCfg) (nmea : NmeaGenerator)
    (inputs : List InstanceInput) :
    .nullPointer ∉ (locEngInstance conf nmea).outputs (some .static) inputs ↔
      ∀ taken ∈ (locEngInstance conf nmea).steps (some .static) inputs, ¬ UsesNull nmea taken := by
  have start : ∀ data ∈ some LocEngData.static, Staged data.agpsStatusCb data.nif := by
    intro data same
    cases same
    exact .missing rfl fun nif => by cases nif <;> rfl
  have each : ∀ taken ∈ (locEngInstance conf nmea).steps (some .static) inputs,
      .nullPointer ∈ taken.outputs ↔ UsesNull nmea taken :=
    @Machine.steps_induction _ _ _ (locEngInstance conf nmea)
      (fun state => ∀ data ∈ state, Staged data.agpsStatusCb data.nif) (fun _ => True)
      (fun taken => .nullPointer ∈ taken.outputs ↔ UsesNull nmea taken)
      (fun _ input staged _ => (locEngInstance_staged staged input).1)
      (fun _ input staged _ => (locEngInstance_staged staged input).2)
      (some .static) start inputs fun _ _ => trivial
  rw [Machine.mem_outputs]
  constructor
  · intro free taken member uses
    exact free ⟨taken, member, (each taken member).mpr uses⟩
  · rintro free ⟨taken, member, crash⟩
    exact free taken member ((each taken member).mp crash)

/-- The first call of `loc_eng_init`, with all callbacks set but `nmea_cb`. -/
def InitCall.speechless : InitCall where
  callbacks := some ⟨true, true, true, false, true⟩
  event := 5
  intermediatePos := 0
  nmeaProviderAp := true
  client := true
  reinits _ := .success

/-- The generator for reports without satellites: "no svs in view, so just send a
blank $GPGSV sentence". -/
def NmeaGenerator.blank : NmeaGenerator :=
  ⟨fun cache _ _ => (cache, []), fun cache _ _ => (cache,
    [[36, 71, 80, 71, 83, 86, 44, 49, 44, 49, 44, 48, 44, 42, 54, 53, 13, 10]])⟩

/-- A request of the modem meets no machine before `loc_eng_agps_init` and no servicer
after it, and a report without satellites meets no `nmea_cb`. -/
theorem not_nullPointer_free :
    .nullPointer ∈ (locEngInstance locDefaultParameters .silent).outputs (some .static)
      [.init .speechless, .thread (.handle (.requestAtl 7 agpsTypeSupl) .success)] ∧
    .nullPointer ∈ (locEngInstance locDefaultParameters .silent).outputs (some .static)
      [.init .speechless, .agpsInit false .success,
        .thread (.handle (.requestAtl 7 agpsTypeSupl) .success)] ∧
    .nullPointer ∈ (locEngInstance locDefaultParameters .blank).outputs (some .static)
      [.init .speechless,
        .thread (.handle (.reportSv ⟨0, [], 0⟩ ⟨0, 0, 0, 0, 0, 0⟩ 0) .success)] := by
  decide

end Runs

end Msm8660.Gps
