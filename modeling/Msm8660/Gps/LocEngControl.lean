import Msm8660.Gps.LocEngThread

/-!
# Sessions and aiding data

The members of `loc_eng_data_s_type` that say whether the engine navigates, which
stop is deferred and which aiding data is still to be deleted, and what the
handlers do to them. A handler is quiet when it leaves these members alone and
makes none of the calls that belong to them; the messages with such handlers are
all but seven (`handleMsg_quiet`). For each of the seven there is a lemma that says
what it does instead.
-/

set_option autoImplicit false

namespace Msm8660.Gps

/-- The members that decide about sessions and aiding data. -/
structure SessionControl where
  statusCb : Bool
  navigating : Bool
  agpsRequestPending : Bool
  stopRequestPending : Bool
  engineStatus : GpsStatusValue
  aidingDataForDeletion : BitVec 16
deriving DecidableEq

def LocEngData.control (data : LocEngData) : SessionControl :=
  ⟨data.statusCb, data.navigating, data.agpsRequestPending, data.stopRequestPending,
    data.engineStatus, data.aidingDataForDeletion⟩

/-- The calls that belong to sessions and aiding data. -/
def Call.controls : Call → Bool
  | .statusCb _ | .adapter .startFix | .adapter .stopFix | .adapter (.deleteAidingData _) => true
  | _ => false

/-- The messages that sessions and aiding data depend on. -/
def LocEngMsg.controls : LocEngMsg → Bool
  | .startFix | .stopFix | .reportPosition .. | .reportStatus _ | .deleteAidingData _
  | .engineDown | .engineUp => true
  | _ => false

/-- The handler leaves sessions and aiding data as they are in `origin`. -/
def Quiet (origin : SessionControl) (outcome : Handling) : Prop :=
  outcome.Ensures (·.control = origin) (·.controls = false)

section Handlers

variable {origin : SessionControl} {data : LocEngData}

namespace Quiet

theorem done (same : data.control = origin) {calls : List Call}
    (silent : ∀ call ∈ calls, call.controls = false) : Quiet origin (data.done calls) :=
  Outcome.Ensures.some same silent

theorem done_nil (same : data.control = origin) : Quiet origin (data.done []) :=
  Outcome.Ensures.silent same

theorem done_single (same : data.control = origin) {call : Call}
    (silent : call.controls = false) : Quiet origin (data.done [call]) :=
  Quiet.done same (List.forall_mem_singleton.mpr silent)

theorem andThen {first : Handling} {next : LocEngData → Handling} (start : Quiet origin first)
    (rest : ∀ data : LocEngData, data.control = origin → Quiet origin (next data)) :
    Quiet origin (first.andThen next) :=
  Outcome.Ensures.andThen start rest

theorem ite {c : Prop} [Decidable c] {first second : Handling} (yes : c → Quiet origin first)
    (no : ¬ c → Quiet origin second) : Quiet origin (if c then first else second) :=
  iteInduction yes no

end Quiet

namespace LocEngData

/-! ## What the handlers of a session come to -/

/-- Whether the adapter starts a fix, or will do so once the modem is up. -/
def starts (answers : Answers) : Bool :=
  answers.startFix == .success || answers.startFix == .engineDown

/-- The calls of `loc_eng_start_handler` outside of a session. -/
def startCalls (data : LocEngData) (answers : Answers) : List Call :=
  .adapter .startFix ::
    if starts answers && data.statusCb then [.statusCb .gpsStatusSessionBegin] else []

/-- The calls of `loc_eng_stop_handler` in a session. -/
def stopCalls (data : LocEngData) (answers : Answers) : List Call :=
  .adapter .stopFix ::
    if answers.stopFix == .success && data.statusCb then [.statusCb .gpsStatusSessionEnd] else []

theorem mem_startCalls {data : LocEngData} {answers : Answers} {call : Call}
    (member : call ∈ data.startCalls answers) :
    call = .adapter .startFix ∨ call = .statusCb .gpsStatusSessionBegin := by
  refine (List.mem_cons.mp member).imp id fun later => ?_
  split at later
  · exact List.mem_singleton.mp later
  · exact absurd later List.not_mem_nil

theorem mem_stopCalls {data : LocEngData} {answers : Answers} {call : Call}
    (member : call ∈ data.stopCalls answers) :
    call = .adapter .stopFix ∨ call = .statusCb .gpsStatusSessionEnd := by
  refine (List.mem_cons.mp member).imp id fun later => ?_
  split at later
  · exact List.mem_singleton.mp later
  · exact absurd later List.not_mem_nil

theorem locEngStartHandler_eq (data : LocEngData) (answers : Answers) :
    data.locEngStartHandler answers =
      if data.navigating then data.done []
      else { data with navigating := starts answers }.done (data.startCalls answers) := by
  unfold locEngStartHandler startCalls starts
  cases data
  split
  · rfl
  · next idle =>
      cases answers.startFix <;> simp_all [locInformGpsStatus, done]

theorem locEngStopHandler_eq (data : LocEngData) (answers : Answers) :
    data.locEngStopHandler answers =
      if data.navigating then { data with navigating := false }.done (data.stopCalls answers)
      else data.done [] := by
  unfold locEngStopHandler stopCalls
  split
  · by_cases stopped : answers.stopFix = .success
    · cases set : data.statusCb <;> simp [stopped, locInformGpsStatus, set, done]
    · simp [stopped, done]
  · rfl

/-- Whether `loc_eng_report_status` passes a status on. -/
def passesOn (data : LocEngData) (status : GpsStatusValue) : Bool :=
  status != .gpsStatusNone && !(status == .gpsStatusSessionEnd && data.navigating) &&
    !(status == .gpsStatusSessionBegin && !data.navigating) &&
    data.muteSessionState.report status != .locMuteSessInSession && data.statusCb

theorem locEngReportStatus_eq (data : LocEngData) (status : GpsStatusValue) :
    data.locEngReportStatus status =
      LocEngData.done { data with
        muteSessionState := data.muteSessionState.report status
        engineStatus :=
          if status = GpsStatusValue.gpsStatusEngineOn ∨ status = GpsStatusValue.gpsStatusEngineOff
          then status else data.engineStatus
        fixSessionStatus :=
          if status = GpsStatusValue.gpsStatusSessionBegin ∨
            status = GpsStatusValue.gpsStatusSessionEnd
          then status else data.fixSessionStatus }
        (if data.passesOn status then [.statusCb status] else []) := by
  unfold locEngReportStatus passesOn
  by_cases muted : data.muteSessionState.report status = .locMuteSessInSession
  · simp [muted, done]
  · cases set : data.statusCb <;> cases inSession : data.navigating <;> cases status <;>
      simp [muted, done, locInformGpsStatus]

/-- Whether a deferred stop is due behind a message. -/
def stopsAfter (data : LocEngData) (msg : LocEngMsg) : Bool :=
  endsDataCall msg && data.stopRequestPending && data.navigating

/-- Whether aiding data can be deleted behind a message. -/
def deletesAfter (data : LocEngData) : Bool :=
  data.engineStatus != .gpsStatusEngineOn && data.aidingDataForDeletion != 0

/-- What the loop does behind every message: the deferred stop first. -/
theorem afterMsg_stop (data : LocEngData) (answers : Answers) (msg : LocEngMsg) :
    ((if endsDataCall msg then
        let data := { data with agpsRequestPending := false }
        if data.stopRequestPending then
          (data.locEngStopHandler answers).andThen fun data =>
            { data with stopRequestPending := false }.done []
        else data.done []
      else data.done []).andThen fun data => { data with stopRequestPending := false }.done []) =
      LocEngData.done { data with
        agpsRequestPending := data.agpsRequestPending && !endsDataCall msg
        stopRequestPending := false
        navigating := data.navigating && !data.stopsAfter msg }
        (if data.stopsAfter msg then data.stopCalls answers else []) := by
  unfold stopsAfter
  simp only [locEngStopHandler_eq]
  cases endsDataCall msg with
  | false => simp [done]
  | true =>
      cases deferred : data.stopRequestPending with
      | false => simp [done]
      | true => cases inSession : data.navigating <;> simp [done, stopCalls]

/-- The aiding data last. -/
theorem afterMsg_delete (data : LocEngData) :
    (if data.engineStatus ≠ .gpsStatusEngineOn ∧ data.aidingDataForDeletion ≠ 0 then
      { data with aidingDataForDeletion := 0 }.done
        [.adapter (.deleteAidingData data.aidingDataForDeletion)]
    else data.done []) =
      LocEngData.done { data with
        aidingDataForDeletion := if data.deletesAfter then 0 else data.aidingDataForDeletion }
        (if data.deletesAfter then [.adapter (.deleteAidingData data.aidingDataForDeletion)]
          else []) := by
  have same : data.deletesAfter = true ↔
      data.engineStatus ≠ .gpsStatusEngineOn ∧ data.aidingDataForDeletion ≠ 0 := by
    simp [deletesAfter]
  by_cases due : data.deletesAfter = true
  · simp only [if_pos (same.mp due), due, if_true]
  · simp only [if_neg (mt same.mpr due), due, if_false, Bool.false_eq_true]

theorem afterMsg_eq (data : LocEngData) (answers : Answers) (msg : LocEngMsg) :
    data.afterMsg answers msg =
      LocEngData.done { data with
        agpsRequestPending := data.agpsRequestPending && !endsDataCall msg
        stopRequestPending := false
        navigating := data.navigating && !data.stopsAfter msg
        aidingDataForDeletion :=
          if data.deletesAfter then 0 else data.aidingDataForDeletion }
        ((if data.stopsAfter msg then data.stopCalls answers else []) ++
          if data.deletesAfter then [.adapter (.deleteAidingData data.aidingDataForDeletion)]
          else []) := by
  rw [afterMsg, afterMsg_stop]
  exact congrArg (fun last : Handling => (last.1,
    (if data.stopsAfter msg then data.stopCalls answers else []) ++ last.2)) (afterMsg_delete _)

/-- What the loop calls behind a message. -/
theorem mem_afterMsg {data : LocEngData} {answers : Answers} {msg : LocEngMsg} {call : Call}
    (member : call ∈ (data.afterMsg answers msg).2) :
    call ∈ data.stopCalls answers ∨
      call = .adapter (.deleteAidingData data.aidingDataForDeletion) ∧
        data.deletesAfter = true := by
  rw [afterMsg_eq] at member
  refine (List.mem_append.mp member).imp (fun early => ?_) fun late => ?_
  · split at early
    · exact early
    · exact absurd early List.not_mem_nil
  · split at late
    · next due => exact ⟨List.mem_singleton.mp late, due⟩
    · exact absurd late List.not_mem_nil

/-! ## Quiet handlers -/

@[simp] theorem control_setNif (nif : Nif) (m : AgpsStateMachine) :
    (data.setNif nif m).control = data.control := by
  cases nif <;> rfl

theorem callNif_quiet (same : data.control = origin) (nif : Nif) (op : AgpsOp) :
    Quiet origin (data.callNif nif op) := by
  unfold callNif
  split
  · exact Outcome.Ensures.none (List.forall_mem_singleton.mpr rfl)
  · refine Quiet.ite (fun _ => Outcome.Ensures.none (List.forall_mem_singleton.mpr rfl))
      fun _ => Quiet.done (by rw [control_setNif, same]) ?_
    intro call member
    obtain ⟨effect, -, rfl⟩ := List.mem_map.mp member
    rfl

theorem withNi_quiet (same : data.control = origin) (result : LocEngNiData × List NiEffect) :
    Quiet origin (data.withNi result) := by
  apply Quiet.done (by exact same)
  intro call member
  obtain ⟨effect, -, rfl⟩ := List.mem_map.mp member
  rfl

theorem locEngNmeaSend_quiet (same : data.control = origin) (sentences : List (List UInt8)) :
    Quiet origin (data.locEngNmeaSend sentences) := by
  refine Quiet.ite (fun _ => Quiet.done same fun call member => ?_) fun _ => ?_
  · obtain ⟨sentence, -, rfl⟩ := List.mem_map.mp member
    rfl
  · exact Outcome.Ensures.none (List.forall_mem_singleton.mpr rfl)

theorem reportSv_quiet (same : data.control = origin) (nmea : NmeaGenerator)
    (svStatus : GpsSvStatus) (locationExtended : GpsLocationExtended) (svExt : Pointer) :
    Quiet origin (data.reportSv nmea svStatus locationExtended svExt) := by
  apply Quiet.ite (fun _ => Quiet.done_nil same)
  intro _
  refine (Quiet.done same fun call member => ?_).andThen fun after same => ?_
  · split at member
    · rw [List.mem_singleton.mp member]
      rfl
    · exact absurd member List.not_mem_nil
  · exact Quiet.ite (fun _ => locEngNmeaSend_quiet (by exact same) _) fun _ => Quiet.done_nil same

/-- A call that depends on whether a callback is set. -/
theorem callback_quiet (same : data.control = origin) (set : Bool) {call : Call}
    (silent : call.controls = false) : Quiet origin (data.done (if set then [call] else [])) := by
  cases set with
  | false => exact Quiet.done_nil same
  | true => exact Quiet.done_single same silent

theorem locEngSetServer_quiet (same : data.control = origin) (answers : Answers)
    (type : LocServerType) (hostname : List UInt8) (port : ℤ) :
    Quiet origin (data.locEngSetServer answers type hostname port) := by
  unfold locEngSetServer
  split
  · split
    · exact Quiet.done_single same rfl
    · exact Quiet.done_nil same
  · split
    · exact Quiet.done_single same rfl
    · exact Quiet.done_nil same

theorem locEngAgpsReinit_quiet (same : data.control = origin) (answers : Answers) :
    Quiet origin (data.locEngAgpsReinit answers) := by
  unfold locEngAgpsReinit
  refine Quiet.andThen (?_ : Quiet origin _) fun after same => ?_
  · split
    · exact locEngSetServer_quiet same _ _ _ _
    · exact Quiet.done_nil same
  · split
    · exact locEngSetServer_quiet same _ _ _ _
    · exact Quiet.done_nil same

theorem locEngReinit_quiet (same : data.control = origin) (conf : LocGpsCfg) (answers : Answers) :
    Quiet origin (data.locEngReinit conf answers) := by
  apply Quiet.done same
  intro call member
  have sent : call = .adapter .reinit ∨ ∃ msg, call = .queued msg := by
    split at member
    · split at member <;> simp at member <;> grind
    · exact Or.inl (List.mem_singleton.mp member)
  rcases sent with rfl | ⟨msg, rfl⟩ <;> rfl

/-- **The messages that do not concern a session or aiding data** leave both
alone. -/
theorem handleMsg_quiet (conf : LocGpsCfg) (nmea : NmeaGenerator) (data : LocEngData)
    (answers : Answers) {msg : LocEngMsg} (other : msg.controls = false) :
    Quiet data.control (data.handleMsg conf nmea answers msg) := by
  have same : data.control = data.control := rfl
  cases msg with
  | quit => exact Outcome.Ensures.none fun _ member => absurd member List.not_mem_nil
  | requestNi notify passThroughData => exact withNi_quiet same _
  | reportSv svStatus locationExtended svExt => exact reportSv_quiet same nmea _ _ _
  | reportNmea sentence => exact callback_quiet same data.nmeaCb rfl
  | requestBit ifType ipv4Addr ipv6Addr =>
      simp only [handleMsg, requestBit]
      cases bitNif ifType with
      | none => exact Quiet.done_nil same
      | some nif => exact callNif_quiet same nif _
  | releaseBit ifType ipv4Addr ipv6Addr =>
      simp only [handleMsg, releaseBit]
      cases bitNif ifType with
      | none => exact Quiet.done_nil same
      | some nif => exact callNif_quiet same nif _
  | requestAtl handle type => exact callNif_quiet same (atlNif type) (.subscribeRsrc _)
  | releaseAtl handle =>
      refine (callNif_quiet same .agnssNif _).andThen fun after same => ?_
      split
      · exact Quiet.ite (fun _ => Quiet.done_nil same) fun _ => callNif_quiet same _ _
      · exact Quiet.done_nil same
  | requestWifi senderId ssid password =>
      exact Quiet.ite (fun _ => callNif_quiet same .wifiNif (.subscribeRsrc _))
        fun _ => Quiet.done_nil same
  | releaseWifi senderId ssid password => exact callNif_quiet same .wifiNif (.unsubscribeRsrc _)
  | requestXtraData => exact callback_quiet same data.downloadRequestCb rfl
  | requestTime => exact callback_quiet same data.requestUtcTimeCb rfl
  | requestPosition => exact Quiet.done_nil same
  | enableData enable apn =>
      exact Quiet.done same (List.forall_mem_cons.mpr ⟨rfl, List.forall_mem_singleton.mpr rfl⟩)
  | atlOpenSuccess agpsType apn length bearerType =>
      exact (callNif_quiet same _ _).andThen fun _ same =>
        (callNif_quiet same _ _).andThen fun _ same => callNif_quiet same _ _
  | atlClosed agpsType => exact callNif_quiet same (answerNif agpsType) (.onRsrcEvent _)
  | atlOpenFailed agpsType => exact callNif_quiet same (answerNif agpsType) (.onRsrcEvent _)
  | requestNetworkPosition request => exact callback_quiet same data.ulpNetworkCallback rfl
  | requestPhoneContext request => exact callback_quiet same data.ulpPhoneContextReqCb rfl
  | other => exact Quiet.done_nil same
  | informNiResponse response passThroughData => exact Quiet.done_single same rfl
  | setPositionMode pMode => exact Quiet.done_single same rfl
  | setTime time timeReference uncertainty => exact Quiet.done_single same rfl
  | injectLocation latitude longitude accuracy => exact Quiet.done_single same rfl
  | setServerIpv4 nlAddr port serverType => exact Quiet.done_single same rfl
  | setServerUrl url => exact Quiet.done_single same rfl
  | suplVersion version => exact Quiet.done_single same rfl
  | lppConfig profile => exact Quiet.done_single same rfl
  | setSensorControlConfig sensorsDisabled => exact Quiet.done_single same rfl
  | setSensorProperties properties => exact Quiet.done_single same rfl
  | setSensorPerfControlConfig config => exact Quiet.done_single same rfl
  | extPowerConfig isBatteryCharging => exact Quiet.done_single same rfl
  | injectXtraData bytes => exact Quiet.done_single same rfl
  | startFix => cases other
  | stopFix => cases other
  | reportPosition location locationExtended locationExt status technologyMask => cases other
  | reportStatus status => cases other
  | deleteAidingData type => cases other
  | engineDown => cases other
  | engineUp => cases other

/-! ## What is still to be done -/

end LocEngData

/-- The same stop is deferred, and the same aiding data is still to be deleted. -/
def SessionControl.SamePending (control origin : SessionControl) : Prop :=
  control.statusCb = origin.statusCb ∧
    control.agpsRequestPending = origin.agpsRequestPending ∧
    control.stopRequestPending = origin.stopRequestPending ∧
    control.aidingDataForDeletion = origin.aidingDataForDeletion

/-- The handler leaves to be done what was to be done in `origin`, and deletes no
aiding data. -/
def Defers (origin : SessionControl) (outcome : Handling) : Prop :=
  outcome.Ensures (·.control.SamePending origin)
    fun call => ∀ mask, call ≠ .adapter (.deleteAidingData mask)

namespace Defers

theorem of_quiet (same : data.control.SamePending origin) {outcome : Handling}
    (quiet : Quiet data.control outcome) : Defers origin outcome := by
  refine Outcome.Ensures.mono quiet (fun after kept => ?_) fun call silent mask deletes => ?_
  · rw [kept]
    exact same
  · rw [deletes] at silent
    cases silent

theorem done_nil (same : data.control.SamePending origin) : Defers origin (data.done []) :=
  Outcome.Ensures.silent same

theorem done_single (same : data.control.SamePending origin) {call : Call}
    (silent : ∀ mask, call ≠ .adapter (.deleteAidingData mask)) :
    Defers origin (data.done [call]) :=
  Outcome.Ensures.some same (List.forall_mem_singleton.mpr silent)

theorem andThen {first : Handling} {next : LocEngData → Handling} (start : Defers origin first)
    (rest : ∀ data : LocEngData, data.control.SamePending origin → Defers origin (next data)) :
    Defers origin (first.andThen next) :=
  Outcome.Ensures.andThen start rest

theorem ite {c : Prop} [Decidable c] {first second : Handling} (yes : c → Defers origin first)
    (no : ¬ c → Defers origin second) : Defers origin (if c then first else second) :=
  iteInduction yes no

end Defers

namespace LocEngData

theorem locInformGpsStatus_defers (same : data.control.SamePending origin)
    (status : GpsStatusValue) : Defers origin (data.locInformGpsStatus status) := by
  unfold locInformGpsStatus
  split
  · exact Defers.done_single same (by simp)
  · exact Defers.done_nil same

theorem locEngStartHandler_defers (same : data.control.SamePending origin) (answers : Answers) :
    Defers origin (data.locEngStartHandler answers) := by
  apply Defers.ite (fun _ => Defers.done_nil same)
  intro _
  refine (Defers.done_single same (by simp)).andThen fun after same => ?_
  exact Defers.ite (fun _ => locInformGpsStatus_defers (by exact same) _) fun _ =>
    Defers.done_nil same

theorem locEngStopHandler_defers (same : data.control.SamePending origin) (answers : Answers) :
    Defers origin (data.locEngStopHandler answers) := by
  refine Defers.ite (fun _ => Defers.andThen (?_ : Defers origin _) fun after same =>
    Defers.done_nil (by exact same)) fun _ => Defers.done_nil same
  refine (Defers.done_single same (by simp)).andThen fun after same => ?_
  exact Defers.ite (fun _ => locInformGpsStatus_defers same _) fun _ => Defers.done_nil same

theorem locEngReportStatus_defers (same : data.control.SamePending origin)
    (status : GpsStatusValue) : Defers origin (data.locEngReportStatus status) := by
  refine Defers.andThen (?_ : Defers origin _) fun after same => Defers.done_nil (by exact same)
  exact Defers.ite (fun _ => locInformGpsStatus_defers (by exact same) status) fun _ =>
    Defers.done_nil (by exact same)

theorem reportPosition_defers (same : data.control.SamePending origin) (conf : LocGpsCfg)
    (nmea : NmeaGenerator) (answers : Answers) (location : GpsLocation)
    (locationExtended : GpsLocationExtended) (locationExt : Pointer) (status : LocSessStatus)
    (technologyMask : BitVec 32) :
    Defers origin (data.reportPosition conf nmea answers location locationExtended locationExt
      status technologyMask) := by
  apply Defers.ite (fun _ => Defers.done_nil same)
  intro _
  refine Defers.andThen (?_ : Defers origin _) fun after same => ?_
  · refine Defers.andThen (Outcome.Ensures.some same fun call member => ?_) fun after same => ?_
    · split at member
      · split at member
        · simp [List.mem_singleton.mp member]
        · split at member
          · simp [List.mem_singleton.mp member]
          · exact absurd member List.not_mem_nil
      · exact absurd member List.not_mem_nil
    · refine Defers.ite (fun _ => Outcome.Ensures.some (by exact same) fun call member => ?_)
        fun _ => Defers.done_nil same
      split at member
      · simp [List.mem_singleton.mp member]
      · exact absurd member List.not_mem_nil
  · refine Defers.ite (fun _ => Defers.of_quiet same ?_) fun _ => Defers.done_nil same
    exact locEngNmeaSend_quiet (by rfl) _

theorem locEngHandleEngineDown_defers (same : data.control.SamePending origin) :
    Defers origin data.locEngHandleEngineDown :=
  (Defers.of_quiet same (withNi_quiet rfl _)).andThen fun _ same =>
    locEngReportStatus_defers same _

/-- The machines and the servers on `LOC_ENG_MSG_ENGINE_UP`. -/
theorem engineUpNifs_quiet (same : data.control = origin) (answers : Answers) :
    Quiet origin (if data.agpsStatusCb then
      (data.callNif .agnssNif .dropAllSubscribers).andThen fun data =>
      (data.callNif .internetNif .dropAllSubscribers).andThen fun data =>
        data.locEngAgpsReinit answers
    else data.done []) := by
  refine Quiet.ite (fun _ => ?_) fun _ => Quiet.done_nil same
  exact (callNif_quiet same _ _).andThen fun _ same =>
    (callNif_quiet same _ _).andThen fun _ same => locEngAgpsReinit_quiet same answers

theorem restartFix_defers (same : data.control.SamePending origin) (answers : Answers) :
    Defers origin (data.restartFix answers) := by
  refine Defers.ite (fun _ => ?_) fun _ => Defers.done_nil same
  exact (Defers.done_single (by exact same) (by simp)).andThen fun _ same =>
    locEngStartHandler_defers same answers

theorem locEngHandleEngineUp_defers (same : data.control.SamePending origin) (conf : LocGpsCfg)
    (answers : Answers) : Defers origin (data.locEngHandleEngineUp conf answers) := by
  refine (Defers.of_quiet same (locEngReinit_quiet rfl conf answers)).andThen fun _ same => ?_
  refine (Defers.of_quiet same (engineUpNifs_quiet rfl answers)).andThen fun _ same => ?_
  exact (locEngReportStatus_defers same _).andThen fun _ same => restartFix_defers same answers

/-- **All messages but two** leave to be done what was to be done. -/
theorem handleMsg_defers (conf : LocGpsCfg) (nmea : NmeaGenerator) (data : LocEngData)
    (answers : Answers) {msg : LocEngMsg} (noStop : msg ≠ .stopFix)
    (noDeletion : ∀ type, msg ≠ .deleteAidingData type) :
    Defers data.control (data.handleMsg conf nmea answers msg) := by
  have same : data.control.SamePending data.control := ⟨rfl, rfl, rfl, rfl⟩
  cases controls : msg.controls with
  | false => exact Defers.of_quiet same (handleMsg_quiet conf nmea data answers controls)
  | true =>
      cases msg with
      | startFix => exact locEngStartHandler_defers same answers
      | stopFix => exact absurd rfl noStop
      | reportPosition location locationExtended locationExt status technologyMask =>
          exact reportPosition_defers same conf nmea answers _ _ _ _ _
      | reportStatus status => exact locEngReportStatus_defers same status
      | deleteAidingData type => exact absurd rfl (noDeletion type)
      | engineDown => exact locEngHandleEngineDown_defers same
      | engineUp => exact locEngHandleEngineUp_defers same conf answers
      | _ => cases controls

end LocEngData

end Handlers

end Msm8660.Gps
