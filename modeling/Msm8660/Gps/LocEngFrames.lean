import Msm8660.Gps.LocEngThread

/-!
# Frames of the handlers

One lemma for each handler that does not reach a state machine: it leaves the
three machines alone and the instance alive, it moves the mute state as said, and
it makes a report, that is, it tells a client where the device is, only under the
condition said. `handleMsg_frame` puts them together; the handlers of the messages
for the machines make no report (`handleMsg_silent`). What all messages have in
common is `handle_frame`.
-/

set_option autoImplicit false

namespace Msm8660.Gps

/-- The calls that tell a client where the device is. -/
def Call.isReport : Call → Bool
  | .locationCb _ | .svStatusCb _ _ | .nmeaCb _ => true
  | _ => false

/-- The effect that a call is, on behalf of the machine of an interface. -/
def Call.effectOn (nif : Nif) : Call → Option Effect
  | .agps nif' effect => if nif' = nif then some effect else none
  | _ => none

/-- The messages of the modem that tell where the device is. -/
def LocEngMsg.isReport : LocEngMsg → Bool
  | .reportPosition .. | .reportSv .. | .reportNmea _ => true
  | _ => false

/-- The messages whose handlers reach a state machine. -/
def LocEngMsg.reachesNif : LocEngMsg → Bool
  | .requestBit .. | .releaseBit .. | .requestAtl .. | .releaseAtl _ | .requestWifi ..
  | .releaseWifi .. | .atlOpenSuccess .. | .atlClosed _ | .atlOpenFailed _ | .engineUp => true
  | _ => false

/-- The status that a message reports to `loc_eng_report_status`. -/
def LocEngMsg.reportedStatus : LocEngMsg → Option GpsStatusValue
  | .reportStatus status => some status
  | .engineDown => some .gpsStatusEngineOff
  | .engineUp => some .gpsStatusEngineOn
  | _ => none

namespace LocEngData

/-- Whether a message is a request that mutes a session. -/
def overridesPrivacy (data : LocEngData) : LocEngMsg → Bool
  | .requestNi notify _ =>
      data.niNotifyCb && data.locEngNiData.rawRequest.isNone &&
        notify.notifyFlags == gpsNiPrivacyOverride
  | _ => false

/-- How a message moves the mute state. -/
def muteAfter (data : LocEngData) (msg : LocEngMsg) : LocMuteSession :=
  if data.overridesPrivacy msg then .locMuteSessWait
  else match msg.reportedStatus with
    | some status => data.muteSessionState.report status
    | none => data.muteSessionState

/-- Whether a sentence of the modem is passed on as it is. -/
def forwardsNmea (data : LocEngData) : LocEngMsg → Bool
  | .reportNmea _ => data.nmeaCb
  | _ => false

/-- Whether the handler of a message may make a report. -/
def Reports (data : LocEngData) (msg : LocEngMsg) : Prop :=
  msg.isReport = true ∧
    (data.muteSessionState ≠ .locMuteSessInSession ∨ data.forwardsNmea msg = true)

/-- The instance is alive as it was in `origin`, with this mute state. -/
def Still (data origin : LocEngData) (mute : LocMuteSession) : Prop :=
  data.context = origin.context ∧ data.agpsStatusCb = origin.agpsStatusCb ∧
    data.muteSessionState = mute

/-- The same, with the machines of `origin`. -/
def Framed (data origin : LocEngData) (mute : LocMuteSession) : Prop :=
  data.nif = origin.nif ∧ data.Still origin mute

theorem Still.refl (data : LocEngData) : data.Still data data.muteSessionState :=
  ⟨rfl, rfl, rfl⟩

theorem Framed.refl (data : LocEngData) : data.Framed data data.muteSessionState :=
  ⟨rfl, Still.refl data⟩

end LocEngData

/-- The handler leaves the machines alone and ends with this mute state, and a
report it makes satisfies `Report`. -/
def Frame (origin : LocEngData) (mute : LocMuteSession) (Report : Prop)
    (outcome : Handling) : Prop :=
  outcome.Ensures (·.Framed origin mute) fun call =>
    (∀ nif, call.effectOn nif = none) ∧ (call.isReport = true → Report)

section Frames

variable {origin : LocEngData} {mute : LocMuteSession} {Report : Prop} {data : LocEngData}

namespace Frame

theorem done (framed : data.Framed origin mute) {calls : List Call}
    (silent : ∀ call ∈ calls,
      (∀ nif, call.effectOn nif = none) ∧ (call.isReport = true → Report)) :
    Frame origin mute Report (data.done calls) :=
  Outcome.Ensures.some framed silent

theorem done_nil (framed : data.Framed origin mute) : Frame origin mute Report (data.done []) :=
  Outcome.Ensures.silent framed

/-- A single call that concerns neither a machine nor a client. -/
theorem done_single (framed : data.Framed origin mute) {call : Call}
    (quiet : ∀ nif, call.effectOn nif = none) (silent : call.isReport = false) :
    Frame origin mute Report (data.done [call]) :=
  Frame.done framed (List.forall_mem_singleton.mpr
    ⟨quiet, fun report => absurd report (by simp [silent])⟩)

theorem andThen {mute' : LocMuteSession} {first : Handling} {next : LocEngData → Handling}
    (start : Frame origin mute Report first)
    (rest : ∀ data, data.Framed origin mute → Frame origin mute' Report (next data)) :
    Frame origin mute' Report (first.andThen next) :=
  Outcome.Ensures.andThen start rest

theorem ite {c : Prop} [Decidable c] {first second : Handling}
    (yes : c → Frame origin mute Report first) (no : ¬ c → Frame origin mute Report second) :
    Frame origin mute Report (if c then first else second) :=
  iteInduction yes no

theorem mono {Report' : Prop} {outcome : Handling} (implies : Report → Report')
    (frame : Frame origin mute Report outcome) : Frame origin mute Report' outcome :=
  Outcome.Ensures.mono frame (fun _ => id) fun _ call =>
    ⟨call.1, fun report => implies (call.2 report)⟩

end Frame

namespace LocEngData

/-! ## Sessions -/

theorem locInformGpsStatus_frame (framed : data.Framed origin mute) (status : GpsStatusValue) :
    Frame origin mute Report (data.locInformGpsStatus status) := by
  unfold locInformGpsStatus
  split
  · exact Frame.done_single framed (fun _ => rfl) rfl
  · exact Frame.done_nil framed

theorem locEngStartHandler_frame (framed : data.Framed origin mute) (answers : Answers) :
    Frame origin mute Report (data.locEngStartHandler answers) := by
  apply Frame.ite (fun _ => Frame.done_nil framed)
  intro _
  refine (Frame.done_single framed (fun _ => rfl) rfl).andThen fun after framed => ?_
  exact Frame.ite (fun _ => locInformGpsStatus_frame (by exact framed) _) fun _ =>
    Frame.done_nil framed

theorem locEngStopHandler_frame (framed : data.Framed origin mute) (answers : Answers) :
    Frame origin mute Report (data.locEngStopHandler answers) := by
  refine Frame.ite (fun _ => Frame.andThen (?_ : Frame origin mute Report _) fun after framed =>
    Frame.done_nil framed) fun _ => Frame.done_nil framed
  refine (Frame.done_single framed (fun _ => rfl) rfl).andThen fun after framed => ?_
  exact Frame.ite (fun _ => locInformGpsStatus_frame framed _) fun _ => Frame.done_nil framed

theorem locEngReportStatus_frame (framed : data.Framed origin mute) (status : GpsStatusValue) :
    Frame origin (mute.report status) Report (data.locEngReportStatus status) := by
  have moved : Framed { data with muteSessionState := data.muteSessionState.report status } origin
      (mute.report status) :=
    ⟨framed.1, framed.2.1, framed.2.2.1, congrArg (LocMuteSession.report · status) framed.2.2.2⟩
  refine Frame.andThen (?_ : Frame origin (mute.report status) Report _) fun after framed =>
    Frame.done_nil framed
  exact Frame.ite (fun _ => locInformGpsStatus_frame moved status) fun _ => Frame.done_nil moved

/-! ## Reports -/

/-- Outside of a muted session anything may be reported. -/
theorem locEngNmeaSend_frame (framed : data.Framed origin mute) (report : Report)
    (sentences : List (List UInt8)) : Frame origin mute Report (data.locEngNmeaSend sentences) := by
  refine Frame.ite (fun _ => Frame.done framed fun call member => ?_) fun _ => ?_
  · obtain ⟨sentence, -, rfl⟩ := List.mem_map.mp member
    exact ⟨fun _ => rfl, fun _ => report⟩
  · exact Outcome.Ensures.none (List.forall_mem_singleton.mpr ⟨fun _ => rfl, nofun⟩)

theorem reportPosition_frame (framed : data.Framed origin mute) (conf : LocGpsCfg)
    (nmea : NmeaGenerator) (answers : Answers) (location : GpsLocation)
    (locationExtended : GpsLocationExtended) (locationExt : Pointer) (status : LocSessStatus)
    (technologyMask : BitVec 32) :
    Frame origin mute (mute ≠ .locMuteSessInSession) (data.reportPosition conf nmea answers location
      locationExtended locationExt status technologyMask) := by
  apply Frame.ite (fun _ => Frame.done_nil framed)
  intro outside
  rw [framed.2.2.2] at outside
  refine Frame.andThen (?_ : Frame origin mute _ _) fun after framed => ?_
  · refine (Frame.done framed fun call member => ?_).andThen fun after framed => ?_
    · have fix : ∃ location, call = .locationCb location := by
        split at member
        · split at member
          · exact ⟨_, List.mem_singleton.mp member⟩
          · split at member
            · exact ⟨_, List.mem_singleton.mp member⟩
            · exact absurd member List.not_mem_nil
        · exact absurd member List.not_mem_nil
      obtain ⟨reported, rfl⟩ := fix
      exact ⟨fun _ => rfl, fun _ => outside⟩
    · refine Frame.ite (fun _ => Frame.done (by exact framed) fun call member => ?_) fun _ =>
        Frame.done_nil framed
      split at member
      · rw [List.mem_singleton.mp member]
        exact ⟨fun _ => rfl, nofun⟩
      · exact absurd member List.not_mem_nil
  · exact Frame.ite (fun _ => locEngNmeaSend_frame (by exact framed) outside _) fun _ =>
      Frame.done_nil framed

theorem reportSv_frame (framed : data.Framed origin mute) (nmea : NmeaGenerator)
    (svStatus : GpsSvStatus) (locationExtended : GpsLocationExtended) (svExt : Pointer) :
    Frame origin mute (mute ≠ .locMuteSessInSession)
      (data.reportSv nmea svStatus locationExtended svExt) := by
  apply Frame.ite (fun _ => Frame.done_nil framed)
  intro outside
  rw [framed.2.2.2] at outside
  refine (Frame.done framed fun call member => ?_).andThen fun after framed => ?_
  · split at member
    · rw [List.mem_singleton.mp member]
      exact ⟨fun _ => rfl, fun _ => outside⟩
    · exact absurd member List.not_mem_nil
  · exact Frame.ite (fun _ => locEngNmeaSend_frame (by exact framed) outside _) fun _ =>
      Frame.done_nil framed

/-- This handler does not look at the mute state. -/
theorem reportNmea_frame (framed : data.Framed origin mute) (sentence : List UInt8) :
    Frame origin mute (data.nmeaCb = true) (data.reportNmea sentence) := by
  apply Frame.done framed
  intro call member
  split at member
  · next set =>
      rw [List.mem_singleton.mp member]
      exact ⟨fun _ => rfl, fun _ => set⟩
  · exact absurd member List.not_mem_nil

/-! ## Servers and restarts -/

theorem locEngSetServer_frame (framed : data.Framed origin mute) (answers : Answers)
    (type : LocServerType) (hostname : List UInt8) (port : ℤ) :
    Frame origin mute Report (data.locEngSetServer answers type hostname port) := by
  unfold locEngSetServer
  split
  · split
    · exact Frame.done_single framed (fun _ => rfl) rfl
    · exact Frame.done_nil framed
  · split
    · exact Frame.done_single framed (fun _ => rfl) rfl
    · exact Frame.done_nil framed

theorem locEngAgpsReinit_frame (framed : data.Framed origin mute) (answers : Answers) :
    Frame origin mute Report (data.locEngAgpsReinit answers) := by
  unfold locEngAgpsReinit
  refine Frame.andThen (?_ : Frame origin mute Report _) fun after framed => ?_
  · split
    · exact locEngSetServer_frame framed _ _ _ _
    · exact Frame.done_nil framed
  · split
    · exact locEngSetServer_frame framed _ _ _ _
    · exact Frame.done_nil framed

/-- `loc_eng_reinit` calls the adapter and queues configurations. -/
theorem mem_locEngReinit (data : LocEngData) {conf : LocGpsCfg} {answers : Answers} {call : Call}
    (member : call ∈ (data.locEngReinit conf answers).2) :
    call = .adapter .reinit ∨ ∃ msg, call = .queued msg := by
  refine (List.mem_cons.mp member).imp id fun queued => ?_
  split at queued
  · split at queued <;> simp at queued <;> grind
  · exact absurd queued List.not_mem_nil

theorem locEngReinit_frame (framed : data.Framed origin mute) (conf : LocGpsCfg)
    (answers : Answers) : Frame origin mute Report (data.locEngReinit conf answers) := by
  apply Frame.done framed
  intro call member
  rcases mem_locEngReinit data member with rfl | ⟨msg, rfl⟩ <;> exact ⟨fun _ => rfl, nofun⟩

/-- The functions of the NI interface mute a session only if they say so. -/
theorem withNi_frame (framed : data.Framed origin mute) (result : LocEngNiData × List NiEffect) :
    Frame origin (if NiEffect.muteOneSession ∈ result.2 then .locMuteSessWait else mute) Report
      (data.withNi result) := by
  obtain ⟨nif, context, agpsStatusCb, rfl⟩ := framed
  refine Frame.done (by exact ⟨nif, context, agpsStatusCb, rfl⟩) fun call member => ?_
  obtain ⟨effect, -, rfl⟩ := List.mem_map.mp member
  exact ⟨fun _ => rfl, nofun⟩

theorem locEngHandleEngineDown_frame (framed : data.Framed origin mute) :
    Frame origin (mute.report .gpsStatusEngineOff) Report data.locEngHandleEngineDown := by
  have unmuted : NiEffect.muteOneSession ∉
      (locEngNiResetOnEngineRestart data.niNotifyCb data.locEngNiData).2 := by
    unfold locEngNiResetOnEngineRestart
    split
    · exact List.not_mem_nil
    · split <;> simp
  have reset : Frame origin _ Report (data.withNi _) := withNi_frame framed
    (locEngNiResetOnEngineRestart data.niNotifyCb data.locEngNiData)
  rw [if_neg unmuted] at reset
  exact reset.andThen fun _ framed => locEngReportStatus_frame framed _

/-- The end of `loc_eng_handle_engine_up`, behind the machines. -/
theorem engineBack_frame (framed : data.Framed origin mute) (answers : Answers) :
    Frame origin (mute.report .gpsStatusEngineOn) Report
      ((data.locEngReportStatus .gpsStatusEngineOn).andThen fun data =>
        data.restartFix answers) := by
  refine (locEngReportStatus_frame framed _).andThen fun after framed => ?_
  refine Frame.ite (fun _ => ?_) fun _ => Frame.done_nil framed
  exact (Frame.done_single (by exact framed) (fun _ => rfl) rfl).andThen fun _ framed =>
    locEngStartHandler_frame framed answers

/-! ## Messages -/

theorem muteOneSession_iff (notify : GpsNiNotification) (passThroughData : Option PassThrough)
    (created : Bool) :
    NiEffect.muteOneSession ∈ (locEngNiRequestHandler data.niNotifyCb data.locEngNiData notify
        passThroughData created).2 ↔
      data.overridesPrivacy (.requestNi notify passThroughData) = true := by
  unfold locEngNiRequestHandler overridesPrivacy
  cases data.niNotifyCb <;> cases data.locEngNiData.rawRequest <;> cases created <;> simp

/-- **The messages that do not reach a machine** leave the machines alone. -/
theorem handleMsg_frame (conf : LocGpsCfg) (nmea : NmeaGenerator) (data : LocEngData)
    (answers : Answers) {msg : LocEngMsg} (other : msg.reachesNif = false) :
    Frame data (data.muteAfter msg) (data.Reports msg)
      (data.handleMsg conf nmea answers msg) := by
  have framed := Framed.refl data
  cases msg with
  | requestBit | releaseBit | requestAtl | releaseAtl | requestWifi | releaseWifi
  | atlOpenSuccess | atlClosed | atlOpenFailed | engineUp => cases other
  | quit => exact Outcome.Ensures.none fun _ member => absurd member List.not_mem_nil
  | requestNi notify passThroughData =>
      have handled : Frame data _ (data.Reports (.requestNi notify passThroughData))
          (data.withNi _) := withNi_frame framed (locEngNiRequestHandler data.niNotifyCb
            data.locEngNiData notify passThroughData answers.created)
      simp only [muteOneSession_iff] at handled
      exact handled
  | startFix => exact locEngStartHandler_frame framed answers
  | stopFix =>
      exact Frame.ite (fun _ => Frame.done_nil framed) fun _ =>
        locEngStopHandler_frame framed answers
  | reportPosition location locationExtended locationExt status technologyMask =>
      exact (reportPosition_frame framed ..).mono fun outside => ⟨rfl, Or.inl outside⟩
  | reportSv svStatus locationExtended svExt =>
      exact (reportSv_frame framed ..).mono fun outside => ⟨rfl, Or.inl outside⟩
  | reportNmea sentence =>
      exact (reportNmea_frame framed sentence).mono fun set => ⟨rfl, Or.inr set⟩
  | reportStatus status => exact locEngReportStatus_frame framed status
  | engineDown => exact locEngHandleEngineDown_frame framed
  | enableData enable apn =>
      refine Frame.done framed (List.forall_mem_cons.mpr ⟨⟨fun _ => rfl, nofun⟩, ?_⟩)
      exact List.forall_mem_singleton.mpr ⟨fun _ => rfl, nofun⟩
  | requestXtraData | requestTime | requestNetworkPosition | requestPhoneContext =>
      apply Frame.done framed
      intro call member
      split at member
      · rw [List.mem_singleton.mp member]
        exact ⟨fun _ => rfl, nofun⟩
      · exact absurd member List.not_mem_nil
  | requestPosition | deleteAidingData | other => exact Frame.done_nil framed
  | _ => exact Frame.done_single framed (fun _ => rfl) rfl

theorem afterMsg_frame (framed : data.Framed origin mute) (answers : Answers) (msg : LocEngMsg) :
    Frame origin mute Report (data.afterMsg answers msg) := by
  refine Frame.andThen (?_ : Frame origin mute Report _) fun after framed => ?_
  · refine Frame.andThen (?_ : Frame origin mute Report _) fun after framed => Frame.done_nil framed
    refine Frame.ite (fun _ => Frame.ite (fun _ => ?_) fun _ => Frame.done_nil framed) fun _ =>
      Frame.done_nil framed
    exact (locEngStopHandler_frame (by exact framed) answers).andThen fun _ framed =>
      Frame.done_nil (by exact framed)
  · exact Frame.ite (fun _ => Frame.done_single (by exact framed) (fun _ => rfl) rfl) fun _ =>
      Frame.done_nil framed

end LocEngData

/-! ## Null pointers -/

/-- Whether a call is the use of a pointer that is null. -/
def Call.usesNull : Call → Bool
  | .nullPointer => true
  | _ => false

/-- No pointer that the handler uses is null. -/
def Harmless (outcome : Handling) : Prop := ∀ call ∈ outcome.2, call.usesNull = false

namespace Harmless

theorem done_nil : Harmless (data.done []) :=
  fun _ member => absurd member List.not_mem_nil

theorem andThen {first : Handling} {next : LocEngData → Handling} (start : Harmless first)
    (rest : ∀ after, Harmless (next after)) : Harmless (first.andThen next) := by
  intro call member
  rcases Outcome.emitted_of_andThen member with early | ⟨after, -, late⟩
  · exact start call early
  · exact rest after call late

theorem ite {c : Prop} [Decidable c] {first second : Handling} (yes : c → Harmless first)
    (no : ¬ c → Harmless second) : Harmless (if c then first else second) :=
  iteInduction yes no

theorem done_single {call : Call} (other : call.usesNull = false) : Harmless (data.done [call]) :=
  List.forall_mem_singleton.mpr other

end Harmless

/-- A call that depends on whether a callback is set. -/
theorem callback_harmless (data : LocEngData) (set : Bool) {call : Call}
    (other : call.usesNull = false) : Harmless (data.done (if set then [call] else [])) := by
  cases set with
  | false => exact Harmless.done_nil
  | true => exact Harmless.done_single other

namespace LocEngData

theorem locEngStartHandler_harmless (data : LocEngData) (answers : Answers) :
    Harmless (data.locEngStartHandler answers) := by
  apply Harmless.ite (fun _ => Harmless.done_nil)
  intro _
  refine (Harmless.done_single rfl).andThen fun after => ?_
  exact Harmless.ite (fun _ => callback_harmless _ _ rfl) fun _ => Harmless.done_nil

theorem locEngStopHandler_harmless (data : LocEngData) (answers : Answers) :
    Harmless (data.locEngStopHandler answers) := by
  refine Harmless.ite (fun _ => Harmless.andThen ?_ fun after => Harmless.done_nil) fun _ =>
    Harmless.done_nil
  refine (Harmless.done_single rfl).andThen fun after => ?_
  exact Harmless.ite (fun _ => callback_harmless _ _ rfl) fun _ => Harmless.done_nil

theorem locEngReportStatus_harmless (data : LocEngData) (status : GpsStatusValue) :
    Harmless (data.locEngReportStatus status) :=
  (Harmless.ite (fun _ => callback_harmless _ _ rfl) fun _ => Harmless.done_nil).andThen
    fun _ => Harmless.done_nil

theorem locEngSetServer_harmless (data : LocEngData) (answers : Answers) (type : LocServerType)
    (hostname : List UInt8) (port : ℤ) :
    Harmless (data.locEngSetServer answers type hostname port) := by
  unfold locEngSetServer
  split
  · split
    · exact Harmless.done_single rfl
    · exact Harmless.done_nil
  · split
    · exact Harmless.done_single rfl
    · exact Harmless.done_nil

theorem locEngAgpsReinit_harmless (data : LocEngData) (answers : Answers) :
    Harmless (data.locEngAgpsReinit answers) := by
  unfold locEngAgpsReinit
  refine Harmless.andThen ?_ fun after => ?_
  · split
    · exact locEngSetServer_harmless _ _ _ _ _
    · exact Harmless.done_nil
  · split
    · exact locEngSetServer_harmless _ _ _ _ _
    · exact Harmless.done_nil

theorem locEngReinit_harmless (data : LocEngData) (conf : LocGpsCfg) (answers : Answers) :
    Harmless (data.locEngReinit conf answers) := by
  intro call member
  rcases mem_locEngReinit data member with rfl | ⟨msg, rfl⟩ <;> rfl

theorem withNi_harmless (data : LocEngData) (result : LocEngNiData × List NiEffect) :
    Harmless (data.withNi result) := by
  intro call member
  obtain ⟨effect, -, rfl⟩ := List.mem_map.mp member
  rfl

theorem engineBack_harmless (data : LocEngData) (answers : Answers) :
    Harmless ((data.locEngReportStatus .gpsStatusEngineOn).andThen fun data =>
      data.restartFix answers) := by
  refine (locEngReportStatus_harmless data _).andThen fun after => ?_
  refine Harmless.ite (fun _ => ?_) fun _ => Harmless.done_nil
  exact (Harmless.done_single rfl).andThen fun after => locEngStartHandler_harmless after answers

theorem afterMsg_harmless (data : LocEngData) (answers : Answers) (msg : LocEngMsg) :
    Harmless (data.afterMsg answers msg) := by
  refine Harmless.andThen (Harmless.andThen ?_ fun after => Harmless.done_nil) fun after => ?_
  · refine Harmless.ite (fun _ => Harmless.ite (fun _ => ?_) fun _ => Harmless.done_nil) fun _ =>
      Harmless.done_nil
    exact (locEngStopHandler_harmless _ answers).andThen fun _ => Harmless.done_nil
  · exact Harmless.ite (fun _ => Harmless.done_single rfl) fun _ => Harmless.done_nil

end LocEngData

/-! ## Messages for the machines -/

/-- The handler leaves the instance alive, ends with this mute state and has
reported nothing. -/
def Silent (origin : LocEngData) (mute : LocMuteSession) (outcome : Handling) : Prop :=
  outcome.Ensures (·.Still origin mute) (·.isReport = false)

namespace Silent

theorem of_frame {mute' : LocMuteSession} {outcome : Handling} (still : data.Still origin mute)
    (frame : Frame data mute' False outcome) : Silent origin mute' outcome :=
  Outcome.Ensures.mono frame (fun _ framed => ⟨framed.2.1.trans still.1,
    framed.2.2.1.trans still.2.1, framed.2.2.2⟩) fun _ call => by simpa using call.2

theorem done_nil (still : data.Still origin mute) : Silent origin mute (data.done []) :=
  Outcome.Ensures.silent still

theorem andThen {mute' : LocMuteSession} {first : Handling} {next : LocEngData → Handling}
    (start : Silent origin mute first)
    (rest : ∀ data, data.Still origin mute → Silent origin mute' (next data)) :
    Silent origin mute' (first.andThen next) :=
  Outcome.Ensures.andThen start rest

end Silent

namespace LocEngData

theorem still_setNif (still : data.Still origin mute) (nif : Nif) (m : AgpsStateMachine) :
    (data.setNif nif m).Still origin mute := by
  cases nif <;> exact still

theorem callNif_silent (still : data.Still origin mute) (nif : Nif) (op : AgpsOp) :
    Silent origin mute (data.callNif nif op) := by
  unfold callNif
  split
  · exact Outcome.Ensures.none (by simp [Call.isReport])
  · simp only []
    split
    · exact Outcome.Ensures.none (by simp [Call.isReport])
    · exact Outcome.Ensures.some (still_setNif still _ _) (by simp [Call.isReport])

theorem locEngHandleEngineUp_silent (still : data.Still origin mute) (conf : LocGpsCfg)
    (answers : Answers) :
    Silent origin (mute.report .gpsStatusEngineOn) (data.locEngHandleEngineUp conf answers) := by
  have framed : ∀ data : LocEngData, data.Still origin mute → data.Framed data mute :=
    fun _ still => ⟨rfl, rfl, rfl, still.2.2⟩
  refine (Silent.of_frame still (locEngReinit_frame (framed _ still) conf answers)).andThen
    fun after still => ?_
  refine Silent.andThen (?_ : Silent origin mute _) fun after still =>
    Silent.of_frame still (engineBack_frame (framed _ still) answers)
  split
  · refine (callNif_silent still _ _).andThen fun after still => ?_
    refine (callNif_silent still _ _).andThen fun after still => ?_
    exact Silent.of_frame still (locEngAgpsReinit_frame (framed _ still) answers)
  · exact Silent.done_nil still

/-- **The messages for the machines** make no report. -/
theorem handleMsg_silent (conf : LocGpsCfg) (nmea : NmeaGenerator) (data : LocEngData)
    (answers : Answers) {msg : LocEngMsg} (reaches : msg.reachesNif = true) :
    Silent data (data.muteAfter msg) (data.handleMsg conf nmea answers msg) := by
  have still := Still.refl data
  cases msg with
  | requestBit ifType ipv4Addr ipv6Addr =>
      simp only [handleMsg, requestBit]
      cases bitNif ifType with
      | none => exact Silent.done_nil still
      | some nif => exact callNif_silent still nif _
  | releaseBit ifType ipv4Addr ipv6Addr =>
      simp only [handleMsg, releaseBit]
      cases bitNif ifType with
      | none => exact Silent.done_nil still
      | some nif => exact callNif_silent still nif _
  | requestAtl handle type => exact callNif_silent still (atlNif type) (.subscribeRsrc _)
  | releaseAtl handle =>
      refine (callNif_silent still .agnssNif _).andThen fun after still => ?_
      split
      · split
        · exact Silent.done_nil still
        · exact callNif_silent still _ _
      · exact Silent.done_nil still
  | requestWifi senderId ssid password =>
      simp only [handleMsg, requestWifi]
      split
      · exact callNif_silent still _ _
      · exact Silent.done_nil still
  | releaseWifi senderId ssid password => exact callNif_silent still .wifiNif (.unsubscribeRsrc _)
  | atlOpenSuccess agpsType apn length bearerType =>
      exact (callNif_silent still _ _).andThen fun _ still =>
        (callNif_silent still _ _).andThen fun _ still => callNif_silent still _ _
  | atlClosed agpsType => exact callNif_silent still (answerNif agpsType) (.onRsrcEvent _)
  | atlOpenFailed agpsType => exact callNif_silent still (answerNif agpsType) (.onRsrcEvent _)
  | engineUp => exact locEngHandleEngineUp_silent still conf answers
  | _ => cases reaches

/-- **A round of the loop** leaves the instance alive, moves the mute state as the
message says, and makes a report only where the handler may. -/
theorem handle_frame (conf : LocGpsCfg) (nmea : NmeaGenerator) (data : LocEngData)
    (answers : Answers) (msg : LocEngMsg) :
    (data.handle conf nmea answers msg).Ensures (·.Still data (data.muteAfter msg))
      fun call => call.isReport = true → data.Reports msg := by
  have handled : (data.handleMsg conf nmea answers msg).Ensures
      (·.Still data (data.muteAfter msg)) fun call => call.isReport = true → data.Reports msg := by
    cases reaches : msg.reachesNif with
    | true =>
        exact (handleMsg_silent conf nmea data answers reaches).mono (fun _ => id)
          fun _ quiet report => absurd report (by simp [quiet])
    | false =>
        exact Outcome.Ensures.mono (handleMsg_frame conf nmea data answers reaches)
          (fun _ framed => framed.2) fun _ call => call.2
  unfold handle
  split
  · apply Outcome.Ensures.andThen handled
    intro after still
    have framed : after.Framed after (data.muteAfter msg) := ⟨rfl, rfl, rfl, still.2.2⟩
    exact (Silent.of_frame still (afterMsg_frame framed answers msg)).mono (fun _ => id)
      fun _ quiet report => absurd report (by simp [quiet])
  · exact Outcome.Ensures.none fun _ member => absurd member List.not_mem_nil

end LocEngData

end Frames

end Msm8660.Gps
