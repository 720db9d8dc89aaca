import Msm8660.Gps.LocEng

/-!
# The loop of the deferred action thread

`handleMsg` is the `switch` of `loc_eng_deferred_action_thread`, `afterMsg` what
the loop does behind it for every message. `locEngThread` is the thread as a
machine, with the messages in the order in which it receives them and the writes
of other threads in between.
-/

set_option autoImplicit false

namespace Msm8660.Gps

namespace LocEngData

/-- The `switch` over `msg->msgid`. -/
def handleMsg (conf : LocGpsCfg) (nmea : NmeaGenerator) (data : LocEngData) (answers : Answers) :
    LocEngMsg → Handling
  | .quit => (none, [])
  | .requestNi notify passThroughData =>
      data.withNi (locEngNiRequestHandler data.niNotifyCb data.locEngNiData notify passThroughData
        answers.created)
  | .informNiResponse response passThroughData =>
      data.done [.adapter (.informNiResponse response passThroughData)]
  | .startFix => data.locEngStartHandler answers
  | .stopFix =>
      if data.agpsRequestPending then { data with stopRequestPending := true }.done []
      else data.locEngStopHandler answers
  | .setPositionMode pMode => data.done [.adapter (.setPositionMode (some pMode))]
  | .setTime time timeReference uncertainty =>
      data.done [.adapter (.setTime time timeReference uncertainty)]
  | .injectLocation latitude longitude accuracy =>
      data.done [.adapter (.injectPosition latitude longitude accuracy)]
  | .setServerIpv4 nlAddr port serverType =>
      data.done [.adapter (.setServerIpv4 nlAddr port serverType)]
  | .setServerUrl url => data.done [.adapter (.setServerUrl url)]
  | .suplVersion version => data.done [.adapter (.setSUPLVersion version)]
  | .lppConfig profile => data.done [.adapter (.setLPPConfig profile)]
  | .setSensorControlConfig sensorsDisabled =>
      data.done [.adapter (.setSensorControlConfig sensorsDisabled)]
  | .setSensorProperties properties => data.done [.adapter (.setSensorProperties properties)]
  | .setSensorPerfControlConfig config =>
      data.done [.adapter (.setSensorPerfControlConfig config)]
  | .extPowerConfig isBatteryCharging =>
      data.done [.adapter (.setExtPowerConfig isBatteryCharging)]
  | .reportPosition location locationExtended locationExt status technologyMask =>
      data.reportPosition conf nmea answers location locationExtended locationExt status
        technologyMask
  | .reportSv svStatus locationExtended svExt =>
      data.reportSv nmea svStatus locationExtended svExt
  | .reportStatus status => data.locEngReportStatus status
  | .reportNmea sentence => data.reportNmea sentence
  | .requestBit ifType ipv4Addr ipv6Addr => data.requestBit ifType ipv4Addr ipv6Addr
  | .releaseBit ifType ipv4Addr ipv6Addr => data.releaseBit ifType ipv4Addr ipv6Addr
  | .requestAtl handle type => data.requestAtl answers handle type
  | .releaseAtl handle => data.releaseAtl answers handle
  | .requestWifi senderId ssid password => data.requestWifi answers senderId ssid password
  | .releaseWifi senderId ssid password => data.releaseWifi answers senderId ssid password
  | .requestXtraData => data.done (if data.downloadRequestCb then [.downloadRequestCb] else [])
  | .requestTime => data.done (if data.requestUtcTimeCb then [.requestUtcTimeCb] else [])
  | .requestPosition => data.done []
  | .deleteAidingData type =>
      { data with aidingDataForDeletion := data.aidingDataForDeletion ||| type }.done []
  | .enableData enable apn =>
      data.done [.adapter (.enableData enable), .adapter (.setAPN apn)]
  | .injectXtraData bytes => data.done [.adapter (.setXtraData bytes)]
  | .atlOpenSuccess agpsType apn length bearerType =>
      data.atlOpenSuccess agpsType apn length bearerType
  | .atlClosed agpsType => data.callNif (answerNif agpsType) (.onRsrcEvent .rsrcReleased)
  | .atlOpenFailed agpsType => data.callNif (answerNif agpsType) (.onRsrcEvent .rsrcDenied)
  | .engineDown => data.locEngHandleEngineDown
  | .engineUp => data.locEngHandleEngineUp conf answers
  | .requestNetworkPosition request =>
      data.done (if data.ulpNetworkCallback then [.ulpNetworkCallback request] else [])
  | .requestPhoneContext request =>
      data.done (if data.ulpPhoneContextReqCb then [.ulpPhoneContextReqCb request] else [])
  | .other => data.done []

/-- The answers of the framework, which end a data call. -/
def endsDataCall : LocEngMsg → Bool
  | .atlOpenFailed _ | .atlClosed _ | .atlOpenSuccess .. => true
  | _ => false

/-- What the loop does after every message. -/
def afterMsg (data : LocEngData) (answers : Answers) (msg : LocEngMsg) : Handling :=
  ((if endsDataCall msg then
      let data := { data with agpsRequestPending := false }
      if data.stopRequestPending then
        (data.locEngStopHandler answers).andThen fun data =>
          { data with stopRequestPending := false }.done []
      else data.done []
    else data.done []).andThen fun data =>
      { data with stopRequestPending := false }.done []).andThen fun data =>
  if data.engineStatus ≠ .gpsStatusEngineOn ∧ data.aidingDataForDeletion ≠ 0 then
    { data with aidingDataForDeletion := 0 }.done
      [.adapter (.deleteAidingData data.aidingDataForDeletion)]
  else data.done []

/-- One round of the loop. -/
def handle (conf : LocGpsCfg) (nmea : NmeaGenerator) (data : LocEngData) (answers : Answers)
    (msg : LocEngMsg) : Handling :=
  if data.context then
    (data.handleMsg conf nmea answers msg).andThen fun data => data.afterMsg answers msg
  else (none, [])

end LocEngData

/-- The answers of an environment in which everything succeeds. -/
def Answers.success : Answers :=
  ⟨.success, .success, .success, .gpsPositionRecurrencePeriodic, true, fun _ => none,
    fun _ => List.Vector.replicate 16 0⟩

/-- A generator without sentences. -/
def NmeaGenerator.silent : NmeaGenerator :=
  ⟨fun cache _ _ => (cache, []), fun cache _ _ => (cache, [])⟩

/-- An instance for which all callbacks are set. -/
def LocEngData.listening : LocEngData :=
  (locEngInit ⟨true, true, true, true, true⟩ 0 false).locEngNiInit true

/-- What happens next: a message is handled, or other threads have written the
record of the NI interface. -/
inductive ThreadInput where
  | handle (msg : LocEngMsg) (answers : Answers)
  | niWrite (niNotifyCb : Bool) (ni : LocEngNiData)

/-- The thread. Its state is missing once it is over. -/
def locEngThread (conf : LocGpsCfg) (nmea : NmeaGenerator) :
    Machine (Option LocEngData) ThreadInput Call where
  step state input := match state, input with
    | none, _ => (none, [])
    | some data, .handle msg answers => data.handle conf nmea answers msg
    | some data, .niWrite niNotifyCb ni =>
        (some { data with niNotifyCb := niNotifyCb, locEngNiData := ni }, [])

section Runs

variable {conf : LocGpsCfg} {nmea : NmeaGenerator}

/-- A thread that is over stays over. -/
theorem locEngThread_over (inputs : List ThreadInput) :
    (locEngThread conf nmea).run none inputs = none := by
  induction inputs with
  | nil => rfl
  | cons input rest ih => exact ih

/-- A thread that is alive in the end was alive before. -/
theorem exists_run_of_append {state : Option LocEngData} (earlier : List ThreadInput)
    {later : List ThreadInput} {final : LocEngData}
    (reached : final ∈ (locEngThread conf nmea).run state (earlier ++ later)) :
    ∃ middle ∈ (locEngThread conf nmea).run state earlier,
      final ∈ (locEngThread conf nmea).run (some middle) later := by
  rw [Machine.run_append] at reached
  cases middle : (locEngThread conf nmea).run state earlier with
  | none =>
      rw [middle, locEngThread_over] at reached
      exact absurd reached (Option.not_mem_none final)
  | some data => exact ⟨data, rfl, middle ▸ reached⟩

/-- A state that is reached is reached from the states before it. -/
theorem run_of_mem_run_append {state : Option LocEngData} {earlier later : List ThreadInput}
    {here : LocEngData} (reached : here ∈ (locEngThread conf nmea).run state (earlier ++ later)) :
    (locEngThread conf nmea).run ((locEngThread conf nmea).run state earlier) later =
      some here := by
  rw [← Machine.run_append]
  exact reached

end Runs

end Msm8660.Gps
