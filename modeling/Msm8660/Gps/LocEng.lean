import Msm8660.Lib.Binary32
import Msm8660.Lib.Outcome
import Msm8660.Gps.LocEngMsg

/-!
# The deferred action thread

`loc_eng_data_s_type` and the handlers of `loc_eng_deferred_action_thread`. The
thread handles one message after the other; between two of them other threads may
write the record of the NI interface.

A handler ends in an `Outcome`: the data afterwards and the calls made, or no
data when the thread is over, which is `LOC_ENG_MSG_QUIT`, a missing context, or
the use of a NULL pointer. What the environment answers during a message, the
adapter first of all, is an argument (`Answers`), and so are the sentences that
`loc_eng_nmea.cpp` generates (`NmeaGenerator`).
-/

set_option autoImplicit false

namespace Msm8660.Gps

/-- `enum loc_api_adapter_err`. -/
inductive LocApiAdapterErr where
  | success
  | generalFailure
  | unsupported
  | invalidHandle
  | invalidParameter
  | engineBusy
  | phoneOffline
  | timeout
  | serviceNotPresent
  | engineDown
  | failure
  | unknown
deriving DecidableEq, Repr

/-- `enum loc_mute_session_e_type`. -/
inductive LocMuteSession where
  | locMuteSessNone
  | locMuteSessWait
  | locMuteSessInSession
deriving DecidableEq, Repr

/-- The parameters of `gps.conf` that the thread reads. -/
structure LocGpsCfg where
  accuracyThres : ℕ
  suplVer : ℤ
  lppProfile : ℤ
  sensorUsage : ℤ
  sensorProperties : SensorProperties
  sensorPerfControl : SensorPerfControlConfig
deriving DecidableEq

/-- `loc_default_parameters`. -/
def locDefaultParameters : LocGpsCfg where
  accuracyThres := 0
  suplVer := 0x10000
  lppProfile := 0
  sensorUsage := 0
  sensorProperties := ⟨(false, 0), (false, 0), (false, 0), (false, 0), (false, 0)⟩
  sensorPerfControl := ⟨0, 5, 2, 5, 2, 25, 4, 25, 4, 0⟩

/-- What `loc_eng_nmea.cpp` keeps between two reports. -/
structure NmeaCache where
  svUsedMask : BitVec 32
  hdop : ℚ
  pdop : ℚ
  vdop : ℚ
deriving DecidableEq

/-- An address that was set before the engine was there. -/
structure HostBuf where
  host : List UInt8
  port : ℤ
deriving DecidableEq

/-- `loc_eng_data_s_type`. Of a callback and of the context only whether it is
set matters; `navigating` is a member of the adapter. -/
structure LocEngData where
  context : Bool
  locationCb : Bool
  statusCb : Bool
  svStatusCb : Bool
  agpsStatusCb : Bool
  nmeaCb : Bool
  niNotifyCb : Bool
  downloadRequestCb : Bool
  requestUtcTimeCb : Bool
  ulpNetworkCallback : Bool
  ulpPhoneContextReqCb : Bool
  intermediateFix : ℕ
  agpsRequestPending : Bool
  stopRequestPending : Bool
  locEngNiData : LocEngNiData
  agnssNif : Option AgpsStateMachine
  internetNif : Option AgpsStateMachine
  wifiNif : Option AgpsStateMachine
  engineStatus : GpsStatusValue
  fixSessionStatus : GpsStatusValue
  aidingDataForDeletion : BitVec 16
  muteSessionState : LocMuteSession
  generateNmea : Bool
  nmeaCache : NmeaCache
  suplHost : Option HostBuf
  c2kHost : Option HostBuf
  navigating : Bool
deriving DecidableEq

/-- The members of `LocCallbacks` that are kept. -/
structure LocCallbacks where
  locationCb : Bool
  statusCb : Bool
  svStatusCb : Bool
  nmeaCb : Bool
  requestUtcTimeCb : Bool
deriving DecidableEq

/-- The data after `loc_eng_init`, which decides from the event mask and the NMEA
provider whether sentences are generated. Everything else is zero. -/
def locEngInit (callbacks : LocCallbacks) (intermediatePos : ℕ) (generateNmea : Bool) :
    LocEngData where
  context := true
  locationCb := callbacks.locationCb
  statusCb := callbacks.statusCb
  svStatusCb := callbacks.svStatusCb
  agpsStatusCb := false
  nmeaCb := callbacks.nmeaCb
  niNotifyCb := false
  downloadRequestCb := false
  requestUtcTimeCb := callbacks.requestUtcTimeCb
  ulpNetworkCallback := false
  ulpPhoneContextReqCb := false
  intermediateFix := intermediatePos
  agpsRequestPending := false
  stopRequestPending := false
  locEngNiData := .zero
  agnssNif := none
  internetNif := none
  wifiNif := none
  engineStatus := .gpsStatusNone
  fixSessionStatus := .gpsStatusNone
  aidingDataForDeletion := 0
  muteSessionState := .locMuteSessNone
  generateNmea := generateNmea
  nmeaCache := ⟨0, 0, 0, 0⟩
  suplHost := none
  c2kHost := none
  navigating := false

/-- The calls that a handler makes. -/
inductive Call where
  | locationCb (location : Option (GpsLocation × Pointer))
  | svStatusCb (svStatus : GpsSvStatus) (svExt : Pointer)
  | statusCb (status : GpsStatusValue)
  | nmeaCb (sentence : List UInt8)
  | downloadRequestCb
  | requestUtcTimeCb
  | ulpNetworkCallback (request : UlpNetworkRequestPos)
  | ulpPhoneContextReqCb (request : UlpPhoneContextRequest)
  | adapter (call : AdapterCall)
  | agps (nif : Nif) (effect : Effect)
  | ni (effect : NiEffect)
  /-- `msg_q_snd` on `deferred_q` -/
  | queued (msg : LocEngMsg)
  /-- a NULL pointer is used -/
  | nullPointer
deriving DecidableEq

/-- What the environment answers while a message is handled. -/
structure Answers where
  reinit : LocApiAdapterErr
  startFix : LocApiAdapterErr
  stopFix : LocApiAdapterErr
  /-- `getPositionMode().recurrence` -/
  recurrence : GpsPositionRecurrence
  /-- `pthread_create` succeeds -/
  created : Bool
  /-- `resolve_in_addr` -/
  resolve : List UInt8 → Option (BitVec 32)
  /-- what a cast to `BITSubscriber*` reads of a subscriber built for a machine -/
  overlay : Nif → Ipv6Addr

/-- The sentences generated for a report, and what is kept for the next one. -/
structure NmeaGenerator where
  generatePos : NmeaCache → GpsLocation → GpsLocationExtended → NmeaCache × List (List UInt8)
  generateSv : NmeaCache → GpsSvStatus → GpsLocationExtended → NmeaCache × List (List UInt8)

/-- The data afterwards, if the thread goes on, and the calls made. -/
abbrev Handling := Outcome LocEngData Call

/-! ## Decisions of the handlers -/

/-- Whether `mServicer` is called. -/
def callsServicer (effects : List Effect) : Bool :=
  effects.any fun effect => match effect with
    | .sendRsrcRequest _ (some _) => true
    | _ => false

/-- The machine for an `ifType` of the BIT daemon. -/
def bitNif : LocIfReqType → Option Nif
  | .supl => some .agnssNif
  | .any => some .internetNif
  | .wifi => none

/-- The machine for the `type` of an ATL request. -/
def atlNif (type : AGpsType) : Nif :=
  if type = agpsTypeSupl ∨ type = agpsTypeInvalid then .agnssNif else .internetNif

/-- The machine for the `agpsType` of an answer of the framework. -/
def answerNif (agpsType : AGpsType) : Nif :=
  if agpsType = agpsTypeWifi then .wifiNif
  else if agpsType = agpsTypeSupl then .agnssNif
  else .internetNif

/-- How `loc_eng_report_status` moves the mute state. -/
def LocMuteSession.report (mute : LocMuteSession) (status : GpsStatusValue) : LocMuteSession :=
  let mute :=
    if (status = .gpsStatusSessionBegin ∨ status = .gpsStatusEngineOn) ∧
      mute = .locMuteSessWait then .locMuteSessInSession else mute
  if mute = .locMuteSessInSession ∧
    (status = .gpsStatusSessionEnd ∨ status = .gpsStatusEngineOff) then .locMuteSessNone
  else mute

/-- Whether `location_cb` gets a fix that is no failure. The accuracy is a `float`, and the
threshold, an `unsigned long`, is converted to one. -/
def acceptsFix (conf : LocGpsCfg) (data : LocEngData) (location : GpsLocation)
    (status : LocSessStatus) (technologyMask : BitVec 32) : Bool :=
  (status == .locSessSuccess &&
    (((locationHasSourceInfo &&& location.flags) != 0 &&
        location.positionSource == ulpLocationIsFromHybrid) ||
      (locPosTechMaskSatellite &&& technologyMask) != 0 ||
      (locPosTechMaskSensors &&& technologyMask) != 0)) ||
  (LocSessStatus.locSessIntermediate.value == data.intermediateFix &&
    !((location.flags &&& gpsLocationHasAccuracy) != 0 && conf.accuracyThres != 0 &&
      decide (location.accuracy > natToFloat conf.accuracyThres)))

/-- `htonl` on a little-endian processor. -/
def htonl (x : BitVec 32) : BitVec 32 :=
  x.extractLsb' 0 8 ++ x.extractLsb' 8 8 ++ x.extractLsb' 16 8 ++ x.extractLsb' 24 8

/-- `MAX_URL_LEN`. -/
def maxUrlLen : ℕ := 256

/-- `"%s:%u"`. -/
def serverUrl (hostname : List UInt8) (port : ℤ) : List UInt8 :=
  hostname ++ 58 :: (Nat.toDigits 10 (port % 0x100000000).toNat).map fun digit =>
    UInt8.ofNat digit.toNat

/-- Whether `gps.conf` specifies a sensor property. -/
def SensorProperties.anyValid (properties : SensorProperties) : Bool :=
  properties.gyroBiasVarianceRandomWalk.1 || properties.accelRandomWalk.1 ||
    properties.angleRandomWalk.1 || properties.rateRandomWalk.1 ||
    properties.velocityRandomWalk.1

namespace LocEngData

/-- The handler is done. -/
def done (data : LocEngData) (calls : List Call) : Handling := (some data, calls)

/-! ## State machines -/

def nif (data : LocEngData) : Nif → Option AgpsStateMachine
  | .agnssNif => data.agnssNif
  | .internetNif => data.internetNif
  | .wifiNif => data.wifiNif

def setNif (data : LocEngData) (nif : Nif) (m : AgpsStateMachine) : LocEngData :=
  match nif with
  | .agnssNif => { data with agnssNif := some m }
  | .internetNif => { data with internetNif := some m }
  | .wifiNif => { data with wifiNif := some m }

/-- A call of a state machine, which may be missing or have no servicer. -/
def callNif (data : LocEngData) (nif : Nif) (op : AgpsOp) : Handling :=
  match data.nif nif with
  | none => (none, [.nullPointer])
  | some m =>
      let (m', effects) := agpsMachine.step m op
      if callsServicer effects && !m.mServicer then (none, [.nullPointer])
      else (data.setNif nif m').done (effects.map (.agps nif))

def requestBit (data : LocEngData) (ifType : LocIfReqType) (ipv4Addr : BitVec 32)
    (ipv6Addr : Option Ipv6Addr) : Handling :=
  match bitNif ifType with
  | some nif => data.callNif nif (.subscribeRsrc (.bit (.new ipv4Addr ipv6Addr)))
  | none => data.done []

def releaseBit (data : LocEngData) (ifType : LocIfReqType) (ipv4Addr : BitVec 32)
    (ipv6Addr : Option Ipv6Addr) : Handling :=
  match bitNif ifType with
  | some nif => data.callNif nif (.unsubscribeRsrc (.bit (.new ipv4Addr ipv6Addr)))
  | none => data.done []

def requestAtl (data : LocEngData) (answers : Answers) (handle : BitVec 32) (type : AGpsType) :
    Handling :=
  data.callNif (atlNif type)
    (.subscribeRsrc (.atl ⟨handle, type == agpsTypeInvalid, answers.overlay (atlNif type)⟩))

/-- "attempt to unsubscribe from agnss_nif first". -/
def releaseAtl (data : LocEngData) (answers : Answers) (handle : BitVec 32) : Handling :=
  let s1 : Subscriber := .atl ⟨handle, false, answers.overlay .agnssNif⟩
  let s2 : Subscriber := .atl ⟨handle, false, answers.overlay .internetNif⟩
  (data.callNif .agnssNif (.unsubscribeRsrc s1)).andThen fun data' =>
    match data.agnssNif with
    | some m => if (m.unsubscribeRsrc s1).1 then data'.done []
        else data'.callNif .internetNif (.unsubscribeRsrc s2)
    | none => data'.done []

def requestWifi (data : LocEngData) (answers : Answers) (senderId : LocIfReqSenderId)
    (ssid password : Option (List UInt8)) : Handling :=
  if senderId = .quipc ∨ senderId = .msapm then
    data.callNif .wifiNif
      (.subscribeRsrc (.wifi (.new ssid password senderId (answers.overlay .wifiNif))))
  else data.done []

def releaseWifi (data : LocEngData) (answers : Answers) (senderId : LocIfReqSenderId)
    (ssid password : Option (List UInt8)) : Handling :=
  data.callNif .wifiNif
    (.unsubscribeRsrc (.wifi (.new ssid password senderId (answers.overlay .wifiNif))))

/-- `LOC_ENG_MSG_ATL_OPEN_SUCCESS`. -/
def atlOpenSuccess (data : LocEngData) (agpsType : AGpsType) (apn : List UInt8) (length : ℕ)
    (bearerType : ℤ) : Handling :=
  (data.callNif (answerNif agpsType) (.setBearer bearerType)).andThen fun data =>
    (data.callNif (answerNif agpsType) (.setAPN (some apn) length)).andThen fun data =>
      data.callNif (answerNif agpsType) (.onRsrcEvent .rsrcGranted)

/-! ## Sessions and reports -/

/-- `loc_inform_gps_status`. -/
def locInformGpsStatus (data : LocEngData) (status : GpsStatusValue) : Handling :=
  data.done (if data.statusCb then [.statusCb status] else [])

/-- `loc_eng_start_handler`. -/
def locEngStartHandler (data : LocEngData) (answers : Answers) : Handling :=
  if data.navigating then data.done []
  else (data.done [.adapter .startFix]).andThen fun data =>
    if answers.startFix = .success ∨ answers.startFix = .engineDown then
      { data with navigating := true }.locInformGpsStatus .gpsStatusSessionBegin
    else data.done []

/-- `loc_eng_stop_handler`. -/
def locEngStopHandler (data : LocEngData) (answers : Answers) : Handling :=
  if data.navigating then
    ((data.done [.adapter .stopFix]).andThen fun data =>
      if answers.stopFix = .success then data.locInformGpsStatus .gpsStatusSessionEnd
      else data.done []).andThen fun data => { data with navigating := false }.done []
  else data.done []

/-- `loc_eng_report_status`. -/
def locEngReportStatus (data : LocEngData) (status : GpsStatusValue) : Handling :=
  let data := { data with muteSessionState := data.muteSessionState.report status }
  let informed :=
    if status ≠ .gpsStatusNone ∧ ¬ (status = .gpsStatusSessionEnd ∧ data.navigating = true) ∧
      ¬ (status = .gpsStatusSessionBegin ∧ data.navigating = false) ∧
      data.muteSessionState ≠ .locMuteSessInSession then data.locInformGpsStatus status
    else data.done []
  informed.andThen fun data =>
    { data with
      engineStatus :=
        if status = GpsStatusValue.gpsStatusEngineOn ∨ status = GpsStatusValue.gpsStatusEngineOff
        then status else data.engineStatus
      fixSessionStatus :=
        if status = GpsStatusValue.gpsStatusSessionBegin ∨
          status = GpsStatusValue.gpsStatusSessionEnd
        then status else data.fixSessionStatus }.done []

/-- `loc_eng_nmea_send`, for every sentence of a report. -/
def locEngNmeaSend (data : LocEngData) (sentences : List (List UInt8)) : Handling :=
  if sentences = [] ∨ data.nmeaCb = true then data.done (sentences.map .nmeaCb)
  else (none, [.nullPointer])

/-- `LOC_ENG_MSG_REPORT_POSITION`. -/
def reportPosition (conf : LocGpsCfg) (nmea : NmeaGenerator) (data : LocEngData)
    (answers : Answers) (location : GpsLocation) (locationExtended : GpsLocationExtended)
    (locationExt : Pointer) (status : LocSessStatus) (technologyMask : BitVec 32) : Handling :=
  if data.muteSessionState = .locMuteSessInSession then data.done []
  else
    let fix : List Call :=
      if data.locationCb then
        if status = .locSessFailure then [.locationCb none]
        else if acceptsFix conf data location status technologyMask then
          [.locationCb (some (location, locationExt))]
        else []
      else []
    ((data.done fix).andThen fun data =>
      if fix ≠ [] ∧ answers.recurrence = .gpsPositionRecurrenceSingle then
        { data with navigating := false }.done
          (if status = LocSessStatus.locSessIntermediate then [.adapter .stopFix] else [])
      else data.done []).andThen fun data =>
    if data.generateNmea ∧ location.positionSource = ulpLocationIsFromGnss then
      let (cache, sentences) := nmea.generatePos data.nmeaCache location locationExtended
      { data with nmeaCache := cache }.locEngNmeaSend sentences
    else data.done []

/-- `LOC_ENG_MSG_REPORT_SV`. -/
def reportSv (nmea : NmeaGenerator) (data : LocEngData) (svStatus : GpsSvStatus)
    (locationExtended : GpsLocationExtended) (svExt : Pointer) : Handling :=
  if data.muteSessionState = .locMuteSessInSession then data.done []
  else (data.done (if data.svStatusCb then [.svStatusCb svStatus svExt] else [])).andThen
    fun data =>
      if data.generateNmea then
        let (cache, sentences) := nmea.generateSv data.nmeaCache svStatus locationExtended
        { data with nmeaCache := cache }.locEngNmeaSend sentences
      else data.done []

/-- `LOC_ENG_MSG_REPORT_NMEA`. -/
def reportNmea (data : LocEngData) (sentence : List UInt8) : Handling :=
  data.done (if data.nmeaCb then [.nmeaCb sentence] else [])

/-! ## Servers and restarts -/

/-- `loc_eng_set_server`. -/
def locEngSetServer (data : LocEngData) (answers : Answers) (type : LocServerType)
    (hostname : List UInt8) (port : ℤ) : Handling :=
  match type with
  | .locAgpsSuplServer =>
      data.done (if (serverUrl hostname port).length < maxUrlLen then
        [.queued (.setServerUrl (serverUrl hostname port))] else [])
  | _ =>
      data.done (match answers.resolve hostname with
        | some addr => [.queued (.setServerIpv4 (htonl addr) port type)]
        | none => [])

/-- `loc_eng_agps_reinit`. -/
def locEngAgpsReinit (data : LocEngData) (answers : Answers) : Handling :=
  (match data.suplHost with
    | some buf => data.locEngSetServer answers .locAgpsSuplServer buf.host buf.port
    | none => data.done []).andThen fun data =>
  match data.c2kHost with
  | some buf => data.locEngSetServer answers .locAgpsCdmaPdeServer buf.host buf.port
  | none => data.done []

/-- `loc_eng_agps_init`, with whether the framework sets `status_cb`. -/
def locEngAgpsInit (data : LocEngData) (answers : Answers) (statusCb : Bool) : Handling :=
  if !data.context || data.agpsStatusCb then data.done []
  else
    { data with
      agpsStatusCb := statusCb
      agnssNif := some (.new statusCb agpsTypeSupl false)
      internetNif := some (.new statusCb agpsTypeWwanAny false)
      wifiNif := some (.new statusCb agpsTypeWifi true) }.locEngAgpsReinit answers

/-- `loc_eng_ni_init`, with whether the framework sets `notify_cb`. -/
def locEngNiInit (data : LocEngData) (notifyCb : Bool) : LocEngData :=
  if !notifyCb || data.niNotifyCb then data
  else
    { data with
      niNotifyCb := notifyCb
      locEngNiData := { LocEngNiData.zero with resp := data.locEngNiData.resp } }

/-- `loc_eng_reinit`. -/
def locEngReinit (conf : LocGpsCfg) (data : LocEngData) (answers : Answers) : Handling :=
  data.done (.adapter .reinit ::
    if answers.reinit = .success then
      [.queued (.suplVersion conf.suplVer), .queued (.lppConfig conf.lppProfile),
        .queued (.setSensorControlConfig conf.sensorUsage)] ++
      (if conf.sensorProperties.anyValid then
        [.queued (.setSensorProperties conf.sensorProperties)] else []) ++
      [.queued (.setSensorPerfControlConfig conf.sensorPerfControl)]
    else [])

/-- The functions of the NI interface write their record, and mute a session. -/
def withNi (data : LocEngData) (result : LocEngNiData × List NiEffect) : Handling :=
  { data with
    locEngNiData := result.1
    muteSessionState := if NiEffect.muteOneSession ∈ result.2 then .locMuteSessWait
      else data.muteSessionState }.done (result.2.map .ni)

/-- `loc_eng_handle_engine_down`. -/
def locEngHandleEngineDown (data : LocEngData) : Handling :=
  (data.withNi (locEngNiResetOnEngineRestart data.niNotifyCb data.locEngNiData)).andThen
    fun data => data.locEngReportStatus .gpsStatusEngineOff

/-- "If we crashed in the middle of navigating, we restart." -/
def restartFix (data : LocEngData) (answers : Answers) : Handling :=
  if data.navigating then
    ({ data with navigating := false }.done [.adapter (.setPositionMode none)]).andThen fun data =>
      data.locEngStartHandler answers
  else data.done []

/-- `loc_eng_handle_engine_up`. -/
def locEngHandleEngineUp (conf : LocGpsCfg) (data : LocEngData) (answers : Answers) : Handling :=
  (data.locEngReinit conf answers).andThen fun data =>
  (if data.agpsStatusCb then
    (data.callNif .agnssNif .dropAllSubscribers).andThen fun data =>
    (data.callNif .internetNif .dropAllSubscribers).andThen fun data =>
      data.locEngAgpsReinit answers
  else data.done []).andThen fun data =>
  (data.locEngReportStatus .gpsStatusEngineOn).andThen fun data => data.restartFix answers

end LocEngData

end Msm8660.Gps
