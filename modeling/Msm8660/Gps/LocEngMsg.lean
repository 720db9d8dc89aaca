import Mathlib.Data.Rat.Init
import Msm8660.Gps.AgpsStateMachine
import Msm8660.Gps.Ni

/-!
# Messages of the deferred action thread

The messages of `loc_eng_msg.h` with the data that their handlers read, and the
calls of the adapter that most of them end in. A `double` or a `float` is a
rational number here, a buffer a list of bytes.
-/

set_option autoImplicit false

namespace Msm8660.Gps

/-- A pointer that is only passed on. -/
abbrev Pointer := ℕ

/-- `GpsStatusValue`. -/
inductive GpsStatusValue where
  | gpsStatusNone
  | gpsStatusSessionBegin
  | gpsStatusSessionEnd
  | gpsStatusEngineOn
  | gpsStatusEngineOff
deriving DecidableEq, Repr

/-- `enum loc_sess_status`. -/
inductive LocSessStatus where
  | locSessSuccess
  | locSessIntermediate
  | locSessFailure
deriving DecidableEq, Repr

/-- The enumerator as an `int`. -/
def LocSessStatus.value : LocSessStatus → ℕ
  | .locSessSuccess => 0
  | .locSessIntermediate => 1
  | .locSessFailure => 2

/-- `GpsPositionRecurrence`. -/
inductive GpsPositionRecurrence where
  | gpsPositionRecurrencePeriodic
  | gpsPositionRecurrenceSingle
deriving DecidableEq, Repr

/-- `loc_if_req_type_e_type`. -/
inductive LocIfReqType where
  | supl
  | wifi
  | any
deriving DecidableEq, Repr

/-- `LocServerType`. -/
inductive LocServerType where
  | locAgpsCdmaPdeServer
  | locAgpsCustomPdeServer
  | locAgpsMpcServer
  | locAgpsSuplServer
deriving DecidableEq, Repr

def gpsLocationHasAccuracy : BitVec 16 := 0x0010#16
def locationHasSourceInfo : BitVec 16 := 0x0020#16
def ulpLocationIsFromHybrid : ℤ := 0x0001
def ulpLocationIsFromGnss : ℤ := 0x0002
def locPosTechMaskSatellite : BitVec 32 := 0x00000001#32
def locPosTechMaskSensors : BitVec 32 := 0x00000008#32

/-- `GpsLocation`. -/
structure GpsLocation where
  flags : BitVec 16
  positionSource : ℤ
  latitude : ℚ
  longitude : ℚ
  altitude : ℚ
  speed : ℚ
  bearing : ℚ
  accuracy : ℚ
  timestamp : ℤ
deriving DecidableEq

/-- `GpsLocationExtended`. -/
structure GpsLocationExtended where
  flags : BitVec 16
  altitudeMeanSeaLevel : ℚ
  pdop : ℚ
  hdop : ℚ
  vdop : ℚ
  magneticDeviation : ℚ
deriving DecidableEq

/-- `GpsSvInfo`. -/
structure GpsSvInfo where
  prn : ℤ
  snr : ℚ
  elevation : ℚ
  azimuth : ℚ
deriving DecidableEq

/-- `GpsSvStatus`. -/
structure GpsSvStatus where
  numSvs : ℤ
  svList : List GpsSvInfo
  usedInFixMask : BitVec 32
deriving DecidableEq

/-- `LocPosMode`. -/
structure LocPosMode where
  mode : ℕ
  recurrence : GpsPositionRecurrence
  minInterval : ℕ
  preferredAccuracy : ℕ
  preferredTime : ℕ
  credentials : List UInt8
  provider : List UInt8
deriving DecidableEq

/-- A property of a sensor: whether it is valid, and its value. -/
abbrev RandomWalk := Bool × ℚ

/-- The members of `loc_eng_msg_sensor_properties`. -/
structure SensorProperties where
  gyroBiasVarianceRandomWalk : RandomWalk
  accelRandomWalk : RandomWalk
  angleRandomWalk : RandomWalk
  rateRandomWalk : RandomWalk
  velocityRandomWalk : RandomWalk
deriving DecidableEq

/-- The members of `loc_eng_msg_sensor_perf_control_config`. -/
structure SensorPerfControlConfig where
  controlMode : ℤ
  accelSamplesPerBatch : ℤ
  accelBatchesPerSec : ℤ
  gyroSamplesPerBatch : ℤ
  gyroBatchesPerSec : ℤ
  accelSamplesPerBatchHigh : ℤ
  accelBatchesPerSecHigh : ℤ
  gyroSamplesPerBatchHigh : ℤ
  gyroBatchesPerSecHigh : ℤ
  algorithmConfig : ℤ
deriving DecidableEq

/-- `UlpNetworkRequestPos`. -/
structure UlpNetworkRequestPos where
  requestType : BitVec 16
  intervalMs : ℤ
  desiredPositionSource : BitVec 16
deriving DecidableEq

/-- `UlpPhoneContextRequest`. -/
structure UlpPhoneContextRequest where
  contextType : BitVec 16
  requestType : BitVec 16
  intervalMs : ℤ
deriving DecidableEq

/-- The messages, one constructor for each `msgid` that the thread knows;
`other` is any message that it does not. -/
inductive LocEngMsg where
  | quit
  | engineDown
  | engineUp
  | startFix
  | stopFix
  | setPositionMode (pMode : LocPosMode)
  | setTime (time timeReference uncertainty : ℤ)
  | injectXtraData (data : List UInt8)
  | injectLocation (latitude longitude accuracy : ℚ)
  | deleteAidingData (type : BitVec 16)
  | setServerUrl (url : List UInt8)
  | setServerIpv4 (nlAddr : BitVec 32) (port : ℤ) (serverType : LocServerType)
  | enableData (enable : ℤ) (apn : List UInt8)
  | suplVersion (suplVersion : ℤ)
  | lppConfig (lppConfig : ℤ)
  | setSensorControlConfig (sensorsDisabled : ℤ)
  | setSensorProperties (properties : SensorProperties)
  | setSensorPerfControlConfig (config : SensorPerfControlConfig)
  | extPowerConfig (isBatteryCharging : ℤ)
  | atlOpenSuccess (agpsType : AGpsType) (apn : List UInt8) (length : ℕ) (bearerType : ℤ)
  | atlClosed (agpsType : AGpsType)
  | atlOpenFailed (agpsType : AGpsType)
  | reportPosition (location : GpsLocation) (locationExtended : GpsLocationExtended)
      (locationExt : Pointer) (status : LocSessStatus) (technologyMask : BitVec 32)
  | reportSv (svStatus : GpsSvStatus) (locationExtended : GpsLocationExtended) (svExt : Pointer)
  | reportStatus (status : GpsStatusValue)
  | reportNmea (nmea : List UInt8)
  | requestAtl (handle : BitVec 32) (type : AGpsType)
  | releaseAtl (handle : BitVec 32)
  | requestBit (ifType : LocIfReqType) (ipv4Addr : BitVec 32) (ipv6Addr : Option Ipv6Addr)
  | releaseBit (ifType : LocIfReqType) (ipv4Addr : BitVec 32) (ipv6Addr : Option Ipv6Addr)
  | requestWifi (senderId : LocIfReqSenderId) (ssid password : Option (List UInt8))
  | releaseWifi (senderId : LocIfReqSenderId) (ssid password : Option (List UInt8))
  | requestNi (notify : GpsNiNotification) (passThroughData : Option PassThrough)
  | informNiResponse (response : GpsUserResponseType) (passThroughData : PassThrough)
  | requestXtraData
  | requestTime
  | requestPosition
  | requestNetworkPosition (networkPosRequest : UlpNetworkRequestPos)
  | requestPhoneContext (contextRequest : UlpPhoneContextRequest)
  | other
deriving DecidableEq

/-- The calls of the adapter. -/
inductive AdapterCall where
  | reinit
  | startFix
  | stopFix
  | setPositionMode (posMode : Option LocPosMode)
  | setTime (time timeReference uncertainty : ℤ)
  | setXtraData (data : List UInt8)
  | injectPosition (latitude longitude accuracy : ℚ)
  | deleteAidingData (f : BitVec 16)
  | setServerUrl (url : List UInt8)
  | setServerIpv4 (ip : BitVec 32) (port : ℤ) (type : LocServerType)
  | enableData (enable : ℤ)
  | setAPN (apn : List UInt8)
  | informNiResponse (userResponse : GpsUserResponseType) (passThroughData : PassThrough)
  | setSUPLVersion (version : ℤ)
  | setLPPConfig (profile : ℤ)
  | setSensorControlConfig (sensorUsage : ℤ)
  | setSensorProperties (properties : SensorProperties)
  | setSensorPerfControlConfig (config : SensorPerfControlConfig)
  | setExtPowerConfig (isBatteryCharging : ℤ)
deriving DecidableEq

end Msm8660.Gps
