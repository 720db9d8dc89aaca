import Msm8660.Lib.Machine
import Msm8660.Lib.Outcome
import Msm8660.Lib.Progress
import Msm8660.Lib.CString
import Msm8660.Gps.LinkedList
import Msm8660.Gps.Subscriber
import Msm8660.Gps.AgpsStateMachine
import Msm8660.Gps.AgpsSteps
import Msm8660.Gps.AgpsMoves
import Msm8660.Gps.AgpsInvariant
import Msm8660.Gps.AgpsConnection
import Msm8660.Gps.AgpsNotifications
import Msm8660.Gps.AgpsFramework
import Msm8660.Gps.Ni
import Msm8660.Gps.NiThreads
import Msm8660.Gps.NiAnswerable
import Msm8660.Gps.NiBuffers
import Msm8660.Gps.LocEngMsg
import Msm8660.Gps.LocEng
import Msm8660.Gps.LocEngThread
import Msm8660.Gps.LocEngControl
import Msm8660.Gps.LocEngFrames
import Msm8660.Gps.LocEngNifs
import Msm8660.Gps.DeferredStop
import Msm8660.Gps.SessionStatus
import Msm8660.Gps.AidingData
import Msm8660.Gps.LocEngSettings
import Msm8660.Gps.LocEngInit
import Msm8660.Gps.ServerConfig
import Msm8660.Gps.NullPointers
import Msm8660.Gps.MuteSession
import Msm8660.Gps.AgpsInterface
import Msm8660.Gps.LocEngClients
import Msm8660.Gps.AgpsClients
import Msm8660.Gps.Ipv6Clients
import Msm8660.Sensors.InputEventReader
import Msm8660.Sensors.PollEvents
import Msm8660.Sensors.PollAccount
import Msm8660.Sensors.InputSensors
import Msm8660.Sensors.AkmSensor
import Msm8660.Sensors.PollContext
import Msm8660.Sensors.Stranded
import Msm8660.Sensors.WakePipe
import Msm8660.Gps.LinkedListHeap
import Msm8660.Gps.MsgQ
import Msm8660.Sensors.ReaderQueue
import Msm8660.Camera.CameraWrapper
import Msm8660.Gps.DmnConn
import Msm8660.Gps.ThreadHelper
import Msm8660.Gps.ThreadHelperCalls
import Msm8660.Gps.ThreadHelperLaunch
import Msm8660.Gps.DmnServer
import Msm8660.Gps.FreshSatellites
import Msm8660.Gps.LocCfg
import Msm8660.Ril.OperatorCheck
import Msm8660.Sensors.AccelerometerUse
import Msm8660.Lib.Fields
import Msm8660.Gps.DmnReceive
import Msm8660.Gps.PositionReports
import Msm8660.Gps.NmeaChecksum
import Msm8660.Gps.NmeaReceiver
import Msm8660.Gps.NmeaSatellites
import Msm8660.Gps.NmeaLengths
import Msm8660.Sensors.InitialState
import Msm8660.Sensors.AkmDelays
import Msm8660.Sensors.SignificantMotion
import Msm8660.Sensors.GyroTermination
import Msm8660.Sensors.AkmReference
import Msm8660.Gps.DecodeAddress
import Msm8660.Gps.TrimSpace
import Msm8660.Gps.MissingValues
import Msm8660.Power.PowerHal
import Msm8660.Power.ProfileCache
import Msm8660.Gps.PositionFields
import Msm8660.Gps.MagneticTrack
import Msm8660.Gps.PrintedCoordinates
import Msm8660.Gps.ReplyPipes
import Msm8660.Lib.Calendar
import Msm8660.Gps.PrintedTime
import Msm8660.Lights.LightsModule
import Msm8660.Gps.LocEngContext
import Msm8660.Gps.LocEngContextDrop
import Msm8660.Gps.OpenedApn
import Msm8660.Gps.UsedSatellites
import Msm8660.Gps.WrittenConf
import Msm8660.Camera.CameraLedger
import Msm8660.Ril.SolicitedReplies
import Msm8660.Gps.AgpsProgress
import Msm8660.Gps.DmnDelivery
import Msm8660.Sensors.InputReference
