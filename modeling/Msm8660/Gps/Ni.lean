import Mathlib.Data.Int.Notation
import Mathlib.Data.Nat.Notation

/-!
# Network initiated requests

The record `loc_eng_ni_data` and the functions of `loc_eng_ni.cpp` that work on
it. One record serves all requests: the one that waits for the user is in
`rawRequest`, and the answer to it passes through `resp` and `respRecvd` to the
thread that was started for it.
-/

set_option autoImplicit false

namespace Msm8660.Gps

/-- The buffer of the modem that belongs to a request, by its address. -/
abbrev PassThrough := ℕ

/-- `GpsUserResponseType`. -/
abbrev GpsUserResponseType := ℤ

def gpsNiResponseAccept : GpsUserResponseType := 1
def gpsNiResponseDeny : GpsUserResponseType := 2
def gpsNiResponseNoresp : GpsUserResponseType := 3

/-- `GPS_NI_PRIVACY_OVERRIDE`. -/
def gpsNiPrivacyOverride : BitVec 32 := 0x0004#32

/-- `LOC_NI_NO_RESPONSE_TIME`, in seconds. -/
def locNiNoResponseTime : ℤ := 20

/-- `GpsNiNotification`. -/
structure GpsNiNotification where
  notificationId : ℤ
  notifyFlags : BitVec 32
  timeout : ℤ
deriving DecidableEq, Repr

/-- `loc_eng_ni_data_s_type`. -/
structure LocEngNiData where
  respTimeLeft : ℤ
  respRecvd : Bool
  rawRequest : Option PassThrough
  reqID : ℤ
  resp : GpsUserResponseType
deriving DecidableEq, Repr

/-- The record after the `memset` of `loc_eng_init`. `loc_eng_ni_init` writes
the same values, except that it leaves `resp` alone. -/
def LocEngNiData.zero : LocEngNiData := ⟨0, false, none, 0, 0⟩

/-- What the functions do outside the record. -/
inductive NiEffect where
  | free (data : PassThrough)
  /-- `loc_eng_mute_one_session` -/
  | muteOneSession
  | threadCreated
  | niNotifyCb (notif : GpsNiNotification)
  /-- `loc_eng_msg_inform_ni_response` is put into the queue -/
  | informNiResponse (response : GpsUserResponseType) (passThroughData : PassThrough)
deriving DecidableEq, Repr

/-- `loc_eng_ni_request_handler`. The last argument says whether
`pthread_create` succeeds. -/
def locEngNiRequestHandler (niNotifyCb : Bool) (ni : LocEngNiData) (notif : GpsNiNotification)
    (passThrough : Option PassThrough) (created : Bool) : LocEngNiData × List NiEffect :=
  if !niNotifyCb then (ni, [])
  else if ni.rawRequest.isSome then (ni, passThrough.toList.map .free)
  else
    ({ ni with
        rawRequest := passThrough
        respTimeLeft := 5 + if notif.timeout ≠ 0 then notif.timeout else locNiNoResponseTime },
      (if notif.notifyFlags = gpsNiPrivacyOverride then [.muteOneSession] else []) ++
        (if created then [.threadCreated] else []) ++
        [.niNotifyCb { notif with notificationId := ni.reqID }])

/-- `loc_eng_ni_reset_on_engine_restart`. -/
def locEngNiResetOnEngineRestart (niNotifyCb : Bool) (ni : LocEngNiData) :
    LocEngNiData × List NiEffect :=
  if !niNotifyCb then (ni, [])
  else match ni.rawRequest with
    | some data => ({ ni with rawRequest := none, respRecvd := true }, [.free data])
    | none => (ni, [])

/-- `loc_eng_ni_respond`. -/
def locEngNiRespond (niNotifyCb : Bool) (ni : LocEngNiData) (notifId : ℤ)
    (userResponse : GpsUserResponseType) : LocEngNiData :=
  if !niNotifyCb then ni
  else if notifId = ni.reqID ∧ ni.rawRequest.isSome then
    { ni with resp := userResponse, respRecvd := true }
  else ni

/-! ## The thread of a request -/

/-- The end of the critical section of `ni_thread_proc`: the flag is reset, and
the request is moved into a message if it is still there. -/
def niThreadTakeAnswer (ni : LocEngNiData) :
    LocEngNiData × Option (GpsUserResponseType × PassThrough) :=
  ({ ni with respRecvd := false, rawRequest := none },
    ni.rawRequest.map fun data => (ni.resp, data))

/-- The unlocked tail of `ni_thread_proc`. -/
def niThreadTail (ni : LocEngNiData) (msg : Option (GpsUserResponseType × PassThrough)) :
    LocEngNiData × List NiEffect :=
  ({ ni with respTimeLeft := 0, reqID := ni.reqID + 1 },
    msg.toList.map fun answer => .informNiResponse answer.1 answer.2)

end Msm8660.Gps
