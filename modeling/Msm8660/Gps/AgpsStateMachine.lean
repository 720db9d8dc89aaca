import Msm8660.Lib.Machine
import Msm8660.Gps.LinkedList
import Msm8660.Gps.Subscriber

/-!
# The AGPS state machine

`AgpsStateMachine` of `loc_eng_agps.cpp` with its four states. A state machine
owns one network interface: it asks the framework for the data connection while
it has active subscribers and passes the answers on to them.

What a call does outside the machine is a list of `Effect`s: notifications to
subscribers, calls of `sendRsrcRequest`, and the log lines that say which state
handled which event. The list of subscribers starts at its head, where
`linked_list_add` puts new elements.
-/

set_option autoImplicit false

namespace Msm8660.Gps

/-- `AGpsType`. -/
abbrev AGpsType := ℤ

def agpsTypeInvalid : AGpsType := -1
def agpsTypeSupl : AGpsType := 1
def agpsTypeWwanAny : AGpsType := 3
def agpsTypeWifi : AGpsType := 4

/-- `AGpsStatusValue`, the two values that are sent to the framework. -/
inductive AGpsStatusValue where
  | gpsRequestAgpsDataConn
  | gpsReleaseAgpsDataConn
deriving DecidableEq, Repr

/-- `AGpsExtStatus`. Parts that the sender leaves uninitialised are missing. -/
structure AGpsExtStatus where
  type : AGpsType
  status : AGpsStatusValue
  ipv4Addr : Option (BitVec 32)
  ipv6Addr : List UInt8
  ssid : List UInt8
  password : List UInt8
deriving DecidableEq

/-- The results reported to the daemons. -/
inductive IfResult where
  | gpsoneLocApiIfRequestSuccess
  | gpsoneLocApiIfReleaseSuccess
  | gpsoneLocApiIfFailure
deriving DecidableEq, Repr

/-- The calls by which a subscriber passes a notification on. -/
inductive ClientCall where
  /-- `loc_eng_dmn_conn_loc_api_server_data_conn` -/
  | dataConn (senderId : LocIfReqSenderId) (status : IfResult)
  | atlOpenStatus (handle : BitVec 32) (isSucc : Bool) (apn : Option (List UInt8))
      (bear : Option ℤ) (agpsType : AGpsType)
  | atlCloseStatus (handle : BitVec 32) (isSucc : Bool)
deriving DecidableEq

/-- The states of a state machine. -/
inductive AgpsState where
  | released
  | pending
  | acquired
  | releasing
deriving DecidableEq, Repr

/-- What a call does outside the machine. -/
inductive Effect where
  /-- a subscriber accepts a notification and passes it on -/
  | notified (subscriber : Subscriber) (rsrcStatus : AgpsRsrcStatus) (calls : List ClientCall)
  /-- `sendRsrcRequest` is called; `sent` is the status given to `mServicer`, if any -/
  | sendRsrcRequest (action : AGpsStatusValue) (sent : Option AGpsExtStatus)
  /-- "subscriber list not empty!!!" -/
  | subscriberListNotEmpty
  /-- "onRsrcEvent, old state %s, new state %s, event %d" -/
  | onRsrcEvent (oldState newState : AgpsState) (event : AgpsRsrcStatus)
deriving DecidableEq

/-- `AgpsStateMachine`. Of `mServicer` only whether it is set matters. -/
structure AgpsStateMachine where
  mServicer : Bool
  mType : AGpsType
  mStatePtr : AgpsState
  mSubscribers : List Subscriber
  mAPN : Option (List UInt8)
  mAPNLen : ℕ
  mBearer : Option ℤ
  mEnforceSingleSubscriber : Bool
deriving DecidableEq

/-- An event with the pointer that `onRsrcEvent` reads for it: a subscriber of
the caller, or a place in the list with what is found there. -/
inductive StateEvent where
  | subscribe (data : Subscriber)
  | unsubscribe (place : ℕ) (data : Subscriber)
  | granted
  | released
  | denied
deriving DecidableEq

/-- The event without its data. -/
def StateEvent.status : StateEvent → AgpsRsrcStatus
  | .subscribe _ => .rsrcSubscribe
  | .unsubscribe _ _ => .rsrcUnsubscribe
  | .granted => .rsrcGranted
  | .released => .rsrcReleased
  | .denied => .rsrcDenied

/-! ## Notifying subscribers -/

/-- The calls by which a subscriber handles a resource status; `none` is the
`default` branch of its `switch`. -/
def Subscriber.handleRsrcStatus (mStateMachine : AgpsStateMachine) (this : Subscriber)
    (status : AgpsRsrcStatus) : Option (List ClientCall) :=
  match this, status with
  | .bit _, .rsrcUnsubscribe | .bit _, .rsrcReleased =>
      some [.dataConn .gpsoneDaemon .gpsoneLocApiIfReleaseSuccess]
  | .bit _, .rsrcDenied => some [.dataConn .gpsoneDaemon .gpsoneLocApiIfFailure]
  | .bit _, .rsrcGranted => some [.dataConn .gpsoneDaemon .gpsoneLocApiIfRequestSuccess]
  | .atl s, .rsrcUnsubscribe | .atl s, .rsrcReleased => some [.atlCloseStatus s.ID true]
  | .atl s, .rsrcDenied =>
      some [.atlOpenStatus s.ID false mStateMachine.mAPN mStateMachine.mBearer
        (if s.mBackwardCompatibleMode then agpsTypeInvalid else mStateMachine.mType)]
  | .atl s, .rsrcGranted =>
      some [.atlOpenStatus s.ID true mStateMachine.mAPN mStateMachine.mBearer
        (if s.mBackwardCompatibleMode then agpsTypeInvalid else mStateMachine.mType)]
  | .wifi _, .rsrcUnsubscribe => some []
  | .wifi s, .rsrcReleased => some [.dataConn s.senderId .gpsoneLocApiIfReleaseSuccess]
  | .wifi s, .rsrcDenied => some [.dataConn s.senderId .gpsoneLocApiIfFailure]
  | .wifi s, .rsrcGranted => some [.dataConn s.senderId .gpsoneLocApiIfRequestSuccess]
  | _, .rsrcSubscribe | _, .rsrcStatusMax => none

/-- `notifyRsrcStatus` of the three classes. -/
def Subscriber.notifyRsrcStatus (mStateMachine : AgpsStateMachine) (this : Subscriber)
    (notification : Notification) : Bool × List Effect :=
  if this.forMe notification then
    match this.handleRsrcStatus mStateMachine notification.rsrcStatus with
    | some calls => (true, [.notified this notification.rsrcStatus calls])
    | none => (false, [])
  else (false, [])

/-- The callback `hasSubscriber`. -/
def hasSubscriber (notification : Notification) : Subscriber → Bool × List Effect :=
  pureCallback fun s1 => s1.forMe notification

/-- The callback `notifySubscriber`: every subscriber is notified, and the
search ends at the first that shall be deleted. -/
def notifySubscriber (mStateMachine : AgpsStateMachine) (notification : Notification)
    (s1 : Subscriber) : Bool × List Effect :=
  ((s1.notifyRsrcStatus mStateMachine notification).1 && notification.postNotifyDelete,
    (s1.notifyRsrcStatus mStateMachine notification).2)

namespace AgpsStateMachine

/-- The constructor. -/
def new (servicer : Bool) (type : AGpsType) (enforceSingleSubscriber : Bool) :
    AgpsStateMachine :=
  ⟨servicer, type, .released, [], none, 0, none, enforceSingleSubscriber⟩

/-- `setAPN`. -/
def setAPN (m : AgpsStateMachine) (apn : Option (List UInt8)) (len : ℕ) : AgpsStateMachine :=
  match apn with
  | some name => { m with mAPN := some (name.take len), mAPNLen := len }
  | none => { m with mAPN := none, mAPNLen := 0 }

def setBearer (m : AgpsStateMachine) (bearer : ℤ) : AgpsStateMachine :=
  { m with mBearer := some bearer }

/-- The machine with another list of subscribers. -/
def withSubscribers (m : AgpsStateMachine) (list : List Subscriber) : AgpsStateMachine :=
  { m with mSubscribers := list }

def hasSubscribers (m : AgpsStateMachine) : Bool := !linkedListEmpty m.mSubscribers

/-- `hasActiveSubscribers`. -/
def hasActiveSubscribers (m : AgpsStateMachine) : Bool :=
  (linkedListSearch (hasSubscriber (.ofGroup .broadcastActive)) false m.mSubscribers).dataP.isSome

def dropAllSubscribers (m : AgpsStateMachine) : AgpsStateMachine :=
  m.withSubscribers (linkedListFlush m.mSubscribers)

/-- `notifySubscribers`. Deleting needs one search for each subscriber that goes
and one that finds nothing. -/
def notifySubscribers (m : AgpsStateMachine) (notification : Notification) :
    AgpsStateMachine × List Effect :=
  if notification.postNotifyDelete then
    match removeUntilNone (notifySubscriber m notification) (m.mSubscribers.length + 1)
        m.mSubscribers with
    | some (list, effects) => (m.withSubscribers list, effects)
    | none => (m, [])
  else
    let result := linkedListSearch (notifySubscriber m notification) false m.mSubscribers
    (m.withSubscribers result.list, result.emitted)

/-- `addSubscriber`. -/
def addSubscriber (m : AgpsStateMachine) (subscriber : Subscriber) : AgpsStateMachine :=
  match (linkedListSearch (hasSubscriber (.ofSubscriber subscriber)) false
      m.mSubscribers).dataP with
  | none => m.withSubscribers (linkedListAdd m.mSubscribers subscriber.clone)
  | some _ => m

/-- The status that `sendRsrcRequest` fills in, for the active subscriber it
found. -/
def nifRequest (m : AgpsStateMachine) (action : AGpsStatusValue) :
    Option Subscriber → AGpsExtStatus
  | none => ⟨m.mType, action, some inaddrNone, [0], [], []⟩
  | some s =>
      ⟨m.mType, action, s.setIPAddresses.1, s.setIPAddresses.2, s.setWifiInfo.1, s.setWifiInfo.2⟩

/-- `sendRsrcRequest`. -/
def sendRsrcRequest (m : AgpsStateMachine) (action : AGpsStatusValue) : List Effect :=
  let s := (linkedListSearch (hasSubscriber (.ofGroup .broadcastActive)) false
    m.mSubscribers).dataP.map Prod.snd
  if s.isNone == (action == .gpsReleaseAgpsDataConn) then
    [.sendRsrcRequest action (some (m.nifRequest action s))]
  else [.sendRsrcRequest action none]

/-! ## The states -/

/-- How a state answers an event: the next state, the machine with the changed
list, and the effects. -/
abbrev Reaction := AgpsState × AgpsStateMachine × List Effect

/-- The first half of the `RSRC_UNSUBSCRIBE` cases: a subscriber that waits for
the close is marked, any other is told and removed. -/
def unsubscribeListed (m : AgpsStateMachine) (place : ℕ) (subscriber : Subscriber) :
    AgpsStateMachine × List Effect :=
  if subscriber.waitForCloseComplete then
    (m.withSubscribers (m.mSubscribers.set place subscriber.setInactive), [])
  else m.notifySubscribers (.toSubscriber subscriber .rsrcUnsubscribe true)

/-- The second half of `RSRC_UNSUBSCRIBE` in the states that hold a request:
"check if there is any subscribers left". -/
def releaseIfUnused (this : AgpsState) (m : AgpsStateMachine) : AgpsState × List Effect :=
  if !m.hasSubscribers then (.released, m.sendRsrcRequest .gpsReleaseAgpsDataConn)
  else if !m.hasActiveSubscribers then (.releasing, m.sendRsrcRequest .gpsReleaseAgpsDataConn)
  else (this, [])

/-- `AgpsReleasedState::onRsrcEvent`. -/
def releasedOnRsrcEvent (m : AgpsStateMachine) (event : StateEvent) : Reaction :=
  let complaint := if m.hasSubscribers then [Effect.subscriberListNotEmpty] else []
  match event with
  | .subscribe subscriber =>
      let m' := m.addSubscriber subscriber
      (.pending, m', complaint ++ m'.sendRsrcRequest .gpsRequestAgpsDataConn)
  | .unsubscribe _ subscriber =>
      (.released, m, complaint ++ (subscriber.notifyRsrcStatus m
        (.toSubscriber subscriber .rsrcUnsubscribe false)).2)
  | _ => (.released, m, complaint)

/-- `AgpsPendingState::onRsrcEvent`. -/
def pendingOnRsrcEvent (m : AgpsStateMachine) (event : StateEvent) : Reaction :=
  match event with
  | .subscribe subscriber => (.pending, m.addSubscriber subscriber, [])
  | .unsubscribe place subscriber =>
      let (m', effects) := m.unsubscribeListed place subscriber
      let (nextState, more) := releaseIfUnused .pending m'
      (nextState, m', effects ++ more)
  | .granted =>
      let (m', effects) := m.notifySubscribers (.toGroup .broadcastActive .rsrcGranted false)
      (.acquired, m', effects)
  | .released => (.pending, m, [])
  | .denied =>
      let (m', effects) := m.notifySubscribers (.toGroup .broadcastAll .rsrcDenied true)
      (.released, m', effects)

/-- `AgpsAcquiredState::onRsrcEvent`. -/
def acquiredOnRsrcEvent (m : AgpsStateMachine) (event : StateEvent) : Reaction :=
  match event with
  | .subscribe subscriber =>
      (.acquired, m.addSubscriber subscriber, (subscriber.notifyRsrcStatus m
        (.toSubscriber subscriber .rsrcGranted false)).2)
  | .unsubscribe place subscriber =>
      let (m', effects) := m.unsubscribeListed place subscriber
      let (nextState, more) := releaseIfUnused .acquired m'
      (nextState, m', effects ++ more)
  | .granted => (.acquired, m, [])
  | .released =>
      let (m', effects) := m.notifySubscribers (.toGroup .broadcastAll .rsrcReleased true)
      (.released, m', effects)
  | .denied => (.acquired, m, [])

/-- The `RSRC_DENIED` and `RSRC_RELEASED` cases of `AgpsReleasingState`. -/
def releasingClosed (m : AgpsStateMachine) (status : AgpsRsrcStatus) : Reaction :=
  let (m', effects) := m.notifySubscribers (.toGroup .broadcastInactive status true)
  if m'.hasSubscribers then
    (.pending, m', effects ++ m'.sendRsrcRequest .gpsRequestAgpsDataConn)
  else (.released, m', effects)

/-- `AgpsReleasingState::onRsrcEvent`. -/
def releasingOnRsrcEvent (m : AgpsStateMachine) (event : StateEvent) : Reaction :=
  match event with
  | .subscribe subscriber => (.releasing, m.addSubscriber subscriber, [])
  | .unsubscribe place subscriber =>
      let (m', effects) := m.unsubscribeListed place subscriber
      (if !m'.hasSubscribers then .released else .releasing, m', effects)
  | .denied => m.releasingClosed .rsrcDenied
  | .released => m.releasingClosed .rsrcReleased
  | .granted => (.releasing, m, [])

/-- `mStatePtr = mStatePtr->onRsrcEvent(event, data)`, with the log line that
every state writes last. -/
def stateOnRsrcEvent (m : AgpsStateMachine) (event : StateEvent) :
    AgpsStateMachine × List Effect :=
  let (nextState, m', effects) := match m.mStatePtr with
    | .released => m.releasedOnRsrcEvent event
    | .pending => m.pendingOnRsrcEvent event
    | .acquired => m.acquiredOnRsrcEvent event
    | .releasing => m.releasingOnRsrcEvent event
  ({ m' with mStatePtr := nextState },
    effects ++ [.onRsrcEvent m.mStatePtr nextState event.status])

/-! ## The public operations -/

/-- `AgpsStateMachine::onRsrcEvent`. -/
def onRsrcEvent (m : AgpsStateMachine) (event : AgpsRsrcStatus) :
    AgpsStateMachine × List Effect :=
  match event with
  | .rsrcGranted => m.stateOnRsrcEvent .granted
  | .rsrcReleased => m.stateOnRsrcEvent .released
  | .rsrcDenied => m.stateOnRsrcEvent .denied
  | _ => (m, [])

/-- `subscribeRsrc`. -/
def subscribeRsrc (m : AgpsStateMachine) (subscriber : Subscriber) :
    AgpsStateMachine × List Effect :=
  if m.mEnforceSingleSubscriber && m.hasSubscribers then
    (m, (notifySubscriber m (.toGroup .broadcastAll .rsrcDenied true) subscriber).2)
  else m.stateOnRsrcEvent (.subscribe subscriber)

/-- `unsubscribeRsrc`, with the result it returns. -/
def unsubscribeRsrc (m : AgpsStateMachine) (subscriber : Subscriber) :
    Bool × AgpsStateMachine × List Effect :=
  match (linkedListSearch (hasSubscriber (.ofSubscriber subscriber)) false
      m.mSubscribers).dataP with
  | some (place, s) => (true, m.stateOnRsrcEvent (.unsubscribe place s))
  | none => (false, m, [])

end AgpsStateMachine

/-- The calls that change a state machine. -/
inductive AgpsOp where
  | subscribeRsrc (subscriber : Subscriber)
  | unsubscribeRsrc (subscriber : Subscriber)
  | onRsrcEvent (event : AgpsRsrcStatus)
  | dropAllSubscribers
  | setAPN (apn : Option (List UInt8)) (len : ℕ)
  | setBearer (bearer : ℤ)
deriving DecidableEq

/-- A state machine under its calls. -/
def agpsMachine : Machine AgpsStateMachine AgpsOp Effect where
  step m op := match op with
    | .subscribeRsrc subscriber => m.subscribeRsrc subscriber
    | .unsubscribeRsrc subscriber => (m.unsubscribeRsrc subscriber).2
    | .onRsrcEvent event => m.onRsrcEvent event
    | .dropAllSubscribers => (m.dropAllSubscribers, [])
    | .setAPN apn len => (m.setAPN apn len, [])
    | .setBearer bearer => (m.setBearer bearer, [])

/-! ## The three machines -/

/-- The network interfaces that have a state machine. -/
inductive Nif where
  | agnssNif
  | internetNif
  | wifiNif
deriving DecidableEq, Repr

/-- The type that a machine tags its requests with. -/
def Nif.type : Nif → AGpsType
  | .agnssNif => agpsTypeSupl
  | .internetNif => agpsTypeWwanAny
  | .wifiNif => agpsTypeWifi

/-- Whether the machine serves one subscriber at a time. -/
def Nif.enforceSingleSubscriber : Nif → Bool
  | .wifiNif => true
  | _ => false

/-- The machine that `loc_eng_agps_init` constructs, for a `status_cb` that is
set. -/
def locEngAgpsInit (nif : Nif) : AgpsStateMachine :=
  .new true nif.type nif.enforceSingleSubscriber

/-- The subscribers that the messages bring to a machine. -/
def Nif.Serves : Nif → Subscriber → Prop
  | .wifiNif, .wifi _ => True
  | .agnssNif, .bit _ | .agnssNif, .atl _ => True
  | .internetNif, .bit _ | .internetNif, .atl _ => True
  | _, _ => False

end Msm8660.Gps
