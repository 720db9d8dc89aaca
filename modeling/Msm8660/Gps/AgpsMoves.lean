import Msm8660.Gps.AgpsSteps

/-!
# The moves of an AGPS state machine

`Sound` is the invariant of a machine between two calls, restarts included.
`Move` lists what a call can do in a sound state, one constructor for each
possibility: guard, new state and list, effects. `Sound.move` says that every
admissible call makes one of these moves, and `Move.sound` that each of them
leads to a sound state again. Everything later said about runs is said about
moves.
-/

set_option autoImplicit false

namespace Msm8660.Gps

/-! ## Sound states -/

/-- The machine after a step that leaves its other members alone. -/
def AgpsStateMachine.moved (m : AgpsStateMachine) (state : AgpsState) (list : List Subscriber) :
    AgpsStateMachine :=
  { m with mStatePtr := state, mSubscribers := list }

@[simp] theorem AgpsStateMachine.mStatePtr_moved (m : AgpsStateMachine) (state : AgpsState)
    (list : List Subscriber) : (m.moved state list).mStatePtr = state := rfl

@[simp] theorem AgpsStateMachine.mSubscribers_moved (m : AgpsStateMachine) (state : AgpsState)
    (list : List Subscriber) : (m.moved state list).mSubscribers = list := rfl

/-- The list after a subscription. -/
def listed (list : List Subscriber) (s : Subscriber) : List Subscriber :=
  if list.any (·.equals s) then list else s.clone :: list

/-- What holds of the machine of an interface between two calls. A restart may
leave the shared machines in any state with an empty list; the machine of the
WIFI interface lists one subscriber whenever it is not released. -/
structure Sound (nif : Nif) (m : AgpsStateMachine) : Prop where
  type : m.mType = nif.type
  single : m.mEnforceSingleSubscriber = nif.enforceSingleSubscriber
  servicer : m.mServicer = true
  serves : ∀ s ∈ m.mSubscribers, nif.Serves s
  /-- No subscriber equals one that was added after it. -/
  distinct : m.mSubscribers.Pairwise fun newer older => older.equals newer = false
  released : m.mStatePtr = .released → m.mSubscribers = []
  shared : nif ≠ .wifiNif → m.mStatePtr ≠ .releasing
  wifiActive : nif = .wifiNif → m.mStatePtr = .pending ∨ m.mStatePtr = .acquired →
    ∃ s, m.mSubscribers = [s] ∧ s.isInactive = false
  wifiReleasing : nif = .wifiNif → m.mStatePtr = .releasing →
    ∃ s, m.mSubscribers = [s] ∧ s.isInactive = true

/-- The calls that a machine gets: its clients are of the kinds that it serves,
and a restart drops the subscribers of the shared machines only. -/
def Admissible (nif : Nif) : AgpsOp → Prop
  | .subscribeRsrc s | .unsubscribeRsrc s => nif.Serves s
  | .dropAllSubscribers => nif ≠ .wifiNif
  | _ => True

theorem Sound.init (nif : Nif) : Sound nif (locEngAgpsInit nif) where
  type := rfl
  single := rfl
  servicer := rfl
  serves := by simp [locEngAgpsInit, AgpsStateMachine.new]
  distinct := List.Pairwise.nil
  released := fun _ => rfl
  shared := fun _ => by simp [locEngAgpsInit, AgpsStateMachine.new]
  wifiActive := fun _ => by simp [locEngAgpsInit, AgpsStateMachine.new]
  wifiReleasing := fun _ => by simp [locEngAgpsInit, AgpsStateMachine.new]

/-! ## Kinds of subscribers -/

theorem Nif.Serves.shared {nif : Nif} {s : Subscriber} (serves : nif.Serves s)
    (shared : nif ≠ .wifiNif) : s.waitForCloseComplete = false ∧ s.isInactive = false := by
  cases nif with
  | wifiNif => exact absurd rfl shared
  | agnssNif => cases s <;> first | exact ⟨rfl, rfl⟩ | exact serves.elim
  | internetNif => cases s <;> first | exact ⟨rfl, rfl⟩ | exact serves.elim

theorem Nif.Serves.wifi {s : Subscriber} (serves : Nif.wifiNif.Serves s) :
    s.waitForCloseComplete = true ∧ s.setInactive.isInactive = true := by
  cases s <;> first | exact ⟨rfl, rfl⟩ | exact serves.elim

theorem Nif.Serves.clone {nif : Nif} {s : Subscriber} (serves : nif.Serves s) :
    nif.Serves s.clone := by
  cases nif <;> cases s <;> exact serves

theorem Nif.Serves.setInactive {nif : Nif} {s : Subscriber} (serves : nif.Serves s) :
    nif.Serves s.setInactive := by
  cases nif <;> cases s <;> exact serves

/-- In a state that waits for or holds the connection, everybody is active. -/
theorem Sound.active {nif : Nif} {m : AgpsStateMachine} (sound : Sound nif m)
    (state : m.mStatePtr = .pending ∨ m.mStatePtr = .acquired) :
    ∀ s ∈ m.mSubscribers, s.isInactive = false := by
  intro s member
  by_cases wifi : nif = .wifiNif
  · obtain ⟨only, list, active⟩ := sound.wifiActive wifi state
    rw [list, List.mem_singleton] at member
    rwa [member]
  · exact ((sound.serves s member).shared wifi).2

theorem Sound.releasing_single {nif : Nif} {m : AgpsStateMachine} (sound : Sound nif m)
    (state : m.mStatePtr = .releasing) :
    ∃ s, m.mSubscribers = [s] ∧ s.isInactive = true := by
  by_cases wifi : nif = .wifiNif
  · exact sound.wifiReleasing wifi state
  · exact absurd state (sound.shared wifi)

/-! ## Moves -/

/-- Whether a state ignores an answer of the framework. -/
def AgpsState.ignores : AgpsState → AgpsRsrcStatus → Bool
  | .released, .rsrcGranted | .released, .rsrcReleased | .released, .rsrcDenied => true
  | .pending, .rsrcReleased => true
  | .acquired, .rsrcGranted | .acquired, .rsrcDenied => true
  | .releasing, .rsrcGranted => true
  | _, _ => false

/-- The release that goes to the framework when nobody is active. -/
def releaseRequest (m : AgpsStateMachine) : Effect :=
  .sendRsrcRequest .gpsReleaseAgpsDataConn (some (m.nifRequest .gpsReleaseAgpsDataConn none))

/-- **The moves of a machine**, with the guard, the machine afterwards and the
effects of each. -/
inductive Move (nif : Nif) (m : AgpsStateMachine) :
    AgpsOp → AgpsStateMachine → List Effect → Prop where
  /-- The first subscriber makes the machine ask for the connection. -/
  | opened {s : Subscriber} (serves : nif.Serves s) (state : m.mStatePtr = .released)
      (list : m.mSubscribers = []) :
      Move nif m (.subscribeRsrc s) (m.moved .pending [s.clone])
        [.sendRsrcRequest .gpsRequestAgpsDataConn
            (some (m.nifRequest .gpsRequestAgpsDataConn (some s.clone))),
          .onRsrcEvent .released .pending .rsrcSubscribe]
  | joined {s : Subscriber} (serves : nif.Serves s) (shared : nif ≠ .wifiNif)
      (state : m.mStatePtr = .pending) :
      Move nif m (.subscribeRsrc s) (m.moved .pending (listed m.mSubscribers s))
        [.onRsrcEvent .pending .pending .rsrcSubscribe]
  /-- Who joins a machine that has the connection is granted it at once. -/
  | welcomed {s : Subscriber} (serves : nif.Serves s) (shared : nif ≠ .wifiNif)
      (state : m.mStatePtr = .acquired) :
      Move nif m (.subscribeRsrc s) (m.moved .acquired (listed m.mSubscribers s))
        [notice m .rsrcGranted s, .onRsrcEvent .acquired .acquired .rsrcSubscribe]
  | refused {s : Subscriber} (serves : nif.Serves s) (wifi : nif = .wifiNif)
      (list : m.mSubscribers ≠ []) :
      Move nif m (.subscribeRsrc s) m [notice m .rsrcDenied s]
  | absent {s : Subscriber} (absent : ∀ other ∈ m.mSubscribers, other.equals s = false) :
      Move nif m (.unsubscribeRsrc s) m []
  | left {s found : Subscriber} {before after : List Subscriber} (shared : nif ≠ .wifiNif)
      (state : m.mStatePtr = .pending ∨ m.mStatePtr = .acquired)
      (list : m.mSubscribers = before ++ found :: after)
      (first : ∀ other ∈ before, other.equals s = false) (equal : found.equals s = true)
      (others : before ++ after ≠ []) :
      Move nif m (.unsubscribeRsrc s) (m.moved m.mStatePtr (before ++ after))
        [notice m .rsrcUnsubscribe found,
          .onRsrcEvent m.mStatePtr m.mStatePtr .rsrcUnsubscribe]
  /-- When the last subscriber leaves, the connection is released. -/
  | emptied {s found : Subscriber} (shared : nif ≠ .wifiNif)
      (state : m.mStatePtr = .pending ∨ m.mStatePtr = .acquired)
      (list : m.mSubscribers = [found]) (equal : found.equals s = true) :
      Move nif m (.unsubscribeRsrc s) (m.moved .released [])
        [notice m .rsrcUnsubscribe found, releaseRequest m,
          .onRsrcEvent m.mStatePtr .released .rsrcUnsubscribe]
  /-- A WIFI client that leaves stays listed until the connection is closed. -/
  | closing {s found : Subscriber} (wifi : nif = .wifiNif)
      (state : m.mStatePtr = .pending ∨ m.mStatePtr = .acquired)
      (list : m.mSubscribers = [found]) (equal : found.equals s = true) :
      Move nif m (.unsubscribeRsrc s) (m.moved .releasing [found.setInactive])
        [releaseRequest m, .onRsrcEvent m.mStatePtr .releasing .rsrcUnsubscribe]
  | closingAgain {s found : Subscriber} (wifi : nif = .wifiNif)
      (state : m.mStatePtr = .releasing)
      (list : m.mSubscribers = [found]) (equal : found.equals s = true) :
      Move nif m (.unsubscribeRsrc s) (m.moved .releasing [found.setInactive])
        [.onRsrcEvent .releasing .releasing .rsrcUnsubscribe]
  | granted (state : m.mStatePtr = .pending) :
      Move nif m (.onRsrcEvent .rsrcGranted) (m.moved .acquired m.mSubscribers)
        (m.mSubscribers.map (notice m .rsrcGranted) ++
          [.onRsrcEvent .pending .acquired .rsrcGranted])
  | denied (state : m.mStatePtr = .pending) :
      Move nif m (.onRsrcEvent .rsrcDenied) (m.moved .released [])
        (m.mSubscribers.map (notice m .rsrcDenied) ++
          [.onRsrcEvent .pending .released .rsrcDenied])
  /-- The framework takes the connection back. -/
  | forced (state : m.mStatePtr = .acquired) :
      Move nif m (.onRsrcEvent .rsrcReleased) (m.moved .released [])
        (m.mSubscribers.map (notice m .rsrcReleased) ++
          [.onRsrcEvent .acquired .released .rsrcReleased])
  | closed {found : Subscriber} {status : AgpsRsrcStatus} (wifi : nif = .wifiNif)
      (state : m.mStatePtr = .releasing) (list : m.mSubscribers = [found])
      (closes : status = .rsrcReleased ∨ status = .rsrcDenied) :
      Move nif m (.onRsrcEvent status) (m.moved .released [])
        [notice m status found, .onRsrcEvent .releasing .released status]
  | ignored {status : AgpsRsrcStatus} (ignores : m.mStatePtr.ignores status = true) :
      Move nif m (.onRsrcEvent status) m [.onRsrcEvent m.mStatePtr m.mStatePtr status]
  | unrecognized {status : AgpsRsrcStatus}
      (other : status ≠ .rsrcGranted ∧ status ≠ .rsrcReleased ∧ status ≠ .rsrcDenied) :
      Move nif m (.onRsrcEvent status) m []
  | dropped (shared : nif ≠ .wifiNif) :
      Move nif m .dropAllSubscribers (m.moved m.mStatePtr []) []
  | setAPN (apn : Option (List UInt8)) (len : ℕ) :
      Move nif m (.setAPN apn len) (m.setAPN apn len) []
  | setBearer (bearer : ℤ) : Move nif m (.setBearer bearer) (m.setBearer bearer) []

/-! ## Every admissible call is a move -/

section Moves

variable {nif : Nif} {m : AgpsStateMachine}

open AgpsStateMachine

/-- Where one subscriber is allowed, the next is refused. -/
theorem subscribeRsrc_refused (single : m.mEnforceSingleSubscriber = true)
    (busy : m.mSubscribers ≠ []) (s : Subscriber) :
    m.subscribeRsrc s = (m, [notice m .rsrcDenied s]) := by
  simp [subscribeRsrc, single, hasSubscribers_eq, busy, notifySubscriber,
    notifyRsrcStatus_eq m s (.toGroup .broadcastAll .rsrcDenied true) rfl]
  rfl

theorem subscribeRsrc_free (free : ¬ (m.mEnforceSingleSubscriber = true ∧ m.mSubscribers ≠ []))
    (s : Subscriber) : m.subscribeRsrc s = m.stateOnRsrcEvent (.subscribe s) := by
  have allowed : (m.mEnforceSingleSubscriber && m.hasSubscribers) = false := by
    rw [hasSubscribers_eq]
    by_contra busy
    exact free (by simpa using busy)
  simp [subscribeRsrc, allowed]

/-- The first subscriber has the connection requested. -/
theorem stateOnRsrcEvent_subscribe_released (state : m.mStatePtr = .released)
    (list : m.mSubscribers = []) (s : Subscriber) :
    m.stateOnRsrcEvent (.subscribe s) = (m.moved .pending [s.clone],
      [.sendRsrcRequest .gpsRequestAgpsDataConn
          (some (m.nifRequest .gpsRequestAgpsDataConn (some s.clone))),
        .onRsrcEvent .released .pending .rsrcSubscribe]) := by
  have added : m.addSubscriber s = m.withSubscribers [s.clone] := by
    simp [addSubscriber_eq, list]
  have sent := sendRsrcRequest_request (m.withSubscribers [s.clone])
    (mSubscribers_withSubscribers m [s.clone]) (Subscriber.isInactive_clone s)
  simp only [stateOnRsrcEvent, state, releasedOnRsrcEvent, hasSubscribers_eq, list, added, sent]
  rfl

theorem stateOnRsrcEvent_subscribe_pending (state : m.mStatePtr = .pending) (s : Subscriber) :
    m.stateOnRsrcEvent (.subscribe s) =
      (m.moved .pending (listed m.mSubscribers s),
        [.onRsrcEvent .pending .pending .rsrcSubscribe]) := by
  simp only [stateOnRsrcEvent, state, pendingOnRsrcEvent, addSubscriber_eq]
  rfl

/-- A subscriber that comes when the connection is there is told at once. -/
theorem stateOnRsrcEvent_subscribe_acquired (state : m.mStatePtr = .acquired) (s : Subscriber) :
    m.stateOnRsrcEvent (.subscribe s) =
      (m.moved .acquired (listed m.mSubscribers s),
        [notice m .rsrcGranted s, .onRsrcEvent .acquired .acquired .rsrcSubscribe]) := by
  have told : (s.notifyRsrcStatus m (.toSubscriber s .rsrcGranted false)).2 =
      [notice m .rsrcGranted s] := by
    rw [notifyRsrcStatus_eq m s _ rfl, Subscriber.forMe_toSubscriber, Subscriber.equals_self,
      if_pos rfl]
    rfl
  simp only [stateOnRsrcEvent, state, acquiredOnRsrcEvent, addSubscriber_eq, told]
  rfl

theorem Sound.subscribe_move (sound : Sound nif m) {s : Subscriber} (serves : nif.Serves s) :
    Move nif m (.subscribeRsrc s) (m.subscribeRsrc s).1 (m.subscribeRsrc s).2 := by
  by_cases taken : m.mEnforceSingleSubscriber = true ∧ m.mSubscribers ≠ []
  · have wifi : nif = .wifiNif := by
      have single := sound.single.symm.trans taken.1
      cases nif <;> first | rfl | cases single
    rw [subscribeRsrc_refused taken.1 taken.2]
    exact Move.refused serves wifi taken.2
  · have empty_of_wifi : nif = .wifiNif → m.mSubscribers = [] := by
      rintro rfl
      by_contra busy
      exact taken ⟨sound.single, busy⟩
    have shared_of_busy : m.mSubscribers ≠ [] → nif ≠ .wifiNif :=
      fun busy wifi => busy (empty_of_wifi wifi)
    rw [subscribeRsrc_free taken]
    cases state : m.mStatePtr with
    | released =>
        have list := sound.released state
        rw [stateOnRsrcEvent_subscribe_released state list]
        exact Move.opened serves state list
    | pending =>
        have shared : nif ≠ .wifiNif := by
          intro wifi
          obtain ⟨only, list, -⟩ := sound.wifiActive wifi (Or.inl state)
          exact shared_of_busy (by simp [list]) wifi
        rw [stateOnRsrcEvent_subscribe_pending state]
        exact Move.joined serves shared state
    | acquired =>
        have shared : nif ≠ .wifiNif := by
          intro wifi
          obtain ⟨only, list, -⟩ := sound.wifiActive wifi (Or.inr state)
          exact shared_of_busy (by simp [list]) wifi
        rw [stateOnRsrcEvent_subscribe_acquired state]
        exact Move.welcomed serves shared state
    | releasing =>
        by_cases wifi : nif = .wifiNif
        · obtain ⟨only, list, -⟩ := sound.wifiReleasing wifi state
          exact absurd wifi (shared_of_busy (by simp [list]))
        · exact absurd state (sound.shared wifi)

/-- Only the subscriber that is found leaves the list. -/
theorem filter_not_equals_found {s found : Subscriber} {before after : List Subscriber}
    (distinct : (before ++ found :: after).Pairwise fun newer older =>
      older.equals newer = false)
    (first : ∀ other ∈ before, other.equals s = false) (equal : found.equals s = true) :
    ((before ++ found :: after).filter fun other => !other.equals found) = before ++ after ∧
      ((before ++ found :: after).filter fun other => other.equals found) = [found] := by
  obtain ⟨-, tail, across⟩ := List.pairwise_append.mp distinct
  have earlier : ∀ other ∈ before, other.equals found = false := fun other member =>
    Subscriber.not_equals_found (first other member) equal
      (across other member found (List.mem_cons_self ..))
  have later : ∀ other ∈ after, other.equals found = false := (List.pairwise_cons.mp tail).1
  constructor
  · have keptBefore : (before.filter fun other => !other.equals found) = before :=
      List.filter_eq_self.mpr fun other member => by simp [earlier other member]
    have keptAfter : (after.filter fun other => !other.equals found) = after :=
      List.filter_eq_self.mpr fun other member => by simp [later other member]
    simp [keptBefore, keptAfter]
  · have noneBefore : (before.filter fun other => other.equals found) = [] :=
      List.filter_eq_nil_iff.mpr fun other member => by simp [earlier other member]
    have noneAfter : (after.filter fun other => other.equals found) = [] :=
      List.filter_eq_nil_iff.mpr fun other member => by simp [later other member]
    simp [noneBefore, noneAfter]

/-- Taking out a subscriber that does not wait for the close. -/
theorem unsubscribeListed_shared (sound : Sound nif m) (shared : nif ≠ .wifiNif)
    {s found : Subscriber} {before after : List Subscriber}
    (list : m.mSubscribers = before ++ found :: after)
    (first : ∀ other ∈ before, other.equals s = false) (equal : found.equals s = true) :
    m.unsubscribeListed before.length found =
      (m.withSubscribers (before ++ after), [notice m .rsrcUnsubscribe found]) := by
  have member : found ∈ m.mSubscribers := by simp [list]
  have immediate := ((sound.serves found member).shared shared).1
  obtain ⟨kept, gone⟩ := filter_not_equals_found (list ▸ sound.distinct) first equal
  rw [unsubscribeListed, immediate, if_neg Bool.false_ne_true,
    notifySubscribers_delete m (n := .toSubscriber found .rsrcUnsubscribe true) rfl rfl]
  simp only [Subscriber.forMe_toSubscriber, list, kept, gone]
  rfl

/-- Marking a subscriber that waits for the close. -/
theorem unsubscribeListed_wifi {found : Subscriber} (waits : found.waitForCloseComplete = true)
    (list : m.mSubscribers = [found]) :
    m.unsubscribeListed 0 found = (m.withSubscribers [found.setInactive], []) := by
  rw [unsubscribeListed, waits, if_pos rfl, list]
  rfl

theorem releaseIfUnused_nil (this : AgpsState) :
    releaseIfUnused this (m.withSubscribers []) = (.released, [releaseRequest m]) := by
  have sent := sendRsrcRequest_release (m.withSubscribers []) (by simp)
  simp only [releaseIfUnused, hasSubscribers_eq, sent]
  rfl

theorem releaseIfUnused_inactive (this : AgpsState) {s : Subscriber}
    (inactive : s.isInactive = true) :
    releaseIfUnused this (m.withSubscribers [s]) = (.releasing, [releaseRequest m]) := by
  have sent := sendRsrcRequest_release (m.withSubscribers [s]) (by simpa using inactive)
  simp only [releaseIfUnused, hasSubscribers_eq, hasActiveSubscribers_eq, sent,
    mSubscribers_withSubscribers, List.any_cons, List.any_nil, inactive]
  rfl

theorem releaseIfUnused_active (this : AgpsState) {list : List Subscriber} {s : Subscriber}
    (member : s ∈ list) (active : s.isInactive = false) :
    releaseIfUnused this (m.withSubscribers list) = (this, []) := by
  have someActive : (list.any fun s => !s.isInactive) = true :=
    List.any_eq_true.mpr ⟨s, member, by simp [active]⟩
  have nonempty : list ≠ [] := List.ne_nil_of_mem member
  simp [releaseIfUnused, hasSubscribers_eq, hasActiveSubscribers_eq, someActive, nonempty]

/-- Both states that hold a request answer `RSRC_UNSUBSCRIBE` alike. -/
theorem stateOnRsrcEvent_unsubscribe (state : m.mStatePtr = .pending ∨ m.mStatePtr = .acquired)
    {place : ℕ} {found : Subscriber} {list : List Subscriber} {effects more : List Effect}
    {next : AgpsState}
    (taken : m.unsubscribeListed place found = (m.withSubscribers list, effects))
    (checked : releaseIfUnused m.mStatePtr (m.withSubscribers list) = (next, more)) :
    m.stateOnRsrcEvent (.unsubscribe place found) =
      (m.moved next list, effects ++ more ++ [.onRsrcEvent m.mStatePtr next .rsrcUnsubscribe]) := by
  rcases state with state | state <;> rw [state] at checked
  · simp only [stateOnRsrcEvent, state, pendingOnRsrcEvent, taken, checked]
    rfl
  · simp only [stateOnRsrcEvent, state, acquiredOnRsrcEvent, taken, checked]
    rfl

theorem append_cons_eq_singleton {before after : List Subscriber} {found only : Subscriber}
    (split : before ++ found :: after = [only]) :
    before = [] ∧ found = only ∧ after = [] := by
  cases before with
  | nil => simpa using split
  | cons other rest => simp at split

theorem Sound.unsubscribe_held_move (sound : Sound nif m)
    (state : m.mStatePtr = .pending ∨ m.mStatePtr = .acquired)
    {s found : Subscriber} {before after : List Subscriber}
    (list : m.mSubscribers = before ++ found :: after)
    (first : ∀ other ∈ before, other.equals s = false) (equal : found.equals s = true) :
    Move nif m (.unsubscribeRsrc s) (m.stateOnRsrcEvent (.unsubscribe before.length found)).1
      (m.stateOnRsrcEvent (.unsubscribe before.length found)).2 := by
  by_cases wifi : nif = .wifiNif
  · obtain ⟨only, single, -⟩ := sound.wifiActive wifi state
    obtain ⟨rfl, rfl, rfl⟩ := append_cons_eq_singleton (list.symm.trans single)
    have serves : Nif.wifiNif.Serves found := wifi ▸ sound.serves found (by simp [list])
    rw [List.length_nil, stateOnRsrcEvent_unsubscribe state
      (unsubscribeListed_wifi serves.wifi.1 list) (releaseIfUnused_inactive _ serves.wifi.2)]
    exact Move.closing wifi state list equal
  · have taken := unsubscribeListed_shared sound wifi list first equal
    by_cases others : before ++ after = []
    · obtain ⟨rfl, rfl⟩ := List.append_eq_nil_iff.mp others
      rw [stateOnRsrcEvent_unsubscribe state taken (releaseIfUnused_nil _)]
      exact Move.emptied wifi state list equal
    · obtain ⟨other, member⟩ := List.exists_mem_of_ne_nil _ others
      have still : other ∈ m.mSubscribers := by
        rw [list]
        rcases List.mem_append.mp member with early | late
        · exact List.mem_append_left _ early
        · exact List.mem_append_right _ (List.mem_cons_of_mem _ late)
      rw [stateOnRsrcEvent_unsubscribe state taken
        (releaseIfUnused_active _ member (sound.active state other still))]
      exact Move.left wifi state list first equal others

theorem Sound.unsubscribe_move (sound : Sound nif m) (s : Subscriber) :
    Move nif m (.unsubscribeRsrc s) (m.unsubscribeRsrc s).2.1 (m.unsubscribeRsrc s).2.2 := by
  rcases noHit_or_firstHit (·.equals s) m.mSubscribers with
    absent | ⟨before, found, after, list, first, equal⟩
  · rw [unsubscribeRsrc_absent m absent]
    exact Move.absent absent
  · rw [unsubscribeRsrc_present m list first equal]
    cases state : m.mStatePtr with
    | released =>
        have empty := sound.released state
        simp [list] at empty
    | pending => exact sound.unsubscribe_held_move (Or.inl state) list first equal
    | acquired => exact sound.unsubscribe_held_move (Or.inr state) list first equal
    | releasing =>
        have wifi : nif = .wifiNif := by
          by_contra shared
          exact sound.shared shared state
        obtain ⟨only, single, -⟩ := sound.wifiReleasing wifi state
        obtain ⟨rfl, rfl, rfl⟩ := append_cons_eq_singleton (list.symm.trans single)
        have serves : Nif.wifiNif.Serves found := wifi ▸ sound.serves found (by simp [list])
        have next : m.stateOnRsrcEvent (.unsubscribe 0 found) =
            (m.moved .releasing [found.setInactive],
              [.onRsrcEvent .releasing .releasing .rsrcUnsubscribe]) := by
          simp only [stateOnRsrcEvent, state, releasingOnRsrcEvent,
            unsubscribeListed_wifi serves.wifi.1 list, hasSubscribers_eq]
          rfl
        rw [List.length_nil, next]
        exact Move.closingAgain wifi state list equal

/-! ### Answers of the framework -/

theorem notifySubscribers_all (m : AgpsStateMachine) (status : AgpsRsrcStatus)
    (handled : status.handled = true) :
    m.notifySubscribers (.toGroup .broadcastAll status true) =
      (m.withSubscribers [], m.mSubscribers.map (notice m status)) := by
  rw [notifySubscribers_delete m (n := .toGroup .broadcastAll status true) handled rfl]
  simp only [Subscriber.forMe_toAll, Bool.not_true, List.filter_false, List.filter_true]
  rfl

theorem notifySubscribers_active (active : ∀ s ∈ m.mSubscribers, s.isInactive = false) :
    m.notifySubscribers (.toGroup .broadcastActive .rsrcGranted false) =
      (m, m.mSubscribers.map (notice m .rsrcGranted)) := by
  have all : (m.mSubscribers.filter fun s => !s.isInactive) = m.mSubscribers :=
    List.filter_eq_self.mpr fun s member => by simp [active s member]
  rw [notifySubscribers_keep m (n := .toGroup .broadcastActive .rsrcGranted false) rfl rfl]
  simp only [Subscriber.forMe_toActive, all]
  rfl

/-- In `AgpsReleasingState` the subscriber that waited for the close is told and
the list is empty then. -/
theorem releasingClosed_single {status : AgpsRsrcStatus} {found : Subscriber}
    (handled : status.handled = true) (list : m.mSubscribers = [found])
    (inactive : found.isInactive = true) :
    m.releasingClosed status = (.released, m.withSubscribers [], [notice m status found]) := by
  have told := notifySubscribers_delete m (n := .toGroup .broadcastInactive status true) handled
    rfl
  simp only [Subscriber.forMe_toInactive, list, List.filter_cons, inactive, List.filter_nil,
    Bool.not_true, if_true, List.map_cons, List.map_nil, Bool.false_eq_true, if_false] at told
  simp only [releasingClosed, told, hasSubscribers_eq]
  rfl

theorem Sound.ignored_eq (sound : Sound nif m) {status : AgpsRsrcStatus}
    (ignores : m.mStatePtr.ignores status = true) :
    m.onRsrcEvent status = (m, [.onRsrcEvent m.mStatePtr m.mStatePtr status]) := by
  obtain ⟨servicer, type, state, list, apn, len, bearer, single⟩ := m
  cases state with
  | released =>
      obtain rfl : list = [] := sound.released rfl
      cases status <;> first | rfl | cases ignores
  | pending => cases status <;> first | rfl | cases ignores
  | acquired => cases status <;> first | rfl | cases ignores
  | releasing => cases status <;> first | rfl | cases ignores

theorem Sound.closed_move (sound : Sound nif m) (state : m.mStatePtr = .releasing)
    {status : AgpsRsrcStatus} (closes : status = .rsrcReleased ∨ status = .rsrcDenied) :
    Move nif m (.onRsrcEvent status) (m.onRsrcEvent status).1 (m.onRsrcEvent status).2 := by
  have wifi : nif = .wifiNif := by
    by_contra shared
    exact sound.shared shared state
  obtain ⟨found, list, inactive⟩ := sound.wifiReleasing wifi state
  have handled : status.handled = true := by rcases closes with rfl | rfl <;> rfl
  have next : m.onRsrcEvent status = (m.moved .released [],
      [notice m status found, .onRsrcEvent .releasing .released status]) := by
    have reacted := releasingClosed_single handled list inactive
    rcases closes with rfl | rfl <;>
      simp only [onRsrcEvent, stateOnRsrcEvent, state, releasingOnRsrcEvent, reacted] <;> rfl
  rw [next]
  exact Move.closed wifi state list closes

theorem Sound.event_move (sound : Sound nif m) (status : AgpsRsrcStatus) :
    Move nif m (.onRsrcEvent status) (m.onRsrcEvent status).1 (m.onRsrcEvent status).2 := by
  by_cases ignores : m.mStatePtr.ignores status = true
  · rw [sound.ignored_eq ignores]
    exact Move.ignored ignores
  · cases status with
    | rsrcSubscribe => exact Move.unrecognized (by decide)
    | rsrcUnsubscribe => exact Move.unrecognized (by decide)
    | rsrcStatusMax => exact Move.unrecognized (by decide)
    | rsrcGranted =>
        have state : m.mStatePtr = .pending := by
          cases state : m.mStatePtr <;> first | rfl | simp [state, AgpsState.ignores] at ignores
        have next : m.onRsrcEvent .rsrcGranted = (m.moved .acquired m.mSubscribers,
            m.mSubscribers.map (notice m .rsrcGranted) ++
              [.onRsrcEvent .pending .acquired .rsrcGranted]) := by
          simp only [onRsrcEvent, stateOnRsrcEvent, state, pendingOnRsrcEvent,
            notifySubscribers_active (sound.active (Or.inl state))]
          rfl
        rw [next]
        exact Move.granted state
    | rsrcReleased =>
        cases state : m.mStatePtr with
        | released => simp [state, AgpsState.ignores] at ignores
        | pending => simp [state, AgpsState.ignores] at ignores
        | releasing => exact sound.closed_move state (Or.inl rfl)
        | acquired =>
            have next : m.onRsrcEvent .rsrcReleased = (m.moved .released [],
                m.mSubscribers.map (notice m .rsrcReleased) ++
                  [.onRsrcEvent .acquired .released .rsrcReleased]) := by
              simp only [onRsrcEvent, stateOnRsrcEvent, state, acquiredOnRsrcEvent,
                notifySubscribers_all m .rsrcReleased rfl]
              rfl
            rw [next]
            exact Move.forced state
    | rsrcDenied =>
        cases state : m.mStatePtr with
        | released => simp [state, AgpsState.ignores] at ignores
        | acquired => simp [state, AgpsState.ignores] at ignores
        | releasing => exact sound.closed_move state (Or.inr rfl)
        | pending =>
            have next : m.onRsrcEvent .rsrcDenied = (m.moved .released [],
                m.mSubscribers.map (notice m .rsrcDenied) ++
                  [.onRsrcEvent .pending .released .rsrcDenied]) := by
              simp only [onRsrcEvent, stateOnRsrcEvent, state, pendingOnRsrcEvent,
                notifySubscribers_all m .rsrcDenied rfl]
              rfl
            rw [next]
            exact Move.denied state

/-- **Every admissible call in a sound state is a move.** -/
theorem Sound.move (sound : Sound nif m) {op : AgpsOp} (admissible : Admissible nif op) :
    Move nif m op (agpsMachine.step m op).1 (agpsMachine.step m op).2 := by
  cases op with
  | subscribeRsrc s => exact sound.subscribe_move admissible
  | unsubscribeRsrc s => exact sound.unsubscribe_move s
  | onRsrcEvent status => exact sound.event_move status
  | dropAllSubscribers => exact Move.dropped admissible
  | setAPN apn len => exact Move.setAPN apn len
  | setBearer bearer => exact Move.setBearer bearer

/-! ## Moves keep machines sound -/

theorem listed_pairwise {list : List Subscriber} {s : Subscriber}
    (distinct : list.Pairwise fun newer older => older.equals newer = false) :
    (listed list s).Pairwise fun newer older => older.equals newer = false := by
  unfold listed
  by_cases present : list.any (·.equals s) = true
  · rwa [if_pos present]
  · rw [if_neg present]
    refine List.pairwise_cons.mpr ⟨fun older member => ?_, distinct⟩
    rw [Subscriber.equals_clone_right]
    by_contra equal
    exact present (List.any_eq_true.mpr ⟨older, member, by simpa using equal⟩)

theorem mem_listed {list : List Subscriber} {s other : Subscriber}
    (member : other ∈ listed list s) : other = s.clone ∨ other ∈ list := by
  unfold listed at member
  split at member
  · exact Or.inr member
  · exact List.mem_cons.mp member

theorem mem_listed_of_mem {list : List Subscriber} {s other : Subscriber}
    (member : other ∈ list) : other ∈ listed list s := by
  unfold listed
  split
  · exact member
  · exact List.mem_cons_of_mem _ member

theorem listed_ne_nil (list : List Subscriber) (s : Subscriber) : listed list s ≠ [] := by
  unfold listed
  cases list with
  | nil => simp
  | cons other rest => split <;> simp

/-- A shared machine stays sound when its list stays within what it serves and
is empty in the released state. -/
theorem Sound.moved_shared (sound : Sound nif m) (shared : nif ≠ .wifiNif) {state : AgpsState}
    {list : List Subscriber} (serves : ∀ s ∈ list, nif.Serves s)
    (distinct : list.Pairwise fun newer older => older.equals newer = false)
    (released : state = .released → list = []) (held : state ≠ .releasing) :
    Sound nif (m.moved state list) where
  type := sound.type
  single := sound.single
  servicer := sound.servicer
  serves := serves
  distinct := distinct
  released := released
  shared := fun _ => held
  wifiActive := fun wifi => absurd wifi shared
  wifiReleasing := fun wifi => absurd wifi shared

theorem Sound.listed_serves (sound : Sound nif m) {s : Subscriber} (serves : nif.Serves s) :
    ∀ other ∈ listed m.mSubscribers s, nif.Serves other := by
  intro other member
  rcases mem_listed member with rfl | old
  · exact serves.clone
  · exact sound.serves other old

theorem Sound.moved_released (sound : Sound nif m) : Sound nif (m.moved .released []) where
  type := sound.type
  single := sound.single
  servicer := sound.servicer
  serves := fun _ member => absurd member List.not_mem_nil
  distinct := List.Pairwise.nil
  released := fun _ => rfl
  shared := fun _ => by simp
  wifiActive := fun _ state => by simp at state
  wifiReleasing := fun _ state => by simp at state

theorem Sound.moved_releasing (sound : Sound nif m) (wifi : nif = .wifiNif) {s : Subscriber}
    (serves : nif.Serves s) : Sound nif (m.moved .releasing [s.setInactive]) where
  type := sound.type
  single := sound.single
  servicer := sound.servicer
  serves := fun other member => by
    rw [List.mem_singleton.mp member]
    exact serves.setInactive
  distinct := List.pairwise_singleton _ _
  released := fun state => by simp at state
  shared := fun shared => absurd wifi shared
  wifiActive := fun _ state => by simp at state
  wifiReleasing := fun _ _ => by
    subst wifi
    exact ⟨_, rfl, serves.wifi.2⟩

/-- **Moves keep machines sound.** -/
theorem Move.sound {op : AgpsOp} {m' : AgpsStateMachine} {effects : List Effect}
    (move : Move nif m op m' effects) (sound : Sound nif m) : Sound nif m' := by
  cases move with
  | opened serves state list =>
      refine ⟨sound.type, sound.single, sound.servicer, fun other member => ?_,
        List.pairwise_singleton _ _, fun state => ?_, fun _ => ?_,
        fun _ _ => ⟨_, rfl, Subscriber.isInactive_clone _⟩, fun _ state => ?_⟩
      · rw [List.mem_singleton.mp member]
        exact serves.clone
      all_goals simp at *
  | joined serves shared state =>
      exact sound.moved_shared shared (sound.listed_serves serves)
        (listed_pairwise sound.distinct) (fun held => by cases held) (by simp)
  | welcomed serves shared state =>
      exact sound.moved_shared shared (sound.listed_serves serves)
        (listed_pairwise sound.distinct) (fun held => by cases held) (by simp)
  | refused serves wifi list => exact sound
  | absent absent => exact sound
  | @left s found before after shared state list first equal others =>
      have sublist : (before ++ after).Sublist m.mSubscribers := by
        rw [list]
        exact (List.Sublist.refl before).append (List.sublist_cons_self found after)
      refine sound.moved_shared shared (fun other member =>
        sound.serves other (sublist.subset member)) (sound.distinct.sublist sublist)
        (fun gone => ?_) (sound.shared shared)
      rcases state with state | state <;> simp [state] at gone
  | emptied shared state list equal => exact sound.moved_released
  | closing wifi state list equal =>
      exact sound.moved_releasing wifi (sound.serves _ (by simp [list]))
  | closingAgain wifi state list equal =>
      exact sound.moved_releasing wifi (sound.serves _ (by simp [list]))
  | granted state =>
      exact ⟨sound.type, sound.single, sound.servicer, sound.serves, sound.distinct,
        fun held => by simp at held, fun _ => by simp,
        fun wifi _ => sound.wifiActive wifi (Or.inl state),
        fun _ held => by simp at held⟩
  | denied state => exact sound.moved_released
  | forced state => exact sound.moved_released
  | closed wifi state list closes => exact sound.moved_released
  | ignored ignores => exact sound
  | unrecognized other => exact sound
  | dropped shared =>
      exact sound.moved_shared shared (by simp) List.Pairwise.nil (fun _ => rfl)
        (sound.shared shared)
  | setAPN apn len =>
      cases apn <;> exact ⟨sound.type, sound.single, sound.servicer, sound.serves, sound.distinct,
        sound.released, sound.shared, sound.wifiActive, sound.wifiReleasing⟩
  | setBearer bearer =>
      exact ⟨sound.type, sound.single, sound.servicer, sound.serves, sound.distinct, sound.released,
        sound.shared, sound.wifiActive, sound.wifiReleasing⟩

/-- Every state that a machine reaches is sound. -/
theorem sound_run {ops : List AgpsOp} (admissible : ∀ op ∈ ops, Admissible nif op) :
    Sound nif (agpsMachine.run (locEngAgpsInit nif) ops) :=
  Machine.run_induction (fun _ _ sound allowed => (sound.move allowed).sound sound)
    (Sound.init nif) admissible

end Moves

end Msm8660.Gps
