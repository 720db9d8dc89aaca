import Mathlib.Data.List.Chain
import Msm8660.Gps.AgpsInvariant

/-!
# A machine and the framework

The framework serves what a machine sends in order and answers every request
with an open-success or an open-failed, every release with a closed; answers are
delivered in order too, both with any delay. A `Session` is the machine, the two
queues and the framework's connection.

Answers carry no request identity. `AgpsPendingState` takes the answer to an old
request for the answer to the newest one, and from then on the machine and the
framework may disagree. `session_agrees` shows that nothing else parts them: if
no such answer is consumed, an idle session holds the connection exactly in
`AgpsAcquiredState`.
-/

set_option autoImplicit false

namespace Msm8660.Gps

/-- A machine with what is in flight between it and the framework, oldest
first, and the connection of the framework. -/
structure Session where
  machine : AgpsStateMachine
  requests : List AGpsStatusValue
  answers : List AgpsRsrcStatus
  connected : Bool
deriving DecidableEq

/-- What can happen next: a call of a client, the framework serving a request
with success or not, or the delivery of an answer. -/
inductive SessionInput where
  | subscribeRsrc (subscriber : Subscriber)
  | unsubscribeRsrc (subscriber : Subscriber)
  | serve (success : Bool)
  | deliver
deriving DecidableEq

/-- The statuses that a list of effects gives to `mServicer`. -/
def requestsIn (effects : List Effect) : List AGpsStatusValue :=
  effects.filterMap fun effect => match effect with
    | .sendRsrcRequest _ (some sent) => some sent.status
    | _ => none

namespace Session

/-- The session after a call of its machine. -/
def call (x : Session) (op : AgpsOp) : Session × List Effect :=
  let (machine, effects) := agpsMachine.step x.machine op
  ({ x with machine := machine, requests := x.requests ++ requestsIn effects }, effects)

/-- The framework serves the oldest request. A failed open changes nothing. -/
def serve (x : Session) (success : Bool) : Session :=
  match x.requests with
  | [] => x
  | .gpsRequestAgpsDataConn :: rest =>
      { x with
        requests := rest
        answers := x.answers ++ [if success then .rsrcGranted else .rsrcDenied]
        connected := x.connected || success }
  | .gpsReleaseAgpsDataConn :: rest =>
      { x with requests := rest, answers := x.answers ++ [.rsrcReleased], connected := false }

/-- The oldest answer reaches the machine. -/
def deliver (x : Session) : Session × List Effect :=
  match x.answers with
  | [] => (x, [])
  | answer :: rest => { x with answers := rest }.call (.onRsrcEvent answer)

/-- Nothing is in flight. -/
def Idle (x : Session) : Prop := x.requests = [] ∧ x.answers = []

instance (x : Session) : Decidable x.Idle := inferInstanceAs (Decidable (_ ∧ _))

end Session

/-- A machine and the framework, step by step. -/
def session : Machine Session SessionInput Effect where
  step x input := match input with
    | .subscribeRsrc subscriber => x.call (.subscribeRsrc subscriber)
    | .unsubscribeRsrc subscriber => x.call (.unsubscribeRsrc subscriber)
    | .serve success => (x.serve success, [])
    | .deliver => x.deliver

/-- A session before its first call. -/
def Session.init (nif : Nif) : Session := ⟨locEngAgpsInit nif, [], [], false⟩

/-- The clients of an interface are of the kinds that it serves. -/
def SessionInput.From (nif : Nif) : SessionInput → Prop
  | .subscribeRsrc s | .unsubscribeRsrc s => nif.Serves s
  | _ => True

/-- An answer to a request, not to a release. -/
def AgpsRsrcStatus.answersRequest : AgpsRsrcStatus → Bool
  | .rsrcGranted | .rsrcDenied => true
  | _ => false

/-- The next answer is to a request older than another one that is not served or
whose answer is still in flight. -/
def NextAnswerOld (requests : List AGpsStatusValue) : List AgpsRsrcStatus → Prop
  | [] => False
  | answer :: rest => answer.answersRequest = true ∧
      (.gpsRequestAgpsDataConn ∈ requests ∨ ∃ later ∈ rest, later.answersRequest = true)

instance (requests : List AGpsStatusValue) :
    (answers : List AgpsRsrcStatus) → Decidable (NextAnswerOld requests answers)
  | [] => inferInstanceAs (Decidable False)
  | _ :: _ => inferInstanceAs (Decidable (_ ∧ _))

/-- Before a delivery: the machine waits, and the answer it gets is an old one. -/
def Session.Stale (x : Session) : Prop :=
  x.machine.mStatePtr = .pending ∧ NextAnswerOld x.requests x.answers

instance (x : Session) : Decidable x.Stale := inferInstanceAs (Decidable (_ ∧ _))

/-- A step that delivers such an answer. -/
def ConsumesStale (taken : Machine.Step Session SessionInput Effect) : Prop :=
  taken.input = .deliver ∧ taken.before.Stale

instance (taken : Machine.Step Session SessionInput Effect) : Decidable (ConsumesStale taken) :=
  inferInstanceAs (Decidable (_ ∧ _))

/-! ## What a call sends -/

section Calls

variable {nif : Nif} {m m' : AgpsStateMachine} {s : Subscriber} {effects : List Effect}

@[simp] theorem requestsIn_nil : requestsIn [] = [] := rfl

@[simp] theorem requestsIn_notice (status : AgpsRsrcStatus) (receiver : Subscriber)
    (rest : List Effect) :
    requestsIn (notice m status receiver :: rest) = requestsIn rest := rfl

@[simp] theorem requestsIn_onRsrcEvent (oldState newState : AgpsState) (event : AgpsRsrcStatus)
    (rest : List Effect) :
    requestsIn (.onRsrcEvent oldState newState event :: rest) = requestsIn rest := rfl

theorem requestsIn_notices (status : AgpsRsrcStatus) (list : List Subscriber)
    (rest : List Effect) :
    requestsIn (list.map (notice m status) ++ rest) = requestsIn rest := by
  induction list with
  | nil => rfl
  | cons receiver others ih => exact ih

/-- A subscription sends a request or nothing. -/
theorem Move.subscribe_sends (move : Move nif m (.subscribeRsrc s) m' effects) :
    m.mStatePtr = .released ∧ m'.mStatePtr = .pending ∧
        requestsIn effects = [.gpsRequestAgpsDataConn] ∨
      m'.mStatePtr = m.mStatePtr ∧ requestsIn effects = [] := by
  cases move with
  | opened serves state list => exact Or.inl ⟨state, rfl, rfl⟩
  | joined serves shared state => exact Or.inr ⟨state.symm, rfl⟩
  | welcomed serves shared state => exact Or.inr ⟨state.symm, rfl⟩
  | refused serves wifi list => exact Or.inr ⟨rfl, rfl⟩

/-- The end of a subscription sends a release or nothing. -/
theorem Move.unsubscribe_sends (move : Move nif m (.unsubscribeRsrc s) m' effects) :
    (m.mStatePtr = .pending ∨ m.mStatePtr = .acquired) ∧
        (m'.mStatePtr = .released ∨ m'.mStatePtr = .releasing) ∧
        requestsIn effects = [.gpsReleaseAgpsDataConn] ∨
      m'.mStatePtr = m.mStatePtr ∧ requestsIn effects = [] := by
  cases move with
  | absent absent => exact Or.inr ⟨rfl, rfl⟩
  | left shared state list first equal others => exact Or.inr ⟨rfl, rfl⟩
  | emptied shared state list equal => exact Or.inl ⟨state, Or.inl rfl, rfl⟩
  | closing wifi state list equal => exact Or.inl ⟨state, Or.inr rfl, rfl⟩
  | closingAgain wifi state list equal => exact Or.inr ⟨state.symm, rfl⟩

/-- The state after an answer of the framework. -/
def AgpsState.afterAnswer : AgpsState → AgpsRsrcStatus → AgpsState
  | .pending, .rsrcGranted => .acquired
  | .pending, .rsrcDenied => .released
  | .acquired, .rsrcReleased => .released
  | .releasing, .rsrcReleased | .releasing, .rsrcDenied => .released
  | state, _ => state

/-- An answer of the framework sends nothing. -/
theorem Move.answer_sends {answer : AgpsRsrcStatus}
    (move : Move nif m (.onRsrcEvent answer) m' effects) :
    m'.mStatePtr = m.mStatePtr.afterAnswer answer ∧ requestsIn effects = [] := by
  cases move with
  | granted state => exact ⟨by rw [state]; rfl, requestsIn_notices _ _ _⟩
  | denied state => exact ⟨by rw [state]; rfl, requestsIn_notices _ _ _⟩
  | forced state => exact ⟨by rw [state]; rfl, requestsIn_notices _ _ _⟩
  | closed wifi state list closes =>
      rcases closes with rfl | rfl <;> exact ⟨by rw [state]; rfl, rfl⟩
  | ignored ignores =>
      refine ⟨?_, rfl⟩
      cases state : m.mStatePtr <;> cases answer <;>
        first | rfl | (simp [state, AgpsState.ignores] at ignores)
  | unrecognized other =>
      refine ⟨?_, rfl⟩
      cases state : m.mStatePtr <;> cases answer <;> first | rfl | simp at other

end Calls

/-! ## The invariant -/

/-- What is in flight in each state of the machine, and the connection that it
leads to. -/
def Expects : AgpsState → List AGpsStatusValue → List AgpsRsrcStatus → Bool → Prop
  | .pending, requests, answers, connected =>
      requests.getLast? = some .gpsRequestAgpsDataConn ∨
        requests = [] ∧ (answers.getLast? = some .rsrcGranted ∧ connected = true ∨
          answers.getLast? = some .rsrcDenied ∧ connected = false)
  | .acquired, requests, answers, connected =>
      requests = [] ∧ answers = [] ∧ connected = true
  | .released, requests, _, connected | .releasing, requests, _, connected =>
      requests.getLast? = some .gpsReleaseAgpsDataConn ∨ requests = [] ∧ connected = false

/-- The invariant of a session in which no stale answer was consumed. -/
structure InSession (nif : Nif) (x : Session) : Prop where
  sound : Sound nif x.machine
  alternate : x.requests.IsChain (· ≠ ·)
  /-- A request is served while there is no connection. -/
  fresh : x.requests.head? = some .gpsRequestAgpsDataConn → x.connected = false
  expects : Expects x.machine.mStatePtr x.requests x.answers x.connected

theorem InSession.init (nif : Nif) : InSession nif (.init nif) where
  sound := Sound.init nif
  alternate := List.IsChain.nil
  fresh := nofun
  expects := Or.inr ⟨rfl, rfl⟩

section Steps

variable {nif : Nif} {x : Session}

/-- In a state without a request, the last thing sent is a release. -/
theorem Expects.sent_release {state : AgpsState} {requests : List AGpsStatusValue}
    {answers : List AgpsRsrcStatus} {connected : Bool}
    (expects : Expects state requests answers connected)
    (state_eq : state = .released ∨ state = .releasing) :
    requests.getLast? = some .gpsReleaseAgpsDataConn ∨ requests = [] ∧ connected = false := by
  rcases state_eq with rfl | rfl <;> exact expects

theorem chain_concat {requests : List AGpsStatusValue} {next : AGpsStatusValue}
    (alternate : requests.IsChain (· ≠ ·)) (last : requests.getLast? ≠ some next) :
    (requests ++ [next]).IsChain (· ≠ ·) := by
  refine List.isChain_append.mpr ⟨alternate, List.isChain_singleton _, ?_⟩
  intro previous member other same
  obtain rfl : next = other := by simpa using same
  rintro rfl
  exact last member

theorem InSession.sameState (good : InSession nif x) {m' : AgpsStateMachine}
    (sound : Sound nif m') (same : m'.mStatePtr = x.machine.mStatePtr) :
    InSession nif { x with machine := m' } :=
  ⟨sound, good.alternate, good.fresh, by simpa only [same] using good.expects⟩

theorem InSession.sendRequest (good : InSession nif x) {m' : AgpsStateMachine}
    (sound : Sound nif m') (before : x.machine.mStatePtr = .released)
    (after : m'.mStatePtr = .pending) :
    InSession nif
      { x with machine := m', requests := x.requests ++ [.gpsRequestAgpsDataConn] } := by
  have released := good.expects.sent_release (Or.inl before)
  refine ⟨sound, chain_concat good.alternate ?_, fun first => ?_, ?_⟩
  · rcases released with last | ⟨empty, -⟩ <;> simp [*]
  · cases requests : x.requests with
    | nil => simpa [requests] using released
    | cons oldest rest => exact good.fresh (by simpa [requests] using first)
  · simp [Expects, after]

theorem InSession.sendRelease (good : InSession nif x) {m' : AgpsStateMachine}
    (sound : Sound nif m')
    (before : x.machine.mStatePtr = .pending ∨ x.machine.mStatePtr = .acquired)
    (after : m'.mStatePtr = .released ∨ m'.mStatePtr = .releasing) :
    InSession nif
      { x with machine := m', requests := x.requests ++ [.gpsReleaseAgpsDataConn] } := by
  have expects := good.expects
  refine ⟨sound, chain_concat good.alternate ?_, fun first => ?_, ?_⟩
  · rcases before with state | state <;> rw [state] at expects
    · rcases expects with last | ⟨empty, -⟩ <;> simp [*]
    · simp [expects.1]
  · cases requests : x.requests with
    | nil => simp [requests] at first
    | cons oldest rest => exact good.fresh (by simpa [requests] using first)
  · rcases after with state | state <;> simp [Expects, state]

theorem InSession.subscribe (good : InSession nif x) {s : Subscriber} (serves : nif.Serves s) :
    InSession nif (x.call (.subscribeRsrc s)).1 := by
  have move : Move nif x.machine (.subscribeRsrc s) _ _ := good.sound.move serves
  rcases move.subscribe_sends with ⟨before, after, sent⟩ | ⟨same, sent⟩
  · simp only [Session.call, sent]
    exact good.sendRequest (move.sound good.sound) before after
  · simp only [Session.call, sent, List.append_nil]
    exact good.sameState (move.sound good.sound) same

theorem InSession.unsubscribe (good : InSession nif x) {s : Subscriber}
    (serves : nif.Serves s) : InSession nif (x.call (.unsubscribeRsrc s)).1 := by
  have move : Move nif x.machine (.unsubscribeRsrc s) _ _ := good.sound.move serves
  rcases move.unsubscribe_sends with ⟨before, after, sent⟩ | ⟨same, sent⟩
  · simp only [Session.call, sent]
    exact good.sendRelease (move.sound good.sound) before after
  · simp only [Session.call, sent, List.append_nil]
    exact good.sameState (move.sound good.sound) same

theorem InSession.serve (good : InSession nif x) (success : Bool) :
    InSession nif (x.serve success) := by
  have expects := good.expects
  have alternate := good.alternate
  have fresh := good.fresh
  cases requests : x.requests with
  | nil => simpa [Session.serve, requests] using good
  | cons oldest rest =>
      rw [requests] at alternate expects fresh
      cases oldest with
      | gpsRequestAgpsDataConn =>
          have down : x.connected = false := fresh rfl
          have next : rest.head? ≠ some .gpsRequestAgpsDataConn := fun again =>
            (List.isChain_cons.mp alternate).1 _ again rfl
          simp only [Session.serve, requests, down, Bool.false_or]
          refine ⟨good.sound, alternate.tail, fun again => absurd again next, ?_⟩
          cases state : x.machine.mStatePtr with
          | pending =>
              rw [state] at expects
              cases rest with
              | nil => cases success <;> simp [Expects]
              | cons following others =>
                  exact Or.inl (by simpa [Expects] using expects)
          | acquired =>
              rw [state] at expects
              cases expects.1
          | released =>
              cases rest with
              | nil => simp [Expects, state] at expects
              | cons following others => exact Or.inl (by simpa [Expects, state] using expects)
          | releasing =>
              cases rest with
              | nil => simp [Expects, state] at expects
              | cons following others => exact Or.inl (by simpa [Expects, state] using expects)
      | gpsReleaseAgpsDataConn =>
          simp only [Session.serve, requests]
          refine ⟨good.sound, alternate.tail, fun _ => rfl, ?_⟩
          cases rest with
          | nil =>
              cases state : x.machine.mStatePtr with
              | released => exact Or.inr ⟨rfl, rfl⟩
              | releasing => exact Or.inr ⟨rfl, rfl⟩
              | pending => simp [Expects, state] at expects
              | acquired => simp [Expects, state] at expects
          | cons following others =>
              cases state : x.machine.mStatePtr <;>
                simp [Expects, state] at expects ⊢ <;> exact expects

/-- An answer to a request that is not stale is the last thing in flight, and it
tells the connection. -/
theorem InSession.last_answer (good : InSession nif x) (current : ¬ x.Stale)
    (state : x.machine.mStatePtr = .pending) {answer : AgpsRsrcStatus}
    {rest : List AgpsRsrcStatus} (answers : x.answers = answer :: rest)
    (toRequest : answer.answersRequest = true) :
    x.requests = [] ∧ rest = [] ∧ (answer = .rsrcGranted ∧ x.connected = true ∨
      answer = .rsrcDenied ∧ x.connected = false) := by
  have noOther : ¬ (.gpsRequestAgpsDataConn ∈ x.requests ∨
      ∃ later ∈ rest, later.answersRequest = true) := by
    intro other
    refine current ⟨state, ?_⟩
    rw [answers]
    exact ⟨toRequest, other⟩
  have noRequest : .gpsRequestAgpsDataConn ∉ x.requests := fun member =>
    noOther (Or.inl member)
  have noLater : ∀ later ∈ rest, later.answersRequest = false := by
    intro later member
    by_contra answering
    exact noOther (Or.inr ⟨later, member, by simpa using answering⟩)
  have expects := good.expects
  rw [state, answers] at expects
  rcases expects with last | ⟨empty, settled⟩
  · exact absurd (List.mem_of_getLast? last) noRequest
  · refine ⟨empty, ?_⟩
    cases rest with
    | nil => exact ⟨rfl, by simpa using settled⟩
    | cons next others =>
        rw [List.getLast?_cons_cons] at settled
        rcases settled with ⟨last, -⟩ | ⟨last, -⟩
        · exact absurd (noLater _ (List.mem_of_getLast? last)) (by decide)
        · exact absurd (noLater _ (List.mem_of_getLast? last)) (by decide)

/-- In `AgpsPendingState` the end of an old connection is ignored. -/
theorem Expects.skip {requests : List AGpsStatusValue} {answer : AgpsRsrcStatus}
    {rest : List AgpsRsrcStatus} {connected : Bool}
    (expects : Expects .pending requests (answer :: rest) connected)
    (other : answer.answersRequest = false) : Expects .pending requests rest connected := by
  rcases expects with last | ⟨empty, settled⟩
  · exact Or.inl last
  · cases rest with
    | nil =>
        rcases settled with ⟨last, -⟩ | ⟨last, -⟩ <;>
          (obtain rfl := Option.some.inj last; cases other)
    | cons next others => exact Or.inr ⟨empty, by simpa using settled⟩

/-- Unless it is stale, an answer finds the machine where the framework is. -/
theorem InSession.deliver (good : InSession nif x) (current : ¬ x.Stale) :
    InSession nif x.deliver.1 := by
  have expects := good.expects
  cases answers : x.answers with
  | nil => simpa [Session.deliver, answers] using good
  | cons answer rest =>
      have move : Move nif x.machine (.onRsrcEvent answer) _ _ := good.sound.move trivial
      obtain ⟨after, sent⟩ := move.answer_sends
      simp only [Session.deliver, answers, Session.call, sent, List.append_nil]
      refine ⟨move.sound good.sound, good.alternate, good.fresh, ?_⟩
      simp only [after]
      rw [answers] at expects
      cases state : x.machine.mStatePtr with
      | released =>
          rw [state] at expects
          cases answer <;> exact expects
      | releasing =>
          rw [state] at expects
          cases answer <;> exact expects
      | acquired =>
          rw [state] at expects
          cases expects.2.1
      | pending =>
          rw [state] at expects
          cases toRequest : answer.answersRequest with
          | false =>
              have same : AgpsState.pending.afterAnswer answer = .pending := by
                cases answer <;> first | rfl | cases toRequest
              rw [same]
              exact expects.skip toRequest
          | true =>
              obtain ⟨empty, rfl, ⟨rfl, up⟩ | ⟨rfl, down⟩⟩ :=
                good.last_answer current state answers toRequest
              · exact ⟨empty, rfl, up⟩
              · exact Or.inr ⟨empty, down⟩

theorem InSession.step (good : InSession nif x) {input : SessionInput}
    (serves : input.From nif) (current : ¬ ConsumesStale (session.stepOn x input)) :
    InSession nif (session.step x input).1 := by
  cases input with
  | subscribeRsrc s => exact good.subscribe serves
  | unsubscribeRsrc s => exact good.unsubscribe serves
  | serve success => exact good.serve success
  | deliver => exact good.deliver fun stale => current ⟨rfl, stale⟩

theorem InSession.run (good : InSession nif x) {inputs : List SessionInput}
    (serves : ∀ input ∈ inputs, input.From nif)
    (current : ∀ taken ∈ session.steps x inputs, ¬ ConsumesStale taken) :
    InSession nif (session.run x inputs) :=
  Machine.run_spared (fun _ _ good serves current => good.step serves current) good serves current

theorem InSession.idle_agrees (good : InSession nif x) (idle : x.Idle) :
    x.machine.mStatePtr = .acquired ↔ x.connected = true := by
  have expects := good.expects
  rw [idle.1, idle.2] at expects
  cases state : x.machine.mStatePtr with
  | acquired =>
      rw [state] at expects
      exact ⟨fun _ => expects.2.2, fun _ => rfl⟩
  | pending => simp [Expects, state] at expects
  | released => simpa [Expects, state] using expects
  | releasing => simpa [Expects, state] using expects

/-- **Without stale answers a machine and the framework agree.** In every run in
which no answer to an old request is consumed while a newer one is in flight,
whenever nothing is in flight the machine is in `AgpsAcquiredState` if and only
if the framework's connection is up. -/
theorem session_agrees (nif : Nif) (inputs : List SessionInput)
    (serves : ∀ input ∈ inputs, input.From nif)
    (current : ∀ taken ∈ session.steps (.init nif) inputs, ¬ ConsumesStale taken)
    (idle : (session.run (.init nif) inputs).Idle) :
    (session.run (.init nif) inputs).machine.mStatePtr = .acquired ↔
      (session.run (.init nif) inputs).connected = true :=
  ((InSession.init nif).run serves current).idle_agrees idle

/-- A client is granted the connection. -/
theorem session_agrees_granted :
    (session.run (.init .agnssNif)
        [.subscribeRsrc atlClient, .serve true, .deliver]).machine.mStatePtr = .acquired :=
  (session_agrees .agnssNif [.subscribeRsrc atlClient, .serve true, .deliver]
    (by
      simp only [List.forall_mem_cons]
      exact ⟨trivial, trivial, trivial, nofun⟩)
    (by decide)
    (by decide)).mpr (by decide)

/-- A client asks for the connection, gives it up and asks again before the
framework has served anything. The first grant then ends the wait for the
second, and the close between them ends the session of the client while the
connection stays up. -/
theorem not_session_agrees_stale :
    let inputs : List SessionInput :=
      [.subscribeRsrc atlClient, .unsubscribeRsrc atlClient, .subscribeRsrc atlClient,
        .serve true, .serve true, .serve true, .deliver, .deliver, .deliver]
    (∀ input ∈ inputs, input.From .agnssNif) ∧ (session.run (.init .agnssNif) inputs).Idle ∧
      ¬ ((session.run (.init .agnssNif) inputs).machine.mStatePtr = .acquired ↔
        (session.run (.init .agnssNif) inputs).connected = true) := by
  refine ⟨?_, by decide, by decide⟩
  simp only [List.forall_mem_cons]
  exact ⟨trivial, trivial, trivial, trivial, trivial, trivial, trivial, trivial, trivial, nofun⟩

end Steps

end Msm8660.Gps
