import Msm8660.Gps.AgpsFramework
import Msm8660.Gps.AgpsNotifications
import Msm8660.Lib.Progress

/-!
# Nobody waits forever

A subscriber is on the list of a machine that has asked the framework for the connection, or has
given it back. As long as the framework goes on serving requests and delivering answers, the
subscriber hears of it: it is granted or denied the connection, or its subscription has come to
its end (`waiter_hears`). What the other clients do in between does not matter, and no answer
has to be current: in `AgpsPendingState` and in `AgpsReleasingState` what the machine has sent
last, or the answer to it, is in flight (`InFlight`), and that answer ends the wait at the
latest.
-/

set_option autoImplicit false

namespace Msm8660.Gps

/-- The states in which a machine waits for the framework. -/
def AgpsState.Waits (state : AgpsState) : Prop := state = .pending ∨ state = .releasing

/-- What the machine waits for is in flight. -/
def Awaited : AgpsState → List AGpsStatusValue → List AgpsRsrcStatus → Prop
  | .pending, requests, answers =>
      requests.getLast? = some .gpsRequestAgpsDataConn ∨
        requests = [] ∧ ∃ last, answers.getLast? = some last ∧ last.answersRequest = true
  | .releasing, requests, answers =>
      requests.getLast? = some .gpsReleaseAgpsDataConn ∨
        requests = [] ∧ answers.getLast? = some .rsrcReleased
  | _, _, _ => True

/-- A session at any time. -/
structure InFlight (nif : Nif) (x : Session) : Prop where
  sound : Sound nif x.machine
  awaited : Awaited x.machine.mStatePtr x.requests x.answers

/-- A copy of the subscriber is on the list. -/
def AgpsStateMachine.Lists (m : AgpsStateMachine) (s : Subscriber) : Prop :=
  ∃ listed ∈ m.mSubscribers, listed.clone = s.clone

theorem InFlight.init (nif : Nif) : InFlight nif (.init nif) where
  sound := Sound.init nif
  awaited := trivial

/-! ## What is in flight -/

section Flight

variable {nif : Nif} {x : Session}

/-- While a machine waits, something is in flight. -/
theorem Awaited.something {state : AgpsState} {requests : List AGpsStatusValue}
    {answers : List AgpsRsrcStatus} (awaited : Awaited state requests answers)
    (waits : state.Waits) : requests ≠ [] ∨ answers ≠ [] := by
  rcases waits with rfl | rfl
  · rcases awaited with last | ⟨-, last, known, -⟩
    · exact Or.inl fun empty => by simp [empty] at last
    · exact Or.inr fun empty => by simp [empty] at known
  · rcases awaited with last | ⟨-, known⟩
    · exact Or.inl fun empty => by simp [empty] at last
    · exact Or.inr fun empty => by simp [empty] at known

/-- A state that does not wait expects nothing. -/
theorem awaited_of_not_waits {state : AgpsState} (settled : ¬ state.Waits)
    (requests : List AGpsStatusValue) (answers : List AgpsRsrcStatus) :
    Awaited state requests answers := by
  cases state with
  | pending => exact absurd (Or.inl rfl) settled
  | releasing => exact absurd (Or.inr rfl) settled
  | released => trivial
  | acquired => trivial

/-- Serving the oldest request leaves the last one, or answers it. -/
theorem Awaited.serve {state : AgpsState} {oldest : AGpsStatusValue}
    {rest : List AGpsStatusValue} {answers : List AgpsRsrcStatus} {answer : AgpsRsrcStatus}
    (awaited : Awaited state (oldest :: rest) answers)
    (answered : oldest = .gpsRequestAgpsDataConn ∧ answer.answersRequest = true ∨
      oldest = .gpsReleaseAgpsDataConn ∧ answer = .rsrcReleased) :
    Awaited state rest (answers ++ [answer]) := by
  cases state with
  | released => trivial
  | acquired => trivial
  | pending =>
      rcases awaited with last | ⟨empty, -⟩
      · cases rest with
        | nil =>
            obtain rfl := Option.some.inj last
            rcases answered with ⟨-, toRequest⟩ | ⟨same, -⟩
            · exact Or.inr ⟨rfl, answer, List.getLast?_concat, toRequest⟩
            · cases same
        | cons next others => exact Or.inl (by rwa [List.getLast?_cons_cons] at last)
      · cases empty
  | releasing =>
      rcases awaited with last | ⟨empty, -⟩
      · cases rest with
        | nil =>
            obtain rfl := Option.some.inj last
            rcases answered with ⟨same, -⟩ | ⟨-, rfl⟩
            · cases same
            · exact Or.inr ⟨rfl, List.getLast?_concat⟩
        | cons next others => exact Or.inl (by rwa [List.getLast?_cons_cons] at last)
      · cases empty

/-- Delivering an answer that does not end the wait leaves the last one. -/
theorem Awaited.deliver {state : AgpsState} {requests : List AGpsStatusValue}
    {answer : AgpsRsrcStatus} {rest : List AgpsRsrcStatus}
    (awaited : Awaited state requests (answer :: rest))
    (same : state.afterAnswer answer = state) : Awaited state requests rest := by
  cases state with
  | released => trivial
  | acquired => trivial
  | pending =>
      rcases awaited with last | ⟨empty, last, known, toRequest⟩
      · exact Or.inl last
      · cases rest with
        | nil =>
            rw [List.getLast?_singleton, Option.some.injEq] at known
            subst known
            cases answer with
            | rsrcGranted => exact absurd same (by decide)
            | rsrcDenied => exact absurd same (by decide)
            | _ => cases toRequest
        | cons next others =>
            exact Or.inr ⟨empty, last, by rwa [List.getLast?_cons_cons] at known, toRequest⟩
  | releasing =>
      rcases awaited with last | ⟨empty, known⟩
      · exact Or.inl last
      · cases rest with
        | nil =>
            obtain rfl := Option.some.inj known
            cases same
        | cons next others =>
            exact Or.inr ⟨empty, by rwa [List.getLast?_cons_cons] at known⟩

/-- An answer that changes the state ends the wait. -/
theorem afterAnswer_waits {state : AgpsState} {answer : AgpsRsrcStatus}
    (waits : (state.afterAnswer answer).Waits) : state.afterAnswer answer = state := by
  cases state <;> cases answer <;> first | rfl | (rcases waits with same | same <;> cases same)

theorem serve_idle (empty : x.requests = []) (success : Bool) : x.serve success = x := by
  rw [Session.serve, empty]

theorem deliver_idle (empty : x.answers = []) : x.deliver = (x, []) := by
  rw [Session.deliver, empty]

/-- **In every run, what a machine waits for is in flight.** -/
theorem InFlight.step (good : InFlight nif x) {input : SessionInput} (serves : input.From nif) :
    InFlight nif (session.step x input).1 := by
  obtain ⟨sound, awaited⟩ := good
  cases input with
  | subscribeRsrc s =>
      have move : Move nif x.machine (.subscribeRsrc s) _ _ := sound.move serves
      refine ⟨move.sound sound, ?_⟩
      rcases move.subscribe_sends with ⟨-, after, sent⟩ | ⟨same, sent⟩
      · simp only [session, Session.call, sent, after]
        exact Or.inl List.getLast?_concat
      · simp only [session, Session.call, sent, List.append_nil, same]
        exact awaited
  | unsubscribeRsrc s =>
      have move : Move nif x.machine (.unsubscribeRsrc s) _ _ := sound.move serves
      refine ⟨move.sound sound, ?_⟩
      rcases move.unsubscribe_sends with ⟨-, after | after, sent⟩ | ⟨same, sent⟩
      · simp only [session, Session.call, after]
        trivial
      · simp only [session, Session.call, sent, after]
        exact Or.inl List.getLast?_concat
      · simp only [session, Session.call, sent, List.append_nil, same]
        exact awaited
  | serve success =>
      cases requests : x.requests with
      | nil =>
          simp only [session, serve_idle requests]
          exact ⟨sound, awaited⟩
      | cons oldest rest =>
          rw [requests] at awaited
          simp only [session, Session.serve, requests]
          cases oldest with
          | gpsRequestAgpsDataConn =>
              refine ⟨sound, awaited.serve (Or.inl ⟨rfl, ?_⟩)⟩
              cases success <;> rfl
          | gpsReleaseAgpsDataConn => exact ⟨sound, awaited.serve (Or.inr ⟨rfl, rfl⟩)⟩
  | deliver =>
      cases answers : x.answers with
      | nil =>
          simp only [session, deliver_idle answers]
          exact ⟨sound, awaited⟩
      | cons answer rest =>
          have move : Move nif x.machine (.onRsrcEvent answer) _ _ := sound.move trivial
          obtain ⟨after, sent⟩ := move.answer_sends
          have still := move.sound sound
          simp only [session, Session.deliver, answers, Session.call, sent, List.append_nil]
          refine ⟨still, ?_⟩
          simp only [after]
          rw [answers] at awaited
          by_cases waits : (x.machine.mStatePtr.afterAnswer answer).Waits
          · have same := afterAnswer_waits waits
            rw [same]
            exact awaited.deliver same
          · exact awaited_of_not_waits waits _ _

theorem inFlight_run {inputs : List SessionInput} (serves : ∀ input ∈ inputs, input.From nif) :
    InFlight nif (session.run (.init nif) inputs) :=
  Machine.run_induction (fun _ _ good serves => good.step serves) (InFlight.init nif) serves

end Flight

/-! ## Who waits -/

section Waiting

variable {nif : Nif} {m m' : AgpsStateMachine} {s : Subscriber} {op : AgpsOp}
  {effects : List Effect}

theorem clone_setInactive (s : Subscriber) : s.setInactive.clone = s.clone := by
  cases s <;> rfl

/-- Who is told with all others hears of it. -/
theorem AgpsStateMachine.Lists.hears_notices (lists : m.Lists s) (status : AgpsRsrcStatus)
    (rest : List Effect) :
    noticesTo s (m.mSubscribers.map (notice m status) ++ rest) ≠ [] := by
  obtain ⟨listed, member, same⟩ := lists
  have counted : 0 < (m.mSubscribers.map Subscriber.clone).count s.clone :=
    List.count_pos_iff.mpr (List.mem_map.mpr ⟨listed, member, same⟩)
  rw [noticesTo_append, noticesTo_map]
  intro silent
  have none_ := (List.append_eq_nil_iff.mp silent).1
  rw [List.replicate_eq_nil_iff] at none_
  omega

/-- Who is the only one listed hears what the listed one is told. -/
theorem hears_notice {found : Subscriber} (same : found.clone = s.clone)
    (status : AgpsRsrcStatus) (rest : List Effect) :
    noticesTo s (notice m status found :: rest) ≠ [] := by
  rw [noticesTo_notice, if_pos same]
  exact List.cons_ne_nil _ _

theorem AgpsStateMachine.Lists.of_singleton {found : Subscriber} (lists : m.Lists s)
    (list : m.mSubscribers = [found]) : found.clone = s.clone := by
  obtain ⟨listed, member, same⟩ := lists
  rw [list, List.mem_singleton] at member
  exact member ▸ same

/-- **Who waits goes on waiting or hears something.** -/
theorem Move.waiter (move : Move nif m op m' effects) (waits : m.mStatePtr.Waits)
    (lists : m.Lists s) (kept : op ≠ .dropAllSubscribers) :
    noticesTo s effects ≠ [] ∨ m'.mStatePtr.Waits ∧ m'.Lists s := by
  have notReleased : m.mStatePtr ≠ .released := fun same => by
    rcases waits with other | other <;> cases same.symm.trans other
  have notAcquired : m.mStatePtr ≠ .acquired := fun same => by
    rcases waits with other | other <;> cases same.symm.trans other
  cases move with
  | opened serves state list => exact absurd state notReleased
  | joined serves shared state =>
      obtain ⟨listed, member, same⟩ := lists
      exact Or.inr ⟨Or.inl rfl, listed, mem_listed_of_mem member, same⟩
  | welcomed serves shared state => exact absurd state notAcquired
  | refused serves wifi list => exact Or.inr ⟨waits, lists⟩
  | absent absent => exact Or.inr ⟨waits, lists⟩
  | @left _ found before after shared state list first equal others =>
      by_cases self : found.clone = s.clone
      · exact Or.inl (hears_notice self _ _)
      · obtain ⟨listed, member, same⟩ := lists
        refine Or.inr ⟨waits, listed, ?_, same⟩
        rw [list, List.mem_append, List.mem_cons] at member
        rcases member with early | rfl | late
        · exact List.mem_append_left _ early
        · exact absurd same self
        · exact List.mem_append_right _ late
  | emptied shared state list equal =>
      exact Or.inl (hears_notice (lists.of_singleton list) _ _)
  | @closing _ found wifi state list equal =>
      have same := (clone_setInactive found).trans (lists.of_singleton list)
      exact Or.inr ⟨Or.inr rfl, _, List.mem_singleton.mpr rfl, same⟩
  | @closingAgain _ found wifi state list equal =>
      have same := (clone_setInactive found).trans (lists.of_singleton list)
      exact Or.inr ⟨Or.inr rfl, _, List.mem_singleton.mpr rfl, same⟩
  | granted state => exact Or.inl (lists.hears_notices _ _)
  | denied state => exact Or.inl (lists.hears_notices _ _)
  | forced state => exact absurd state notAcquired
  | closed wifi state list closes =>
      exact Or.inl (hears_notice (lists.of_singleton list) _ _)
  | ignored ignores => exact Or.inr ⟨waits, lists⟩
  | unrecognized other => exact Or.inr ⟨waits, lists⟩
  | dropped shared => exact absurd rfl kept
  | setAPN apn len => cases apn <;> exact Or.inr ⟨waits, lists⟩
  | setBearer bearer => exact Or.inr ⟨waits, lists⟩

end Waiting

/-! ## How much is in flight -/

/-- What is in flight, with the release that `AgpsPendingState` may still send. A request counts
twice, for it is served before it is answered. -/
def Session.inFlight (x : Session) : ℕ :=
  2 * x.requests.length + x.answers.length + if x.machine.mStatePtr = .pending then 2 else 0

/-- The framework goes on: it serves a request, or an answer arrives. -/
def Helps (x : Session) (input : SessionInput) : Prop :=
  (∃ success, input = .serve success) ∧ x.requests ≠ [] ∨ input = .deliver ∧ x.answers ≠ []

section Rank

variable {nif : Nif} {x : Session}

theorem serve_lowers (some_ : x.requests ≠ []) (success : Bool) :
    (x.serve success).inFlight < x.inFlight := by
  obtain ⟨oldest, rest, requests⟩ := List.exists_cons_of_ne_nil some_
  cases oldest <;>
    simp only [Session.serve, requests, Session.inFlight, List.length_cons, List.length_append,
      List.length_nil] <;> omega

theorem deliver_lowers (sound : Sound nif x.machine) (some_ : x.answers ≠ []) :
    x.deliver.1.inFlight < x.inFlight := by
  obtain ⟨answer, rest, answers⟩ := List.exists_cons_of_ne_nil some_
  have move : Move nif x.machine (.onRsrcEvent answer) _ _ := sound.move trivial
  obtain ⟨after, sent⟩ := move.answer_sends
  simp only [Session.deliver, answers, Session.call, sent, List.append_nil, Session.inFlight, after,
    List.length_cons]
  by_cases pending : x.machine.mStatePtr.afterAnswer answer = .pending
  · have same := afterAnswer_waits (Or.inl pending)
    rw [if_pos pending, if_pos (same.symm.trans pending)]
    omega
  · rw [if_neg pending]
    omega

/-- The framework lowers what is in flight. -/
theorem Helps.lowers (sound : Sound nif x.machine) {input : SessionInput}
    (helps : Helps x input) : (session.step x input).1.inFlight < x.inFlight := by
  rcases helps with ⟨⟨success, rfl⟩, some_⟩ | ⟨rfl, some_⟩
  · exact serve_lowers some_ success
  · exact deliver_lowers sound some_

/-- **The clients do not delay the framework.** -/
theorem harmless (sound : Sound nif x.machine) (waits : x.machine.mStatePtr.Waits)
    {input : SessionInput} (serves : input.From nif) :
    (session.step x input).1.inFlight < x.inFlight ∨
      (session.step x input).1.inFlight = x.inFlight ∧
        ∀ later, Helps x later → Helps (session.step x input).1 later := by
  have notReleased : x.machine.mStatePtr ≠ .released := fun same => by
    rcases waits with other | other <;> cases same.symm.trans other
  have notAcquired : x.machine.mStatePtr ≠ .acquired := fun same => by
    rcases waits with other | other <;> cases same.symm.trans other
  cases input with
  | subscribeRsrc s =>
      have move : Move nif x.machine (.subscribeRsrc s) _ _ := sound.move serves
      rcases move.subscribe_sends with ⟨before, -, -⟩ | ⟨same, sent⟩
      · exact absurd before notReleased
      · simp only [session, Session.call, sent, List.append_nil, Session.inFlight, same]
        exact Or.inr ⟨trivial, fun later helps => helps⟩
  | unsubscribeRsrc s =>
      have move : Move nif x.machine (.unsubscribeRsrc s) _ _ := sound.move serves
      rcases move.unsubscribe_sends with ⟨before, after, sent⟩ | ⟨same, sent⟩
      · have pending := before.resolve_right notAcquired
        have left : (agpsMachine.step x.machine (.unsubscribeRsrc s)).1.mStatePtr ≠ .pending := by
          rcases after with state | state <;> simp [state]
        simp only [session, Session.call, sent, Session.inFlight, if_neg left, if_pos pending,
          List.length_append, List.length_singleton]
        refine Or.inr ⟨by omega, fun later helps => ?_⟩
        exact helps.imp (And.imp_right fun _ => by simp) id
      · simp only [session, Session.call, sent, List.append_nil, Session.inFlight, same]
        exact Or.inr ⟨trivial, fun later helps => helps⟩
  | serve success =>
      by_cases empty : x.requests = []
      · simp only [session, serve_idle empty]
        exact Or.inr ⟨trivial, fun later helps => helps⟩
      · exact Or.inl (serve_lowers empty success)
  | deliver =>
      by_cases empty : x.answers = []
      · simp only [session, deliver_idle empty]
        exact Or.inr ⟨trivial, fun later helps => helps⟩
      · exact Or.inl (deliver_lowers sound empty)

end Rank

/-! ## The end of the wait -/

section Waiter

variable {nif : Nif} {x : Session} {s : Subscriber}

/-- Who waits goes on waiting or hears something, in a session. -/
theorem waiter_step (sound : Sound nif x.machine) (waits : x.machine.mStatePtr.Waits)
    (lists : x.machine.Lists s) {input : SessionInput} (serves : input.From nif) :
    noticesTo s (session.step x input).2 ≠ [] ∨
      (session.step x input).1.machine.mStatePtr.Waits ∧
        (session.step x input).1.machine.Lists s := by
  cases input with
  | subscribeRsrc other =>
      have move : Move nif x.machine (.subscribeRsrc other) _ _ := sound.move serves
      exact move.waiter waits lists fun same => by cases same
  | unsubscribeRsrc other =>
      have move : Move nif x.machine (.unsubscribeRsrc other) _ _ := sound.move serves
      exact move.waiter waits lists fun same => by cases same
  | serve success =>
      have same : (x.serve success).machine = x.machine := by
        unfold Session.serve
        split <;> rfl
      refine Or.inr ?_
      simp only [session, same]
      exact ⟨waits, lists⟩
  | deliver =>
      cases answers : x.answers with
      | nil =>
          simp only [session, deliver_idle answers]
          exact Or.inr ⟨waits, lists⟩
      | cons answer rest =>
          have move : Move nif x.machine (.onRsrcEvent answer) _ _ := sound.move trivial
          simp only [session, Session.deliver, answers]
          exact move.waiter waits lists fun same => by cases same

/-- The session, beside what a subscriber has heard. -/
def listening (s : Subscriber) :
    Machine (Session × List AgpsRsrcStatus) SessionInput Effect :=
  session.monitored fun heard taken => heard ++ noticesTo s taken.outputs

theorem listening_run (s : Subscriber) (x : Session) (heard : List AgpsRsrcStatus)
    (inputs : List SessionInput) :
    ((listening s).run (x, heard) inputs).2 = heard ++ noticesTo s (session.outputs x inputs) := by
  induction inputs generalizing x heard with
  | nil => simp
  | cons input rest ih =>
      rw [Machine.outputs_cons, noticesTo_append, ← List.append_assoc]
      exact ih (session.step x input).1 (heard ++ noticesTo s (session.step x input).2)

/-- Who has heard nothing waits. -/
def WaitsOrHeard (nif : Nif) (s : Subscriber) (state : Session × List AgpsRsrcStatus) : Prop :=
  InFlight nif state.1 ∧
    (state.2 = [] → state.1.machine.mStatePtr.Waits ∧ state.1.machine.Lists s)

theorem listening_advances (nif : Nif) (s : Subscriber) :
    Machine.Advances (listening s) (WaitsOrHeard nif s) (fun state => state.2 ≠ [])
      (fun state => state.1.inFlight) (fun state => Helps state.1) (·.From nif) where
  kept := by
    rintro ⟨x, heard⟩ input ⟨good, waits⟩ serves
    refine ⟨good.step serves, fun silent => ?_⟩
    obtain ⟨before, now⟩ := List.append_eq_nil_iff.mp silent
    obtain ⟨waiting, lists⟩ := waits before
    exact (waiter_step good.sound waiting lists serves).resolve_left fun heard => heard now
  stays := by
    rintro ⟨x, heard⟩ input - - something silent
    exact something (List.append_eq_nil_iff.mp silent).1
  helps := by
    rintro ⟨x, heard⟩ input ⟨good, -⟩ - helps
    exact Or.inr (helps.lowers good.sound)
  harmless := by
    rintro ⟨x, heard⟩ input ⟨good, waits⟩ serves
    by_cases silent : heard = []
    · exact Or.inr (harmless good.sound (waits silent).1 serves)
    · exact Or.inl fun nothing => silent (List.append_eq_nil_iff.mp nothing).1

/-- **Nobody waits forever.** Who is on the list of a machine that does not have the connection
hears of it after as many rounds as there is in flight, each of them with a request served and
an answer delivered, and with whatever the clients do. -/
theorem waiter_hears {earlier : List SessionInput}
    (serves : ∀ input ∈ earlier, input.From nif) (reached : session.run (.init nif) earlier = x)
    (listed : s ∈ x.machine.mSubscribers) (notAcquired : x.machine.mStatePtr ≠ .acquired)
    {rounds : List (List SessionInput)}
    (clients : ∀ round ∈ rounds, ∀ input ∈ round, input.From nif)
    (fair : ∀ round ∈ rounds, .deliver ∈ round ∧ ∃ success, .serve success ∈ round)
    (enough : x.inFlight < rounds.length) :
    noticesTo s (session.outputs x rounds.flatten) ≠ [] := by
  have good : InFlight nif x := reached ▸ inFlight_run serves
  have waits : x.machine.mStatePtr.Waits := by
    cases state : x.machine.mStatePtr with
    | pending => exact Or.inl rfl
    | releasing => exact Or.inr rfl
    | acquired => exact absurd state notAcquired
    | released =>
        rw [good.sound.released state] at listed
        cases listed
  have start : WaitsOrHeard nif s (x, []) := ⟨good, fun _ => ⟨waits, s, listed, rfl⟩⟩
  have helped (round : List SessionInput) (among : round ∈ rounds)
      (state : Session × List AgpsRsrcStatus) (goodState : WaitsOrHeard nif s state)
      (silent : ¬ state.2 ≠ []) : ∃ input ∈ round, Helps state.1 input := by
    obtain ⟨delivers, success, servesOne⟩ := fair round among
    obtain ⟨waiting, -⟩ := goodState.2 (not_not.mp silent)
    rcases goodState.1.awaited.something waiting with requests | answers
    · exact ⟨_, servesOne, Or.inl ⟨⟨success, rfl⟩, requests⟩⟩
    · exact ⟨_, delivers, Or.inr ⟨rfl, answers⟩⟩
  have heard := (listening_advances nif s).run_reaches start clients helped enough
  rwa [listening_run, List.nil_append] at heard

theorem waiter_hears_atl :
    noticesTo atlClient
      (session.outputs (session.run (.init .agnssNif) [.subscribeRsrc atlClient])
        (List.replicate 5 [.serve true, .deliver]).flatten) ≠ [] :=
  @waiter_hears .agnssNif _ atlClient [.subscribeRsrc atlClient]
    (by
      simp only [List.forall_mem_cons]
      exact ⟨trivial, nofun⟩)
    rfl (by decide) (by decide) _
    (by
      intro round among
      rw [List.eq_of_mem_replicate among]
      simp only [List.forall_mem_cons]
      exact ⟨trivial, trivial, nofun⟩)
    (by
      intro round among
      rw [List.eq_of_mem_replicate among]
      exact ⟨by simp, true, by simp⟩)
    (by decide)

end Waiter

end Msm8660.Gps
