import Msm8660.Gps.AgpsMoves

/-!
# State and subscriber list agree

Between restarts a machine that is not released has a subscriber (`Occupied`),
so its state can be read off its list: released when that is empty, waiting for
or holding the connection when somebody on it is active, releasing when
everybody on it is inactive (`ListDecidesState`).
`listDecidesState_run` carries this through every run, together with its
consequence that `AgpsReleasedState` never meets a subscriber: neither the
complaint about one nor its `RSRC_UNSUBSCRIBE` case is ever reached.
-/

set_option autoImplicit false

namespace Msm8660.Gps

/-- The calls that a machine gets between restarts. -/
def BetweenRestarts (nif : Nif) : AgpsOp → Prop
  | .dropAllSubscribers => False
  | op => Admissible nif op

/-- Whether no ATL client of a call has the handle `-1`. -/
def AgpsOp.HandleValid : AgpsOp → Prop
  | .subscribeRsrc s | .unsubscribeRsrc s => s.HandleValid
  | _ => True

/-- What the list of a machine says about its state. -/
structure ListDecidesState (m : AgpsStateMachine) : Prop where
  distinct : m.mSubscribers.Pairwise fun s s' => s.equals s' = false ∧ s'.equals s = false
  released : m.mStatePtr = .released ↔ m.mSubscribers = []
  active : m.mStatePtr = .pending ∨ m.mStatePtr = .acquired ↔
    ∃ s ∈ m.mSubscribers, s.isInactive = false
  releasing : m.mStatePtr = .releasing ↔
    m.mSubscribers ≠ [] ∧ ∀ s ∈ m.mSubscribers, s.isInactive = true

/-- An ATL client. -/
def atlClient : Subscriber := .atl ⟨7, false, List.Vector.replicate 16 0⟩

/-- A sound machine that lists somebody whenever it is not released. -/
structure Occupied (nif : Nif) (m : AgpsStateMachine) : Prop extends Sound nif m where
  occupied : m.mSubscribers = [] → m.mStatePtr = .released

section Runs

variable {nif : Nif} {m m' : AgpsStateMachine} {op : AgpsOp} {effects : List Effect}

theorem BetweenRestarts.admissible (call : BetweenRestarts nif op) : Admissible nif op := by
  cases op <;> first | exact call | exact call.elim

theorem Occupied.init (nif : Nif) : Occupied nif (locEngAgpsInit nif) :=
  ⟨Sound.init nif, fun _ => rfl⟩

/-- Only a restart leaves a connection without subscribers. -/
theorem Move.occupied (move : Move nif m op m' effects) (call : BetweenRestarts nif op)
    (start : Occupied nif m) : Occupied nif m' := by
  refine ⟨move.sound start.toSound, ?_⟩
  cases move with
  | opened serves state list => exact fun empty => by simp at empty
  | joined serves shared state => exact fun empty => absurd empty (listed_ne_nil _ _)
  | welcomed serves shared state => exact fun empty => absurd empty (listed_ne_nil _ _)
  | refused serves wifi list => exact start.occupied
  | absent absent => exact start.occupied
  | left shared state list first equal others => exact fun empty => absurd empty others
  | emptied shared state list equal => exact fun _ => rfl
  | closing wifi state list equal =>
      intro empty
      simp at empty
  | closingAgain wifi state list equal =>
      intro empty
      simp at empty
  | granted state =>
      intro empty
      exact absurd (start.occupied empty) (by simp [state])
  | denied state => exact fun _ => rfl
  | forced state => exact fun _ => rfl
  | closed wifi state list closes => exact fun _ => rfl
  | ignored ignores => exact start.occupied
  | unrecognized other => exact start.occupied
  | dropped shared => exact call.elim
  | setAPN apn len => cases apn <;> exact start.occupied
  | setBearer bearer => exact start.occupied

/-- What holds of the clients of all calls, and of their copies, holds of all
listed subscribers. -/
theorem Move.forall_listed {P : Subscriber → Prop} (cloned : ∀ s, P s → P s.clone)
    (inactive : ∀ s, P s → P s.setInactive) (move : Move nif m op m' effects)
    (new : ∀ s, op = .subscribeRsrc s → P s) (old : ∀ s ∈ m.mSubscribers, P s) :
    ∀ s ∈ m'.mSubscribers, P s := by
  have nobody : ∀ s ∈ ([] : List Subscriber), P s := fun s member => by cases member
  have joins : ∀ s, P s → ∀ other ∈ listed m.mSubscribers s, P other := by
    intro s holds other member
    rcases mem_listed member with rfl | present
    · exact cloned s holds
    · exact old other present
  cases move with
  | opened serves state list =>
      exact List.forall_mem_singleton.mpr (cloned _ (new _ rfl))
  | joined serves shared state => exact joins _ (new _ rfl)
  | welcomed serves shared state => exact joins _ (new _ rfl)
  | refused serves wifi list => exact old
  | absent absent => exact old
  | left shared state list first equal others =>
      intro other member
      refine old other ?_
      rw [list]
      rcases List.mem_append.mp member with early | late
      · exact List.mem_append_left _ early
      · exact List.mem_append_right _ (List.mem_cons_of_mem _ late)
  | emptied shared state list equal => exact nobody
  | closing wifi state list equal =>
      exact List.forall_mem_singleton.mpr (inactive _ (old _ (by simp [list])))
  | closingAgain wifi state list equal =>
      exact List.forall_mem_singleton.mpr (inactive _ (old _ (by simp [list])))
  | granted state => exact old
  | denied state => exact nobody
  | forced state => exact nobody
  | closed wifi state list closes => exact nobody
  | ignored ignores => exact old
  | unrecognized other => exact old
  | dropped shared => exact nobody
  | setAPN apn len => cases apn <;> exact old
  | setBearer bearer => exact old

theorem Subscriber.HandleValid.clone {s : Subscriber} (valid : s.HandleValid) :
    s.clone.HandleValid := by
  cases s <;> exact valid

theorem Subscriber.HandleValid.setInactive {s : Subscriber} (valid : s.HandleValid) :
    s.setInactive.HandleValid := by
  cases s <;> exact valid

/-- The list of an occupied machine decides its state. -/
theorem Occupied.listDecidesState (start : Occupied nif m)
    (valid : ∀ s ∈ m.mSubscribers, s.HandleValid) : ListDecidesState m where
  distinct := by
    refine start.distinct.imp_of_mem fun {newer older} memberNewer memberOlder apart => ?_
    refine ⟨?_, apart⟩
    by_contra equal
    have back := Subscriber.equals_symm (valid newer memberNewer) (by simpa using equal)
    exact absurd back (by simp [apart])
  released := ⟨start.released, start.occupied⟩
  active := by
    constructor
    · intro state
      have nonempty : m.mSubscribers ≠ [] := fun empty => by
        rw [start.occupied empty] at state
        simp at state
      obtain ⟨s, member⟩ := List.exists_mem_of_ne_nil _ nonempty
      exact ⟨s, member, start.active state s member⟩
    · rintro ⟨s, member, active⟩
      cases state : m.mStatePtr with
      | released => exact absurd member (by simp [start.released state])
      | pending => exact Or.inl rfl
      | acquired => exact Or.inr rfl
      | releasing =>
          obtain ⟨only, list, inactive⟩ := start.releasing_single state
          rw [list, List.mem_singleton] at member
          simp [member, inactive] at active
  releasing := by
    constructor
    · intro state
      obtain ⟨only, list, inactive⟩ := start.releasing_single state
      rw [list]
      exact ⟨List.cons_ne_nil _ _, List.forall_mem_singleton.mpr inactive⟩
    · rintro ⟨nonempty, inactive⟩
      obtain ⟨s, member⟩ := List.exists_mem_of_ne_nil _ nonempty
      have busy : ¬ (m.mStatePtr = .pending ∨ m.mStatePtr = .acquired) := fun state => by
        exact absurd (inactive s member) (by simp [start.active state s member])
      cases state : m.mStatePtr with
      | released => exact absurd (start.released state) nonempty
      | pending => exact absurd (Or.inl state) busy
      | acquired => exact absurd (Or.inr state) busy
      | releasing => rfl

/-- The effects by which `AgpsReleasedState` shows that it met a subscriber. -/
def Effect.ReleasedMetSubscriber : Effect → Prop
  | .subscriberListNotEmpty => True
  | .onRsrcEvent .released _ .rsrcUnsubscribe => True
  | _ => False

theorem not_releasedMetSubscriber_append {earlier later : List Effect}
    (noneEarlier : ∀ effect ∈ earlier, ¬ effect.ReleasedMetSubscriber)
    (noneLater : ∀ effect ∈ later, ¬ effect.ReleasedMetSubscriber) :
    ∀ effect ∈ earlier ++ later, ¬ effect.ReleasedMetSubscriber := by
  intro effect member
  rcases List.mem_append.mp member with early | late
  · exact noneEarlier effect early
  · exact noneLater effect late

/-- No move lets `AgpsReleasedState` meet a subscriber. -/
theorem Move.not_releasedMetSubscriber (move : Move nif m op m' effects) :
    ∀ effect ∈ effects, ¬ effect.ReleasedMetSubscriber := by
  have notices : ∀ status, ∀ effect ∈ m.mSubscribers.map (notice m status),
      ¬ effect.ReleasedMetSubscriber := by
    intro status effect member
    obtain ⟨s, -, rfl⟩ := List.mem_map.mp member
    exact id
  cases move with
  | opened serves state list => simp [Effect.ReleasedMetSubscriber]
  | joined serves shared state => simp [Effect.ReleasedMetSubscriber]
  | welcomed serves shared state => simp [Effect.ReleasedMetSubscriber, notice]
  | refused serves wifi list => simp [Effect.ReleasedMetSubscriber, notice]
  | absent absent => simp
  | left shared state list first equal others =>
      rcases state with state | state <;> simp [state, Effect.ReleasedMetSubscriber, notice]
  | emptied shared state list equal =>
      rcases state with state | state <;>
        simp [state, Effect.ReleasedMetSubscriber, notice, releaseRequest]
  | closing wifi state list equal =>
      rcases state with state | state <;>
        simp [state, Effect.ReleasedMetSubscriber, releaseRequest]
  | closingAgain wifi state list equal => simp [Effect.ReleasedMetSubscriber]
  | granted state =>
      exact not_releasedMetSubscriber_append (notices _) (by simp [Effect.ReleasedMetSubscriber])
  | denied state =>
      exact not_releasedMetSubscriber_append (notices _) (by simp [Effect.ReleasedMetSubscriber])
  | forced state =>
      exact not_releasedMetSubscriber_append (notices _) (by simp [Effect.ReleasedMetSubscriber])
  | closed wifi state list closes => simp [Effect.ReleasedMetSubscriber, notice]
  | @ignored status ignores =>
      have handled : status ≠ .rsrcUnsubscribe := by
        rintro rfl
        cases state : m.mStatePtr <;> simp [state, AgpsState.ignores] at ignores
      cases status <;> first | exact absurd rfl handled | simp [Effect.ReleasedMetSubscriber]
  | unrecognized other => simp
  | dropped shared => simp
  | setAPN apn len => simp
  | setBearer bearer => simp

/-! ## Runs -/

theorem Occupied.step (start : Occupied nif m) (call : BetweenRestarts nif op) :
    Occupied nif (agpsMachine.step m op).1 :=
  (start.move call.admissible).occupied call start

/-- Every state reached without a restart is occupied. -/
theorem occupied_run {ops : List AgpsOp} (calls : ∀ op ∈ ops, BetweenRestarts nif op) :
    Occupied nif (agpsMachine.run (locEngAgpsInit nif) ops) :=
  Machine.run_induction (fun _ _ start call => start.step call) (Occupied.init nif) calls

theorem handleValid_run {ops : List AgpsOp}
    (calls : ∀ op ∈ ops, BetweenRestarts nif op ∧ op.HandleValid) :
    ∀ s ∈ (agpsMachine.run (locEngAgpsInit nif) ops).mSubscribers, s.HandleValid := by
  have both : ∀ m op, (Sound nif m ∧ ∀ s ∈ m.mSubscribers, s.HandleValid) →
      (BetweenRestarts nif op ∧ op.HandleValid) →
        Sound nif (agpsMachine.step m op).1 ∧
          ∀ s ∈ (agpsMachine.step m op).1.mSubscribers, s.HandleValid := by
    intro m op good call
    have move := good.1.move call.1.admissible
    refine ⟨move.sound good.1, move.forall_listed (fun _ valid => valid.clone)
      (fun _ valid => valid.setInactive) (fun s same => ?_) good.2⟩
    subst same
    exact call.2
  exact (Machine.run_induction both ⟨Sound.init nif, fun s member => by cases member⟩ calls).2

/-- **State and subscriber list never disagree.** After every run without a
restart the list decides the state, the WIFI interface lists at most one
subscriber, and `AgpsReleasedState` has met none. -/
theorem listDecidesState_run (nif : Nif) (ops : List AgpsOp)
    (calls : ∀ op ∈ ops, BetweenRestarts nif op ∧ op.HandleValid) :
    ListDecidesState (agpsMachine.run (locEngAgpsInit nif) ops) ∧
      (nif = .wifiNif →
        (agpsMachine.run (locEngAgpsInit nif) ops).mSubscribers.length ≤ 1) ∧
      ∀ effect ∈ agpsMachine.outputs (locEngAgpsInit nif) ops,
        ¬ effect.ReleasedMetSubscriber := by
  have reached := occupied_run fun op member => (calls op member).1
  refine ⟨reached.listDecidesState (handleValid_run calls), ?_, ?_⟩
  · rintro rfl
    cases state : (agpsMachine.run (locEngAgpsInit .wifiNif) ops).mStatePtr with
    | released => simp [reached.released state]
    | pending =>
        obtain ⟨s, list, -⟩ := reached.wifiActive rfl (Or.inl state)
        simp [list]
    | acquired =>
        obtain ⟨s, list, -⟩ := reached.wifiActive rfl (Or.inr state)
        simp [list]
    | releasing =>
        obtain ⟨s, list, -⟩ := reached.releasing_single state
        simp [list]
  · have unmet : ∀ taken ∈ agpsMachine.steps (locEngAgpsInit nif) ops,
        ∀ effect ∈ taken.outputs, ¬ effect.ReleasedMetSubscriber :=
      Machine.steps_induction (fun _ _ start call => Occupied.step start call)
        (fun _ _ start call => (start.move call.admissible).not_releasedMetSubscriber)
        (Occupied.init nif) fun op member => (calls op member).1
    intro effect member
    obtain ⟨taken, inRun, emitted⟩ := Machine.mem_outputs.mp member
    exact unmet taken inRun effect emitted

/-- A WIFI client that leaves while it holds the connection. -/
theorem listDecidesState_run_wifi :
    let client : Subscriber :=
      .wifi ⟨none, none, .quipc, false, List.Vector.replicate 16 0⟩
    let ops : List AgpsOp :=
      [.subscribeRsrc client, .onRsrcEvent .rsrcGranted, .unsubscribeRsrc client]
    ListDecidesState (agpsMachine.run (locEngAgpsInit .wifiNif) ops) ∧
      (Nif.wifiNif = .wifiNif →
        (agpsMachine.run (locEngAgpsInit .wifiNif) ops).mSubscribers.length ≤ 1) ∧
      ∀ effect ∈ agpsMachine.outputs (locEngAgpsInit .wifiNif) ops,
        ¬ effect.ReleasedMetSubscriber :=
  listDecidesState_run .wifiNif _ (by
    simp only [List.forall_mem_cons]
    exact ⟨⟨trivial, trivial⟩, ⟨trivial, trivial⟩, ⟨trivial, trivial⟩,
      fun _ member => by cases member⟩)

end Runs

end Msm8660.Gps
