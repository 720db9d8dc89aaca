import Mathlib.Data.List.Nodup
import Msm8660.Gps.AgpsInvariant

/-!
# Granted and dismissed

What a machine tells each subscriber from the request that listed it to its
removal. A subscriber is followed through its copies: the object of the request,
the clone on the list, and that clone after `setInactive` have one clone.

A `Ledger` keeps the statuses that each listed subscriber received.
`grantedAndDismissed` says that an active one was granted exactly while the
machine holds the connection, that the step which removes a subscriber dismisses
it once, and that no other step dismisses it.
-/

set_option autoImplicit false

namespace Msm8660.Gps

/-- The statuses that a list of effects notifies a subscriber of. -/
def noticesTo (s : Subscriber) (effects : List Effect) : List AgpsRsrcStatus :=
  effects.filterMap fun effect => match effect with
    | .notified receiver status _ => if receiver.clone = s.clone then some status else none
    | _ => none

/-- The statuses that dismiss a subscriber. -/
def AgpsRsrcStatus.terminal : AgpsRsrcStatus → Bool
  | .rsrcUnsubscribe | .rsrcReleased | .rsrcDenied => true
  | _ => false

/-- What each listed subscriber received since the request that listed it. -/
abbrev Ledger := Subscriber → List AgpsRsrcStatus

/-- The clones of the listed subscribers. -/
def AgpsStateMachine.clones (m : AgpsStateMachine) : List Subscriber :=
  m.mSubscribers.map Subscriber.clone

/-- A step adds its notices, for a subscriber that was not listed before to an
empty entry. -/
def record (ledger : Ledger) (taken : Machine.Step AgpsStateMachine AgpsOp Effect) : Ledger :=
  fun s =>
    (if s.clone ∈ taken.before.clones then ledger s else []) ++ noticesTo s taken.outputs

/-- The refusal of a second request by a machine that serves one subscriber. -/
def Refuses (taken : Machine.Step AgpsStateMachine AgpsOp Effect) : Prop :=
  (∃ s, taken.input = .subscribeRsrc s) ∧ taken.before.mEnforceSingleSubscriber = true ∧
    taken.before.mSubscribers ≠ []

section Notices

variable {nif : Nif} {m m' : AgpsStateMachine} {op : AgpsOp} {effects : List Effect}

theorem noticesTo_append (s : Subscriber) (earlier later : List Effect) :
    noticesTo s (earlier ++ later) = noticesTo s earlier ++ noticesTo s later :=
  List.filterMap_append

theorem noticesTo_notice (s receiver : Subscriber) (status : AgpsRsrcStatus)
    (rest : List Effect) :
    noticesTo s (notice m status receiver :: rest) =
      (if receiver.clone = s.clone then [status] else []) ++ noticesTo s rest := by
  by_cases same : receiver.clone = s.clone <;> simp [noticesTo, notice, same]

@[simp] theorem noticesTo_nil (s : Subscriber) : noticesTo s [] = [] := rfl

@[simp] theorem noticesTo_onRsrcEvent (s : Subscriber) (oldState newState : AgpsState)
    (event : AgpsRsrcStatus) (rest : List Effect) :
    noticesTo s (.onRsrcEvent oldState newState event :: rest) = noticesTo s rest := rfl

@[simp] theorem noticesTo_sendRsrcRequest (s : Subscriber) (action : AGpsStatusValue)
    (sent : Option AGpsExtStatus) (rest : List Effect) :
    noticesTo s (.sendRsrcRequest action sent :: rest) = noticesTo s rest := rfl

/-- Who is told with everybody is told once for each of its copies. -/
theorem noticesTo_map (s : Subscriber) (status : AgpsRsrcStatus) (list : List Subscriber) :
    noticesTo s (list.map (notice m status)) =
      List.replicate ((list.map Subscriber.clone).count s.clone) status := by
  induction list with
  | nil => rfl
  | cons receiver rest ih =>
      rw [List.map_cons, noticesTo_notice, ih, List.map_cons, List.count_cons]
      by_cases same : receiver.clone = s.clone
      · simp [same, List.replicate_succ]
      · simp [same]

/-- Listed subscribers have different clones. -/
theorem Sound.clones_nodup (sound : Sound nif m) : m.clones.Nodup := by
  refine List.pairwise_map.mpr (sound.distinct.imp fun {newer older} apart same => ?_)
  have equal : older.equals newer = true := by
    rw [← Subscriber.equals_clone_right, same, Subscriber.equals_clone_right,
      Subscriber.equals_self]
  simp [equal] at apart

/-- Everybody listed is told exactly once. -/
theorem Sound.noticesTo_listed (sound : Sound nif m) {s : Subscriber}
    (member : s ∈ m.mSubscribers) (status : AgpsRsrcStatus) :
    noticesTo s (m.mSubscribers.map (notice m status)) = [status] := by
  have once : m.clones.count s.clone = 1 :=
    List.count_eq_one_of_mem sound.clones_nodup (List.mem_map_of_mem member)
  rw [noticesTo_map, ← AgpsStateMachine.clones, once]
  rfl

/-! ## Granted -/

/-- The active subscribers on the list were granted if and only if the machine
holds the connection. -/
def GrantedIffAcquired (m : AgpsStateMachine) (ledger : Ledger) : Prop :=
  ∀ s ∈ m.mSubscribers, s.isInactive = false →
    (.rsrcGranted ∈ ledger s ↔ m.mStatePtr = .acquired)

theorem record_listed {ledger : Ledger} {taken : Machine.Step AgpsStateMachine AgpsOp Effect}
    {s : Subscriber} (member : s ∈ taken.before.mSubscribers) :
    record ledger taken s = ledger s ++ noticesTo s taken.outputs := by
  have present : s.clone ∈ taken.before.clones := List.mem_map_of_mem member
  rw [record, if_pos present]

/-- A step that keeps the list within what it was, and does not grant, keeps the
entries as they were. -/
theorem GrantedIffAcquired.kept {ledger : Ledger} (agrees : GrantedIffAcquired m ledger)
    (within : ∀ s ∈ m'.mSubscribers, s ∈ m.mSubscribers)
    (state : m'.mStatePtr = .acquired ↔ m.mStatePtr = .acquired)
    (silent : ∀ s, .rsrcGranted ∉ noticesTo s effects) :
    GrantedIffAcquired m' (record ledger ⟨m, op, effects, m'⟩) := by
  intro s member active
  rw [record_listed (within s member), List.mem_append, state, ← agrees s (within s member) active]
  exact or_iff_left (silent s)

/-- A subscriber that is not listed yet has no copy on the list. -/
theorem clone_not_mem_clones {list : List Subscriber} {s : Subscriber}
    (absent : ¬ list.any (·.equals s) = true) : s.clone ∉ list.map Subscriber.clone := by
  intro present
  obtain ⟨other, member, same⟩ := List.mem_map.mp present
  refine absent (List.any_eq_true.mpr ⟨other, member, ?_⟩)
  rw [← Subscriber.equals_clone_right, ← same, Subscriber.equals_clone_right,
    Subscriber.equals_self]

/-- A step that adds a subscriber grants it at once if the connection is held. -/
theorem GrantedIffAcquired.added {ledger : Ledger} (agrees : GrantedIffAcquired m ledger)
    {s : Subscriber} (list : m'.mSubscribers = listed m.mSubscribers s)
    (state : m'.mStatePtr = .acquired ↔ m.mStatePtr = .acquired)
    (told : ∀ other, .rsrcGranted ∈ noticesTo other effects ↔
      m.mStatePtr = .acquired ∧ other.clone = s.clone) :
    GrantedIffAcquired m' (record ledger ⟨m, op, effects, m'⟩) := by
  intro other member active
  by_cases old : other ∈ m.mSubscribers
  · rw [record_listed old, List.mem_append, told, state, agrees other old active]
    exact ⟨fun granted => granted.elim id And.left, Or.inl⟩
  · rw [list, listed] at member
    by_cases present : m.mSubscribers.any (·.equals s) = true
    · rw [if_pos present] at member
      exact absurd member old
    · rw [if_neg present] at member
      obtain rfl : other = s.clone := (List.mem_cons.mp member).resolve_right old
      have new : s.clone.clone ∉ m.clones := by
        rw [Subscriber.clone_clone]
        exact clone_not_mem_clones present
      rw [record, if_neg new, List.nil_append, told, Subscriber.clone_clone, state]
      exact and_iff_left rfl

theorem Move.grantedIffAcquired (move : Move nif m op m' effects) (sound : Sound nif m)
    {ledger : Ledger} (agrees : GrantedIffAcquired m ledger) :
    GrantedIffAcquired m' (record ledger ⟨m, op, effects, m'⟩) := by
  have nobody : ∀ state, GrantedIffAcquired (m.moved state [])
      (record ledger ⟨m, op, effects, m.moved state []⟩) :=
    fun _ s member => by cases member
  have marked : ∀ state found, nif.Serves found → nif = .wifiNif →
      GrantedIffAcquired (m.moved state [found.setInactive])
        (record ledger ⟨m, op, effects, m.moved state [found.setInactive]⟩) := by
    rintro state found serves rfl s member active
    rw [List.mem_singleton.mp member, serves.wifi.2] at active
    cases active
  cases move with
  | @opened s serves state list =>
      refine agrees.added (s := s) (by simp [list, listed]) (by simp [state]) ?_
      intro other
      simp [state]
  | joined serves shared state =>
      refine agrees.added rfl (by simp [state]) ?_
      intro other
      simp [state]
  | welcomed serves shared state =>
      refine agrees.added rfl (by simp [state]) ?_
      intro other
      rw [noticesTo_notice]
      split <;> simp_all [eq_comm]
  | refused serves wifi list =>
      refine agrees.kept (fun _ member => member) Iff.rfl ?_
      intro other
      rw [noticesTo_notice]
      split <;> simp
  | absent absent => exact agrees.kept (fun _ member => member) Iff.rfl (by simp)
  | @left s found before after shared state list first equal others =>
      refine agrees.kept (fun other member => ?_) Iff.rfl fun other => ?_
      · rw [list]
        exact ((List.Sublist.refl before).append (List.sublist_cons_self found after)).subset
          member
      · rw [noticesTo_notice]
        split <;> simp
  | emptied shared state list equal => exact nobody _
  | @closing s found wifi state list equal =>
      exact marked .releasing found (sound.serves found (by simp [list])) wifi
  | @closingAgain s found wifi state list equal =>
      exact marked .releasing found (sound.serves found (by simp [list])) wifi
  | granted state =>
      intro s member active
      have told := sound.noticesTo_listed member .rsrcGranted
      rw [record_listed member, noticesTo_append, told]
      simp
  | denied state => exact nobody _
  | forced state => exact nobody _
  | closed wifi state list closes => exact nobody _
  | ignored ignores => exact agrees.kept (fun _ member => member) Iff.rfl (by simp)
  | unrecognized other => exact agrees.kept (fun _ member => member) Iff.rfl (by simp)
  | dropped shared => exact nobody _
  | setAPN apn len =>
      cases apn <;> exact agrees.kept (fun _ member => member) Iff.rfl (by simp)
  | setBearer bearer => exact agrees.kept (fun _ member => member) Iff.rfl (by simp)

/-! ## Dismissed -/

/-- How often a list of effects dismisses a subscriber. -/
def dismissals (s : Subscriber) (effects : List Effect) : ℕ :=
  (noticesTo s effects).countP AgpsRsrcStatus.terminal

/-- A move that removes a subscriber dismisses it once. -/
theorem Move.dismissed (move : Move nif m op m' effects) (call : BetweenRestarts nif op)
    (sound : Sound nif m) {s : Subscriber} (member : s ∈ m.mSubscribers)
    (gone : s.clone ∉ m'.clones) : dismissals s effects = 1 := by
  have removed : s ∉ m'.mSubscribers := fun still => gone (List.mem_map_of_mem still)
  have everybody : ∀ status oldState newState, status.terminal = true →
      dismissals s (m.mSubscribers.map (notice m status) ++
        [.onRsrcEvent oldState newState status]) = 1 := by
    intro status oldState newState terminal
    rw [dismissals, noticesTo_append, sound.noticesTo_listed member]
    simp [terminal]
  cases move with
  | opened serves state list => simp [list] at member
  | joined serves shared state => exact absurd (mem_listed_of_mem member) removed
  | welcomed serves shared state => exact absurd (mem_listed_of_mem member) removed
  | refused serves wifi list => exact absurd member removed
  | absent absent => exact absurd member removed
  | @left _ found before after shared state list first equal others =>
      obtain rfl : s = found := by
        rw [list] at member
        rcases List.mem_append.mp member with early | late
        · exact absurd (List.mem_append_left after early) removed
        · exact (List.mem_cons.mp late).resolve_right fun later =>
            removed (List.mem_append_right before later)
      rw [dismissals, noticesTo_notice]
      simp [AgpsRsrcStatus.terminal]
  | @emptied _ found shared state list equal =>
      obtain rfl : s = found := by simpa [list] using member
      rw [dismissals, noticesTo_notice]
      simp [AgpsRsrcStatus.terminal, releaseRequest]
  | @closing _ found wifi state list equal =>
      obtain rfl : s = found := by simpa [list] using member
      simp [AgpsStateMachine.clones] at gone
  | @closingAgain _ found wifi state list equal =>
      obtain rfl : s = found := by simpa [list] using member
      simp [AgpsStateMachine.clones] at gone
  | granted state => exact absurd member removed
  | denied state => exact everybody _ _ _ rfl
  | forced state => exact everybody _ _ _ rfl
  | @closed found status wifi state list closes =>
      obtain rfl : s = found := by simpa [list] using member
      rw [dismissals, noticesTo_notice]
      rcases closes with rfl | rfl <;> simp [AgpsRsrcStatus.terminal]
  | ignored ignores => exact absurd member removed
  | unrecognized other => exact absurd member removed
  | dropped shared => exact call.elim
  | setAPN apn len => cases apn <;> exact absurd member removed
  | setBearer bearer => exact absurd member removed

/-- A move that is no refusal dismisses nobody it keeps. -/
theorem Move.spared (move : Move nif m op m' effects) (sound : Sound nif m)
    (accepts : ¬ Refuses ⟨m, op, effects, m'⟩) {s : Subscriber} (member : s ∈ m'.mSubscribers) :
    dismissals s effects = 0 := by
  cases move with
  | opened serves state list => simp [dismissals]
  | joined serves shared state => simp [dismissals]
  | welcomed serves shared state =>
      rw [dismissals, noticesTo_notice]
      split <;> simp [AgpsRsrcStatus.terminal]
  | @refused asking serves wifi list =>
      have single : m.mEnforceSingleSubscriber = true := by rw [sound.single, wifi]; rfl
      exact absurd ⟨⟨asking, rfl⟩, single, list⟩ accepts
  | absent absent => simp [dismissals]
  | @left _ found before after shared state list first equal others =>
      have other : found.clone ≠ s.clone := by
        intro same
        have nodup : (found.clone :: (before ++ after).map Subscriber.clone).Nodup := by
          have clones := sound.clones_nodup
          rw [AgpsStateMachine.clones, list, List.map_append, List.map_cons] at clones
          rw [List.map_append]
          exact List.perm_middle.nodup_iff.mp clones
        refine (List.nodup_cons.mp nodup).1 ?_
        rw [same]
        exact List.mem_map_of_mem member
      rw [dismissals, noticesTo_notice, if_neg other]
      simp
  | emptied shared state list equal => cases member
  | closing wifi state list equal => simp [dismissals, releaseRequest]
  | closingAgain wifi state list equal => simp [dismissals]
  | granted state =>
      rw [dismissals, noticesTo_append, sound.noticesTo_listed member]
      simp [AgpsRsrcStatus.terminal]
  | denied state => cases member
  | forced state => cases member
  | closed wifi state list closes => cases member
  | ignored ignores => simp [dismissals]
  | unrecognized other => simp [dismissals]
  | dropped shared => cases member
  | setAPN apn len => simp [dismissals]
  | setBearer bearer => simp [dismissals]

/-! ## Runs -/

/-- The ledger after a run. -/
def ledgerAfter (nif : Nif) (ops : List AgpsOp) : Ledger :=
  ((agpsMachine.monitored record).run (locEngAgpsInit nif, fun _ => []) ops).2

/-- The invariant of a machine with its ledger. -/
def LedgerAgrees (nif : Nif) (watched : AgpsStateMachine × Ledger) : Prop :=
  Sound nif watched.1 ∧ GrantedIffAcquired watched.1 watched.2

theorem LedgerAgrees.init (nif : Nif) : LedgerAgrees nif (locEngAgpsInit nif, fun _ => []) :=
  ⟨Sound.init nif, fun _ member => by cases member⟩

theorem LedgerAgrees.step {watched : AgpsStateMachine × Ledger}
    (agrees : LedgerAgrees nif watched) (admissible : Admissible nif op) :
    LedgerAgrees nif ((agpsMachine.monitored record).step watched op).1 := by
  have move := agrees.1.move admissible
  exact ⟨move.sound agrees.1, move.grantedIffAcquired agrees.1 agrees.2⟩

theorem grantedIffAcquired_run {ops : List AgpsOp}
    (admissible : ∀ op ∈ ops, Admissible nif op) :
    GrantedIffAcquired (agpsMachine.run (locEngAgpsInit nif) ops) (ledgerAfter nif ops) := by
  have reached : LedgerAgrees nif _ :=
    Machine.run_induction (fun _ _ agrees allowed => agrees.step allowed) (LedgerAgrees.init nif)
      admissible
  rw [LedgerAgrees, Machine.monitored_run_fst] at reached
  exact reached.2

/-- **Every subscriber is granted and dismissed exactly as the machine says.** In
every state reached without a restart an active listed subscriber was granted
since the request that listed it if and only if the machine holds the
connection; every step that removes a subscriber dismisses it once; and no step
but a refusal dismisses a subscriber that it keeps. -/
theorem grantedAndDismissed (nif : Nif) (ops : List AgpsOp)
    (calls : ∀ op ∈ ops, BetweenRestarts nif op) :
    (∀ s ∈ (agpsMachine.run (locEngAgpsInit nif) ops).mSubscribers, s.isInactive = false →
      (.rsrcGranted ∈ ledgerAfter nif ops s ↔
        (agpsMachine.run (locEngAgpsInit nif) ops).mStatePtr = .acquired)) ∧
    ∀ taken ∈ agpsMachine.steps (locEngAgpsInit nif) ops,
      (∀ s ∈ taken.before.mSubscribers, s.clone ∉ taken.after.clones →
        dismissals s taken.outputs = 1) ∧
      (¬ Refuses taken → ∀ s ∈ taken.after.mSubscribers, dismissals s taken.outputs = 0) := by
  refine ⟨grantedIffAcquired_run fun op member => (calls op member).admissible, ?_⟩
  refine Machine.steps_induction (fun _ _ start call => Occupied.step start call)
    (fun m op start call => ?_) (Occupied.init nif) calls
  have move := start.move call.admissible
  exact ⟨fun s member gone => move.dismissed call start.toSound member gone,
    fun accepts s member => move.spared start.toSound accepts member⟩

/-- A client that waited for the grant has it afterwards. -/
theorem grantedAndDismissed_atl :
    .rsrcGranted ∈ ledgerAfter .agnssNif
      [.subscribeRsrc atlClient, .onRsrcEvent .rsrcGranted] atlClient :=
  ((grantedAndDismissed .agnssNif [.subscribeRsrc atlClient, .onRsrcEvent .rsrcGranted] (by
    simp only [List.forall_mem_cons]
    exact ⟨trivial, trivial, nofun⟩)).1 atlClient (by decide) rfl).mpr rfl

end Notices

end Msm8660.Gps
