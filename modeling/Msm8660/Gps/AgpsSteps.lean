import Msm8660.Gps.AgpsStateMachine

/-!
# What the operations of an AGPS state machine do

One equation for each operation: `notifySubscribers` filters the list
(`notifySubscribers_filter`), `addSubscriber` puts a copy at the head unless an
equal subscriber is there, `sendRsrcRequest` asks whether some subscriber is
active, and `unsubscribeRsrc` hands the first equal subscriber to the state.
-/

set_option autoImplicit false

namespace Msm8660.Gps

/-! ## Notifications -/

/-- The statuses that subscribers react to. -/
def AgpsRsrcStatus.handled : AgpsRsrcStatus → Bool
  | .rsrcSubscribe | .rsrcStatusMax => false
  | _ => true

/-- The notification of one subscriber, as an effect. -/
def notice (m : AgpsStateMachine) (status : AgpsRsrcStatus) (s : Subscriber) : Effect :=
  .notified s status ((s.handleRsrcStatus m status).getD [])

theorem handleRsrcStatus_isSome (m : AgpsStateMachine) (s : Subscriber) (status : AgpsRsrcStatus) :
    (s.handleRsrcStatus m status).isSome = status.handled := by
  cases s <;> cases status <;> rfl

/-- A subscriber takes a notification that is for it and has a status that it
reacts to. -/
def Subscriber.takes (this : Subscriber) (notification : Notification) : Bool :=
  notification.rsrcStatus.handled && this.forMe notification

/-- A subscriber is told what it takes, and reports that it took it. -/
theorem notifyRsrcStatus_takes (m : AgpsStateMachine) (s : Subscriber) (n : Notification) :
    s.notifyRsrcStatus m n =
      if s.takes n then (true, [notice m n.rsrcStatus s]) else (false, []) := by
  have some_handled := handleRsrcStatus_isSome m s n.rsrcStatus
  cases calls : s.handleRsrcStatus m n.rsrcStatus with
  | none =>
      rw [calls, Option.isSome_none] at some_handled
      simp only [Subscriber.notifyRsrcStatus, Subscriber.takes, calls, ← some_handled,
        Bool.false_and, Bool.false_eq_true, if_false, ite_self]
  | some told =>
      rw [calls, Option.isSome_some] at some_handled
      simp only [Subscriber.notifyRsrcStatus, Subscriber.takes, notice, calls, ← some_handled,
        Bool.true_and, Option.getD_some]

theorem notifyRsrcStatus_eq (m : AgpsStateMachine) (s : Subscriber) (n : Notification)
    (handled : n.rsrcStatus.handled = true) :
    s.notifyRsrcStatus m n =
      if s.forMe n then (true, [notice m n.rsrcStatus s]) else (false, []) := by
  rw [notifyRsrcStatus_takes, Subscriber.takes, handled, Bool.true_and]

namespace AgpsStateMachine

variable (m : AgpsStateMachine)

@[simp] theorem withSubscribers_self : m.withSubscribers m.mSubscribers = m := rfl

@[simp] theorem mSubscribers_withSubscribers (list : List Subscriber) :
    (m.withSubscribers list).mSubscribers = list := rfl

@[simp] theorem mType_withSubscribers (list : List Subscriber) :
    (m.withSubscribers list).mType = m.mType := rfl

/-- The callback ends the search at a subscriber that takes the notification, if
subscribers go after it. -/
theorem notifySubscriber_eq (n : Notification) (s : Subscriber) :
    notifySubscriber m n s =
      (s.takes n && n.postNotifyDelete, if s.takes n then [notice m n.rsrcStatus s] else []) := by
  rw [notifySubscriber, notifyRsrcStatus_takes]
  cases s.takes n <;> rfl

/-- The notices of a list of subscribers are those of the ones that take the
notification. -/
theorem flatMap_notifySubscriber (n : Notification) (list : List Subscriber) :
    (list.flatMap fun s => (notifySubscriber m n s).2) =
      (list.filter fun s => s.takes n).map (notice m n.rsrcStatus) := by
  induction list with
  | nil => rfl
  | cons s rest ih =>
      rw [List.flatMap_cons, ih, notifySubscriber_eq]
      by_cases concerned : s.takes n = true
      · simp [concerned]
      · simp [concerned]

/-- The loop with deletion, given a pass more than there are subscribers. -/
theorem removeUntilNone_notifySubscriber {n : Notification} (delete : n.postNotifyDelete = true)
    {passes : ℕ} (enough : m.mSubscribers.length < passes) :
    removeUntilNone (notifySubscriber m n) passes m.mSubscribers =
      some (m.mSubscribers.filter fun s => !s.takes n,
        (m.mSubscribers.filter fun s => s.takes n).map (notice m n.rsrcStatus)) := by
  have hit : ∀ s, (notifySubscriber m n s).1 = s.takes n := by
    intro s
    rw [notifySubscriber_eq, delete, Bool.and_true]
  have quiet : ∀ s, (notifySubscriber m n s).1 = false → (notifySubscriber m n s).2 = [] := by
    intro s miss
    rw [hit] at miss
    simp [notifySubscriber_eq, miss]
  rw [removeUntilNone_eq quiet enough]
  simp only [hit, flatMap_notifySubscriber, List.filter_filter, Bool.and_self]

/-- Each listed subscriber that takes the notification is told once; with
deletion the others stay, and without it all do. -/
theorem notifySubscribers_eq (n : Notification) :
    m.notifySubscribers n =
      (m.withSubscribers
        (if n.postNotifyDelete then m.mSubscribers.filter fun s => !s.takes n
          else m.mSubscribers),
        (m.mSubscribers.filter fun s => s.takes n).map (notice m n.rsrcStatus)) := by
  cases delete : n.postNotifyDelete with
  | true =>
      simp only [notifySubscribers, delete, if_true,
        removeUntilNone_notifySubscriber m delete (Nat.lt_succ_self m.mSubscribers.length)]
  | false =>
      have miss : ∀ s ∈ m.mSubscribers, (notifySubscriber m n s).1 = false := by
        intro s _
        rw [notifySubscriber_eq, delete, Bool.and_false]
      simp only [notifySubscribers, delete, Bool.false_eq_true, if_false, search_none miss,
        flatMap_notifySubscriber]

/-- **`notifySubscribers` is a filter.** The loop with deletion ends, whatever
the number of passes it is given beyond the length of the list. Each listed
subscriber that takes the notification is told once, in the order of the list,
and nobody else; with deletion the others stay listed in their order, and
without it all do. -/
theorem notifySubscribers_filter (n : Notification) :
    (∀ passes, m.mSubscribers.length < passes →
      (removeUntilNone (notifySubscriber m n) passes m.mSubscribers).isSome = true) ∧
    m.notifySubscribers n =
      (m.withSubscribers
        (if n.postNotifyDelete then m.mSubscribers.filter fun s => !s.takes n
          else m.mSubscribers),
        (m.mSubscribers.filter fun s => s.takes n).map (notice m n.rsrcStatus)) := by
  exact ⟨fun passes enough => removeUntilNone_isSome enough, m.notifySubscribers_eq n⟩

/-- With deletion and a status that subscribers react to, everybody concerned is
told and goes. -/
theorem notifySubscribers_delete {n : Notification} (handled : n.rsrcStatus.handled = true)
    (delete : n.postNotifyDelete = true) :
    m.notifySubscribers n =
      (m.withSubscribers (m.mSubscribers.filter fun s => !s.forMe n),
        (m.mSubscribers.filter fun s => s.forMe n).map (notice m n.rsrcStatus)) := by
  simp only [notifySubscribers_eq, delete, if_true, Subscriber.takes, handled, Bool.true_and]

/-- Without deletion the list is left alone. -/
theorem notifySubscribers_keep {n : Notification} (handled : n.rsrcStatus.handled = true)
    (keep : n.postNotifyDelete = false) :
    m.notifySubscribers n =
      (m, (m.mSubscribers.filter fun s => s.forMe n).map (notice m n.rsrcStatus)) := by
  simp only [notifySubscribers_eq, keep, Bool.false_eq_true, if_false, Subscriber.takes, handled,
    Bool.true_and, withSubscribers_self]

/-! ## The list -/

theorem hasSubscribers_eq : m.hasSubscribers = !m.mSubscribers.isEmpty := rfl

theorem hasActiveSubscribers_eq :
    m.hasActiveSubscribers = m.mSubscribers.any fun s => !s.isInactive := by
  simp only [hasActiveSubscribers, hasSubscriber, search_pure_isSome, Subscriber.forMe_ofActive]

/-- `addSubscriber` adds a copy at the head unless an equal subscriber is
listed. -/
theorem addSubscriber_eq (s : Subscriber) :
    m.addSubscriber s = m.withSubscribers
      (if m.mSubscribers.any (·.equals s) then m.mSubscribers
        else s.clone :: m.mSubscribers) := by
  have found : (linkedListSearch (pureCallback (ε := Effect) fun s1 => s1.equals s) false
      m.mSubscribers).dataP.isSome = m.mSubscribers.any (·.equals s) := search_pure_isSome
  simp only [addSubscriber, hasSubscriber, Subscriber.forMe_ofSubscriber]
  cases result : (linkedListSearch (pureCallback (ε := Effect) fun s1 => s1.equals s) false
      m.mSubscribers).dataP with
  | none =>
      rw [result, Option.isSome_none] at found
      simp [← found, linkedListAdd]
  | some place =>
      rw [result, Option.isSome_some] at found
      simp [← found]

/-- With nobody active, `sendRsrcRequest` passes a release on. -/
theorem sendRsrcRequest_release (inactive : ∀ s ∈ m.mSubscribers, s.isInactive = true) :
    m.sendRsrcRequest .gpsReleaseAgpsDataConn =
      [.sendRsrcRequest .gpsReleaseAgpsDataConn
        (some (m.nifRequest .gpsReleaseAgpsDataConn none))] := by
  have none_found : (linkedListSearch (hasSubscriber (.ofGroup .broadcastActive)) false
      m.mSubscribers).dataP = none := by
    rw [hasSubscriber, search_none]
    intro s member
    simp [pureCallback, inactive s member]
  simp [sendRsrcRequest, none_found]

/-- With an active subscriber at the head, `sendRsrcRequest` passes a request on,
filled in for that subscriber. -/
theorem sendRsrcRequest_request {s : Subscriber} {rest : List Subscriber}
    (list : m.mSubscribers = s :: rest) (active : s.isInactive = false) :
    m.sendRsrcRequest .gpsRequestAgpsDataConn =
      [.sendRsrcRequest .gpsRequestAgpsDataConn
        (some (m.nifRequest .gpsRequestAgpsDataConn (some s)))] := by
  simp [sendRsrcRequest, hasSubscriber, list, linkedListSearch, pureCallback, active]

/-- `unsubscribeRsrc` finds the first listed subscriber that equals the given
one, or none. -/
theorem unsubscribeRsrc_absent {s : Subscriber}
    (absent : ∀ listed ∈ m.mSubscribers, listed.equals s = false) :
    m.unsubscribeRsrc s = (false, m, []) := by
  have none_found : (linkedListSearch (hasSubscriber (.ofSubscriber s)) false
      m.mSubscribers).dataP = none := by
    rw [hasSubscriber, search_none (by simpa [pureCallback] using absent)]
  simp [unsubscribeRsrc, none_found]

theorem unsubscribeRsrc_present {s found : Subscriber} {before after : List Subscriber}
    (list : m.mSubscribers = before ++ found :: after)
    (first : ∀ listed ∈ before, listed.equals s = false) (equal : found.equals s = true) :
    m.unsubscribeRsrc s = (true, m.stateOnRsrcEvent (.unsubscribe before.length found)) := by
  have result : (linkedListSearch (hasSubscriber (.ofSubscriber s)) false
      m.mSubscribers).dataP = some (before.length, found) := by
    rw [list, hasSubscriber, search_first (by simpa [pureCallback] using first)
      (by simpa [pureCallback] using equal)]
  simp [unsubscribeRsrc, result]

end AgpsStateMachine

end Msm8660.Gps
