import Mathlib.Data.List.Pairwise
import Msm8660.Gps.LocEngNifs

/-!
# Clients of the shared machines

What the messages of BIT and ATL clients do to the subscriber lists of the
running instance, and whom they notify. A subscription puts the client at the
head of the list unless somebody there equals it (`listed`); a release takes out
the first subscriber that equals the client, if there is one (`Release`).
-/

set_option autoImplicit false

namespace Msm8660.Gps

/-- What a release does to a list: nothing, or it takes out the first subscriber
that equals the client. -/
inductive Release (s : Subscriber) (list : List Subscriber) :
    List Subscriber → Option Subscriber → Prop where
  | absent (absent : ∀ other ∈ list, other.equals s = false) : Release s list list none
  | found {found : Subscriber} {before after : List Subscriber}
      (split : list = before ++ found :: after)
      (first : ∀ other ∈ before, other.equals s = false) (equal : found.equals s = true) :
      Release s list (before ++ after) (some found)

/-- The subscribers that accept a notification. -/
def notifiedIn (effects : List Effect) : List Subscriber :=
  effects.filterMap fun effect => match effect with
    | .notified subscriber _ _ => some subscriber
    | _ => none

/-- The subscribers of a machine that accept a notification. -/
def notifiedOn (nif : Nif) (calls : List Call) : List Subscriber :=
  notifiedIn (calls.filterMap (Call.effectOn nif))

/-- The list of a machine. -/
def LocEngData.subscribers (data : LocEngData) (nif : Nif) : List Subscriber :=
  ((data.nif nif).map (·.mSubscribers)).getD []

section Machines

variable {nif : Nif} {m m' : AgpsStateMachine} {s : Subscriber} {effects : List Effect}

/-- A subscription to a shared machine. -/
theorem Move.subscribe_shared (move : Move nif m (.subscribeRsrc s) m' effects)
    (shared : nif ≠ .wifiNif) :
    m'.mSubscribers = listed m.mSubscribers s ∧ ∀ other ∈ notifiedIn effects, other = s := by
  cases move with
  | opened serves state list =>
      rw [list]
      exact ⟨rfl, fun _ member => absurd member List.not_mem_nil⟩
  | joined serves shared state => exact ⟨rfl, fun _ member => absurd member List.not_mem_nil⟩
  | welcomed serves shared state => exact ⟨rfl, fun _ member => List.mem_singleton.mp member⟩
  | refused serves wifi list => exact absurd wifi shared

/-- A release from a shared machine. -/
theorem Move.unsubscribe_shared (move : Move nif m (.unsubscribeRsrc s) m' effects)
    (shared : nif ≠ .wifiNif) :
    ∃ found, Release s m.mSubscribers m'.mSubscribers found ∧
      notifiedIn effects = found.toList := by
  cases move with
  | absent absent => exact ⟨none, .absent absent, rfl⟩
  | left shared state list first equal others => exact ⟨_, .found list first equal, rfl⟩
  | @emptied s found shared state list equal =>
      exact ⟨some found, @Release.found s _ found [] [] list nofun equal, rfl⟩
  | closing wifi state list equal => exact absurd wifi shared
  | closingAgain wifi state list equal => exact absurd wifi shared

end Machines

section Lists

variable {s found : Subscriber} {list rest : List Subscriber}

/-- Two listed subscribers that are not the same are unequal in one of the two
directions. -/
theorem unequal_of_distinct
    (distinct : list.Pairwise fun newer older => older.equals newer = false)
    {one other : Subscriber} (member : one ∈ list) (member' : other ∈ list)
    (another : one ≠ other) : one.equals other = false ∨ other.equals one = false := by
  have symmetric : Std.Symm fun one other : Subscriber =>
      one.equals other = false ∨ other.equals one = false := ⟨fun _ _ => Or.symm⟩
  have unequal : list.Pairwise fun one other =>
      one.equals other = false ∨ other.equals one = false := distinct.imp Or.inr
  exact unequal.forall member member' another

theorem Release.mem_of_mem {taken : Option Subscriber} (release : Release s list rest taken)
    {other : Subscriber} (member : other ∈ rest) : other ∈ list := by
  cases release with
  | absent absent => exact member
  | found split first equal =>
      rw [split]
      rcases List.mem_append.mp member with early | late
      · exact List.mem_append_left _ early
      · exact List.mem_append_right _ (List.mem_cons_of_mem _ late)

theorem Release.found_mem (release : Release s list rest (some found)) :
    found ∈ list ∧ found.equals s = true := by
  cases release with
  | found split first equal => exact ⟨by simp [split], equal⟩

theorem Release.nobody (release : Release s list rest none) :
    rest = list ∧ ∀ other ∈ list, other.equals s = false := by
  cases release with
  | absent absent => exact ⟨rfl, absent⟩

/-- Only the subscriber that was found leaves the list. -/
theorem Release.stays {taken : Option Subscriber} (release : Release s list rest taken)
    {other : Subscriber} (member : other ∈ list) (another : taken ≠ some other) :
    other ∈ rest := by
  cases release with
  | absent absent => exact member
  | found split first equal =>
      rw [split] at member
      rcases List.mem_append.mp member with early | late
      · exact List.mem_append_left _ early
      · rcases List.mem_cons.mp late with rfl | later
        · exact absurd rfl another
        · exact List.mem_append_right _ later

/-- The subscriber that was found does leave it. -/
theorem Release.leaves (release : Release s list rest (some found))
    (distinct : list.Pairwise fun newer older => older.equals newer = false) :
    found ∉ rest := by
  cases release with
  | @found _ before after split first equal =>
      rw [split, List.pairwise_append, List.pairwise_cons] at distinct
      intro member
      rcases List.mem_append.mp member with early | late
      · exact absurd (distinct.2.2 found early found List.mem_cons_self) (by simp)
      · exact absurd (distinct.2.1.1 found late) (by simp)

end Lists

/-! ## Messages -/

section Messages

variable {conf : LocGpsCfg} {nmea : NmeaGenerator} {data : LocEngData}

theorem notifiedOn_append (nif : Nif) (calls more : List Call) :
    notifiedOn nif (calls ++ more) = notifiedOn nif calls ++ notifiedOn nif more := by
  simp only [notifiedOn, notifiedIn, List.filterMap_append]

theorem notifiedOn_self (nif : Nif) (effects : List Effect) :
    notifiedOn nif (effects.map (Call.agps nif)) = notifiedIn effects := by
  rw [notifiedOn, LocEngData.effectOn_self]

theorem notifiedOn_other {nif nif' : Nif} (other : nif' ≠ nif) (effects : List Effect) :
    notifiedOn nif' (effects.map (Call.agps nif)) = [] := by
  have none : (effects.map (Call.agps nif)).filterMap (Call.effectOn nif') = [] := by
    apply List.filterMap_eq_nil_iff.mpr
    intro call member
    obtain ⟨effect, -, rfl⟩ := List.mem_map.mp member
    simp [Call.effectOn, other.symm]
  rw [notifiedOn, none]
  rfl

namespace LocEngData

theorem subscribers_eq {nif : Nif} {m : AgpsStateMachine} (here : data.nif nif = some m) :
    data.subscribers nif = m.mSubscribers := by
  rw [subscribers, here]
  rfl

theorem Running.distinct (running : data.Running) (nif : Nif) :
    (data.subscribers nif).Pairwise fun newer older => older.equals newer = false := by
  obtain ⟨m, here, sound⟩ := running.nifs nif
  rw [subscribers_eq here]
  exact sound.distinct

theorem Running.serves (running : data.Running) (nif : Nif) :
    ∀ s ∈ data.subscribers nif, nif.Serves s := by
  obtain ⟨m, here, sound⟩ := running.nifs nif
  rw [subscribers_eq here]
  exact sound.serves

theorem locEngStopHandler_returns (data : LocEngData) (answers : Answers) :
    (data.locEngStopHandler answers).Returns := by
  unfold locEngStopHandler
  split
  · refine Outcome.Returns.andThen (Outcome.Returns.andThen (Outcome.returns_some _ _)
      fun data => ?_) fun _ => Outcome.returns_some _ _
    split <;> exact Outcome.returns_some _ _
  · exact Outcome.returns_some _ _

theorem afterMsg_returns (data : LocEngData) (answers : Answers) (msg : LocEngMsg) :
    (data.afterMsg answers msg).Returns := by
  unfold afterMsg
  refine Outcome.Returns.andThen (Outcome.Returns.andThen ?_ fun _ => Outcome.returns_some _ _)
    fun data => ?_
  · split
    · simp only []
      split
      · exact Outcome.Returns.andThen (locEngStopHandler_returns _ _)
          fun _ => Outcome.returns_some _ _
      · exact Outcome.returns_some _ _
    · exact Outcome.returns_some _ _
  · split <;> exact Outcome.returns_some _ _

/-- What the loop does after a message leaves the machines alone. -/
theorem Running.handle_of_handleMsg (running : data.Running) {answers : Answers}
    {msg : LocEngMsg} {mid : LocEngData} {calls : List Call}
    (handled : data.handleMsg conf nmea answers msg = (some mid, calls)) :
    ∃ after more, data.handle conf nmea answers msg = (some after, calls ++ more) ∧
      after.nif = mid.nif ∧ ∀ nif, notifiedOn nif (calls ++ more) = notifiedOn nif calls := by
  obtain ⟨after, more, last⟩ := mid.afterMsg_returns answers msg
  have frame : Frame mid _ False (mid.afterMsg answers msg) :=
    afterMsg_frame (Framed.refl mid) answers msg
  rw [last] at frame
  refine ⟨after, more, ?_, (frame.post after rfl).1, fun nif => ?_⟩
  · rw [handle, if_pos running.context, handled, Outcome.andThen_some, last]
  · have quiet : notifiedOn nif more = [] := by
      rw [notifiedOn, List.filterMap_eq_nil_iff.mpr fun call member =>
        (frame.every call member).1 nif]
      rfl
    rw [notifiedOn_append, quiet, List.append_nil]

/-- A call of a machine changes the list of this machine only. -/
theorem Running.handle_of_callNif (running : data.Running) {answers : Answers} {msg : LocEngMsg}
    {nif : Nif} {m : AgpsStateMachine} {op : AgpsOp} (here : data.nif nif = some m)
    (servicer : m.mServicer = true)
    (same : data.handleMsg conf nmea answers msg = data.callNif nif op) :
    ∃ after calls, data.handle conf nmea answers msg = (some after, calls) ∧
      after.subscribers nif = (agpsMachine.step m op).1.mSubscribers ∧
      (∀ other, other ≠ nif → after.subscribers other = data.subscribers other) ∧
      notifiedOn nif calls = notifiedIn (agpsMachine.step m op).2 ∧
      ∀ other, other ≠ nif → notifiedOn other calls = [] := by
  obtain ⟨after, more, handled, nifs, notified⟩ :=
    running.handle_of_handleMsg (same.trans (callNif_eq here servicer op))
  refine ⟨after, _, handled, ?_, fun other another => ?_, ?_, fun other another => ?_⟩
  · exact subscribers_eq ((congrFun nifs nif).trans (nif_setNif _ _ _))
  · rw [subscribers, congrFun nifs other, nif_setNif_of_ne _ another.symm]
    rfl
  · rw [notified, notifiedOn_self]
  · rw [notified, notifiedOn_other another]

/-- **A subscription** to a shared machine. -/
theorem Running.handle_subscribe (running : data.Running) {answers : Answers} {msg : LocEngMsg}
    {nif : Nif} (shared : nif ≠ .wifiNif) {s : Subscriber} (serves : nif.Serves s)
    (same : data.handleMsg conf nmea answers msg = data.callNif nif (.subscribeRsrc s)) :
    ∃ after calls, data.handle conf nmea answers msg = (some after, calls) ∧
      after.subscribers nif = listed (data.subscribers nif) s ∧
      (∀ other, other ≠ nif → after.subscribers other = data.subscribers other) ∧
      ∀ other, ∀ told ∈ notifiedOn other calls, told = s := by
  obtain ⟨m, here, sound⟩ := running.nifs nif
  obtain ⟨after, calls, handled, list, others, notified, quiet⟩ :=
    running.handle_of_callNif here sound.servicer same
  obtain ⟨joined, told⟩ := (sound.subscribe_move serves).subscribe_shared shared
  refine ⟨after, calls, handled, ?_, others, fun other receiver member => ?_⟩
  · rw [list, subscribers_eq here]
    exact joined
  · by_cases another : other = nif
    · subst another
      rw [notified] at member
      exact told receiver member
    · rw [quiet other another] at member
      cases member

/-- **A release** from a shared machine. -/
theorem Running.handle_unsubscribe (running : data.Running) {answers : Answers}
    {msg : LocEngMsg} {nif : Nif} (shared : nif ≠ .wifiNif) {s : Subscriber}
    (same : data.handleMsg conf nmea answers msg = data.callNif nif (.unsubscribeRsrc s)) :
    ∃ after calls found, data.handle conf nmea answers msg = (some after, calls) ∧
      Release s (data.subscribers nif) (after.subscribers nif) found ∧
      (∀ other, other ≠ nif → after.subscribers other = data.subscribers other) ∧
      notifiedOn nif calls = found.toList ∧
      ∀ other, other ≠ nif → notifiedOn other calls = [] := by
  obtain ⟨m, here, sound⟩ := running.nifs nif
  obtain ⟨after, calls, handled, list, others, notified, quiet⟩ :=
    running.handle_of_callNif here sound.servicer same
  obtain ⟨found, release, told⟩ := (sound.unsubscribe_move s).unsubscribe_shared shared
  refine ⟨after, calls, found, handled, ?_, others, notified.trans told, quiet⟩
  rw [list, subscribers_eq here]
  exact release

end LocEngData

end Messages

end Msm8660.Gps
