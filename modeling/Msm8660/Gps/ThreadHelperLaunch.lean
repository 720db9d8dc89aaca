import Msm8660.Lib.Progress
import Msm8660.Gps.ThreadHelperCalls

/-!
# Launching and joining a helper thread

The launching thread waits for a signal of the child. No signal is lost: it does not wait when
the child has signalled, so that `loc_eng_dmn_conn_launch_thelper` returns after a bounded
number of rounds in which both threads take a step, unless `thread_proc_init` blocks
(`launchThelper_returns`). The mutex and the condition variable are used only while they exist,
and the mutex is not taken by its holder and released by nobody else (`HelperSound.proper`). What
`loc_eng_dmn_conn_launch_thelper` returns tells how far the child has come, unless the launching
thread wakes up spuriously (`launched_ready`).
-/

set_option autoImplicit false

namespace Msm8660.Gps

section Proper

variable {κ ε : Type*} {x : HelperState κ}

theorem not_misused_of {proper : Prop} [Decidable proper] (holds : proper) :
    HelperEvent.misused ∉ if proper then [] else [.misused] := by
  rw [if_pos holds]
  exact List.not_mem_nil

theorem lock_proper (usable : x.thelper.usable = true) {party : HelperParty}
    (foreign : x.thelper.threadMutex ≠ some party) (next : HelperState κ → HelperState κ) :
    .misused ∉ (x.lock party next).2 := by
  unfold HelperState.lock
  rw [if_pos usable, if_pos foreign]
  split <;> exact List.not_mem_nil

namespace HelperSound

theorem callProc_proper (procs : ThreadProcs κ) (which : ThreadProc) (next : ℤ → MainPlace) :
    .misused ∉ (x.callProc procs which next).2 := by
  unfold HelperState.callProc
  split
  · exact List.not_mem_nil
  · split
    · exact List.not_mem_nil
    · simp

theorem holder_of_main (sound : HelperSound x) (inside : x.main.holds = true) :
    x.thelper.threadMutex = some .child := by
  rw [sound.holder, if_pos inside]

theorem holder_of_launcher (sound : HelperSound x) (inside : x.launcher.holds = true) :
    x.thelper.threadMutex = some .launcher := by
  have outside : ¬ x.main.holds = true := fun held => by
    rw [sound.exclusive held] at inside
    cases inside
  rw [sound.holder, if_neg outside, if_pos inside]

/-- The child does not hold the mutex outside its critical section, -/
theorem foreign_of_main (sound : HelperSound x) (outside : x.main.holds = false) :
    x.thelper.threadMutex ≠ some .child := by
  rw [sound.holder, outside]
  cases x.launcher.holds <;> simp

/-- nor does the launching thread. -/
theorem foreign_of_launcher (sound : HelperSound x) (outside : x.launcher.holds = false) :
    x.thelper.threadMutex ≠ some .launcher := by
  rw [sound.holder, outside]
  cases x.main.holds <;> simp

theorem thelperMain_proper (sound : HelperSound x) (procs : ThreadProcs κ) :
    .misused ∉ (x.thelperMain procs).2 := by
  unfold HelperState.thelperMain
  cases here : x.main with
  | absent | returned | initFailed | preFailed | procFailed | test => exact List.not_mem_nil
  | procInit | procPre | proc | procPost => exact callProc_proper procs _ _
  | readyLock failed =>
      exact lock_proper (sound.usable_of_main (by simp [here]))
        (sound.foreign_of_main (by rw [here]; rfl)) _
  | readySignal failed => exact not_misused_of (sound.usable_of_main (by simp [here]))
  | readyUnlock failed =>
      exact not_misused_of ⟨sound.usable_of_main (by simp [here]),
        sound.holder_of_main (by rw [here]; rfl)⟩

theorem launchThelper_proper (sound : HelperSound x) : .misused ∉ x.launchThelper.2 := by
  have usable : x.launcher ≠ .joined → x.thelper.usable = true := sound.usable.mpr
  unfold HelperState.launchThelper
  cases here : x.launcher with
  | create | waiting | launched | joined | joining => exact List.not_mem_nil
  | lock | woken =>
      exact lock_proper (usable (by simp [here])) (sound.foreign_of_launcher (by rw [here]; rfl)) _
  | test =>
      simp only [HelperState.awaitReady]
      split
      · exact not_misused_of ⟨usable (by simp [here]), sound.holder_of_launcher (by rw [here]; rfl)⟩
      · exact List.not_mem_nil
  | unlock =>
      exact not_misused_of ⟨usable (by simp [here]), sound.holder_of_launcher (by rw [here]; rfl)⟩
  | returnExit => simp
  | destroy =>
      refine not_misused_of ⟨usable (by simp [here]), ?_⟩
      rw [sound.holder, sound.ended (Or.inl here), here]
      rfl

variable (procs : ThreadProcs κ) (change : κ → ε → κ)

/-- The mutex and the condition variable are used as they should be. -/
theorem proper (sound : HelperSound x) (input : HelperInput ε) :
    .misused ∉ ((threadHelper procs change).step x input).2 := by
  cases input with
  | create created =>
      simp only [threadHelper, HelperState.createThread]
      split
      · split <;> simp
      · exact List.not_mem_nil
  | launcher => exact sound.launchThelper_proper
  | child => exact sound.thelperMain_proper procs
  | unblock => simp [threadHelper, HelperState.unblockThelper]
  | spurious | join | environment => exact List.not_mem_nil

end HelperSound

end Proper

/-! ## The launching thread comes back -/

/-- How far the launching thread is from the end of `loc_eng_dmn_conn_launch_thelper`. -/
def LauncherPlace.rank : LauncherPlace → ℕ
  | .create => 7
  | .lock => 6
  | .test => 5
  | .waiting => 4
  | .woken => 3
  | .unlock => 2
  | .returnExit => 1
  | .launched _ | .joining | .destroy | .joined => 0

/-- How far the child is from the end of `thelper_signal_ready`. -/
def MainPlace.rank : MainPlace → ℕ
  | .absent => 6
  | .procInit => 5
  | .initFailed => 4
  | .readyLock _ => 3
  | .readySignal _ => 2
  | .readyUnlock _ => 1
  | .procPre | .preFailed | .proc | .procFailed | .test | .procPost | .returned => 0

/-- The distance of both. -/
def HelperState.rank {κ : Type*} (x : HelperState κ) : ℕ := x.launcher.rank + x.main.rank

/-- Who has to take the next step: the launching thread if it holds the mutex or the child has
done its part. -/
def HelperState.Helps {κ ε : Type*} (x : HelperState κ) (input : HelperInput ε) : Prop :=
  if x.launcher.holds = false ∧ 0 < x.main.rank then input = .child else input = .launcher

/-- `thread_proc_init` does not block. -/
def InitAnswers {κ : Type*} (procs : ThreadProcs κ) : Prop :=
  ∀ threadProc ∈ procs .init, ∀ context, threadProc context ≠ none

section Launch

variable {κ ε : Type*} {procs : ThreadProcs κ} {x : HelperState κ}

theorem rank_pos_of_not_signalled {place : MainPlace} (silent : place.signalled = false) :
    0 < place.rank := by
  cases place <;> first | exact Nat.succ_pos _ | cases silent

theorem rank_pos_of_holds {place : MainPlace} (inside : place.holds = true) : 0 < place.rank := by
  cases place <;> first | exact Nat.succ_pos _ | cases inside

/-- A child that has signalled and released the mutex does not come back to that. -/
theorem thelperMain_rank_zero (done : x.main.rank = 0) :
    (x.thelperMain procs).1.launcher = x.launcher ∧ (x.thelperMain procs).1.main.rank = 0 := by
  have answered : ∀ (which : ThreadProc) (next : ℤ → MainPlace),
      (∀ result, (next result).rank = 0) → (x.callProc procs which next).1.launcher = x.launcher ∧
        (x.callProc procs which next).1.main.rank = 0 := by
    intro which next after
    unfold HelperState.callProc
    split
    · exact ⟨rfl, after 0⟩
    · split
      · exact ⟨rfl, done⟩
      · exact ⟨rfl, after _⟩
  unfold HelperState.thelperMain
  cases here : x.main with
  | absent | procInit | initFailed | readyLock | readySignal | readyUnlock =>
      rw [here] at done
      cases done
  | returned => exact ⟨rfl, done⟩
  | preFailed | procFailed => exact ⟨rfl, rfl⟩
  | procPre | proc =>
      refine answered _ _ fun result => ?_
      split <;> rfl
  | procPost => exact answered _ _ fun _ => rfl
  | test =>
      refine ⟨rfl, ?_⟩
      simp only []
      split <;> rfl

/-- Before that it comes closer, unless it has to wait for the mutex. -/
theorem thelperMain_rank_pos (answers : InitAnswers procs) (sound : HelperSound x)
    (created : x.main ≠ .absent) (busy : 0 < x.main.rank) :
    (x.thelperMain procs).1.rank < x.rank ∨
      x.launcher.holds = true ∧ (x.thelperMain procs).1 = x := by
  unfold HelperState.thelperMain
  cases here : x.main with
  | absent => exact absurd here created
  | procPre | preFailed | proc | procFailed | test | procPost | returned =>
      rw [here] at busy
      cases busy
  | procInit =>
      left
      have lower : ∀ (context : κ) (place : MainPlace), place.rank < 5 →
          HelperState.rank { x with context := context, main := place } < x.rank := by
        intro context place closer
        rw [HelperState.rank, HelperState.rank, here]
        exact Nat.add_lt_add_left closer _
      simp only [HelperState.callProc]
      split
      · exact lower _ _ (by decide)
      · next threadProc present =>
          split
          · next blocked => exact absurd blocked (answers threadProc present x.context)
          · refine lower _ _ ?_
            split <;> decide
  | initFailed =>
      left
      rw [HelperState.rank, HelperState.rank, here]
      exact Nat.lt_succ_self _
  | readyLock failed =>
      simp only [HelperState.lock]
      rw [if_pos (sound.usable_of_main (by simp [here]))]
      split
      · left
        rw [HelperState.rank, HelperState.rank, here]
        exact Nat.lt_succ_self _
      · next taken =>
          refine Or.inr ⟨?_, rfl⟩
          cases held : x.launcher.holds with
          | true => rfl
          | false => exact absurd (by rw [sound.holder, here, held]; rfl) taken
  | readySignal failed =>
      left
      rw [HelperState.rank, HelperState.rank, here]
      simp only [HelperState.signalReady]
      split
      · next waiting =>
          rw [waiting]
          show 3 + 1 < 4 + 2
          decide
      · exact Nat.lt_succ_self _
  | readyUnlock failed =>
      left
      rw [HelperState.rank, HelperState.rank, here]
      cases failed <;> exact Nat.lt_succ_self _

/-- A step of the launching thread does not change how far the child is. It comes closer, or it
waits for the signal or for the mutex. -/
theorem launchThelper_rank (sound : HelperSound x) (created : x.launcher ≠ .create) :
    x.launchThelper.1.launcher.rank = 0 ∨ x.launchThelper.1.rank < x.rank ∨
      (x.launcher.holds = false ∧ 0 < x.main.rank) ∧ x.launchThelper.1 = x := by
  have lock : ∀ place : LauncherPlace, place.rank < x.launcher.rank → x.launcher.holds = false →
      x.launcher ≠ .joined →
      (x.lock .launcher fun x => { x with launcher := place }).1.rank < x.rank ∨
        0 < x.main.rank ∧ (x.lock .launcher fun x => { x with launcher := place }).1 = x := by
    intro place closer outside alive
    unfold HelperState.lock
    rw [if_pos (sound.usable.mpr alive)]
    split
    · exact Or.inl (Nat.add_lt_add_right closer _)
    · next taken =>
        refine Or.inr ⟨?_, rfl⟩
        refine rank_pos_of_holds ?_
        cases held : x.main.holds with
        | true => rfl
        | false => exact absurd (by rw [sound.holder, held, outside]; rfl) taken
  unfold HelperState.launchThelper
  cases here : x.launcher with
  | create => exact absurd here created
  | launched | joined =>
      left
      show x.launcher.rank = 0
      rw [here]
      rfl
  | joining =>
      left
      simp only []
      split <;> rfl
  | destroy | returnExit => exact Or.inl rfl
  | waiting =>
      have far := rank_pos_of_not_signalled (sound.waiting here)
      exact Or.inr (Or.inr ⟨⟨rfl, far⟩, rfl⟩)
  | lock =>
      have taken := lock .test (by rw [here]; decide) (by rw [here]; rfl) (by simp [here])
      exact Or.inr (taken.imp_right fun both => ⟨⟨rfl, both.1⟩, both.2⟩)
  | woken =>
      have taken := lock .unlock (by rw [here]; decide) (by rw [here]; rfl) (by simp [here])
      exact Or.inr (taken.imp_right fun both => ⟨⟨rfl, both.1⟩, both.2⟩)
  | unlock =>
      refine Or.inr (Or.inl ?_)
      rw [HelperState.rank, HelperState.rank, here]
      exact Nat.add_lt_add_right (show 1 < 2 by decide) _
  | test =>
      refine Or.inr (Or.inl ?_)
      rw [HelperState.rank, HelperState.rank, here]
      simp only [HelperState.awaitReady]
      split
      · exact Nat.add_lt_add_right (show 4 < 5 by decide) _
      · exact Nat.add_lt_add_right (show 2 < 5 by decide) _

/-- What other steps leave as it is does no harm. -/
theorem harmless_of_same {y : HelperState κ} (launcher : y.launcher = x.launcher)
    (main : y.main = x.main) : y.rank = x.rank ∧
      ∀ later : HelperInput ε, x.Helps later → y.Helps later := by
  unfold HelperState.rank HelperState.Helps
  rw [launcher, main]
  exact ⟨rfl, fun _ helping => helping⟩

variable (procs) (change : κ → ε → κ)

/-- The thread is created, or it could not be. -/
def Created (x : HelperState κ) : Prop := HelperSound x ∧ x.launcher ≠ .create

variable {procs}

/-- A thread that has not come back from `loc_eng_dmn_conn_launch_thelper` has a child. -/
theorem Created.present (created : Created x) (pending : x.launcher.rank ≠ 0) :
    x.main ≠ .absent := by
  intro absent
  rcases created.1.absent.mp absent with early | failed
  · exact created.2 early
  · rw [failed] at pending
    exact pending rfl

/-- The child moves the launching thread only by its signal. -/
theorem thelperMain_launcher (procs : ThreadProcs κ) (x : HelperState κ) :
    (x.thelperMain procs).1.launcher = x.launcher ∨
      x.launcher = .waiting ∧ (x.thelperMain procs).1.launcher = .woken ∧
        (x.thelperMain procs).1.main.signalled = true := by
  have answered : ∀ (which : ThreadProc) (next : ℤ → MainPlace),
      (x.callProc procs which next).1.launcher = x.launcher := by
    intro which next
    unfold HelperState.callProc
    split
    · rfl
    · split <;> rfl
  unfold HelperState.thelperMain
  split
  case h_2 | h_7 | h_9 | h_12 => exact Or.inl (answered _ _)
  case h_4 =>
    left
    unfold HelperState.lock
    split
    · split <;> rfl
    · rfl
  case h_5 =>
    unfold HelperState.signalReady
    split
    · next waiting => exact Or.inr ⟨waiting, rfl, rfl⟩
    · exact Or.inl rfl
  all_goals exact Or.inl rfl

theorem launchThelper_not_create (created : x.launcher ≠ .create) :
    x.launchThelper.1.launcher ≠ .create := by
  unfold HelperState.launchThelper HelperState.awaitReady HelperState.lock
  split
  case h_1 | h_3 =>
    split
    · split
      · exact fun same => nomatch same
      · exact created
    · exact fun same => nomatch same
  case h_2 =>
    split <;> exact fun same => nomatch same
  case h_6 =>
    simp only []
    split <;> exact fun same => nomatch same
  case h_4 | h_5 | h_7 => exact fun same => nomatch same
  all_goals exact created

theorem joinThelper_cases (x : HelperState κ) :
    x.joinThelper = x ∨ x.joinThelper.launcher = .joining ∧ x.launcher.rank = 0 := by
  unfold HelperState.joinThelper
  split
  · next here =>
      split
      · exact Or.inl rfl
      · exact Or.inr ⟨rfl, by rw [here]; rfl⟩
  · exact Or.inl rfl

/-- `loc_eng_dmn_conn_join_thelper` does not touch the child. -/
theorem joinThelper_child (x : HelperState κ) :
    x.joinThelper.thelper = x.thelper ∧ x.joinThelper.main = x.main ∧
      x.joinThelper.context = x.context := by
  unfold HelperState.joinThelper
  split
  · split <;> exact ⟨rfl, rfl, rfl⟩
  · exact ⟨rfl, rfl, rfl⟩

/-- What the launching thread has behind it stays behind it. -/
theorem Created.step (created : Created x) (input : HelperInput ε) :
    Created ((threadHelper procs change).step x input).1 ∧
      (x.launcher.rank = 0 → ((threadHelper procs change).step x input).1.launcher.rank = 0) := by
  have sound := created.1.step procs change input
  cases input with
  | create flag =>
      have same : (x.createThread flag).1 = x := by
        unfold HelperState.createThread
        split
        · next here => exact absurd here created.2
        · rfl
      simp only [threadHelper, same]
      exact ⟨created, id⟩
  | launcher =>
      refine ⟨⟨sound, launchThelper_not_create created.2⟩, fun done => ?_⟩
      rcases launchThelper_rank created.1 created.2 with zero | lower | ⟨-, same⟩
      · exact zero
      · have child := (launchThelper_child x).1
        unfold HelperState.rank at lower
        rw [child] at lower
        exact absurd lower (by omega)
      · exact (congrArg (fun y : HelperState κ => y.launcher.rank) same).trans done
  | child =>
      rcases thelperMain_launcher procs x with same | ⟨waiting, woken, -⟩
      · refine ⟨⟨sound, ?_⟩, fun done => ?_⟩
        · exact fun early => created.2 (same.symm.trans early)
        · exact (congrArg LauncherPlace.rank same).trans done
      · refine ⟨⟨sound, ?_⟩, fun done => ?_⟩
        · exact fun early => by cases woken.symm.trans early
        · rw [waiting] at done
          cases done
  | spurious =>
      simp only [threadHelper, HelperState.wakeSpuriously] at sound ⊢
      split at sound
      · next waiting =>
          rw [if_pos waiting, waiting]
          exact ⟨⟨sound, fun early => by cases early⟩, fun done => by cases done⟩
      · next awake =>
          rw [if_neg awake]
          exact ⟨⟨sound, created.2⟩, id⟩
  | unblock => exact ⟨⟨sound, created.2⟩, id⟩
  | join =>
      refine ⟨⟨sound, ?_⟩, fun done => ?_⟩
      · rcases joinThelper_cases x with same | ⟨joining, -⟩
        · exact fun early => created.2 ((congrArg HelperState.launcher same).symm.trans early)
        · exact fun early => by cases joining.symm.trans early
      · rcases joinThelper_cases x with same | ⟨joining, -⟩
        · exact (congrArg (fun y : HelperState κ => y.launcher.rank) same).trans done
        · exact congrArg LauncherPlace.rank joining
  | environment event => exact ⟨⟨sound, created.2⟩, id⟩

/-- A step of the child on the way. -/
theorem thelperMain_advances (answers : InitAnswers procs) (created : Created x) :
    (x.thelperMain procs).1.launcher.rank = 0 ∨ (x.thelperMain procs).1.rank < x.rank ∨
      ¬ (x.launcher.holds = false ∧ 0 < x.main.rank) ∧
        (x.thelperMain procs).1.rank = x.rank ∧
          ∀ later : HelperInput ε, x.Helps later → (x.thelperMain procs).1.Helps later := by
  by_cases done : x.launcher.rank = 0
  · exact Or.inl ((created.step (fun context (_ : ε) => context) .child).2 done)
  · by_cases busy : 0 < x.main.rank
    · rcases thelperMain_rank_pos answers created.1 (created.present done) busy with
        lower | ⟨inside, same⟩
      · exact Or.inr (Or.inl lower)
      · refine Or.inr (Or.inr ⟨fun both => ?_, ?_⟩)
        · rw [both.1] at inside
          cases inside
        · rw [same]
          exact ⟨rfl, fun _ helping => helping⟩
    · have zero : x.main.rank = 0 := by omega
      obtain ⟨launcher, still⟩ := @thelperMain_rank_zero _ procs _ zero
      refine Or.inr (Or.inr ⟨fun both => busy both.2, ?_⟩)
      unfold HelperState.rank HelperState.Helps
      rw [launcher, still, zero]
      exact ⟨rfl, fun _ helping => helping⟩

/-- Every step brings the launching thread closer to the end, or it leaves that to those who
can. -/
theorem launch_advances (answers : InitAnswers procs) :
    (threadHelper procs change).Advances Created (fun x => x.launcher.rank = 0) HelperState.rank
      HelperState.Helps (fun _ => True) where
  kept := fun _ input created _ => (created.step change input).1
  stays := fun _ input created _ => (created.step change input).2
  helps := by
    intro x input created _ helping
    unfold HelperState.Helps at helping
    split at helping
    · next childs =>
        subst helping
        rcases thelperMain_advances (ε := ε) answers created with done | lower | ⟨not, -⟩
        · exact Or.inl done
        · exact Or.inr lower
        · exact absurd childs not
    · next launchers =>
        subst helping
        rcases launchThelper_rank created.1 created.2 with done | lower | ⟨childs, -⟩
        · exact Or.inl done
        · exact Or.inr lower
        · exact absurd childs launchers
  harmless := by
    intro x input created _
    have same : ∀ y : HelperState κ, y.launcher = x.launcher → y.main = x.main →
        y.launcher.rank = 0 ∨ y.rank < x.rank ∨ y.rank = x.rank ∧
          ∀ later : HelperInput ε, x.Helps later → y.Helps later :=
      fun y launcher main => Or.inr (Or.inr (harmless_of_same launcher main))
    cases input with
    | create flag =>
        have left : (x.createThread flag).1 = x := by
          unfold HelperState.createThread
          split
          · next here => exact absurd here created.2
          · rfl
        exact same _ (congrArg HelperState.launcher left) (congrArg HelperState.main left)
    | launcher =>
        rcases launchThelper_rank created.1 created.2 with done | lower | ⟨-, left⟩
        · exact Or.inl done
        · exact Or.inr (Or.inl lower)
        · exact same _ (congrArg HelperState.launcher left) (congrArg HelperState.main left)
    | child =>
        rcases thelperMain_advances (ε := ε) answers created with done | lower | ⟨-, kept⟩
        · exact Or.inl done
        · exact Or.inr (Or.inl lower)
        · exact Or.inr (Or.inr kept)
    | spurious =>
        by_cases waiting : x.launcher = .waiting
        · refine Or.inr (Or.inl ?_)
          simp only [threadHelper, HelperState.wakeSpuriously, HelperState.rank]
          rw [if_pos waiting, waiting]
          exact Nat.add_lt_add_right (show 3 < 4 by decide) _
        · exact same _ (if_neg waiting) rfl
    | unblock => exact same _ rfl rfl
    | environment event => exact same _ rfl rfl
    | join =>
        rcases joinThelper_cases x with left | ⟨joining, -⟩
        · exact same _ (congrArg HelperState.launcher left) (congrArg HelperState.main left)
        · exact Or.inl (congrArg LauncherPlace.rank joining)

variable (procs)

/-- The end of `loc_eng_dmn_conn_launch_thelper` is reported. -/
theorem step_reports (pending : x.launcher.rank ≠ 0) (input : HelperInput ε)
    (back : ((threadHelper procs change).step x input).1.launcher.rank = 0) :
    ∃ result, .launched result ∈ ((threadHelper procs change).step x input).2 := by
  have absurdly : ∀ place : LauncherPlace, place = x.launcher → place.rank = 0 →
      ∃ result, .launched result ∈ ((threadHelper procs change).step x input).2 :=
    fun place same zero => absurd (same ▸ zero) pending
  cases input with
  | create flag =>
      simp only [threadHelper, HelperState.createThread] at back ⊢
      split at back
      · cases flag with
        | true => cases back
        | false => exact ⟨-1, List.mem_singleton.mpr rfl⟩
      · exact absurd back pending
  | launcher =>
      simp only [threadHelper, HelperState.launchThelper] at back ⊢
      cases here : x.launcher with
      | returnExit => exact ⟨_, List.mem_singleton.mpr rfl⟩
      | launched | joining | destroy | joined =>
          rw [here] at pending
          exact absurd rfl pending
      | create | waiting =>
          rw [here] at back
          exact absurd back pending
      | unlock =>
          rw [here] at back
          cases back
      | test =>
          rw [here] at back
          simp only [HelperState.awaitReady] at back
          split at back <;> cases back
      | lock | woken =>
          rw [here] at back
          simp only [HelperState.lock] at back
          split at back
          · split at back
            · cases back
            · exact absurd back pending
          · cases back
  | child =>
      rcases thelperMain_launcher procs x with same | ⟨-, woken, -⟩
      · exact absurdly _ same back
      · simp only [threadHelper] at back
        rw [woken] at back
        cases back
  | spurious =>
      simp only [threadHelper, HelperState.wakeSpuriously] at back
      split at back
      · cases back
      · exact absurd back pending
  | unblock => exact absurd back pending
  | environment event => exact absurd back pending
  | join =>
      rcases joinThelper_cases x with same | ⟨-, zero⟩
      · exact absurdly _ (congrArg HelperState.launcher same) back
      · exact absurd zero pending

theorem run_reports (context : κ) (inputs : List (HelperInput ε))
    (back : ((threadHelper procs change).run (.start context) inputs).launcher.rank = 0) :
    ∃ result, .launched result ∈ (threadHelper procs change).outputs (.start context) inputs := by
  have kept : ∀ (x : HelperState κ) (seen : List HelperEvent) (input : HelperInput ε),
      (x.launcher.rank = 0 → ∃ result, .launched result ∈ seen) →
        ((threadHelper procs change).step x input).1.launcher.rank = 0 →
          ∃ result, .launched result ∈ seen ++ ((threadHelper procs change).step x input).2 := by
    intro x seen input before back
    by_cases done : x.launcher.rank = 0
    · obtain ⟨result, member⟩ := before done
      exact ⟨result, List.mem_append_left _ member⟩
    · obtain ⟨result, member⟩ := step_reports procs change done input back
      exact ⟨result, List.mem_append_right _ member⟩
  have start : (HelperState.start context).launcher.rank = 0 →
      ∃ result, HelperEvent.launched result ∈ [] := fun zero => nomatch zero
  exact Machine.run_history kept start inputs back

theorem LauncherPlace.rank_le {place : LauncherPlace} (late : place ≠ .create) :
    place.rank ≤ 6 := by
  cases place with
  | create => exact absurd rfl late
  | launched => exact Nat.zero_le 6
  | _ => decide

theorem MainPlace.rank_le {place : MainPlace} (present : place ≠ .absent) : place.rank ≤ 5 := by
  cases place with
  | absent => exact absurd rfl present
  | readyLock => exact show 3 ≤ 5 by decide
  | readySignal => exact show 2 ≤ 5 by decide
  | readyUnlock => exact show 1 ≤ 5 by decide
  | _ => decide

theorem Created.rank_le (created : Created x) (pending : x.launcher.rank ≠ 0) : x.rank ≤ 11 :=
  Nat.add_le_add (LauncherPlace.rank_le created.2) (MainPlace.rank_le (created.present pending))

end Launch

/-! ## What the result tells -/

namespace CallRecord

section Passing

variable {κ : Type*} {procs : ThreadProcs κ} {record : CallRecord}

/-- A child that has signalled without `thread_exit` has called `thread_proc_init` with success. -/
theorem At.passed {place : MainPlace} (made : record.At procs false place)
    (signalled : place.signalled = true) :
    ∃ inits, Passed procs .init inits ∧ inits.map (Prod.mk .init) <+: record.calls := by
  have begins : record.inits.map (Prod.mk ThreadProc.init) <+: record.calls := by
    rw [calls, List.append_assoc, List.append_assoc]
    exact List.prefix_append _ _
  refine ⟨record.inits, ?_, begins⟩
  cases place with
  | absent | procInit | initFailed | readyLock | readySignal => cases signalled
  | procPost | returned => cases made.1
  | readyUnlock failed =>
      cases failed with
      | true => cases made.1
      | false =>
          obtain ⟨inits, init, same⟩ := made
          exact same ▸ init
  | procPre =>
      obtain ⟨inits, init, same⟩ := made
      exact same ▸ init
  | preFailed =>
      obtain ⟨inits, init, _, _, same⟩ := made
      exact same ▸ init
  | proc =>
      obtain ⟨inits, _, _, init, _, _, same⟩ := made
      exact same ▸ init
  | procFailed =>
      obtain ⟨inits, _, _, init, _, _, _, same⟩ := made
      exact same ▸ init
  | test =>
      obtain ⟨inits, _, _, init, _, _, same⟩ := made
      exact same ▸ init

theorem Failed.call (failed : record.Failed) : ∃ call ∈ record.calls, call.2 < 0 := by
  obtain ⟨result, member, negative⟩ := failed
  simp only [List.mem_append] at member
  rcases member with (init | pre) | proc
  · exact ⟨(.init, result), by simp [calls, init], negative⟩
  · exact ⟨(.pre, result), by simp [calls, pre], negative⟩
  · exact ⟨(.proc, result), by simp [calls, proc], negative⟩

end Passing

end CallRecord

/-- What the result of `loc_eng_dmn_conn_launch_thelper` tells about what came before it. -/
def LaunchTells {κ : Type*} (procs : ThreadProcs κ) (seen : List HelperEvent) (result : ℤ) : Prop :=
  (result = 0 ∧ ∃ inits, CallRecord.Passed procs .init inits ∧
      inits.map (Prod.mk .init) <+: calls seen) ∨
    (result = 1 ∧ (.unblocked ∈ seen ∨ ∃ call ∈ calls seen, call.2 < 0)) ∨
    result = -1 ∧ calls seen = []

/-- The same for every event. -/
def EventTells {κ : Type*} (procs : ThreadProcs κ) (seen : List HelperEvent)
    (event : HelperEvent) : Prop :=
  ∀ result, event = .launched result → LaunchTells procs seen result

/-- The launching thread has waited for the signal, or `thread_exit` is set; with 0 it comes
back behind the signal. -/
def Waited {κ : Type*} (x : HelperState κ) : Prop :=
  match x.launcher with
  | .woken => x.main.signalled = true
  | .unlock | .returnExit => x.main.signalled = true ∨ x.thelper.threadExit = true
  | .launched result => result = 0 → x.main.signalled = true
  | _ => True

section Main

variable {κ ε : Type*} (procs : ThreadProcs κ) (change : κ → ε → κ)

variable {x : HelperState κ}

theorem thelperMain_signalled (ready : x.main.signalled = true) :
    (x.thelperMain procs).1.main.signalled = true := by
  have answered : ∀ (which : ThreadProc) (next : ℤ → MainPlace),
      (∀ result, (next result).signalled = true) →
        (x.callProc procs which next).1.main.signalled = true := by
    intro which next after
    unfold HelperState.callProc
    split
    · exact after 0
    · split
      · exact ready
      · exact after _
  unfold HelperState.thelperMain
  cases here : x.main with
  | absent | procInit | initFailed | readyLock | readySignal =>
      rw [here] at ready
      cases ready
  | returned => exact ready
  | readyUnlock failed => cases failed <;> rfl
  | preFailed | procFailed => rfl
  | procPre | proc =>
      refine answered _ _ fun result => ?_
      split <;> rfl
  | procPost => exact answered _ _ fun _ => rfl
  | test =>
      simp only []
      split <;> rfl

/-- Without a spurious wake-up the launching thread waits for the signal. -/
theorem Waited.step (waited : Waited x) (sound : HelperSound x) {input : HelperInput ε}
    (quiet : input ≠ .spurious) : Waited ((threadHelper procs change).step x input).1 := by
  have kept : ∀ y : HelperState κ, y.launcher = x.launcher →
      (x.main.signalled = true → y.main.signalled = true) →
      (x.thelper.threadExit = true → y.thelper.threadExit = true) → Waited y := by
    intro y launcher ready exit
    unfold Waited at waited ⊢
    rw [launcher]
    cases here : x.launcher with
    | woken =>
        rw [here] at waited
        exact ready waited
    | unlock | returnExit =>
        rw [here] at waited
        exact waited.imp ready exit
    | launched result =>
        rw [here] at waited
        exact fun zero => ready (waited zero)
    | _ => trivial
  cases input with
  | spurious => exact absurd rfl quiet
  | unblock => exact kept _ rfl id fun _ => rfl
  | environment event => exact kept _ rfl id id
  | create flag =>
      simp only [threadHelper, HelperState.createThread]
      split
      · split
        · trivial
        · exact fun zero => by cases zero
      · exact waited
  | join =>
      simp only [threadHelper, HelperState.joinThelper]
      split
      · split
        · exact waited
        · trivial
      · exact waited
  | child =>
      rcases thelperMain_launcher procs x with same | ⟨-, woken, signalled⟩
      · exact kept _ same (thelperMain_signalled procs) thelperMain_exit
      · unfold Waited
        simp only [threadHelper]
        rw [woken]
        exact signalled
  | launcher =>
      simp only [threadHelper, HelperState.launchThelper]
      cases here : x.launcher with
      | create | waiting | launched | joined => exact waited
      | destroy => trivial
      | returnExit =>
          unfold Waited at waited
          rw [here] at waited
          cases exit : x.thelper.threadExit with
          | true => exact fun zero => by cases zero
          | false => exact fun _ => waited.resolve_right (by simp [exit])
      | joining =>
          by_cases returned : x.main = .returned
          · simp only [if_pos returned]
            trivial
          · simp only [if_neg returned]
            trivial
      | lock =>
          simp only [HelperState.lock]
          split
          · split
            · trivial
            · exact waited
          · trivial
      | test =>
          simp only [HelperState.awaitReady]
          split
          · trivial
          · next ready =>
              show x.main.signalled = true ∨ x.thelper.threadExit = true
              rw [← sound.ready]
              cases signalled : x.thelper.threadReady with
              | true => exact Or.inl rfl
              | false =>
                  refine Or.inr ?_
                  cases exit : x.thelper.threadExit with
                  | true => rfl
                  | false => exact absurd ⟨signalled, exit⟩ ready
      | woken =>
          unfold Waited at waited
          rw [here] at waited
          simp only [HelperState.lock]
          split
          · split
            · exact Or.inl waited
            · unfold Waited
              rw [here]
              exact waited
          · exact Or.inl waited
      | unlock =>
          unfold Waited at waited
          rw [here] at waited
          exact waited

/-- What is not a return of `loc_eng_dmn_conn_launch_thelper`. -/
theorem not_launched_misused {proper : Prop} [Decidable proper] {result : ℤ} :
    .launched result ∉ if proper then [] else [HelperEvent.misused] := by
  split <;> simp

theorem not_launched_lock (party : HelperParty) (next : HelperState κ → HelperState κ)
    {result : ℤ} : .launched result ∉ (x.lock party next).2 := by
  unfold HelperState.lock
  split
  · split
    · exact List.not_mem_nil
    · exact not_launched_misused
  · simp

theorem not_launched_thelperMain {result : ℤ} : .launched result ∉ (x.thelperMain procs).2 := by
  have answered : ∀ (which : ThreadProc) (next : ℤ → MainPlace),
      .launched result ∉ (x.callProc procs which next).2 := by
    intro which next
    unfold HelperState.callProc
    split
    · exact List.not_mem_nil
    · split <;> simp
  unfold HelperState.thelperMain
  split
  case h_2 | h_7 | h_9 | h_12 => exact answered _ _
  case h_4 => exact not_launched_lock _ _
  case h_5 | h_6 => exact not_launched_misused
  all_goals exact List.not_mem_nil

/-- What the launching thread returns, it returns for a reason. -/
theorem step_tells {seen : List HelperEvent} (sound : HelperSound x)
    (observed : Observed procs x seen) (waited : Waited x) {input : HelperInput ε} {result : ℤ}
    (told : .launched result ∈ ((threadHelper procs change).step x input).2) :
    ((threadHelper procs change).step x input).2 = [.launched result] ∧
      LaunchTells procs seen result := by
  obtain ⟨record, same, made, reason⟩ := observed
  cases input with
  | child => exact absurd told (not_launched_thelperMain procs)
  | spurious | join | environment => exact absurd told List.not_mem_nil
  | unblock => simp [threadHelper, HelperState.unblockThelper] at told
  | create flag =>
      simp only [threadHelper, HelperState.createThread] at told ⊢
      split at told
      · next here =>
          cases flag with
          | true => exact absurd told List.not_mem_nil
          | false =>
              obtain rfl : result = -1 := by simpa using told
              refine ⟨rfl, Or.inr (Or.inr ⟨rfl, ?_⟩)⟩
              rw [sound.absent.mpr (Or.inl here)] at made
              have empty : record = ⟨[], [], [], []⟩ := made
              rw [same, empty]
              rfl
      · exact absurd told List.not_mem_nil
  | launcher =>
      simp only [threadHelper, HelperState.launchThelper] at told ⊢
      cases here : x.launcher with
      | create | waiting | launched | joined | joining =>
          rw [here] at told
          exact absurd told List.not_mem_nil
      | lock | woken =>
          rw [here] at told
          exact absurd told (not_launched_lock _ _)
      | unlock | destroy =>
          rw [here] at told
          exact absurd told not_launched_misused
      | test =>
          rw [here] at told
          simp only [HelperState.awaitReady] at told
          split at told
          · exact absurd told not_launched_misused
          · exact absurd told List.not_mem_nil
      | returnExit =>
          rw [here] at told
          unfold Waited at waited
          rw [here] at waited
          obtain rfl : result = if x.thelper.threadExit then 1 else 0 := by simpa using told
          refine ⟨rfl, ?_⟩
          cases exit : x.thelper.threadExit with
          | true =>
              refine Or.inr (Or.inl ⟨rfl, (reason exit).imp_right fun failed => ?_⟩)
              rw [same]
              exact failed.call
          | false =>
              refine Or.inl ⟨rfl, ?_⟩
              rw [exit] at made
              rw [same]
              exact made.passed (waited.resolve_right (by simp [exit]))

/-- **What `loc_eng_dmn_conn_launch_thelper` returns can be relied on**, unless
`pthread_cond_wait` returns spuriously: with 0 the child has called `thread_proc_init` with
success, and with 1 a function has failed or `thread_exit` has been set from outside. -/
theorem launched_ready (context : κ) {inputs : List (HelperInput ε)}
    (quiet : ∀ input ∈ inputs, input ≠ .spurious) {earlier later : List HelperEvent} {result : ℤ}
    (split : (threadHelper procs change).outputs (.start context) inputs =
      earlier ++ .launched result :: later) : LaunchTells procs earlier result := by
  have kept : ∀ (x : HelperState κ) (seen : List HelperEvent) (input : HelperInput ε),
      HelperSound x ∧ Observed procs x seen ∧ Waited x → input ≠ .spurious →
        HelperSound ((threadHelper procs change).step x input).1 ∧
          Observed procs ((threadHelper procs change).step x input).1
            (seen ++ ((threadHelper procs change).step x input).2) ∧
          Waited ((threadHelper procs change).step x input).1 :=
    fun x seen input ⟨sound, observed, waited⟩ quiet =>
      ⟨sound.step procs change input, observed.step procs change sound input,
        waited.step procs change sound quiet⟩
  have fact : ∀ (x : HelperState κ) (seen : List HelperEvent) (input : HelperInput ε),
      HelperSound x ∧ Observed procs x seen ∧ Waited x → input ≠ .spurious →
        ∀ before event after,
          ((threadHelper procs change).step x input).2 = before ++ event :: after →
            EventTells procs (seen ++ before) event := by
    rintro x seen input ⟨sound, observed, waited⟩ - before event after emitted result rfl
    have told : .launched result ∈ ((threadHelper procs change).step x input).2 := by
      rw [emitted]
      simp
    obtain ⟨only, tells⟩ := step_tells procs change sound observed waited told
    rw [only] at emitted
    cases before with
    | nil => rwa [List.append_nil]
    | cons first more => simp at emitted
  have start : HelperSound (HelperState.start context) ∧
      Observed procs (HelperState.start context) [] ∧ Waited (HelperState.start context) :=
    ⟨HelperSound.start context, Observed.start procs context, trivial⟩
  exact Machine.run_events kept fact start quiet split result rfl

theorem launched_ready_zero :
    LaunchTells (fun _ => some fun context : Unit => some (0, context)) [.called .init 0] 0 :=
  @launched_ready _ _ (fun _ => some fun context => some (0, context))
    (fun (context : Unit) (_ : Unit) => context) ()
    [.create true, .launcher, .launcher, .child, .child, .child, .child, .launcher, .launcher,
      .launcher]
    (by decide) [.called .init 0] [] 0 rfl

/-- With a spurious wake-up, 0 is returned before anything has been called. -/
example : (threadHelper (fun _ => some fun context => some (0, context))
    (fun (context : Unit) (_ : Unit) => context)).outputs (.start ())
      [.create true, .launcher, .launcher, .spurious, .launcher, .launcher, .launcher] =
    [.launched 0] := rfl

end Main

end Msm8660.Gps
