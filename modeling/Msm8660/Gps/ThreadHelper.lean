import Msm8660.Lib.Machine

/-!
# The thread helper

`loc_eng_dmn_conn_launch_thelper` creates a thread for `thelper_main` and waits until it has
called `thread_proc_init`. The thread calls the other functions in their turn, until
`thread_exit` is set, by itself or by `loc_eng_dmn_conn_unblock_thelper`. The launching
thread, the child and whoever unblocks it take their steps in any order, and the context of
the functions may change at any time.

`thread_exit` is written outside the mutex and read on both sides of it, so reads and writes
of it are steps of their own. A critical section without a write of `thread_exit` in it is
cut where the mutex is taken and released. `thelper_signal_wait` looks at its condition once,
so a spurious wake-up ends it early: `loc_eng_dmn_conn_launch_thelper` may then return before
`thread_proc_init` has, and `launched_ready` excludes it.
-/

set_option autoImplicit false

namespace Msm8660.Gps

/-! ## The helper -/

/-- The functions of a helper thread. -/
inductive ThreadProc where
  | init
  | pre
  | proc
  | post
deriving DecidableEq, Repr

/-- What is stored as `thread_proc_init` and so on; `none` is a null pointer. A function
returns a number and changes its context, or it blocks. -/
abbrev ThreadProcs (κ : Type*) := ThreadProc → Option (κ → Option (ℤ × κ))

/-- Who may hold `thread_mutex`. -/
inductive HelperParty where
  | launcher
  | child
deriving DecidableEq, Repr

/-- The shared fields of `struct loc_eng_dmn_conn_thelper`. The mutex is its holder, and
`usable` tells whether the mutex and the condition variable are not destroyed yet. -/
structure Thelper where
  threadExit : Bool
  threadReady : Bool
  threadMutex : Option HelperParty
  usable : Bool
deriving DecidableEq, Repr

/-- `thelper_signal_init`. -/
def thelperSignalInit : Thelper := ⟨false, false, none, true⟩

/-- Where the child is in `thelper_main`. The flag tells the call of `thelper_signal_ready`
behind a failure from the other one. -/
inductive MainPlace where
  | absent
  | procInit
  | initFailed
  | readyLock (failed : Bool)
  | readySignal (failed : Bool)
  | readyUnlock (failed : Bool)
  | procPre
  | preFailed
  | proc
  | procFailed
  | test
  | procPost
  | returned
deriving DecidableEq, Repr

/-- Where the launching thread is in `loc_eng_dmn_conn_launch_thelper`, and then in
`loc_eng_dmn_conn_join_thelper`. -/
inductive LauncherPlace where
  | create
  | lock
  | test
  | waiting
  | woken
  | unlock
  | returnExit
  | launched (result : ℤ)
  | joining
  | destroy
  | joined
deriving DecidableEq, Repr

/-- The helper, the two threads and the context of the functions. -/
structure HelperState (κ : Type*) where
  thelper : Thelper
  launcher : LauncherPlace
  main : MainPlace
  context : κ

/-- What can be observed. -/
inductive HelperEvent where
  | called (which : ThreadProc) (result : ℤ)
  | launched (result : ℤ)
  | unblocked
  /-- The mutex or the condition variable is used behind its end, or the mutex is taken by the
  thread that holds it already or released by one that does not. -/
  | misused
deriving DecidableEq, Repr

namespace HelperState

variable {κ : Type*} (x : HelperState κ)

/-- `pthread_mutex_lock`, with what follows once the mutex is taken. Who holds it already waits
for ever. -/
def lock (party : HelperParty) (next : HelperState κ → HelperState κ) :
    HelperState κ × List HelperEvent :=
  if x.thelper.usable then
    if x.thelper.threadMutex = none then
      (next { x with thelper := { x.thelper with threadMutex := some party } }, [])
    else (x, if x.thelper.threadMutex ≠ some party then [] else [.misused])
  else (next x, [.misused])

/-- `pthread_mutex_unlock`, with what follows. -/
def unlock (party : HelperParty) (next : HelperState κ → HelperState κ) :
    HelperState κ × List HelperEvent :=
  (next { x with thelper := { x.thelper with threadMutex := none } },
    if x.thelper.usable = true ∧ x.thelper.threadMutex = some party then [] else [.misused])

/-- "if (!thelper->thread_ready && !thelper->thread_exit)". `pthread_cond_wait` releases the
mutex. -/
def awaitReady : HelperState κ × List HelperEvent :=
  if x.thelper.threadReady = false ∧ x.thelper.threadExit = false then
    x.unlock .launcher fun x => { x with launcher := .waiting }
  else ({ x with launcher := .unlock }, [])

/-- "thelper->thread_ready = 1", and `pthread_cond_signal`. -/
def signalReady (failed : Bool) : HelperState κ × List HelperEvent :=
  ({ x with
      thelper := { x.thelper with threadReady := true }
      launcher := if x.launcher = .waiting then .woken else x.launcher
      main := .readyUnlock failed },
    if x.thelper.usable then [] else [.misused])

/-- "thelper->thread_exit = 1", with what follows. -/
def exitThread (next : MainPlace) : HelperState κ × List HelperEvent :=
  ({ x with thelper := { x.thelper with threadExit := true }, main := next }, [])

/-- A call of a function unless its pointer is null, with what follows for its result. -/
def callProc (procs : ThreadProcs κ) (which : ThreadProc) (next : ℤ → MainPlace) :
    HelperState κ × List HelperEvent :=
  match procs which with
  | none => ({ x with main := next 0 }, [])
  | some threadProc =>
      match threadProc x.context with
      | none => (x, [])
      | some (result, context) =>
          ({ x with context := context, main := next result }, [.called which result])

/-- A step of the child in `thelper_main`. -/
def thelperMain (procs : ThreadProcs κ) : HelperState κ × List HelperEvent :=
  match x.main with
  | .absent => (x, [])
  | .procInit => x.callProc procs .init fun result =>
      if result < 0 then .initFailed else .readyLock false
  | .initFailed => x.exitThread (.readyLock true)
  | .readyLock failed => x.lock .child fun x => { x with main := .readySignal failed }
  | .readySignal failed => x.signalReady failed
  | .readyUnlock failed => x.unlock .child fun x =>
      { x with main := if failed then .returned else .procPre }
  | .procPre => x.callProc procs .pre fun result => if result < 0 then .preFailed else .proc
  | .preFailed => x.exitThread .returned
  | .proc => x.callProc procs .proc fun result => if result < 0 then .procFailed else .test
  | .procFailed => x.exitThread .test
  | .test => ({ x with main := if x.thelper.threadExit then .procPost else .proc }, [])
  | .procPost => x.callProc procs .post fun _ => .returned
  | .returned => (x, [])

/-- `pthread_create`, which may fail. -/
def createThread (created : Bool) : HelperState κ × List HelperEvent :=
  match x.launcher with
  | .create =>
      if created then ({ x with launcher := .lock, main := .procInit }, [])
      else ({ x with launcher := .launched (-1) }, [.launched (-1)])
  | _ => (x, [])

/-- A step of the launching thread behind `pthread_create`: `thelper_signal_wait`, whose result
is not looked at, "return thelper->thread_exit", and `loc_eng_dmn_conn_join_thelper`. -/
def launchThelper : HelperState κ × List HelperEvent :=
  match x.launcher with
  | .lock => x.lock .launcher fun x => { x with launcher := .test }
  | .test => x.awaitReady
  | .woken => x.lock .launcher fun x => { x with launcher := .unlock }
  | .unlock => x.unlock .launcher fun x => { x with launcher := .returnExit }
  | .returnExit =>
      let result := if x.thelper.threadExit then 1 else 0
      ({ x with launcher := .launched result }, [.launched result])
  | .joining => ({ x with launcher := if x.main = .returned then .destroy else .joining }, [])
  | .destroy =>
      ({ x with thelper := { x.thelper with usable := false }, launcher := .joined },
        if x.thelper.usable = true ∧ x.thelper.threadMutex = none then [] else [.misused])
  | .create | .waiting | .launched _ | .joined => (x, [])

/-- `pthread_cond_wait` returns without a signal. -/
def wakeSpuriously : HelperState κ :=
  { x with launcher := if x.launcher = .waiting then .woken else x.launcher }

/-- `loc_eng_dmn_conn_unblock_thelper`. -/
def unblockThelper : HelperState κ × List HelperEvent :=
  ({ x with thelper := { x.thelper with threadExit := true } }, [.unblocked])

/-- `loc_eng_dmn_conn_join_thelper` is called for a thread that has been created. -/
def joinThelper : HelperState κ :=
  match x.launcher with
  | .launched _ => if x.main = .absent then x else { x with launcher := .joining }
  | _ => x

end HelperState

/-- One atomic step. The context may change by an event of the environment. -/
inductive HelperInput (ε : Type*) where
  | create (created : Bool)
  | launcher
  | child
  | spurious
  | unblock
  | join
  | environment (event : ε)
deriving DecidableEq

section System

variable {κ ε : Type*}

/-- The helper from the end of `thelper_signal_init` on. -/
def threadHelper (procs : ThreadProcs κ) (change : κ → ε → κ) :
    Machine (HelperState κ) (HelperInput ε) HelperEvent where
  step x input := match input with
    | .create created => x.createThread created
    | .launcher => x.launchThelper
    | .child => x.thelperMain procs
    | .spurious => (x.wakeSpuriously, [])
    | .unblock => x.unblockThelper
    | .join => (x.joinThelper, [])
    | .environment event => ({ x with context := change x.context event }, [])

def HelperState.start (context : κ) : HelperState κ :=
  ⟨thelperSignalInit, .create, .absent, context⟩

end System

/-! ## The context of a helper -/

section Context

variable {κ ε : Type*} (procs : ThreadProcs κ) (change : κ → ε → κ)

/-- A function leaves the context that it returns, or it blocks. -/
theorem callProc_context (x : HelperState κ) (which : ThreadProc) (next : ℤ → MainPlace) :
    (x.callProc procs which next).1.context = x.context ∨
      ∃ threadProc result, procs which = some threadProc ∧
        threadProc x.context = some (result, (x.callProc procs which next).1.context) := by
  unfold HelperState.callProc
  cases found : procs which with
  | none => exact Or.inl rfl
  | some threadProc =>
      cases called : threadProc x.context with
      | none => simp only [called, true_or]
      | some answer => exact Or.inr ⟨threadProc, answer.1, rfl, by simp only [called]⟩

/-- **What a step does to the context of the functions**: nothing, or what one of them does, or
what the environment does. -/
theorem step_context (x : HelperState κ) (input : HelperInput ε) :
    (((threadHelper procs change).step x input).1.context = x.context ∧
        ∀ event, input ≠ .environment event) ∨
      (input = .child ∧ ∃ which threadProc result, procs which = some threadProc ∧
        threadProc x.context =
          some (result, ((threadHelper procs change).step x input).1.context)) ∨
      ∃ event, input = .environment event ∧
        ((threadHelper procs change).step x input).1.context = change x.context event := by
  cases input with
  | environment event => exact Or.inr (Or.inr ⟨event, rfl, rfl⟩)
  | create created =>
      refine Or.inl ⟨?_, by simp⟩
      simp only [threadHelper, HelperState.createThread]
      split
      · split <;> rfl
      · rfl
  | launcher =>
      refine Or.inl ⟨?_, by simp⟩
      simp only [threadHelper, HelperState.launchThelper, HelperState.awaitReady,
        HelperState.lock, HelperState.unlock]
      split
      case h_1 | h_3 =>
        split
        · split <;> rfl
        · rfl
      case h_2 => split <;> rfl
      all_goals rfl
  | child =>
      have called : ∀ (which : ThreadProc) (next : ℤ → MainPlace),
          (x.callProc procs which next).1.context = x.context ∨
            ∃ other threadProc result, procs other = some threadProc ∧ threadProc x.context =
              some (result, (x.callProc procs which next).1.context) := fun which next =>
        (callProc_context procs x which next).imp_right fun ⟨threadProc, result, found, here⟩ =>
          ⟨which, threadProc, result, found, here⟩
      have made : (x.thelperMain procs).1.context = x.context ∨
          ∃ which threadProc result, procs which = some threadProc ∧ threadProc x.context =
            some (result, (x.thelperMain procs).1.context) := by
        unfold HelperState.thelperMain
        cases x.main with
        | procInit => exact called .init _
        | procPre => exact called .pre _
        | proc => exact called .proc _
        | procPost => exact called .post _
        | readyLock failed =>
            left
            simp only [HelperState.lock]
            split
            · split <;> rfl
            · rfl
        | _ => exact Or.inl rfl
      exact made.elim (fun same => Or.inl ⟨same, by simp⟩) fun some_ => Or.inr (Or.inl ⟨rfl, some_⟩)
  | spurious | unblock => exact Or.inl ⟨rfl, by simp⟩
  | join =>
      refine Or.inl ⟨?_, by simp⟩
      simp only [threadHelper, HelperState.joinThelper]
      split
      · split <;> rfl
      · rfl

end Context

/-! ## The mutex and the condition variable -/

/-- The child has signalled that it is ready. -/
def MainPlace.signalled : MainPlace → Bool
  | .absent | .procInit | .initFailed | .readyLock _ | .readySignal _ => false
  | .readyUnlock _ | .procPre | .preFailed | .proc | .procFailed | .test | .procPost
  | .returned => true

/-- The child is in its critical section. -/
def MainPlace.holds : MainPlace → Bool
  | .readySignal _ | .readyUnlock _ => true
  | _ => false

/-- The launching thread is in its critical section. -/
def LauncherPlace.holds : LauncherPlace → Bool
  | .test | .unlock => true
  | _ => false

/-- The mutex is held by the thread that is in its critical section, the launching thread waits
for no signal that has been given, and the two are destroyed when the child has returned. -/
structure HelperSound {κ : Type*} (x : HelperState κ) : Prop where
  usable : x.thelper.usable = true ↔ x.launcher ≠ .joined
  holder : x.thelper.threadMutex =
    if x.main.holds then some .child else if x.launcher.holds then some .launcher else none
  exclusive : x.main.holds = true → x.launcher.holds = false
  absent : x.main = .absent ↔ x.launcher = .create ∨ x.launcher = .launched (-1)
  ended : x.launcher = .destroy ∨ x.launcher = .joined → x.main = .returned
  ready : x.thelper.threadReady = x.main.signalled
  waiting : x.launcher = .waiting → x.main.signalled = false

namespace HelperSound

section Steps

variable {κ : Type*} {x : HelperState κ}

theorem start (context : κ) : HelperSound (HelperState.start context) where
  usable := by simp [HelperState.start, thelperSignalInit]
  holder := rfl
  exclusive := fun _ => rfl
  absent := by simp [HelperState.start]
  ended := by simp [HelperState.start]
  ready := rfl
  waiting := by simp [HelperState.start]

/-- Both are usable as long as one of the threads is at work. -/
theorem usable_of_main (sound : HelperSound x) (working : x.main ≠ .returned) :
    x.thelper.usable = true :=
  sound.usable.mpr fun joined => working (sound.ended (Or.inr joined))

/-- The child leaves one place for another, neither of them in its critical section. -/
theorem move (sound : HelperSound x) {place : MainPlace} (created : x.main ≠ .absent)
    (working : x.main ≠ .returned) (outside : x.main.holds = false) (present : place ≠ .absent)
    (free : place.holds = false) (same : place.signalled = x.main.signalled) (context : κ)
    (threadExit : Bool) :
    HelperSound { x with
      thelper := { x.thelper with threadExit := threadExit }
      main := place
      context := context } where
  usable := sound.usable
  holder := by
    have holder := sound.holder
    rw [outside] at holder
    simpa [free] using holder
  exclusive := fun inside => absurd inside (by simp [free])
  absent := iff_of_false present fun early => created (sound.absent.mpr early)
  ended := fun finished => absurd (sound.ended finished) working
  ready := sound.ready.trans same.symm
  waiting := fun waits => same.trans (sound.waiting waits)

theorem callProc (sound : HelperSound x) (procs : ThreadProcs κ) (which : ThreadProc)
    {next : ℤ → MainPlace} (created : x.main ≠ .absent) (working : x.main ≠ .returned)
    (outside : x.main.holds = false)
    (allowed : ∀ result, next result ≠ .absent ∧ (next result).holds = false ∧
      (next result).signalled = x.main.signalled) :
    HelperSound (x.callProc procs which next).1 := by
  have moved : ∀ result context, HelperSound { x with context := context, main := next result } :=
    fun result context => sound.move created working outside (allowed result).1
      (allowed result).2.1 (allowed result).2.2 context x.thelper.threadExit
  unfold HelperState.callProc
  split
  · exact moved 0 x.context
  · split
    · exact sound
    · exact moved _ _

/-- The child takes the mutex. -/
theorem readyLock (sound : HelperSound x) {failed : Bool} (here : x.main = .readyLock failed) :
    HelperSound (x.lock .child fun x => { x with main := .readySignal failed }).1 := by
  have usable := sound.usable_of_main (by simp [here])
  unfold HelperState.lock
  rw [if_pos usable]
  split
  · next free =>
      have outside : x.launcher.holds = false := by
        have holder := sound.holder
        rw [free, here] at holder
        simpa [MainPlace.holds] using holder
      have early : x.launcher ≠ .create ∧ x.launcher ≠ .launched (-1) := by
        have absent := sound.absent
        simpa [here] using absent
      exact {
        usable := sound.usable
        holder := rfl
        exclusive := fun _ => outside
        absent := iff_of_false (fun absent => nomatch absent) (by simp [early])
        ended := fun finished => by simpa [here] using sound.ended finished
        ready := by
          have ready := sound.ready
          rwa [here] at ready
        waiting := fun _ => rfl }
  · exact sound

/-- The child signals, which wakes the launching thread up if it waits. -/
theorem signalReady (sound : HelperSound x) {failed : Bool} (here : x.main = .readySignal failed) :
    HelperSound (x.signalReady failed).1 := by
  have outside : x.launcher.holds = false := sound.exclusive (by rw [here]; rfl)
  have holder : x.thelper.threadMutex = some .child := by
    have holder := sound.holder
    rwa [here] at holder
  have absent := sound.absent
  have ended := sound.ended
  have usable := sound.usable
  rw [here] at absent ended
  constructor
  case usable =>
    show x.thelper.usable = true ↔ _
    rw [usable]
    simp only [HelperState.signalReady]
    split <;> simp_all
  case holder => exact holder
  case exclusive =>
    intro _
    simp only [HelperState.signalReady]
    split
    · rfl
    · exact outside
  case absent =>
    simp only [HelperState.signalReady]
    split <;> simp_all
  case ended =>
    simp only [HelperState.signalReady]
    split <;> simp_all
  case ready => rfl
  case waiting =>
    simp only [HelperState.signalReady]
    split <;> simp_all

/-- The child releases the mutex. -/
theorem readyUnlock (sound : HelperSound x) {failed : Bool} (here : x.main = .readyUnlock failed) :
    HelperSound (x.unlock .child fun x =>
      { x with main := if failed then .returned else .procPre }).1 := by
  have outside : x.launcher.holds = false := sound.exclusive (by rw [here]; rfl)
  have absent := sound.absent
  have ready := sound.ready
  have ended := sound.ended
  have waiting := sound.waiting
  rw [here] at absent ready ended waiting
  constructor
  case usable => exact sound.usable
  case holder =>
    show none = if MainPlace.holds (if failed then .returned else .procPre) then
      some HelperParty.child else if x.launcher.holds then some HelperParty.launcher else none
    rw [outside]
    cases failed <;> rfl
  case exclusive => exact fun _ => outside
  case absent =>
    refine iff_of_false ?_ fun early => nomatch absent.mpr early
    cases failed <;> exact fun same => nomatch same
  case ended => exact fun finished => nomatch ended finished
  case ready => cases failed <;> exact ready
  case waiting => exact fun waits => nomatch waiting waits

theorem thelperMain (sound : HelperSound x) (procs : ThreadProcs κ) :
    HelperSound (x.thelperMain procs).1 := by
  unfold HelperState.thelperMain
  cases here : x.main with
  | absent => exact sound
  | returned => exact sound
  | readyLock failed => exact sound.readyLock here
  | readySignal failed => exact sound.signalReady here
  | readyUnlock failed => exact sound.readyUnlock here
  | initFailed =>
      exact sound.move (by simp [here]) (by simp [here]) (by rw [here]; rfl) (by simp) rfl
        (by rw [here]; rfl) x.context true
  | preFailed =>
      exact sound.move (by simp [here]) (by simp [here]) (by rw [here]; rfl) (by simp) rfl
        (by rw [here]; rfl) x.context true
  | procFailed =>
      exact sound.move (by simp [here]) (by simp [here]) (by rw [here]; rfl) (by simp) rfl
        (by rw [here]; rfl) x.context true
  | test =>
      refine sound.move (by simp [here]) (by simp [here]) (by rw [here]; rfl) ?_ ?_ ?_ x.context
        x.thelper.threadExit
      · split <;> simp
      · split <;> rfl
      · rw [here]
        split <;> rfl
  | procInit | procPre | proc | procPost =>
      refine sound.callProc procs _ (by simp [here]) (by simp [here]) (by rw [here]; rfl) ?_
      intro result
      rw [here]
      first
        | exact ⟨by simp, rfl, rfl⟩
        | refine ⟨?_, ?_, ?_⟩ <;> split <;> first | rfl | simp

/-- The launching thread leaves one place for another, neither of them in its critical
section. -/
theorem moveLauncher (sound : HelperSound x) {place : LauncherPlace}
    (outside : x.launcher.holds = false) (free : place.holds = false)
    (early : place = .create ∨ place = .launched (-1) ↔
      x.launcher = .create ∨ x.launcher = .launched (-1))
    (alive : x.launcher ≠ .joined) (present : place ≠ .joined)
    (ended : place = .destroy → x.main = .returned) (awake : place ≠ .waiting) :
    HelperSound { x with launcher := place } where
  usable := iff_of_true (sound.usable.mpr alive) present
  holder := by
    have holder := sound.holder
    rw [outside] at holder
    rw [free]
    exact holder
  exclusive := fun _ => free
  absent := sound.absent.trans early.symm
  ended := fun finished => ended (finished.resolve_right present)
  ready := sound.ready
  waiting := fun waits => absurd waits awake

/-- The launching thread takes the mutex. -/
theorem takeMutex (sound : HelperSound x) {place : LauncherPlace}
    (here : x.launcher = .lock ∨ x.launcher = .woken) (inside : place = .test ∨ place = .unlock) :
    HelperSound (x.lock .launcher fun x => { x with launcher := place }).1 := by
  have usable : x.thelper.usable = true :=
    sound.usable.mpr (by rcases here with here | here <;> simp [here])
  have present : x.main ≠ .absent := by
    rw [Ne, sound.absent]
    rcases here with here | here <;> simp [here]
  unfold HelperState.lock
  rw [if_pos usable]
  split
  · next free =>
      have outside : x.main.holds = false := by
        have holder := sound.holder
        rw [free] at holder
        cases held : x.main.holds with
        | false => rfl
        | true => simp [held] at holder
      constructor
      case usable => exact iff_of_true usable (by rcases inside with rfl | rfl <;> simp)
      case holder => rcases inside with rfl | rfl <;> simp [outside, LauncherPlace.holds]
      case exclusive => exact fun held => absurd held (by simp [outside])
      case absent => exact iff_of_false present (by rcases inside with rfl | rfl <;> simp)
      case ended => rcases inside with rfl | rfl <;> simp
      case ready => exact sound.ready
      case waiting => rcases inside with rfl | rfl <;> simp
  · exact sound

/-- The launching thread releases the mutex, and it waits only if there was no signal. -/
theorem releaseMutex (sound : HelperSound x) {place : LauncherPlace}
    (inside : x.launcher.holds = true)
    (next : place = .waiting ∧ x.thelper.threadReady = false ∨ place = .returnExit) :
    HelperSound (x.unlock .launcher fun x => { x with launcher := place }).1 := by
  have outside : x.main.holds = false := by
    cases held : x.main.holds with
    | false => rfl
    | true => exact absurd (sound.exclusive held) (by simp [inside])
  have here : x.launcher = .test ∨ x.launcher = .unlock := by
    cases place : x.launcher <;> simp_all [LauncherPlace.holds]
  have present : x.main ≠ .absent := by
    rw [Ne, sound.absent]
    rcases here with here | here <;> simp [here]
  constructor
  case usable =>
    refine iff_of_true (sound.usable.mpr ?_) ?_
    · rcases here with here | here <;> simp [here]
    · rcases next with ⟨rfl, -⟩ | rfl <;> simp [HelperState.unlock]
  case holder =>
    rcases next with ⟨rfl, -⟩ | rfl <;>
      simp [HelperState.unlock, outside, LauncherPlace.holds]
  case exclusive => exact fun held => absurd held (by simp [HelperState.unlock, outside])
  case absent =>
    refine iff_of_false present ?_
    rcases next with ⟨rfl, -⟩ | rfl <;> simp [HelperState.unlock]
  case ended => rcases next with ⟨rfl, -⟩ | rfl <;> simp [HelperState.unlock]
  case ready => exact sound.ready
  case waiting =>
    rcases next with ⟨-, silent⟩ | rfl
    · exact fun _ => sound.ready.symm.trans silent
    · simp [HelperState.unlock]

/-- The launching thread finds the child ready, or it waits. -/
theorem awaitReady (sound : HelperSound x) (here : x.launcher = .test) :
    HelperSound x.awaitReady.1 := by
  unfold HelperState.awaitReady
  split
  · next waits => exact sound.releaseMutex (by rw [here]; rfl) (Or.inl ⟨rfl, waits.1⟩)
  · have holder := sound.holder
    have exclusive := sound.exclusive
    rw [here] at holder exclusive
    exact {
      usable := iff_of_true (sound.usable.mpr (by simp [here])) (by simp)
      holder := holder
      exclusive := exclusive
      absent := sound.absent.trans (by simp [here])
      ended := by simp
      ready := sound.ready
      waiting := by simp }

theorem launchThelper (sound : HelperSound x) : HelperSound x.launchThelper.1 := by
  unfold HelperState.launchThelper
  cases here : x.launcher with
  | create => exact sound
  | waiting => exact sound
  | launched => exact sound
  | joined => exact sound
  | lock => exact sound.takeMutex (Or.inl here) (Or.inl rfl)
  | woken => exact sound.takeMutex (Or.inr here) (Or.inr rfl)
  | unlock => exact sound.releaseMutex (by rw [here]; rfl) (Or.inr rfl)
  | test => exact sound.awaitReady here
  | returnExit =>
      refine sound.moveLauncher (by rw [here]; rfl) rfl ?_ (by simp [here]) (by simp) (by simp)
        (by simp)
      rw [here]
      split <;> simp
  | joining =>
      refine sound.moveLauncher (by rw [here]; rfl) ?_ ?_ (by simp [here]) ?_ ?_ ?_
      · split <;> rfl
      · rw [here]
        split <;> simp
      · split <;> simp
      · split
        · next returned => exact fun _ => returned
        · simp
      · split <;> simp
  | destroy =>
      have returned := sound.ended (Or.inl here)
      constructor
      case usable => simp
      case holder =>
        have holder := sound.holder
        rw [here, returned] at holder
        rw [returned]
        exact holder
      case exclusive => exact fun _ => rfl
      case absent => simp [returned]
      case ended => exact fun _ => returned
      case ready => exact sound.ready
      case waiting => simp

theorem createThread (sound : HelperSound x) (created : Bool) :
    HelperSound (x.createThread created).1 := by
  unfold HelperState.createThread
  split
  · next here =>
      have absent := sound.absent.mpr (Or.inl here)
      have holder := sound.holder
      have ready := sound.ready
      rw [here, absent] at holder
      rw [absent] at ready
      split
      · exact {
          usable := iff_of_true (sound.usable.mpr (by simp [here])) (by simp)
          holder := holder
          exclusive := fun _ => rfl
          absent := by simp
          ended := by simp
          ready := ready
          waiting := by simp }
      · refine sound.moveLauncher (by rw [here]; rfl) rfl ?_ (by simp [here]) (by simp)
          (by simp) (by simp)
        simp [here]
  · exact sound

theorem wakeSpuriously (sound : HelperSound x) : HelperSound x.wakeSpuriously := by
  unfold HelperState.wakeSpuriously
  split
  · next here =>
      exact sound.moveLauncher (by rw [here]; rfl) rfl (by simp [here]) (by simp [here]) (by simp)
        (by simp) (by simp)
  · exact sound

theorem joinThelper (sound : HelperSound x) : HelperSound x.joinThelper := by
  unfold HelperState.joinThelper
  split
  · next result here =>
      split
      · exact sound
      · next present =>
          refine sound.moveLauncher (by rw [here]; rfl) rfl ?_ (by simp [here]) (by simp)
            (by simp) (by simp)
          refine iff_of_false (by simp) ?_
          rw [← sound.absent]
          exact present
  · exact sound

end Steps

variable {κ ε : Type*} (procs : ThreadProcs κ) (change : κ → ε → κ)

theorem step {x : HelperState κ} (sound : HelperSound x) (input : HelperInput ε) :
    HelperSound ((threadHelper procs change).step x input).1 := by
  cases input with
  | create created => exact sound.createThread created
  | launcher => exact sound.launchThelper
  | child => exact sound.thelperMain procs
  | spurious => exact sound.wakeSpuriously
  | unblock => exact ⟨sound.usable, sound.holder, sound.exclusive, sound.absent, sound.ended,
      sound.ready, sound.waiting⟩
  | join => exact sound.joinThelper
  | environment event => exact ⟨sound.usable, sound.holder, sound.exclusive, sound.absent,
      sound.ended, sound.ready, sound.waiting⟩

theorem run (context : κ) (inputs : List (HelperInput ε)) :
    HelperSound ((threadHelper procs change).run (.start context) inputs) := by
  have kept : ∀ (x : HelperState κ) (input : HelperInput ε), HelperSound x → True →
      HelperSound ((threadHelper procs change).step x input).1 :=
    fun _ input sound _ => sound.step procs change input
  exact Machine.run_induction kept (start context) fun _ _ => trivial

end HelperSound

end Msm8660.Gps
