import Msm8660.Gps.ThreadHelper

/-!
# The calls of a helper thread

However the steps are interleaved, the functions of a helper are called in their order:
`thread_proc_init`, `thread_proc_pre` if that has not failed, `thread_proc` again and again,
and `thread_proc_post` (`thelperMain_order`). Once `thread_exit` is set from outside,
`thread_proc` is called at most once more.
-/

set_option autoImplicit false

namespace Msm8660.Gps

/-- The calls among the events. -/
def calls (events : List HelperEvent) : List (ThreadProc × ℤ) :=
  events.filterMap fun event =>
    match event with
    | .called which result => some (which, result)
    | _ => none

/-- The results of the calls of each function. -/
structure CallRecord where
  inits : List ℤ
  pres : List ℤ
  rounds : List ℤ
  posts : List ℤ

namespace CallRecord

/-- The calls in the order in which they should be. -/
def calls (record : CallRecord) : List (ThreadProc × ℤ) :=
  record.inits.map (Prod.mk .init) ++ record.pres.map (Prod.mk .pre) ++
    record.rounds.map (Prod.mk .proc) ++ record.posts.map (Prod.mk .post)

/-- A function that is called once, if there is one, has been called with success. -/
def Passed {κ : Type*} (procs : ThreadProcs κ) (which : ThreadProc) (results : List ℤ) : Prop :=
  (procs which).isSome = results.isEmpty.not ∧ results.length ≤ 1 ∧ ∀ result ∈ results, 0 ≤ result

/-- Some call has failed. -/
def Failed (record : CallRecord) : Prop :=
  ∃ result ∈ record.inits ++ record.pres ++ record.rounds, result < 0

/-- What a list of calls has to satisfy. -/
structure InOrder {κ : Type*} (procs : ThreadProcs κ) (unblocked : Prop)
    (record : CallRecord) : Prop where
  once : record.inits.length ≤ 1 ∧ record.pres.length ≤ 1 ∧ record.posts.length ≤ 1
  afterInit : record.pres ++ record.rounds ++ record.posts ≠ [] → Passed procs .init record.inits
  afterPre : record.rounds ++ record.posts ≠ [] → Passed procs .pre record.pres
  goesOn : ∀ result ∈ record.rounds.dropLast, 0 ≤ result
  beforePost : record.posts ≠ [] → (procs .proc).isSome = true → record.rounds ≠ []
  stopped : record.posts ≠ [] → unblocked ∨ ∃ result ∈ record.rounds, result < 0

/-- The calls of `thread_proc` up to the test of `thread_exit`. -/
structure Rounds {κ : Type*} (procs : ThreadProcs κ) (threadExit : Bool) (rounds : List ℤ) :
    Prop where
  goesOn : ∀ result ∈ rounds.dropLast, 0 ≤ result
  called : (procs .proc).isSome = true → rounds ≠ []
  failure : (∃ result ∈ rounds, result < 0) → threadExit = true

/-- The calls that have been made when the child is at a place. -/
def At {κ : Type*} (procs : ThreadProcs κ) (threadExit : Bool) (record : CallRecord) :
    MainPlace → Prop
  | .absent | .procInit => record = ⟨[], [], [], []⟩
  | .initFailed => ∃ result < 0, record = ⟨[result], [], [], []⟩
  | .readyLock true | .readySignal true | .readyUnlock true =>
      threadExit = true ∧ ∃ result < 0, record = ⟨[result], [], [], []⟩
  | .readyLock false | .readySignal false | .readyUnlock false | .procPre =>
      ∃ inits, Passed procs .init inits ∧ record = ⟨inits, [], [], []⟩
  | .preFailed =>
      ∃ inits, Passed procs .init inits ∧ ∃ result < 0, record = ⟨inits, [result], [], []⟩
  | .proc =>
      ∃ inits pres rounds, Passed procs .init inits ∧ Passed procs .pre pres ∧
        (∀ result ∈ rounds, 0 ≤ result) ∧ record = ⟨inits, pres, rounds, []⟩
  | .procFailed =>
      ∃ inits pres rounds, Passed procs .init inits ∧ Passed procs .pre pres ∧
        Rounds procs true rounds ∧ (∃ result ∈ rounds, result < 0) ∧
        record = ⟨inits, pres, rounds, []⟩
  | .test =>
      ∃ inits pres rounds, Passed procs .init inits ∧ Passed procs .pre pres ∧
        Rounds procs threadExit rounds ∧ record = ⟨inits, pres, rounds, []⟩
  | .procPost =>
      threadExit = true ∧ ∃ inits pres rounds, Passed procs .init inits ∧ Passed procs .pre pres ∧
        Rounds procs true rounds ∧ record = ⟨inits, pres, rounds, []⟩
  | .returned =>
      threadExit = true ∧ ((∃ result < 0, record = ⟨[result], [], [], []⟩) ∨
        ∃ inits, Passed procs .init inits ∧ ((∃ result < 0, record = ⟨inits, [result], [], []⟩) ∨
          ∃ pres rounds posts, Passed procs .pre pres ∧ Rounds procs true rounds ∧
            posts.length ≤ 1 ∧ record = ⟨inits, pres, rounds, posts⟩))

/-- One more result. -/
def add (record : CallRecord) : ThreadProc → ℤ → CallRecord
  | .init, result => { record with inits := record.inits ++ [result] }
  | .pre, result => { record with pres := record.pres ++ [result] }
  | .proc, result => { record with rounds := record.rounds ++ [result] }
  | .post, result => { record with posts := record.posts ++ [result] }

/-- The functions that come behind one have not been called. -/
def NoneBehind (record : CallRecord) : ThreadProc → Prop
  | .init => record.pres = [] ∧ record.rounds = [] ∧ record.posts = []
  | .pre => record.rounds = [] ∧ record.posts = []
  | .proc => record.posts = []
  | .post => True

theorem calls_add {record : CallRecord} {which : ThreadProc} (behind : record.NoneBehind which)
    (result : ℤ) : (record.add which result).calls = record.calls ++ [(which, result)] := by
  obtain ⟨inits, pres, rounds, posts⟩ := record
  cases which with
  | init =>
      obtain ⟨rfl, rfl, rfl⟩ := behind
      simp [calls, add]
  | pre =>
      obtain ⟨rfl, rfl⟩ := behind
      simp [calls, add]
  | proc =>
      obtain rfl : posts = [] := behind
      simp [calls, add]
  | post => simp [calls, add]

theorem Failed.add {record : CallRecord} (failed : record.Failed) (which : ThreadProc)
    (result : ℤ) : (record.add which result).Failed := by
  obtain ⟨old, member, negative⟩ := failed
  refine ⟨old, ?_, negative⟩
  simp only [List.mem_append] at member
  cases which <;> simp only [CallRecord.add, List.mem_append] <;> tauto

section Functions

variable {κ : Type*} {procs : ThreadProcs κ}

theorem passed_none {which : ThreadProc} (absent : procs which = none) :
    Passed procs which [] := by
  simp [Passed, absent]

theorem passed_one {which : ThreadProc} (present : (procs which).isSome = true) {result : ℤ}
    (success : 0 ≤ result) : Passed procs which [result] := by
  simp [Passed, present, success]

theorem Rounds.exit {threadExit : Bool} {rounds : List ℤ}
    (made : Rounds procs threadExit rounds) : Rounds procs true rounds :=
  ⟨made.goesOn, made.called, fun _ => rfl⟩

/-- Setting `thread_exit` changes nothing about the calls. -/
theorem At.exit {threadExit : Bool} {record : CallRecord} {place : MainPlace}
    (made : record.At procs threadExit place) : record.At procs true place := by
  match place with
  | .absent | .procInit | .initFailed | .readyLock false | .readySignal false
  | .readyUnlock false | .procPre | .preFailed | .proc | .procFailed => exact made
  | .readyLock true | .readySignal true | .readyUnlock true | .procPost | .returned =>
      exact ⟨rfl, made.2⟩
  | .test =>
      obtain ⟨inits, pres, rounds, init, pre, proc, same⟩ := made
      exact ⟨inits, pres, rounds, init, pre, proc.exit, same⟩

/-- Successful calls of `thread_proc`, and one more. -/
theorem Rounds.add {threadExit : Bool} {rounds : List ℤ} (success : ∀ result ∈ rounds, 0 ≤ result)
    {result : ℤ} (failure : result < 0 → threadExit = true) :
    Rounds procs threadExit (rounds ++ [result]) where
  goesOn := by rwa [List.dropLast_concat]
  called := by simp
  failure := by
    rintro ⟨old, member, negative⟩
    rcases List.mem_append.mp member with earlier | last
    · exact absurd (success old earlier) (by omega)
    · rw [List.mem_singleton.mp last] at negative
      exact failure negative

end Functions

end CallRecord

/-! ## The steps -/

/-- The calls made so far are those that lead to where the child is, and `thread_exit` has a
reason. -/
def Observed {κ : Type*} (procs : ThreadProcs κ) (x : HelperState κ)
    (seen : List HelperEvent) : Prop :=
  ∃ record : CallRecord, calls seen = record.calls ∧
    record.At procs x.thelper.threadExit x.main ∧
    (x.thelper.threadExit = true → .unblocked ∈ seen ∨ record.Failed)

theorem calls_append (earlier later : List HelperEvent) :
    calls (earlier ++ later) = calls earlier ++ calls later :=
  List.filterMap_append

theorem calls_misused (proper : Prop) [Decidable proper] :
    calls (if proper then [] else [.misused]) = [] := by
  split <;> rfl

theorem launchThelper_child {κ : Type*} (x : HelperState κ) :
    x.launchThelper.1.main = x.main ∧
      x.launchThelper.1.thelper.threadExit = x.thelper.threadExit ∧
        calls x.launchThelper.2 = [] := by
  unfold HelperState.launchThelper HelperState.awaitReady HelperState.lock HelperState.unlock
  split
  case h_2 => split <;> exact ⟨rfl, rfl, by first | rfl | exact calls_misused _⟩
  case h_1 | h_3 =>
    split
    · split
      · exact ⟨rfl, rfl, rfl⟩
      · exact ⟨rfl, rfl, calls_misused _⟩
    · refine ⟨?_, ?_, ?_⟩ <;> rfl
  case h_4 | h_7 => exact ⟨rfl, rfl, calls_misused _⟩
  all_goals exact ⟨rfl, rfl, rfl⟩

namespace Observed

section Steps

variable {κ : Type*} {procs : ThreadProcs κ} {x : HelperState κ} {seen : List HelperEvent}

/-- The child goes on without a call. -/
theorem move (observed : Observed procs x seen) {y : HelperState κ}
    (next : ∀ record : CallRecord, record.At procs x.thelper.threadExit x.main →
      record.At procs x.thelper.threadExit y.main)
    (exit : y.thelper.threadExit = x.thelper.threadExit) {events : List HelperEvent}
    (none : calls events = []) : Observed procs y (seen ++ events) := by
  obtain ⟨record, same, made, reason⟩ := observed
  refine ⟨record, ?_, ?_, ?_⟩
  · rw [calls_append, none, List.append_nil, same]
  · rw [exit]
    exact next record made
  · intro set
    rw [exit] at set
    exact (reason set).imp_left (List.mem_append_left _)

/-- A step that is no call and changes neither the place of the child nor `thread_exit`. -/
theorem silent (observed : Observed procs x seen) {y : HelperState κ}
    (place : y.main = x.main) (exit : y.thelper.threadExit = x.thelper.threadExit)
    {events : List HelperEvent} (none : calls events = []) :
    Observed procs y (seen ++ events) := by
  refine observed.move ?_ exit none
  rw [place]
  exact fun _ made => made

/-- `thread_exit` is set behind a failed call. -/
theorem exitThread (observed : Observed procs x seen) {place : MainPlace}
    (next : ∀ record : CallRecord, record.At procs x.thelper.threadExit x.main →
      record.At procs true place ∧ record.Failed) :
    Observed procs (x.exitThread place).1 (seen ++ (x.exitThread place).2) := by
  obtain ⟨record, same, made, reason⟩ := observed
  obtain ⟨there, failed⟩ := next record made
  refine ⟨record, ?_, there, fun _ => Or.inr failed⟩
  rw [calls_append, same]
  exact List.append_nil _

theorem callProc (observed : Observed procs x seen) (which : ThreadProc) {next : ℤ → MainPlace}
    (skipped : procs which = none → ∀ record : CallRecord,
      record.At procs x.thelper.threadExit x.main →
        record.At procs x.thelper.threadExit (next 0))
    (called : (procs which).isSome = true → ∀ (record : CallRecord) (result : ℤ),
      record.At procs x.thelper.threadExit x.main → record.NoneBehind which ∧
        (record.add which result).At procs x.thelper.threadExit (next result)) :
    Observed procs (x.callProc procs which next).1
      (seen ++ (x.callProc procs which next).2) := by
  unfold HelperState.callProc
  split
  · next absent => refine observed.move (skipped absent) ?_ ?_ <;> rfl
  · next threadProc present =>
      split
      · exact observed.silent rfl rfl rfl
      · next result context _ =>
          obtain ⟨record, same, made, reason⟩ := observed
          obtain ⟨behind, there⟩ := called (by rw [present]; rfl) record result made
          refine ⟨record.add which result, ?_, there, fun set => ?_⟩
          · rw [calls_append, same, CallRecord.calls_add behind]
            rfl
          · exact (reason set).imp (List.mem_append_left _) fun failed => failed.add which result

/-- The child takes the mutex. -/
theorem readyLock (observed : Observed procs x seen) {failed : Bool}
    (here : x.main = .readyLock failed) :
    Observed procs (x.lock .child fun x => { x with main := .readySignal failed }).1
      (seen ++ (x.lock .child fun x => { x with main := .readySignal failed }).2) := by
  have next : ∀ record : CallRecord, record.At procs x.thelper.threadExit x.main →
      record.At procs x.thelper.threadExit (.readySignal failed) := by
    rw [here]
    cases failed <;> exact fun _ made => made
  unfold HelperState.lock
  split
  · split
    · refine observed.move next ?_ ?_ <;> rfl
    · exact observed.silent rfl rfl (calls_misused _)
  · refine observed.move next ?_ ?_ <;> rfl

/-- The child signals. -/
theorem signalReady (observed : Observed procs x seen) {failed : Bool}
    (here : x.main = .readySignal failed) :
    Observed procs (x.signalReady failed).1 (seen ++ (x.signalReady failed).2) := by
  have next : ∀ record : CallRecord, record.At procs x.thelper.threadExit x.main →
      record.At procs x.thelper.threadExit (.readyUnlock failed) := by
    rw [here]
    cases failed <;> exact fun _ made => made
  refine observed.move next ?_ ?_
  · rfl
  · exact calls_misused _

/-- The child releases the mutex. -/
theorem readyUnlock (observed : Observed procs x seen) {failed : Bool}
    (here : x.main = .readyUnlock failed) :
    Observed procs
      (x.unlock .child fun x => { x with main := if failed then .returned else .procPre }).1
      (seen ++ (x.unlock .child fun x =>
        { x with main := if failed then .returned else .procPre }).2) := by
  have next : ∀ record : CallRecord, record.At procs x.thelper.threadExit x.main →
      record.At procs x.thelper.threadExit (if failed then .returned else .procPre) := by
    rw [here]
    cases failed with
    | false => exact fun _ made => made
    | true => exact fun _ made => ⟨made.1, Or.inl made.2⟩
  refine observed.move next ?_ ?_
  · rfl
  · exact calls_misused _

/-- The child tests `thread_exit`. -/
theorem test (observed : Observed procs x seen) (here : x.main = .test) :
    Observed procs { x with main := if x.thelper.threadExit then .procPost else .proc }
      (seen ++ []) := by
  refine observed.move ?_ ?_ rfl
  case refine_2 => rfl
  rw [here]
  rintro record ⟨inits, pres, rounds, init, pre, proc, rfl⟩
  cases exit : x.thelper.threadExit with
  | true => exact ⟨rfl, inits, pres, rounds, init, pre, proc.exit, rfl⟩
  | false =>
      refine ⟨inits, pres, rounds, init, pre, fun result member => ?_, rfl⟩
      by_contra negative
      have set := proc.failure ⟨result, member, by omega⟩
      rw [exit] at set
      cases set

/-- A step of the child in `thelper_main`. -/
theorem thelperMain (observed : Observed procs x seen) :
    Observed procs (x.thelperMain procs).1 (seen ++ (x.thelperMain procs).2) := by
  unfold HelperState.thelperMain
  cases here : x.main with
  | absent => exact observed.silent rfl rfl rfl
  | returned => exact observed.silent rfl rfl rfl
  | procInit =>
      refine observed.callProc .init ?_ ?_ <;> rw [here]
      · rintro absent record rfl
        exact ⟨[], CallRecord.passed_none absent, rfl⟩
      · rintro present record result rfl
        refine ⟨⟨rfl, rfl, rfl⟩, ?_⟩
        split
        · next failed => exact ⟨result, failed, rfl⟩
        · next success =>
            exact ⟨[result], CallRecord.passed_one present (by omega), rfl⟩
  | initFailed =>
      refine observed.exitThread ?_
      rw [here]
      rintro record ⟨result, negative, rfl⟩
      exact ⟨⟨rfl, result, negative, rfl⟩, result, by simp, negative⟩
  | readyLock failed => exact observed.readyLock here
  | readySignal failed => exact observed.signalReady here
  | readyUnlock failed => exact observed.readyUnlock here
  | procPre =>
      refine observed.callProc .pre ?_ ?_ <;> rw [here]
      · rintro absent record ⟨inits, init, rfl⟩
        exact ⟨inits, [], [], init, CallRecord.passed_none absent, by simp, rfl⟩
      · rintro present record result ⟨inits, init, rfl⟩
        refine ⟨⟨rfl, rfl⟩, ?_⟩
        split
        · next failed => exact ⟨inits, init, result, failed, rfl⟩
        · next success =>
            exact ⟨inits, [result], [], init, CallRecord.passed_one present (by omega), by simp,
              rfl⟩
  | preFailed =>
      refine observed.exitThread ?_
      rw [here]
      rintro record ⟨inits, init, result, negative, rfl⟩
      exact ⟨⟨rfl, Or.inr ⟨inits, init, Or.inl ⟨result, negative, rfl⟩⟩⟩, result, by simp, negative⟩
  | proc =>
      refine observed.callProc .proc ?_ ?_ <;> rw [here]
      · rintro absent record ⟨inits, pres, rounds, init, pre, success, rfl⟩
        refine ⟨inits, pres, rounds, init, pre, ⟨?_, ?_, ?_⟩, rfl⟩
        · exact fun result member => success result (List.dropLast_subset _ member)
        · simp [absent]
        · rintro ⟨result, member, negative⟩
          exact absurd (success result member) (by omega)
      · rintro present record result ⟨inits, pres, rounds, init, pre, success, rfl⟩
        refine ⟨rfl, ?_⟩
        split
        · next failed =>
            exact ⟨inits, pres, rounds ++ [result], init, pre,
              CallRecord.Rounds.add success fun _ => rfl, ⟨result, by simp, failed⟩, rfl⟩
        · next good =>
            exact ⟨inits, pres, rounds ++ [result], init, pre,
              CallRecord.Rounds.add success fun negative => absurd negative good, rfl⟩
  | procFailed =>
      refine observed.exitThread ?_
      rw [here]
      rintro record ⟨inits, pres, rounds, init, pre, proc, ⟨result, member, negative⟩, rfl⟩
      exact ⟨⟨inits, pres, rounds, init, pre, proc, rfl⟩, result,
        List.mem_append_right _ member, negative⟩
  | test => exact observed.test here
  | procPost =>
      refine observed.callProc .post ?_ ?_ <;> rw [here]
      · rintro absent record ⟨exit, inits, pres, rounds, init, pre, proc, rfl⟩
        exact ⟨exit, Or.inr ⟨inits, init, Or.inr ⟨pres, rounds, [], pre, proc, by simp, rfl⟩⟩⟩
      · rintro present record result ⟨exit, inits, pres, rounds, init, pre, proc, rfl⟩
        exact ⟨trivial, exit,
          Or.inr ⟨inits, init, Or.inr ⟨pres, rounds, [result], pre, proc, by simp, rfl⟩⟩⟩

/-- The launching thread does nothing that the child would see. -/
theorem launchThelper (observed : Observed procs x seen) :
    Observed procs x.launchThelper.1 (seen ++ x.launchThelper.2) := by
  obtain ⟨place, exit, none⟩ := launchThelper_child x
  exact observed.silent place exit none

/-- The child is created. -/
theorem createThread (sound : HelperSound x) (observed : Observed procs x seen) (created : Bool) :
    Observed procs (x.createThread created).1 (seen ++ (x.createThread created).2) := by
  unfold HelperState.createThread
  split
  · next here =>
      cases created with
      | false => exact observed.silent rfl rfl rfl
      | true =>
          refine observed.move ?_ ?_ rfl
          case refine_2 => rfl
          rw [sound.absent.mpr (Or.inl here)]
          exact fun _ made => made
  · exact observed.silent rfl rfl rfl

/-- `thread_exit` is set from outside. -/
theorem unblockThelper (observed : Observed procs x seen) :
    Observed procs x.unblockThelper.1 (seen ++ x.unblockThelper.2) := by
  obtain ⟨record, same, made, -⟩ := observed
  refine ⟨record, ?_, made.exit, fun _ => Or.inl (by simp [HelperState.unblockThelper])⟩
  rw [calls_append, same]
  exact List.append_nil _

theorem joinThelper (observed : Observed procs x seen) :
    Observed procs x.joinThelper (seen ++ []) := by
  unfold HelperState.joinThelper
  split
  · split <;> exact observed.silent rfl rfl rfl
  · exact observed.silent rfl rfl rfl

end Steps

section Runs

variable {κ ε : Type*} (procs : ThreadProcs κ) (change : κ → ε → κ)

theorem step {x : HelperState κ} {seen : List HelperEvent} (sound : HelperSound x)
    (observed : Observed procs x seen) (input : HelperInput ε) :
    Observed procs ((threadHelper procs change).step x input).1
      (seen ++ ((threadHelper procs change).step x input).2) := by
  cases input with
  | create created => exact observed.createThread sound created
  | launcher => exact observed.launchThelper
  | child => exact observed.thelperMain
  | spurious => exact observed.silent rfl rfl rfl
  | unblock => exact observed.unblockThelper
  | join => exact observed.joinThelper
  | environment event => exact observed.silent rfl rfl rfl

theorem start (context : κ) : Observed procs (HelperState.start context) [] :=
  ⟨⟨[], [], [], []⟩, rfl, rfl, fun set => nomatch set⟩

theorem run (context : κ) (inputs : List (HelperInput ε)) :
    Observed procs ((threadHelper procs change).run (.start context) inputs)
      ((threadHelper procs change).outputs (.start context) inputs) := by
  have kept : ∀ (x : HelperState κ) (seen : List HelperEvent) (input : HelperInput ε),
      HelperSound x ∧ Observed procs x seen →
        HelperSound ((threadHelper procs change).step x input).1 ∧
          Observed procs ((threadHelper procs change).step x input).1
            (seen ++ ((threadHelper procs change).step x input).2) :=
    fun _ _ input both => ⟨both.1.step procs change input, both.2.step procs change both.1 input⟩
  exact (Machine.run_history kept ⟨HelperSound.start context, start procs context⟩ inputs).2

end Runs

end Observed

/-! ## The order -/

namespace CallRecord

section Order

variable {κ : Type*} {procs : ThreadProcs κ}

theorem Passed.once {which : ThreadProc} {results : List ℤ} (passed : Passed procs which results) :
    results.length ≤ 1 := passed.2.1

/-- Wherever the child is, the calls are in order. -/
theorem At.inOrder {threadExit : Bool} {record : CallRecord} {place : MainPlace}
    (made : record.At procs threadExit place) {unblocked : Prop}
    (reason : threadExit = true → unblocked ∨ record.Failed) :
    record.InOrder procs unblocked := by
  have beforeInit : ∀ inits : List ℤ, inits.length ≤ 1 →
      InOrder procs unblocked ⟨inits, [], [], []⟩ := fun inits once =>
    ⟨⟨once, by simp, by simp⟩, by simp, by simp, by simp, by simp, by simp⟩
  have beforePre : ∀ inits pres : List ℤ, Passed procs .init inits → pres.length ≤ 1 →
      InOrder procs unblocked ⟨inits, pres, [], []⟩ := fun inits pres init once =>
    ⟨⟨init.once, once, by simp⟩, fun _ => init, by simp, by simp, by simp, by simp⟩
  have beforePost : ∀ inits pres rounds : List ℤ, Passed procs .init inits →
      Passed procs .pre pres → (∀ result ∈ rounds.dropLast, 0 ≤ result) →
      InOrder procs unblocked ⟨inits, pres, rounds, []⟩ := fun inits pres rounds init pre goesOn =>
    ⟨⟨init.once, pre.once, by simp⟩, fun _ => init, fun _ => pre, goesOn, by simp, by simp⟩
  match place, made with
  | .absent, same | .procInit, same =>
      have empty : record = ⟨[], [], [], []⟩ := same
      rw [empty]
      exact beforeInit [] (by simp)
  | .initFailed, ⟨result, _, same⟩ | .readyLock true, ⟨_, result, _, same⟩
  | .readySignal true, ⟨_, result, _, same⟩ | .readyUnlock true, ⟨_, result, _, same⟩
  | .returned, ⟨_, .inl ⟨result, _, same⟩⟩ =>
      rw [same]
      exact beforeInit [result] (by simp)
  | .readyLock false, ⟨inits, init, same⟩ | .readySignal false, ⟨inits, init, same⟩
  | .readyUnlock false, ⟨inits, init, same⟩ | .procPre, ⟨inits, init, same⟩ =>
      rw [same]
      exact beforePre inits [] init (by simp)
  | .preFailed, ⟨inits, init, result, _, same⟩
  | .returned, ⟨_, .inr ⟨inits, init, .inl ⟨result, _, same⟩⟩⟩ =>
      rw [same]
      exact beforePre inits [result] init (by simp)
  | .proc, ⟨inits, pres, rounds, init, pre, success, same⟩ =>
      rw [same]
      exact beforePost inits pres rounds init pre fun result member =>
        success result (List.dropLast_subset _ member)
  | .procFailed, ⟨inits, pres, rounds, init, pre, proc, _, same⟩
  | .test, ⟨inits, pres, rounds, init, pre, proc, same⟩
  | .procPost, ⟨_, inits, pres, rounds, init, pre, proc, same⟩ =>
      rw [same]
      exact beforePost inits pres rounds init pre proc.goesOn
  | .returned, ⟨exit, .inr ⟨inits, init, .inr ⟨pres, rounds, posts, pre, proc, once, same⟩⟩⟩ =>
      refine ⟨?_, ?_, ?_, ?_, ?_, ?_⟩
      all_goals rw [same]
      · exact ⟨init.once, pre.once, once⟩
      · exact fun _ => init
      · exact fun _ => pre
      · exact proc.goesOn
      · exact fun _ => proc.called
      · intro _
        refine (reason exit).imp_right ?_
        rw [same]
        rintro ⟨result, member, negative⟩
        simp only [List.mem_append] at member
        rcases member with (early | second) | third
        · exact absurd (init.2.2 result early) (by omega)
        · exact absurd (pre.2.2 result second) (by omega)
        · exact ⟨result, third, negative⟩

end Order

end CallRecord

/-! ## Behind `thread_exit` -/

/-- How often `thread_proc` has been called. -/
def procCalls (events : List HelperEvent) : ℕ :=
  (calls events).countP fun call => call.1 = .proc

/-- How often it may still be called when `thread_exit` is set. -/
def MainPlace.roundsLeft : MainPlace → ℕ
  | .absent | .procInit | .initFailed | .readyLock _ | .readySignal _ | .readyUnlock _ | .procPre
  | .proc => 1
  | .preFailed | .procFailed | .test | .procPost | .returned => 0

theorem procCalls_append (earlier later : List HelperEvent) :
    procCalls (earlier ++ later) = procCalls earlier + procCalls later := by
  rw [procCalls, calls_append, List.countP_append]
  rfl

theorem procCalls_of_calls {events : List HelperEvent} (none : calls events = []) :
    procCalls events = 0 := by
  rw [procCalls, none]
  rfl

section Exit

variable {κ ε : Type*} {procs : ThreadProcs κ} {x : HelperState κ}

/-- A call of a function other than `thread_proc`. -/
theorem callProc_roundsLeft {which : ThreadProc} (other : which ≠ .proc) {next : ℤ → MainPlace}
    {left : ℕ} (blocked : x.main.roundsLeft ≤ left)
    (fewer : ∀ result, (next result).roundsLeft ≤ left) :
    procCalls (x.callProc procs which next).2 +
      (x.callProc procs which next).1.main.roundsLeft ≤ left := by
  unfold HelperState.callProc
  split
  · simpa [procCalls, calls] using fewer 0
  · split
    · simpa [procCalls, calls] using blocked
    · simpa [procCalls, calls, other] using fewer _

/-- The call of `thread_proc`. -/
theorem callProc_proc (here : x.main = .proc) :
    procCalls (x.callProc procs .proc fun result => if result < 0 then .procFailed else .test).2 +
      (x.callProc procs .proc fun result =>
        if result < 0 then .procFailed else .test).1.main.roundsLeft ≤ 1 := by
  unfold HelperState.callProc
  split
  · simp [procCalls, calls, MainPlace.roundsLeft]
  · split
    · simp [procCalls, calls, here, MainPlace.roundsLeft]
    · simp only [procCalls, calls]
      split <;> simp [MainPlace.roundsLeft]

/-- A step of the child calls `thread_proc` only if it may. -/
theorem thelperMain_roundsLeft (exit : x.thelper.threadExit = true) :
    procCalls (x.thelperMain procs).2 + (x.thelperMain procs).1.main.roundsLeft ≤
      x.main.roundsLeft := by
  have silent : ∀ proper : Prop, ∀ _ : Decidable proper,
      procCalls (if proper then [] else [.misused]) = 0 := fun proper _ =>
    procCalls_of_calls (calls_misused proper)
  unfold HelperState.thelperMain
  cases here : x.main with
  | absent | returned => simp [procCalls, calls, here]
  | procInit =>
      refine callProc_roundsLeft (by decide) (by simp [here]) fun result => ?_
      split <;> exact Nat.le_refl 1
  | procPre =>
      refine callProc_roundsLeft (by decide) (by simp [here]) fun result => ?_
      split
      · exact Nat.zero_le 1
      · exact Nat.le_refl 1
  | procPost =>
      exact callProc_roundsLeft (by decide) (by simp [here]) fun _ => Nat.le_refl 0
  | proc => exact callProc_proc here
  | initFailed | preFailed | procFailed => exact Nat.le_of_eq (Nat.zero_add _)
  | readyLock failed =>
      simp only [HelperState.lock]
      split
      · split
        · exact Nat.le_refl 1
        · simp only [here, silent]
          exact Nat.le_refl 1
      · exact Nat.le_refl 1
  | readySignal failed =>
      simp only [HelperState.signalReady, silent]
      exact Nat.le_refl 1
  | readyUnlock failed =>
      simp only [HelperState.unlock, silent]
      cases failed
      · exact Nat.le_refl 1
      · exact Nat.zero_le 1
  | test =>
      simp only [exit, if_true]
      exact Nat.le_refl 0

/-- Nothing resets `thread_exit`. -/
theorem thelperMain_exit (exit : x.thelper.threadExit = true) :
    (x.thelperMain procs).1.thelper.threadExit = true := by
  unfold HelperState.thelperMain HelperState.callProc HelperState.exitThread HelperState.lock
    HelperState.signalReady HelperState.unlock
  split <;> first | exact exit | rfl | skip
  all_goals split <;> first | exact exit | (split <;> exact exit)

variable (procs) (change : κ → ε → κ)

/-- A step behind `thread_exit`. -/
theorem step_roundsLeft (sound : HelperSound x) (exit : x.thelper.threadExit = true)
    (input : HelperInput ε) :
    ((threadHelper procs change).step x input).1.thelper.threadExit = true ∧
      procCalls ((threadHelper procs change).step x input).2 +
        ((threadHelper procs change).step x input).1.main.roundsLeft ≤ x.main.roundsLeft := by
  cases input with
  | create created =>
      simp only [threadHelper, HelperState.createThread]
      split
      · next here =>
          rw [sound.absent.mpr (Or.inl here)]
          cases created <;> exact ⟨exit, Nat.le_refl 1⟩
      · exact ⟨exit, Nat.le_of_eq (Nat.zero_add _)⟩
  | launcher =>
      obtain ⟨place, same, none⟩ := launchThelper_child x
      refine ⟨same.trans exit, ?_⟩
      simp only [threadHelper]
      exact Nat.le_of_eq (by rw [procCalls_of_calls none, place, Nat.zero_add])
  | child => exact ⟨thelperMain_exit exit, thelperMain_roundsLeft exit⟩
  | spurious => exact ⟨exit, Nat.le_of_eq (Nat.zero_add _)⟩
  | unblock => exact ⟨rfl, Nat.le_of_eq (Nat.zero_add _)⟩
  | join =>
      simp only [threadHelper, HelperState.joinThelper]
      split
      · split <;> exact ⟨exit, Nat.le_of_eq (Nat.zero_add _)⟩
      · exact ⟨exit, Nat.le_of_eq (Nat.zero_add _)⟩
  | environment event => exact ⟨exit, Nat.le_of_eq (Nat.zero_add _)⟩

/-- A run behind `thread_exit`. -/
theorem run_roundsLeft (sound : HelperSound x) (exit : x.thelper.threadExit = true)
    (inputs : List (HelperInput ε)) :
    procCalls ((threadHelper procs change).outputs x inputs) +
      ((threadHelper procs change).run x inputs).main.roundsLeft ≤ x.main.roundsLeft := by
  induction inputs generalizing x with
  | nil => exact Nat.le_of_eq (Nat.zero_add _)
  | cons input rest ih =>
      obtain ⟨still, here⟩ := step_roundsLeft procs change sound exit input
      have later := ih (sound.step procs change input) still
      rw [Machine.outputs_cons, procCalls_append, Machine.run_cons]
      omega

end Exit

theorem MainPlace.roundsLeft_le (place : MainPlace) : place.roundsLeft ≤ 1 := by
  cases place <;> first | exact Nat.le_refl 1 | exact Nat.zero_le 1

section Main

variable {κ ε : Type*} (procs : ThreadProcs κ) (change : κ → ε → κ)

/-- **However the threads are interleaved, the functions of a helper are called in order**, and
`thread_proc` at most once more when `thread_exit` has been set from outside. -/
theorem thelperMain_order (context : κ) (inputs later : List (HelperInput ε)) :
    (∃ record : CallRecord,
      calls ((threadHelper procs change).outputs (.start context) inputs) = record.calls ∧
        record.InOrder procs
          (.unblocked ∈ (threadHelper procs change).outputs (.start context) inputs)) ∧
      procCalls ((threadHelper procs change).outputs
        ((threadHelper procs change).run (.start context) (inputs ++ [.unblock])) later) ≤ 1 := by
  constructor
  · obtain ⟨record, same, made, reason⟩ := Observed.run procs change context inputs
    exact ⟨record, same, made.inOrder reason⟩
  · have sound := HelperSound.run procs change context (inputs ++ [.unblock])
    have exit : ((threadHelper procs change).run (.start context)
        (inputs ++ [.unblock])).thelper.threadExit = true := by
      rw [Machine.run_append]
      rfl
    have bound := run_roundsLeft procs change sound exit later
    have one := MainPlace.roundsLeft_le ((threadHelper procs change).run (.start context)
      (inputs ++ [.unblock])).main
    omega

end Main

end Msm8660.Gps
