import Msm8660.Gps.LocEngControl
import Msm8660.Gps.LocEngNifs

/-!
# Deferred stops

While a data call is pending, `LOC_ENG_MSG_STOP_FIX` does not stop the engine: it
sets `stop_request_pending`, and the answer of the framework that ends the data
call is meant to run `loc_eng_stop_handler`. But the loop clears the flag behind
every message, the stop itself included, so that no deferred stop survives the
round in which it was deferred (`handle_flags`).

Between a stop and the end of the data call `loc_eng_stop_handler` runs exactly
when some stop among these messages was not deferred at all, because a data call
had ended before it (`deferredStop_iff`).
-/

set_option autoImplicit false

namespace Msm8660.Gps

namespace LocEngData

/-- Whether `loc_eng_stop_handler` is called while a message is handled: in the
case of `LOC_ENG_MSG_STOP_FIX`, or behind the `switch`. -/
def callsStopHandler (conf : LocGpsCfg) (nmea : NmeaGenerator) (data : LocEngData)
    (answers : Answers) (msg : LocEngMsg) : Bool :=
  data.context && if msg = .stopFix then !data.agpsRequestPending
    else endsDataCall msg && (data.handleMsg conf nmea answers msg).1.any (·.stopRequestPending)

end LocEngData

namespace ThreadInput

def endsDataCall : ThreadInput → Bool
  | .handle msg _ => LocEngData.endsDataCall msg
  | .niWrite _ _ => false

end ThreadInput

/-- Whether `loc_eng_stop_handler` is called in a step of the thread. -/
def CallsStopHandler (conf : LocGpsCfg) (nmea : NmeaGenerator)
    (taken : Machine.Step (Option LocEngData) ThreadInput Call) : Prop :=
  match taken.before, taken.input with
  | some data, .handle msg answers => data.callsStopHandler conf nmea answers msg = true
  | _, _ => False

instance (conf : LocGpsCfg) (nmea : NmeaGenerator) :
    (taken : Machine.Step (Option LocEngData) ThreadInput Call) →
      Decidable (CallsStopHandler conf nmea taken)
  | ⟨some _, .handle _ _, _, _⟩ => inferInstanceAs (Decidable (_ = true))
  | ⟨some _, .niWrite _ _, _, _⟩ | ⟨none, _, _, _⟩ => inferInstanceAs (Decidable False)

section Flags

variable {conf : LocGpsCfg} {nmea : NmeaGenerator} {data : LocEngData} {answers : Answers}
  {msg : LocEngMsg}

namespace LocEngData

/-! ## What is called -/

theorem locEngStopHandler_navigating (inSession : data.navigating = true) (answers : Answers) :
    .adapter .stopFix ∈ (data.locEngStopHandler answers).2 := by
  simp only [locEngStopHandler, inSession, if_true]
  exact Outcome.mem_andThen_left
    (Outcome.mem_andThen_left (List.mem_singleton_self (Call.adapter .stopFix)) _) _

theorem controls_of_endsDataCall (ends : endsDataCall msg = true) : msg.controls = false := by
  cases msg <;> first | rfl | cases ends

/-- In a session a call of `loc_eng_stop_handler` reaches the adapter. -/
theorem stopFix_of_callsStopHandler (inSession : data.navigating = true)
    (called : data.callsStopHandler conf nmea answers msg = true) :
    .adapter .stopFix ∈ (data.handle conf nmea answers msg).2 := by
  obtain ⟨alive, called⟩ := Bool.and_eq_true_iff.mp called
  rw [handle, if_pos alive]
  by_cases stop : msg = .stopFix
  · subst stop
    have direct : data.agpsRequestPending = false := by simpa using called
    refine Outcome.mem_andThen_left ?_ _
    simpa only [handleMsg, direct, Bool.false_eq_true, if_false] using
      locEngStopHandler_navigating inSession answers
  · obtain ⟨ends, deferred⟩ : endsDataCall msg = true ∧
        (data.handleMsg conf nmea answers msg).1.any (·.stopRequestPending) = true := by
      simpa only [if_neg stop, Bool.and_eq_true] using called
    obtain ⟨after, reached, flag⟩ := (Option.any_eq_true _ _).mp deferred
    have quiet := handleMsg_quiet conf nmea data answers (controls_of_endsDataCall ends)
    have stays : after.navigating = true :=
      (congrArg SessionControl.navigating (quiet.post after reached)).trans inSession
    refine Outcome.mem_andThen_right reached ?_
    rw [afterMsg_eq]
    have due : after.stopsAfter msg = true := by simp [stopsAfter, ends, flag, stays]
    simp [due, done, stopCalls]

/-! ## The flags -/

/-- No handler ends a pending data call. -/
theorem handleMsg_agpsRequestPending (conf : LocGpsCfg) (nmea : NmeaGenerator) (data : LocEngData)
    (answers : Answers) (msg : LocEngMsg) :
    ∀ after ∈ (data.handleMsg conf nmea answers msg).1,
      after.agpsRequestPending = data.agpsRequestPending := by
  intro after reached
  by_cases stop : msg = .stopFix
  · subst stop
    simp only [handleMsg] at reached
    split at reached
    · cases reached
      rfl
    · have same : data.control.SamePending data.control := ⟨rfl, rfl, rfl, rfl⟩
      exact ((locEngStopHandler_defers same answers).post after reached).2.1
  · by_cases deletion : ∃ type, msg = .deleteAidingData type
    · obtain ⟨type, rfl⟩ := deletion
      cases reached
      rfl
    · exact ((handleMsg_defers conf nmea data answers stop
        fun type same => deletion ⟨type, same⟩).post after reached).2.1

/-- The answers that end a data call leave a deferred stop to the loop. -/
theorem handleMsg_stopRequestPending (conf : LocGpsCfg) (nmea : NmeaGenerator)
    (data : LocEngData) (answers : Answers) (ends : endsDataCall msg = true) :
    ∀ after ∈ (data.handleMsg conf nmea answers msg).1,
      after.stopRequestPending = data.stopRequestPending := by
  intro after reached
  exact congrArg SessionControl.stopRequestPending
    ((handleMsg_quiet conf nmea data answers (controls_of_endsDataCall ends)).post after reached)

/-- **No deferred stop survives a round of the loop.** -/
theorem handle_flags (conf : LocGpsCfg) (nmea : NmeaGenerator) (data : LocEngData)
    (answers : Answers) (msg : LocEngMsg) :
    ∀ after ∈ (data.handle conf nmea answers msg).1, after.stopRequestPending = false ∧
      after.agpsRequestPending = (data.agpsRequestPending && !endsDataCall msg) := by
  intro final reached
  unfold handle at reached
  split at reached
  · obtain ⟨after, handled, last⟩ := Outcome.exists_of_mem_andThen reached
    rw [afterMsg_eq] at last
    cases last
    exact ⟨rfl, congrArg (· && _)
      (handleMsg_agpsRequestPending conf nmea data answers msg after handled)⟩
  · exact absurd reached (Option.not_mem_none final)

/-- A stop is deferred as long as the data call is pending, and nothing else is
left to run `loc_eng_stop_handler`. -/
theorem callsStopHandler_iff (alive : data.context = true)
    (none : data.stopRequestPending = false ∨ msg = .stopFix) :
    data.callsStopHandler conf nmea answers msg = true ↔
      msg = .stopFix ∧ data.agpsRequestPending = false := by
  by_cases stop : msg = .stopFix
  · subst stop
    simp [callsStopHandler, alive]
  · have cleared : data.stopRequestPending = false := none.resolve_right stop
    rw [callsStopHandler, alive, Bool.true_and, if_neg stop]
    refine ⟨fun called => ?_, fun both => absurd both.1 stop⟩
    obtain ⟨ends, deferred⟩ := Bool.and_eq_true_iff.mp called
    obtain ⟨after, reached, flag⟩ := (Option.any_eq_true _ _).mp deferred
    rw [handleMsg_stopRequestPending conf nmea data answers ends after reached, cleared] at flag
    cases flag

end LocEngData

/-! ## Runs -/

/-- Only the end of a data call ends the pending one. -/
theorem agpsRequestPending_run {inputs : List ThreadInput} {final : LocEngData}
    (reached : final ∈ (locEngThread conf nmea).run (some data) inputs) :
    final.agpsRequestPending =
      (data.agpsRequestPending && !inputs.any ThreadInput.endsDataCall) := by
  induction inputs generalizing data with
  | nil =>
      cases reached
      simp
  | cons input rest ih =>
      obtain ⟨next, first, reached⟩ := exists_run_of_append [input] reached
      rw [ih reached, List.any_cons, Bool.not_or, ← Bool.and_assoc]
      congr 1
      cases input with
      | handle msg answers => exact (data.handle_flags conf nmea answers msg next first).2
      | niWrite niNotifyCb ni =>
          cases first
          simp [ThreadInput.endsDataCall]

/-- Behind a message no stop is deferred, and none is until the next message. -/
theorem stopRequestPending_run {inputs : List ThreadInput} {final : LocEngData}
    (none : data.stopRequestPending = false)
    (reached : final ∈ (locEngThread conf nmea).run (some data) inputs) :
    final.stopRequestPending = false := by
  induction inputs generalizing data with
  | nil =>
      cases reached
      exact none
  | cons input rest ih =>
      obtain ⟨next, first, reached⟩ := exists_run_of_append [input] reached
      refine ih ?_ reached
      cases input with
      | handle msg answers => exact (data.handle_flags conf nmea answers msg next first).1
      | niWrite niNotifyCb ni =>
          cases first
          exact none

/-- A message that the thread survives finds its context. -/
theorem context_of_alive {input : ThreadInput} {rest : List ThreadInput} {final : LocEngData}
    (reached : final ∈ (locEngThread conf nmea).run (some data) (input :: rest))
    {msg : LocEngMsg} {answers : Answers} (handled : input = .handle msg answers) :
    data.context = true := by
  subst handled
  obtain ⟨next, first, -⟩ := exists_run_of_append [.handle msg answers] reached
  by_contra gone
  have stopped : data.handle conf nmea answers msg = (none, []) := by
    rw [LocEngData.handle, if_neg gone]
  have first : next ∈ (data.handle conf nmea answers msg).1 := first
  rw [stopped] at first
  exact absurd first (Option.not_mem_none next)

/-- The last message set apart. -/
theorem eq_append_cons_of_concat {α : Type*} {front earlier later : List α} {last here : α}
    (split : front ++ [last] = earlier ++ here :: later) (inside : here ≠ last) :
    ∃ between, later = between ++ [last] ∧ front = earlier ++ here :: between := by
  rcases List.eq_nil_or_concat later with rfl | ⟨between, other, rfl⟩
  · exact absurd (List.append_inj' split rfl).2 (by simpa using Ne.symm inside)
  · rw [List.concat_eq_append] at split ⊢
    rw [← List.cons_append, ← List.append_assoc] at split
    obtain ⟨same, sameLast⟩ := List.append_inj' split rfl
    exact ⟨between, by rw [List.singleton_inj.mp sameLast], same⟩

end Flags

/-- **When a stop is run by the end of the data call.** Take a pending data call, a
stop, and the answer that ends the call, with any messages before and between. If
the thread handles them all, `loc_eng_stop_handler` runs from the stop on to the
end of that answer exactly when a stop handled there came behind the end of a data
call, and so was not deferred. -/
theorem deferredStop_iff (conf : LocGpsCfg) (nmea : NmeaGenerator) (data : LocEngData)
    (pending : data.agpsRequestPending = true) (before between : List ThreadInput)
    (stopAnswers answers : Answers) (atl : LocEngMsg)
    (ends : LocEngData.endsDataCall atl = true) (final : LocEngData)
    (handled : final ∈ (locEngThread conf nmea).run (some data)
      (before ++ (.handle .stopFix stopAnswers :: between ++ [.handle atl answers]))) :
    (∃ taken ∈ (locEngThread conf nmea).steps ((locEngThread conf nmea).run (some data) before)
        (.handle .stopFix stopAnswers :: between ++ [.handle atl answers]),
      CallsStopHandler conf nmea taken) ↔
    ∃ earlier later again,
      .handle .stopFix stopAnswers :: between = earlier ++ .handle .stopFix again :: later ∧
        ∃ input ∈ before ++ earlier, input.endsDataCall = true := by
  constructor
  · rintro ⟨taken, member, called⟩
    obtain ⟨earlier, input, later, split, rfl⟩ := Machine.mem_steps.mp member
    rw [split, ← List.append_assoc] at handled
    obtain ⟨here, reached, rest⟩ := exists_run_of_append _ handled
    have state := run_of_mem_run_append reached
    cases input with
    | niWrite niNotifyCb ni =>
        rw [state] at called
        exact called.elim
    | handle msg again =>
        rw [state] at called
        have called : here.callsStopHandler conf nmea again msg = true := called
        have cleared : here.stopRequestPending = false ∨ msg = .stopFix := by
          cases earlier with
          | nil =>
              obtain ⟨same, -⟩ := List.cons.inj split
              cases same
              exact Or.inr rfl
          | cons first more =>
              obtain ⟨same, -⟩ := List.cons.inj split
              subst same
              obtain ⟨start, -, reached⟩ := exists_run_of_append _ reached
              obtain ⟨next, one, reached⟩ :=
                exists_run_of_append [.handle .stopFix stopAnswers] reached
              exact Or.inl (stopRequestPending_run
                (start.handle_flags conf nmea stopAnswers .stopFix next one).1 reached)
        obtain ⟨rfl, ended⟩ := (LocEngData.callsStopHandler_iff (context_of_alive rest rfl)
          cleared).mp called
        have other : ThreadInput.handle .stopFix again ≠ .handle atl answers := by
          intro same
          cases same
          cases ends
        obtain ⟨middle, -, front⟩ := eq_append_cons_of_concat split other
        refine ⟨earlier, middle, again, front, List.any_eq_true.mp ?_⟩
        rw [agpsRequestPending_run reached, pending, Bool.true_and, Bool.not_eq_false'] at ended
        exact ended
  · rintro ⟨earlier, later, again, split, input, member, ended⟩
    refine ⟨_, Machine.mem_steps.mpr ⟨earlier, .handle .stopFix again,
      later ++ [.handle atl answers], by rw [split, List.append_assoc]; rfl, rfl⟩, ?_⟩
    rw [split, List.append_assoc, List.cons_append, ← List.append_assoc] at handled
    obtain ⟨here, reached, rest⟩ := exists_run_of_append _ handled
    have state := run_of_mem_run_append reached
    rw [state]
    refine (LocEngData.callsStopHandler_iff (context_of_alive rest rfl) (Or.inr rfl)).mpr
      ⟨rfl, ?_⟩
    rw [agpsRequestPending_run reached, List.any_eq_true.mpr ⟨input, member, ended⟩]
    simp

/-- A stop that comes while no data call is pending any more. -/
theorem deferredStop_iff_late :
    (∃ taken ∈ (locEngThread locDefaultParameters .silent).steps
        ((locEngThread locDefaultParameters .silent).run
          (some { LocEngData.started with agpsRequestPending := true, navigating := true })
          [.handle (.atlClosed agpsTypeSupl) .success])
        (.handle .stopFix .success :: [] ++ [.handle (.atlClosed agpsTypeSupl) .success]),
      CallsStopHandler locDefaultParameters .silent taken) ↔
    ∃ (earlier later : List ThreadInput) (again : Answers),
      .handle .stopFix .success :: [] = earlier ++ .handle .stopFix again :: later ∧
        ∃ input ∈ [ThreadInput.handle (.atlClosed agpsTypeSupl) .success] ++ earlier,
          input.endsDataCall = true :=
  deferredStop_iff locDefaultParameters .silent
    { LocEngData.started with agpsRequestPending := true, navigating := true } rfl
    [.handle (.atlClosed agpsTypeSupl) .success] [] .success .success (.atlClosed agpsTypeSupl) rfl
    { LocEngData.started with navigating := false } (by decide)

/-- A stop in a session, while a data call is pending, and the end of the data
call: `loc_eng_stop_handler` is not run, the adapter is not told to stop, and the
engine navigates on. -/
theorem not_deferredStop :
    (¬ ∃ taken ∈ (locEngThread locDefaultParameters .silent).steps
        (some { LocEngData.started with agpsRequestPending := true, navigating := true })
        [.handle .stopFix .success, .handle (.atlClosed agpsTypeSupl) .success],
      CallsStopHandler locDefaultParameters .silent taken) ∧
    .adapter .stopFix ∉ (locEngThread locDefaultParameters .silent).outputs
      (some { LocEngData.started with agpsRequestPending := true, navigating := true })
      [.handle .stopFix .success, .handle (.atlClosed agpsTypeSupl) .success] ∧
    (locEngThread locDefaultParameters .silent).run
      (some { LocEngData.started with agpsRequestPending := true, navigating := true })
      [.handle .stopFix .success, .handle (.atlClosed agpsTypeSupl) .success] =
        some { LocEngData.started with navigating := true } := by
  decide

end Msm8660.Gps
