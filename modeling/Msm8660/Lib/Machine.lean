import Mathlib.Algebra.BigOperators.Group.List.Basic
import Mathlib.Data.List.Induction

/-!
# Machines, runs and observers

A machine reads one input at a time, changes its state and emits a finite list
of outputs. A choice of the environment is an input, so a nondeterministic
system is a machine too: an input that is not enabled leaves the state alone.

* A state predicate kept by every admissible step holds at the end of every run
  (`run_induction`), and before every step of it (`mem_steps`). A predicate kept
  by the steps that are spared holds in the runs that have no others
  (`run_spared`), and only in these if it is kept by no others (`steps_iff`). What
  steps only gain is due to one of them (`run_gains`).
* What is read from a state was so at the start or is due to the last step that
  changed it (`run_lastChange`).
* An observer folds the outputs into a state of its own. A relation between the
  two states kept by every step holds at the end of every run
  (`run_observed`), and what the observer state says of every output of a step
  holds of every output of the run (`run_outputsSatisfy`).
* When what every step takes in is what it gives out and what it keeps, so does
  every run (`run_balance`), also where the order matters (`run_ordered`).
* A machine simulates another when a relation between their states is kept by
  every step and the steps emit the same; then so do the runs (`run_simulation`).
* A monitor reads whole steps. Attaching one does not change the machine
  (`monitored_run_fst`).
-/

set_option autoImplicit false

namespace Msm8660

variable {σ ι ο ω τ : Type*}

/-- A machine on states `σ` with inputs `ι` and outputs `ο`. -/
structure Machine (σ : Type*) (ι : Type*) (ο : Type*) where
  step : σ → ι → σ × List ο

namespace Machine

/-- One step of a run, with the states it connects. -/
structure Step (σ : Type*) (ι : Type*) (ο : Type*) where
  before : σ
  input : ι
  outputs : List ο
  after : σ

variable (M : Machine σ ι ο)

/-- The step taken on an input. -/
def stepOn (state : σ) (input : ι) : Step σ ι ο :=
  ⟨state, input, (M.step state input).2, (M.step state input).1⟩

/-- The state after a list of inputs. -/
def run (state : σ) : List ι → σ
  | [] => state
  | input :: rest => run (M.step state input).1 rest

/-- Everything emitted on a list of inputs, oldest first. -/
def outputs (state : σ) : List ι → List ο
  | [] => []
  | input :: rest => (M.step state input).2 ++ outputs (M.step state input).1 rest

/-- The steps taken on a list of inputs, oldest first. -/
def steps (state : σ) : List ι → List (Step σ ι ο)
  | [] => []
  | input :: rest => M.stepOn state input :: steps (M.step state input).1 rest

@[simp] theorem run_nil (state : σ) : M.run state [] = state := rfl

@[simp] theorem run_cons (state : σ) (input : ι) (rest : List ι) :
    M.run state (input :: rest) = M.run (M.step state input).1 rest := rfl

@[simp] theorem outputs_nil (state : σ) : M.outputs state [] = [] := rfl

@[simp] theorem outputs_cons (state : σ) (input : ι) (rest : List ι) :
    M.outputs state (input :: rest) =
      (M.step state input).2 ++ M.outputs (M.step state input).1 rest := rfl

@[simp] theorem steps_nil (state : σ) : M.steps state [] = [] := rfl

@[simp] theorem steps_cons (state : σ) (input : ι) (rest : List ι) :
    M.steps state (input :: rest) =
      M.stepOn state input :: M.steps (M.step state input).1 rest := rfl

theorem run_append (state : σ) (earlier later : List ι) :
    M.run state (earlier ++ later) = M.run (M.run state earlier) later := by
  induction earlier generalizing state with
  | nil => rfl
  | cons input rest ih => exact ih _

theorem steps_append (state : σ) (earlier later : List ι) :
    M.steps state (earlier ++ later) =
      M.steps state earlier ++ M.steps (M.run state earlier) later := by
  induction earlier generalizing state with
  | nil => rfl
  | cons input rest ih => simp only [List.cons_append, steps_cons, run_cons, ih]

theorem outputs_append (state : σ) (earlier later : List ι) :
    M.outputs state (earlier ++ later) =
      M.outputs state earlier ++ M.outputs (M.run state earlier) later := by
  induction earlier generalizing state with
  | nil => rfl
  | cons input rest ih =>
      simp only [List.cons_append, outputs_cons, run_cons, ih, List.append_assoc]

/-! ## Invariants -/

variable {M}

/-- **A predicate kept by every admissible step holds after every admissible
run.** -/
theorem run_induction {Good : σ → Prop} {Admissible : ι → Prop}
    (kept : ∀ state input, Good state → Admissible input → Good (M.step state input).1)
    {state : σ} (start : Good state) {inputs : List ι}
    (admissible : ∀ input ∈ inputs, Admissible input) : Good (M.run state inputs) := by
  induction inputs generalizing state with
  | nil => exact start
  | cons input rest ih =>
      have next := kept state input start (admissible input (List.mem_cons_self ..))
      exact ih next fun later member => admissible later (List.mem_cons_of_mem _ member)

/-- A step of a run is the step taken on one of its inputs, in the state that
the inputs before it lead to. -/
theorem mem_steps {state : σ} {inputs : List ι} {taken : Step σ ι ο} :
    taken ∈ M.steps state inputs ↔
      ∃ earlier input later, inputs = earlier ++ input :: later ∧
        taken = M.stepOn (M.run state earlier) input := by
  constructor
  · intro member
    induction inputs generalizing state with
    | nil => simp at member
    | cons input rest ih =>
        rcases List.mem_cons.mp member with here | there
        · exact ⟨[], input, rest, rfl, here⟩
        · obtain ⟨earlier, next, later, split, same⟩ := ih there
          exact ⟨input :: earlier, next, later, by rw [split]; rfl, same⟩
  · rintro ⟨earlier, input, later, rfl, rfl⟩
    rw [steps_append]
    exact List.mem_append_right _ (List.mem_cons_self ..)

/-- A fact about single steps from good states is a fact about every step of
every admissible run. -/
theorem steps_induction {Good : σ → Prop} {Admissible : ι → Prop} {Fact : Step σ ι ο → Prop}
    (kept : ∀ state input, Good state → Admissible input → Good (M.step state input).1)
    (fact : ∀ state input, Good state → Admissible input → Fact (M.stepOn state input))
    {state : σ} (start : Good state) {inputs : List ι}
    (admissible : ∀ input ∈ inputs, Admissible input) :
    ∀ taken ∈ M.steps state inputs, Fact taken := by
  intro taken member
  obtain ⟨earlier, input, later, rfl, rfl⟩ := mem_steps.mp member
  have reached : Good (M.run state earlier) :=
    run_induction kept start fun before inEarlier =>
      admissible before (List.mem_append_left _ inEarlier)
  exact fact _ input reached (admissible input (by simp))

/-- What holds at the start and after every step of a run holds before every step
of it. -/
theorem before_of_after {Good : σ → Prop} {state : σ} (start : Good state) {inputs : List ι}
    (after : ∀ taken ∈ M.steps state inputs, Good taken.after) :
    ∀ taken ∈ M.steps state inputs, Good taken.before := by
  induction inputs generalizing state with
  | nil => exact fun _ member => absurd member List.not_mem_nil
  | cons input rest ih =>
      rw [steps_cons, List.forall_mem_cons] at after
      rw [steps_cons, List.forall_mem_cons]
      exact ⟨start, ih after.1 after.2⟩

/-- A predicate kept by every step that is spared holds after every run all of
whose steps are spared. Unlike an admissible input, a spared step may depend on
the state in which it is taken. -/
theorem run_spared {Good : σ → Prop} {Admissible : ι → Prop} {Spared : Step σ ι ο → Prop}
    (kept : ∀ state input, Good state → Admissible input → Spared (M.stepOn state input) →
      Good (M.step state input).1)
    {state : σ} (start : Good state) {inputs : List ι}
    (admissible : ∀ input ∈ inputs, Admissible input)
    (spared : ∀ taken ∈ M.steps state inputs, Spared taken) : Good (M.run state inputs) := by
  induction inputs generalizing state with
  | nil => exact start
  | cons input rest ih =>
      rw [steps_cons, List.forall_mem_cons] at spared
      have next := kept state input start (admissible input (List.mem_cons_self ..)) spared.1
      exact ih next (fun later member => admissible later (List.mem_cons_of_mem _ member))
        spared.2

/-- A fact about single spared steps from good states is a fact about every
step of a run all of whose steps are spared. -/
theorem steps_spared {Good : σ → Prop} {Admissible : ι → Prop}
    {Spared Fact : Step σ ι ο → Prop}
    (kept : ∀ state input, Good state → Admissible input → Spared (M.stepOn state input) →
      Good (M.step state input).1)
    (fact : ∀ state input, Good state → Admissible input → Spared (M.stepOn state input) →
      Fact (M.stepOn state input))
    {state : σ} (start : Good state) {inputs : List ι}
    (admissible : ∀ input ∈ inputs, Admissible input)
    (spared : ∀ taken ∈ M.steps state inputs, Spared taken) :
    ∀ taken ∈ M.steps state inputs, Fact taken := by
  intro taken member
  obtain ⟨earlier, input, later, rfl, rfl⟩ := mem_steps.mp member
  have reached : Good (M.run state earlier) := by
    refine run_spared kept start (fun before inEarlier =>
      admissible before (List.mem_append_left _ inEarlier)) fun taken inEarlier => spared taken ?_
    rw [steps_append]
    exact List.mem_append_left _ inEarlier
  exact fact _ input reached (admissible input (by simp)) (spared _ member)

/-- **A condition that is exact for single steps is exact for runs.** -/
theorem steps_iff {Good : σ → Prop} {Spared Fact : Step σ ι ο → Prop}
    (exact_ : ∀ state input, Good state →
      (Fact (M.stepOn state input) ↔ Spared (M.stepOn state input)))
    (kept : ∀ state input, Good state → Fact (M.stepOn state input) →
      Good (M.step state input).1)
    {state : σ} (start : Good state) (inputs : List ι) :
    (∀ taken ∈ M.steps state inputs, Fact taken) ↔
      ∀ taken ∈ M.steps state inputs, Spared taken := by
  induction inputs generalizing state with
  | nil =>
      exact iff_of_true (fun _ member => absurd member List.not_mem_nil)
        fun _ member => absurd member List.not_mem_nil
  | cons input rest ih =>
      rw [steps_cons, List.forall_mem_cons, List.forall_mem_cons, exact_ state input start]
      apply and_congr_right
      intro spared
      exact ih (kept state input start ((exact_ state input start).mpr spared))

/-- **What is only gained.** If a step makes something true exactly by gaining it, it is true
after a run exactly if it was at the start or one of the steps has gained it. -/
theorem run_gains {Good Gained : σ → Prop} {Spared Gains : Step σ ι ο → Prop}
    (kept : ∀ state input, Good state → Spared (M.stepOn state input) →
      Good (M.step state input).1)
    (gains : ∀ state input, Good state → Spared (M.stepOn state input) →
      (Gained (M.step state input).1 ↔ Gained state ∨ Gains (M.stepOn state input)))
    {state : σ} (start : Good state) {inputs : List ι}
    (spared : ∀ taken ∈ M.steps state inputs, Spared taken) :
    Gained (M.run state inputs) ↔
      Gained state ∨ ∃ taken ∈ M.steps state inputs, Gains taken := by
  induction inputs generalizing state with
  | nil => simp
  | cons input rest ih =>
      rw [steps_cons, List.forall_mem_cons] at spared
      have next := kept state input start spared.1
      rw [run_cons, ih next spared.2, gains state input start spared.1, steps_cons,
        List.exists_mem_cons_iff, or_assoc]

/-- The last step that changed what is read from the state. -/
def lastChange {β : Type*} [DecidableEq β] (read : σ → β) (steps : List (Step σ ι ο)) :
    Option (Step σ ι ο) :=
  (steps.filter fun taken => read taken.after ≠ read taken.before).getLast?

/-- **What is read after a run is what it was at the start or what the last change made it.** -/
theorem run_lastChange {β : Type*} [DecidableEq β] (read : σ → β) (state : σ) (inputs : List ι) :
    match lastChange read (M.steps state inputs) with
    | none => read (M.run state inputs) = read state
    | some taken => taken ∈ M.steps state inputs ∧ read taken.after ≠ read taken.before ∧
        read (M.run state inputs) = read taken.after := by
  induction inputs using List.reverseRecOn with
  | nil => rfl
  | append_singleton earlier input ih =>
      have final : M.run state (earlier ++ [input]) =
          (M.stepOn (M.run state earlier) input).after := by
        rw [run_append]
        rfl
      have split : M.steps state (earlier ++ [input]) =
          M.steps state earlier ++ [M.stepOn (M.run state earlier) input] := steps_append ..
      rw [final, split, lastChange, List.filter_append]
      by_cases changed : read (M.stepOn (M.run state earlier) input).after ≠
          read (M.stepOn (M.run state earlier) input).before
      · rw [List.filter_cons_of_pos (by simpa using changed), List.filter_nil,
          List.getLast?_concat]
        exact ⟨List.mem_append_right _ (List.mem_singleton.mpr rfl), changed, rfl⟩
      · rw [List.filter_cons_of_neg (by simpa using changed), List.filter_nil, List.append_nil,
          ← lastChange, not_not.mp changed]
        revert ih
        cases lastChange read (M.steps state earlier) with
        | none => exact id
        | some taken => exact fun last => ⟨List.mem_append_left _ last.1, last.2⟩

/-- What a run emits is what its steps emit. -/
theorem mem_outputs {state : σ} {inputs : List ι} {output : ο} :
    output ∈ M.outputs state inputs ↔
      ∃ taken ∈ M.steps state inputs, output ∈ taken.outputs := by
  induction inputs generalizing state with
  | nil => simp
  | cons input rest ih =>
      simp only [outputs_cons, List.mem_append, ih, steps_cons, List.exists_mem_cons_iff]
      rfl

/-- What is gathered from the outputs of a run is gathered from those of its steps. -/
theorem flatMap_outputs {β : Type*} (gather : ο → List β) {fact : Step σ ι ο → List β}
    (same : ∀ state input, (M.step state input).2.flatMap gather = fact (M.stepOn state input))
    (state : σ) (inputs : List ι) :
    (M.outputs state inputs).flatMap gather = (M.steps state inputs).flatMap fact := by
  induction inputs generalizing state with
  | nil => rfl
  | cons input rest ih =>
      rw [outputs_cons, steps_cons, List.flatMap_append, List.flatMap_cons, ih, same]

/-! ## Observers -/

/-- Every output satisfies `Fact` together with the observer state that the
outputs before it lead to. -/
def OutputsSatisfy (observe : ω → ο → ω) (Fact : ω → ο → Prop) : ω → List ο → Prop
  | _, [] => True
  | seen, output :: rest =>
      Fact seen output ∧ OutputsSatisfy observe Fact (observe seen output) rest

theorem outputsSatisfy_append {observe : ω → ο → ω} {Fact : ω → ο → Prop} {seen : ω}
    {earlier later : List ο} :
    OutputsSatisfy observe Fact seen (earlier ++ later) ↔
      OutputsSatisfy observe Fact seen earlier ∧
        OutputsSatisfy observe Fact (earlier.foldl observe seen) later := by
  induction earlier generalizing seen with
  | nil => simp [OutputsSatisfy]
  | cons output rest ih =>
      simp only [List.cons_append, OutputsSatisfy, List.foldl_cons, ih, and_assoc]

/-- The same, read off at every position of the list. -/
theorem OutputsSatisfy.at_split {observe : ω → ο → ω} {Fact : ω → ο → Prop} {seen : ω}
    {earlier later : List ο} {output : ο}
    (satisfied : OutputsSatisfy observe Fact seen (earlier ++ output :: later)) :
    Fact (earlier.foldl observe seen) output :=
  (outputsSatisfy_append.mp satisfied).2.1

/-- A relation between the machine and an observer of its outputs, kept by
every admissible step, holds after every admissible run. -/
theorem run_observed {observe : ω → ο → ω} {Good : σ → ω → Prop} {Admissible : ι → Prop}
    (kept : ∀ state seen input, Good state seen → Admissible input →
      Good (M.step state input).1 ((M.step state input).2.foldl observe seen))
    {state : σ} {seen : ω} (start : Good state seen) {inputs : List ι}
    (admissible : ∀ input ∈ inputs, Admissible input) :
    Good (M.run state inputs) ((M.outputs state inputs).foldl observe seen) := by
  induction inputs generalizing state seen with
  | nil => exact start
  | cons input rest ih =>
      have next := kept state seen input start (admissible input (List.mem_cons_self ..))
      rw [outputs_cons, List.foldl_append]
      exact ih next fun later member => admissible later (List.mem_cons_of_mem _ member)

/-- A relation between the state and all that has been emitted, kept by every step. -/
theorem run_history {Good : σ → List ο → Prop}
    (kept : ∀ state seen input, Good state seen →
      Good (M.step state input).1 (seen ++ (M.step state input).2))
    {state : σ} {seen : List ο} (start : Good state seen) (inputs : List ι) :
    Good (M.run state inputs) (seen ++ M.outputs state inputs) := by
  induction inputs generalizing state seen with
  | nil =>
      rw [outputs_nil, List.append_nil]
      exact start
  | cons input rest ih =>
      rw [outputs_cons, ← List.append_assoc]
      exact ih (kept state seen input start)

/-- A relation between the state and the inputs read so far, the last one first, kept by every
step. -/
theorem run_past {Good : σ → List ι → Prop}
    (kept : ∀ state past input, Good state past → Good (M.step state input).1 (input :: past))
    {state : σ} {past : List ι} (start : Good state past) (inputs : List ι) :
    Good (M.run state inputs) (inputs.reverse ++ past) := by
  induction inputs generalizing state past with
  | nil => exact start
  | cons input rest ih =>
      have later := ih (kept state past input start)
      rwa [List.reverse_cons, List.append_assoc]

/-- What holds of every output of a spared step together with all that was emitted before, holds
of every output of a run all of whose steps are spared. -/
theorem run_events_spared {Good : σ → List ο → Prop} {Fact : List ο → ο → Prop}
    {Spared : Step σ ι ο → Prop}
    (kept : ∀ state seen input, Good state seen → Spared (M.stepOn state input) →
      Good (M.step state input).1 (seen ++ (M.step state input).2))
    (fact : ∀ state seen input, Good state seen → Spared (M.stepOn state input) →
      ∀ before event after, (M.step state input).2 = before ++ event :: after →
        Fact (seen ++ before) event)
    {state : σ} {seen : List ο} (start : Good state seen) {inputs : List ι}
    (spared : ∀ taken ∈ M.steps state inputs, Spared taken) {before after : List ο} {event : ο}
    (split : M.outputs state inputs = before ++ event :: after) :
    Fact (seen ++ before) event := by
  induction inputs generalizing state seen before with
  | nil => exact absurd split.symm (by simp)
  | cons input rest ih =>
      rw [steps_cons, List.forall_mem_cons] at spared
      obtain ⟨allowed, others⟩ := spared
      have next := kept state seen input start allowed
      rw [outputs_cons, List.append_eq_append_iff] at split
      rcases split with ⟨more, rfl, there⟩ | ⟨more, here, same⟩
      · rw [← List.append_assoc]
        exact ih next others there
      · cases more with
        | nil =>
            have later : Fact (seen ++ (M.step state input).2 ++ []) event :=
              ih next others same.symm
            rwa [here, List.append_nil, List.append_nil] at later
        | cons first more =>
            obtain ⟨rfl, -⟩ := List.cons.inj same
            exact fact state seen input start allowed before event more here

/-- The same where the inputs are admissible. -/
theorem run_events {Good : σ → List ο → Prop} {Fact : List ο → ο → Prop} {Admissible : ι → Prop}
    (kept : ∀ state seen input, Good state seen → Admissible input →
      Good (M.step state input).1 (seen ++ (M.step state input).2))
    (fact : ∀ state seen input, Good state seen → Admissible input → ∀ before event after,
      (M.step state input).2 = before ++ event :: after → Fact (seen ++ before) event)
    {state : σ} {seen : List ο} (start : Good state seen) {inputs : List ι}
    (admissible : ∀ input ∈ inputs, Admissible input) {before after : List ο} {event : ο}
    (split : M.outputs state inputs = before ++ event :: after) :
    Fact (seen ++ before) event := by
  have spared : ∀ taken ∈ M.steps state inputs, Admissible taken.input := by
    intro taken member
    obtain ⟨earlier, input, later, rfl, rfl⟩ := mem_steps.mp member
    exact admissible input (List.mem_append_right _ (List.mem_cons_self ..))
  exact run_events_spared kept fact start spared split

/-- **A fact about the outputs of single steps is a fact about the outputs of a
whole run**, the observer being in the state that the run so far gave it. -/
theorem run_outputsSatisfy {observe : ω → ο → ω} {Good : σ → ω → Prop} {Fact : ω → ο → Prop}
    {Admissible : ι → Prop}
    (kept : ∀ state seen input, Good state seen → Admissible input →
      Good (M.step state input).1 ((M.step state input).2.foldl observe seen))
    (fact : ∀ state seen input, Good state seen → Admissible input →
      OutputsSatisfy observe Fact seen (M.step state input).2)
    {state : σ} {seen : ω} (start : Good state seen) {inputs : List ι}
    (admissible : ∀ input ∈ inputs, Admissible input) :
    OutputsSatisfy observe Fact seen (M.outputs state inputs) := by
  induction inputs generalizing state seen with
  | nil => trivial
  | cons input rest ih =>
      have allowed := admissible input (List.mem_cons_self ..)
      rw [outputs_cons, outputsSatisfy_append]
      exact ⟨fact state seen input start allowed,
        ih (kept state seen input start allowed) fun later member =>
          admissible later (List.mem_cons_of_mem _ member)⟩

/-- The same where only the steps that are spared keep the relation and emit such outputs. -/
theorem run_outputsSatisfy_spared {observe : ω → ο → ω} {Good : σ → ω → Prop}
    {Fact : ω → ο → Prop} {Spared : Step σ ι ο → Prop}
    (kept : ∀ state seen input, Good state seen → Spared (M.stepOn state input) →
      Good (M.step state input).1 ((M.step state input).2.foldl observe seen))
    (fact : ∀ state seen input, Good state seen → Spared (M.stepOn state input) →
      OutputsSatisfy observe Fact seen (M.step state input).2)
    {state : σ} {seen : ω} (start : Good state seen) {inputs : List ι}
    (spared : ∀ taken ∈ M.steps state inputs, Spared taken) :
    OutputsSatisfy observe Fact seen (M.outputs state inputs) := by
  induction inputs generalizing state seen with
  | nil => trivial
  | cons input rest ih =>
      rw [steps_cons, List.forall_mem_cons] at spared
      rw [outputs_cons, outputsSatisfy_append]
      exact ⟨fact state seen input start spared.1,
        ih (kept state seen input start spared.1) spared.2⟩

/-! ## Balances -/

/-- **What goes in comes out or is kept.** If every step balances what it takes in
with what it gives out and with the change of the stock, then so does every run. -/
theorem run_balance {α : Type*} [AddCommMonoid α] {credit : ι → α} {debit : ο → α} {stock : σ → α}
    (balanced : ∀ state input, stock state + credit input =
      ((M.step state input).2.map debit).sum + stock (M.step state input).1)
    (state : σ) (inputs : List ι) :
    stock state + (inputs.map credit).sum =
      ((M.outputs state inputs).map debit).sum + stock (M.run state inputs) := by
  induction inputs generalizing state with
  | nil => simp
  | cons input rest ih =>
      rw [List.map_cons, List.sum_cons, ← add_assoc, balanced, add_assoc, ih, outputs_cons,
        List.map_append, List.sum_append, add_assoc, run_cons]

/-- **What comes in in order goes out in order**, if it does so in every step. -/
theorem run_ordered {α : Type*} {arrived departed : ο → List α} {stock : σ → List α}
    (ordered : ∀ state input, stock state ++ (M.step state input).2.flatMap arrived =
      (M.step state input).2.flatMap departed ++ stock (M.step state input).1)
    (state : σ) (inputs : List ι) :
    stock state ++ (M.outputs state inputs).flatMap arrived =
      (M.outputs state inputs).flatMap departed ++ stock (M.run state inputs) := by
  induction inputs generalizing state with
  | nil => simp
  | cons input rest ih =>
      rw [outputs_cons, List.flatMap_append, List.flatMap_append, ← List.append_assoc, ordered,
        List.append_assoc, ih, List.append_assoc, run_cons]

/-! ## Simulation -/

/-- A relation that may depend on the inputs still to come, between machines of which
the second emits what the first one shows. -/
theorem run_simulation_seen {ο' : Type*} {N : Machine τ ι ο'} {seen : ο' → ο}
    {Related : List ι → σ → τ → Prop}
    (simulates : ∀ input rest state model, Related (input :: rest) state model →
      Related rest (M.step state input).1 (N.step model input).1 ∧
        (M.step state input).2 = (N.step model input).2.map seen)
    {state : σ} {model : τ} {inputs later : List ι}
    (start : Related (inputs ++ later) state model) :
    Related later (M.run state inputs) (N.run model inputs) ∧
      M.outputs state inputs = (N.outputs model inputs).map seen := by
  induction inputs generalizing state model with
  | nil => exact ⟨start, rfl⟩
  | cons input rest ih =>
      obtain ⟨next, same⟩ := simulates input (rest ++ later) state model start
      obtain ⟨reached, after⟩ := ih next
      refine ⟨reached, ?_⟩
      rw [outputs_cons, outputs_cons, List.map_append, same, after]

theorem run_simulation_ahead {N : Machine τ ι ο} {Related : List ι → σ → τ → Prop}
    (simulates : ∀ input rest state model, Related (input :: rest) state model →
      Related rest (M.step state input).1 (N.step model input).1 ∧
        (M.step state input).2 = (N.step model input).2)
    {state : σ} {model : τ} {inputs : List ι} (start : Related inputs state model) :
    Related [] (M.run state inputs) (N.run model inputs) ∧
      M.outputs state inputs = N.outputs model inputs := by
  have shown := @run_simulation_seen _ _ _ _ M _ N id Related
    (by simpa only [List.map_id] using simulates) state model inputs []
    (by rwa [List.append_nil])
  rwa [List.map_id] at shown

/-- **Steps that keep a relation and emit the same make runs that do.** An invariant
of the first machine may be part of the relation. -/
theorem run_simulation {N : Machine τ ι ο} {Related : σ → τ → Prop}
    (simulates : ∀ state model input, Related state model →
      Related (M.step state input).1 (N.step model input).1 ∧
        (M.step state input).2 = (N.step model input).2)
    {state : σ} {model : τ} (start : Related state model) (inputs : List ι) :
    Related (M.run state inputs) (N.run model inputs) ∧
      M.outputs state inputs = N.outputs model inputs :=
  @run_simulation_ahead _ _ _ _ M N (fun _ => Related)
    (fun input _ state model => simulates state model input) _ _ inputs start

/-! ## Monitors -/

variable (M)

/-- The machine together with a monitor that reads every step. -/
def monitored (watch : ω → Step σ ι ο → ω) : Machine (σ × ω) ι ο where
  step state input :=
    (((M.step state.1 input).1, watch state.2 (M.stepOn state.1 input)),
      (M.step state.1 input).2)

/-- A monitor only watches. -/
theorem monitored_run_fst (watch : ω → Step σ ι ο → ω) (state : σ × ω) (inputs : List ι) :
    ((M.monitored watch).run state inputs).1 = M.run state.1 inputs := by
  induction inputs generalizing state with
  | nil => rfl
  | cons input rest ih => exact ih _

end Machine

end Msm8660
