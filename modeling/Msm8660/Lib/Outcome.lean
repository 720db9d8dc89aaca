import Msm8660.Lib.Machine

/-!
# Outcomes of handlers

A handler is a function from a state to an outcome: the state afterwards, or none
when it does not return, and what was emitted on the way. Handlers are put
together with `andThen`; what is known of the parts is known of the whole.

* `Ensures` is the partial correctness of a handler: a postcondition and a fact
  about everything emitted.
* `Observed` relates the state that a handler reaches to what an observer of its
  outputs has seen.
* `ActsAs` relates a handler to a component of its state that is a machine of its
  own: the component took allowed steps only, and what was emitted on its behalf
  is what these steps emit. When every step of a system acts on a component, every
  run of it is a run of the component (`run_actsAs`).
-/

set_option autoImplicit false

namespace Msm8660

/-- The state afterwards, if there is one, and everything emitted. -/
abbrev Outcome (σ : Type*) (ο : Type*) := Option σ × List ο

namespace Outcome

variable {σ ι ο ω τ κ ε : Type*}

/-- One part of a handler after the other. -/
def andThen (first : Outcome σ ο) (next : σ → Outcome σ ο) : Outcome σ ο :=
  match first with
  | (none, emitted) => (none, emitted)
  | (some state, emitted) => ((next state).1, emitted ++ (next state).2)

@[simp] theorem andThen_none (emitted : List ο) (next : σ → Outcome σ ο) :
    andThen (none, emitted) next = (none, emitted) := rfl

@[simp] theorem andThen_some (state : σ) (emitted : List ο) (next : σ → Outcome σ ο) :
    andThen (some state, emitted) next = ((next state).1, emitted ++ (next state).2) := rfl

/-- What one part emits, the whole emits. -/
theorem mem_andThen_left {first : Outcome σ ο} {output : ο} (member : output ∈ first.2)
    (next : σ → Outcome σ ο) : output ∈ (first.andThen next).2 := by
  obtain ⟨reached, emitted⟩ := first
  cases reached with
  | none => exact member
  | some state => exact List.mem_append_left _ member

/-- What the rest emits, the whole emits. -/
theorem mem_andThen_right {first : Outcome σ ο} {state : σ} (reached : state ∈ first.1)
    {next : σ → Outcome σ ο} {output : ο} (member : output ∈ (next state).2) :
    output ∈ (first.andThen next).2 := by
  obtain ⟨_, emitted⟩ := first
  cases reached
  exact List.mem_append_right _ member

/-- What the whole emits, one of its parts emits. -/
theorem emitted_of_andThen {first : Outcome σ ο} {next : σ → Outcome σ ο} {output : ο}
    (member : output ∈ (first.andThen next).2) :
    output ∈ first.2 ∨ ∃ state ∈ first.1, output ∈ (next state).2 := by
  obtain ⟨reached, emitted⟩ := first
  cases reached with
  | none => exact Or.inl member
  | some state =>
      exact (List.mem_append.mp member).imp id fun later => ⟨state, rfl, later⟩

/-- Where the first part returns without it, the rest decides whether the whole
emits it. -/
theorem mem_andThen_iff {first : Outcome σ ο} {next : σ → Outcome σ ο} {output : ο} {Q : Prop}
    (silent : output ∉ first.2) (rest : ∃ state ∈ first.1, output ∈ (next state).2 ↔ Q) :
    output ∈ (first.andThen next).2 ↔ Q := by
  obtain ⟨state, reached, decides⟩ := rest
  rw [← decides]
  constructor
  · intro member
    rcases emitted_of_andThen member with early | ⟨state', reached', late⟩
    · exact absurd early silent
    · cases Option.mem_unique reached reached'
      exact late
  · exact mem_andThen_right reached

/-- What the rest reaches, the whole reaches. -/
theorem mem_andThen {first : Outcome σ ο} {next : σ → Outcome σ ο} {state final : σ}
    (early : state ∈ first.1) (late : final ∈ (next state).1) : final ∈ (first.andThen next).1 := by
  obtain ⟨_, emitted⟩ := first
  cases early
  exact late

/-- A state reached by the whole is reached by the rest from one reached by the
first part. -/
theorem exists_of_mem_andThen {first : Outcome σ ο} {next : σ → Outcome σ ο} {final : σ}
    (reached : final ∈ (first.andThen next).1) :
    ∃ state ∈ first.1, final ∈ (next state).1 := by
  obtain ⟨middle, emitted⟩ := first
  cases middle with
  | none => exact absurd reached (Option.not_mem_none _)
  | some state => exact ⟨state, rfl, reached⟩

/-! ## Postconditions -/

/-- A state that is reached satisfies `Post`, and everything emitted satisfies
`Every`. -/
structure Ensures (Post : σ → Prop) (Every : ο → Prop) (outcome : Outcome σ ο) : Prop where
  post : ∀ state ∈ outcome.1, Post state
  every : ∀ output ∈ outcome.2, Every output

section Ensures

variable {Post Mid : σ → Prop} {Every : ο → Prop} {first : Outcome σ ο} {next : σ → Outcome σ ο}

theorem Ensures.some {state : σ} {emitted : List ο} (post : Post state)
    (every : ∀ output ∈ emitted, Every output) :
    Ensures Post Every (some state, emitted) :=
  ⟨fun _ same => by cases same; exact post, every⟩

/-- A handler that emits nothing. -/
theorem Ensures.silent {state : σ} (post : Post state) :
    Ensures Post Every (Option.some state, []) :=
  Ensures.some post fun _ member => absurd member List.not_mem_nil

theorem Ensures.none {emitted : List ο} (every : ∀ output ∈ emitted, Every output) :
    Ensures Post Every (none, emitted) :=
  ⟨nofun, every⟩

/-- The rule of consequence. -/
theorem Ensures.mono {outcome : Outcome σ ο} {Post' : σ → Prop} {Every' : ο → Prop}
    (start : Ensures Post Every outcome) (post : ∀ state, Post state → Post' state)
    (every : ∀ output, Every output → Every' output) : Ensures Post' Every' outcome :=
  ⟨fun state reached => post state (start.post state reached),
    fun output member => every output (start.every output member)⟩

/-- The rule of composition. -/
theorem Ensures.andThen (start : Ensures Mid Every first)
    (rest : ∀ state, Mid state → Ensures Post Every (next state)) :
    Ensures Post Every (first.andThen next) := by
  obtain ⟨reached, emitted⟩ := first
  cases reached with
  | none => exact Ensures.none start.every
  | some state =>
      have after := rest state (start.post state rfl)
      refine ⟨after.post, fun output member => ?_⟩
      rcases List.mem_append.mp member with early | late
      · exact start.every output early
      · exact after.every output late

end Ensures

/-! ## Total handlers -/

/-- The handler returns. -/
def Returns (outcome : Outcome σ ο) : Prop := ∃ state emitted, outcome = (some state, emitted)

theorem returns_some (state : σ) (emitted : List ο) : Returns (some state, emitted) :=
  ⟨state, emitted, rfl⟩

theorem Returns.andThen {first : Outcome σ ο} {next : σ → Outcome σ ο} (start : Returns first)
    (rest : ∀ state, Returns (next state)) : Returns (first.andThen next) := by
  obtain ⟨state, emitted, rfl⟩ := start
  obtain ⟨after, more, same⟩ := rest state
  exact ⟨after, emitted ++ more, by rw [andThen_some, same]⟩

/-! ## Observers -/

/-- A state that is reached is related to what an observer has seen by then. -/
def Observed (observe : ω → ο → ω) (Good : σ → ω → Prop) (seen : ω)
    (outcome : Outcome σ ο) : Prop :=
  ∀ state ∈ outcome.1, Good state (outcome.2.foldl observe seen)

section Observed

variable {observe : ω → ο → ω} {Good Mid : σ → ω → Prop} {seen : ω}

theorem Observed.some {state : σ} {emitted : List ο}
    (good : Good state (emitted.foldl observe seen)) :
    Observed observe Good seen (some state, emitted) :=
  fun _ same => by cases same; exact good

/-- The rule of composition: the observer goes on where it has stopped. -/
theorem Observed.andThen {first : Outcome σ ο} {next : σ → Outcome σ ο}
    (start : Observed observe Mid seen first)
    (rest : ∀ state seen, Mid state seen → Observed observe Good seen (next state)) :
    Observed observe Good seen (first.andThen next) := by
  obtain ⟨reached, emitted⟩ := first
  cases reached with
  | none => exact nofun
  | some state =>
      intro after reached
      rw [andThen_some, List.foldl_append]
      exact rest state _ (start state rfl) after reached

/-- An observer that does not notice anything stays where it is. -/
theorem Observed.of_ensures {Post : σ → Prop} {outcome : Outcome σ ο}
    (ensures : Ensures Post (fun output => ∀ seen, observe seen output = seen) outcome)
    (good : ∀ state, Post state → Good state seen) : Observed observe Good seen outcome := by
  obtain ⟨reached, emitted⟩ := outcome
  have unmoved : emitted.foldl observe seen = seen := by
    have every : ∀ output ∈ emitted, ∀ seen, observe seen output = seen := ensures.every
    clear ensures
    induction emitted with
    | nil => rfl
    | cons output rest ih =>
        rw [List.foldl_cons, every output (List.mem_cons_self ..) seen]
        exact ih fun later member => every later (List.mem_cons_of_mem _ member)
  intro state same
  change Good state (emitted.foldl observe seen)
  rw [unmoved]
  exact good state (ensures.post state same)

end Observed

/-! ## Components -/

section Components

variable (C : Machine τ κ ε) (Allowed : κ → Prop) (view : σ → Option τ) (part : ο → Option ε)

/-- Seen from the component `view`, which emits through `part`, the outcome is a
list of allowed steps. -/
def ActsAs (before : τ) (outcome : Outcome σ ο) : Prop :=
  ∃ ops, (∀ op ∈ ops, Allowed op) ∧ outcome.2.filterMap part = C.outputs before ops ∧
    ∀ state ∈ outcome.1, view state = some (C.run before ops)

variable {C Allowed view part} {before : τ}

/-- A handler that leaves the component alone. -/
theorem ActsAs.quiet {outcome : Outcome σ ο} (silent : ∀ output ∈ outcome.2, part output = none)
    (kept : ∀ state ∈ outcome.1, view state = some before) :
    ActsAs C Allowed view part before outcome := by
  refine ⟨[], nofun, ?_, kept⟩
  rw [List.filterMap_eq_nil_iff.mpr silent]
  rfl

/-- A handler that takes one step of the component. -/
theorem ActsAs.step {outcome : Outcome σ ο} {op : κ} (allowed : Allowed op)
    (emitted : outcome.2.filterMap part = (C.step before op).2)
    (taken : ∀ state ∈ outcome.1, view state = some (C.step before op).1) :
    ActsAs C Allowed view part before outcome :=
  ⟨[op], List.forall_mem_singleton.mpr allowed, by simp [emitted], taken⟩

theorem ActsAs.mono {Allowed' : κ → Prop} {outcome : Outcome σ ο}
    (implies : ∀ op, Allowed op → Allowed' op)
    (acts : ActsAs C Allowed view part before outcome) :
    ActsAs C Allowed' view part before outcome := by
  obtain ⟨ops, allowed, same, seen⟩ := acts
  exact ⟨ops, fun op member => implies op (allowed op member), same, seen⟩

/-- What the allowed steps keep is kept by a handler that acts on the component. -/
theorem ActsAs.kept {Fits : τ → Prop}
    (kept : ∀ held op, Fits held → Allowed op → Fits (C.step held op).1) (fits : Fits before)
    {outcome : Outcome σ ο} (acts : ActsAs C Allowed view part before outcome) :
    ∀ state ∈ outcome.1, ∃ after, view state = some after ∧ Fits after := by
  intro state reached
  obtain ⟨ops, allowed, -, seen⟩ := acts
  exact ⟨_, seen state reached, Machine.run_induction kept fits allowed⟩

/-- The rule of composition: the steps of one part after those of the other. -/
theorem ActsAs.andThen {Fits : τ → Prop}
    (kept : ∀ held op, Fits held → Allowed op → Fits (C.step held op).1) (fits : Fits before)
    {first : Outcome σ ο} {next : σ → Outcome σ ο}
    (start : ActsAs C Allowed view part before first)
    (rest : ∀ state ∈ first.1, ∀ after, view state = some after → Fits after →
      ActsAs C Allowed view part after (next state)) :
    ActsAs C Allowed view part before (first.andThen next) := by
  obtain ⟨reached, emitted⟩ := first
  cases reached with
  | none => exact start
  | some state =>
      obtain ⟨ops, allowed, same, seen⟩ := start
      obtain ⟨ops', allowed', same', seen'⟩ := rest state rfl _ (seen state rfl)
        (Machine.run_induction kept fits allowed)
      refine ⟨ops ++ ops', fun op member => ?_, ?_, fun final reached => ?_⟩
      · exact (List.mem_append.mp member).elim (allowed op) (allowed' op)
      · rw [andThen_some, List.filterMap_append, C.outputs_append]
        exact congrArg₂ (· ++ ·) same same'
      · rw [C.run_append]
        exact seen' final reached

/-- **A run of a system is a run of its component**, if every step of the system
acts on the component by allowed steps. An invariant of the component may be
used. -/
theorem run_actsAs {Fits : τ → Prop}
    (kept : ∀ held op, Fits held → Allowed op → Fits (C.step held op).1) (fits : Fits before)
    {M : Machine (Option σ) ι ο} (halted : ∀ input, M.step none input = (none, []))
    (acts : ∀ state input held, view state = some held → Fits held →
      ActsAs C Allowed view part held (M.step (some state) input))
    {state : σ} (seen : view state = some before) (inputs : List ι) :
    ActsAs C Allowed view part before
      (M.run (some state) inputs, M.outputs (some state) inputs) := by
  have stays : ∀ inputs, M.run none inputs = none ∧ M.outputs none inputs = [] := by
    intro inputs
    induction inputs with
    | nil => exact ⟨rfl, rfl⟩
    | cons input rest ih => simp [halted, ih]
  induction inputs generalizing state before with
  | nil => exact ActsAs.quiet nofun fun _ same => by cases same; exact seen
  | cons input rest ih =>
      have whole : (M.run (some state) (input :: rest), M.outputs (some state) (input :: rest)) =
          andThen (M.step (some state) input) fun state' =>
            (M.run (some state') rest, M.outputs (some state') rest) := by
        rw [M.run_cons, M.outputs_cons]
        cases M.step (some state) input with
        | mk reached emitted =>
            cases reached with
            | none => rw [(stays rest).1, (stays rest).2, List.append_nil]; rfl
            | some state' => rfl
      rw [whole]
      exact ActsAs.andThen kept fits (acts state input before seen fits)
        fun _ _ _ seen' fits' => ih fits' seen'

end Components

end Outcome

end Msm8660
