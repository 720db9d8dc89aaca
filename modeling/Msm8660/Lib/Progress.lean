import Msm8660.Lib.Machine

/-!
# Progress in fair rounds

Safety says what a machine never does. Here is a rule for what it does in the end. In every
state some inputs help: they bring the goal about or lower a rank. The others do no harm:
they leave the rank and what helps as they are, or lower the rank as well. A run is cut into
rounds, and a round is fair if it has, for every state, an input that helps there. After more
rounds than the rank the goal is reached (`run_reaches`), wherever in a round the inputs that
help are, and whatever stands between them.
-/

set_option autoImplicit false

namespace Msm8660

namespace Machine

variable {σ ι ο : Type*} {M : Machine σ ι ο} {Good Goal : σ → Prop} {rank : σ → ℕ}
  {Helps : σ → ι → Prop}

/-- What a step does on the way to the goal. -/
structure Advances (M : Machine σ ι ο) (Good Goal : σ → Prop) (rank : σ → ℕ)
    (Helps : σ → ι → Prop) (Admissible : ι → Prop) : Prop where
  kept : ∀ state input, Good state → Admissible input → Good (M.step state input).1
  stays : ∀ state input, Good state → Admissible input → Goal state → Goal (M.step state input).1
  helps : ∀ state input, Good state → Admissible input → Helps state input →
    Goal (M.step state input).1 ∨ rank (M.step state input).1 < rank state
  harmless : ∀ state input, Good state → Admissible input →
    Goal (M.step state input).1 ∨ rank (M.step state input).1 < rank state ∨
      rank (M.step state input).1 = rank state ∧
        ∀ later, Helps state later → Helps (M.step state input).1 later

namespace Advances

variable {Admissible : ι → Prop} (advances : Advances M Good Goal rank Helps Admissible)

include advances

/-- A reached goal stays reached. -/
theorem run_stays {state : σ} (good : Good state) (reached : Goal state) {inputs : List ι}
    (admissible : ∀ input ∈ inputs, Admissible input) : Goal (M.run state inputs) := by
  have kept : ∀ state input, Good state ∧ Goal state → Admissible input →
      Good (M.step state input).1 ∧ Goal (M.step state input).1 := fun state input both allowed =>
    ⟨advances.kept state input both.1 allowed, advances.stays state input both.1 allowed both.2⟩
  exact (run_induction kept ⟨good, reached⟩ admissible).2

/-- Without the goal, the rank has not grown. -/
theorem run_rank {state : σ} (good : Good state) {inputs : List ι}
    (admissible : ∀ input ∈ inputs, Admissible input) :
    Goal (M.run state inputs) ∨ rank (M.run state inputs) ≤ rank state := by
  induction inputs generalizing state with
  | nil => exact Or.inr (Nat.le_refl _)
  | cons input rest ih =>
      obtain ⟨allowed, others⟩ := List.forall_mem_cons.mp admissible
      have next := advances.kept state input good allowed
      rcases advances.harmless state input good allowed with reached | lower | ⟨same, -⟩
      · exact Or.inl (advances.run_stays next reached others)
      · exact (ih next others).imp_right fun bound => Nat.le_trans bound (Nat.le_of_lt lower)
      · exact (ih next others).imp_right fun bound => Nat.le_trans bound (Nat.le_of_eq same)

/-- A round with an input that helps at its start reaches the goal or lowers the rank. -/
theorem run_round {state : σ} (good : Good state) {round : List ι}
    (admissible : ∀ input ∈ round, Admissible input) (fair : ∃ input ∈ round, Helps state input) :
    Goal (M.run state round) ∨ rank (M.run state round) < rank state := by
  induction round generalizing state with
  | nil =>
      obtain ⟨input, member, -⟩ := fair
      exact absurd member List.not_mem_nil
  | cons input rest ih =>
      obtain ⟨allowed, others⟩ := List.forall_mem_cons.mp admissible
      have next := advances.kept state input good allowed
      have lowered : rank (M.step state input).1 < rank state →
          Goal (M.run state (input :: rest)) ∨ rank (M.run state (input :: rest)) < rank state :=
        fun lower => (advances.run_rank next others).imp_right fun bound =>
          Nat.lt_of_le_of_lt bound lower
      have done : Goal (M.step state input).1 →
          Goal (M.run state (input :: rest)) ∨ rank (M.run state (input :: rest)) < rank state :=
        fun reached => Or.inl (advances.run_stays next reached others)
      obtain ⟨helper, member, helping⟩ := fair
      rcases List.mem_cons.mp member with rfl | later
      · exact (advances.helps state helper good allowed helping).elim done lowered
      · rcases advances.harmless state input good allowed with reached | lower | ⟨same, still⟩
        · exact done reached
        · exact lowered lower
        · have round := ih next others ⟨helper, later, still helper helping⟩
          rwa [same] at round

/-- **After more fair rounds than the rank, the goal is reached.** -/
theorem run_reaches {state : σ} (good : Good state) {rounds : List (List ι)}
    (admissible : ∀ round ∈ rounds, ∀ input ∈ round, Admissible input)
    (fair : ∀ round ∈ rounds, ∀ state, Good state → ¬ Goal state →
      ∃ input ∈ round, Helps state input)
    (enough : rank state < rounds.length) : Goal (M.run state rounds.flatten) := by
  induction rounds generalizing state with
  | nil => exact absurd enough (Nat.not_lt_zero _)
  | cons round rest ih =>
      obtain ⟨allowed, others⟩ := List.forall_mem_cons.mp admissible
      obtain ⟨here, later⟩ := List.forall_mem_cons.mp fair
      have allowedLater : ∀ input ∈ rest.flatten, Admissible input := by
        intro input member
        obtain ⟨one, inRest, inOne⟩ := List.mem_flatten.mp member
        exact others one inRest input inOne
      have next : Good (M.run state round) := run_induction advances.kept good allowed
      rw [List.flatten_cons, run_append]
      by_cases reached : Goal state
      · exact advances.run_stays next (advances.run_stays good reached allowed) allowedLater
      · rcases advances.run_round good allowed (here state good reached) with done | lower
        · exact advances.run_stays next done allowedLater
        · refine ih next others later ?_
          rw [List.length_cons] at enough
          omega

end Advances

end Machine

end Msm8660
