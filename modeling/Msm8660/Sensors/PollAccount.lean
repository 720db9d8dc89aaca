import Mathlib.Algebra.BigOperators.Group.List.Basic
import Mathlib.Algebra.Ring.Int.Defs
import Msm8660.Sensors.PollEvents

/-!
# The account of `pollEvents`

`pollEvents` should return as many events as it has taken from the drivers, store
them in the room it was given, and fail only before it has taken any
(`Accounts`). It adds the result of `readEvents` to its variables whatever the sign,
and gives an error of `poll` precedence over the events it holds. So its account is
right exactly when neither happens to a call that returns events, and nothing is
written behind an error (`pollEvents_accounts_iff`).
-/

set_option autoImplicit false

namespace Msm8660.Sensors

variable {S Event α : Type*}

/-- The result of `readEvents` is the number of events it returns, all of them
written in the room it was given, or an error without an event. -/
def FitsRoom (count nb : ℤ) (stored : List Event) : Prop :=
  0 ≤ nb ∧ nb ≤ stored.length ∧ stored.length ≤ count ∨ nb < 0 ∧ stored = []

instance (count nb : ℤ) (stored : List Event) [DecidableEq Event] :
    Decidable (FitsRoom count nb stored) :=
  inferInstanceAs (Decidable (_ ∨ _))

/-- All drivers keep to this. -/
def SensorBase.FitsRoom (base : SensorBase S Event α) : Prop :=
  ∀ sensors i count, 1 ≤ count → ∀ reading ∈ base.readEvents sensors i count,
    Sensors.FitsRoom count reading.nb reading.stored

/-- The events that a call of `readEvents` returns. -/
def ReadCall.returned (call : ReadCall S Event) : List Event := call.stored.take call.nb.toNat

/-- The events that the drivers return, in order. -/
def eventsOf (calls : List (ReadCall S Event)) : List Event := calls.flatMap ReadCall.returned

/-- Nothing is written behind an error. -/
def NothingBehindError (calls : List (ReadCall S Event)) : Prop :=
  calls.Pairwise fun earlier later => earlier.nb < 0 → later.stored = []

instance [DecidableEq Event] (calls : List (ReadCall S Event)) :
    Decidable (NothingBehindError calls) :=
  inferInstanceAs (Decidable (List.Pairwise _ _))

/-- What is written lies in the room of the caller. -/
def Inside (count : ℤ) (array : ℤ → Option Event) : Prop :=
  ∀ index, array index ≠ none → 0 ≤ index ∧ index < count

/-- **A right account**: what is written lies in the room of the caller; a number that
is returned is the number of events that the drivers have returned, and these stand in
the array, in order; with an error the drivers have returned none. -/
structure Accounts (count : ℤ) (final : PollLoop S Event × PollEnd) : Prop where
  inside : Inside count final.1.array
  complete : ∀ value, final.2.value = some value → 0 ≤ value →
    value = (eventsOf final.1.calls).length ∧
      ∀ k : ℕ, k < value → final.1.array k = (eventsOf final.1.calls)[k]?
  failed : ∀ value, final.2.value = some value → value < 0 → eventsOf final.1.calls = []

/-- Whether `poll` has failed. -/
def PollEnd.pollFailed : PollEnd → Bool
  | .failed _ => true
  | _ => false

/-- No error meets a call that returns events, and nothing is written behind one. -/
structure Undisturbed (final : PollLoop S Event × PollEnd) : Prop where
  events : eventsOf final.1.calls = [] ∨
    (∀ call ∈ final.1.calls, 0 ≤ call.nb) ∧ final.2.pollFailed = false
  behind : NothingBehindError final.1.calls

/-! ## The sum of the results -/

section Sums

variable {calls : List (ReadCall S Event)}

/-- Every call keeps to the room it was given. -/
def AllFit (calls : List (ReadCall S Event)) : Prop :=
  ∀ call ∈ calls, FitsRoom call.count call.nb call.stored

theorem returned_length {call : ReadCall S Event} (fits : FitsRoom call.count call.nb call.stored) :
    (call.returned.length : ℤ) = max call.nb 0 := by
  rw [ReadCall.returned, List.length_take]
  rcases fits with ⟨nonneg, stored, -⟩ | ⟨negative, stored⟩
  · omega
  · rw [stored, List.length_nil]
    omega

/-- The results add up to the number of events, less the errors. -/
theorem sum_nb (fits : AllFit calls) :
    (calls.map ReadCall.nb).sum ≤ (eventsOf calls).length ∧
      ((calls.map ReadCall.nb).sum = (eventsOf calls).length ↔ ∀ call ∈ calls, 0 ≤ call.nb) := by
  induction calls with
  | nil => simp [eventsOf]
  | cons call rest ih =>
      obtain ⟨fit, fits⟩ := List.forall_mem_cons.mp fits
      obtain ⟨bound, equal⟩ := ih fits
      have here := returned_length fit
      have split : ((eventsOf (call :: rest)).length : ℤ) =
          call.returned.length + (eventsOf rest).length := by
        simp [eventsOf]
      rw [List.map_cons, List.sum_cons, List.forall_mem_cons, split, here, ← equal]
      omega

end Sums

/-! ## The loop -/

section Store

variable {array : ℤ → Option Event} {data : ℤ} {events : List Event} {index : ℤ}

theorem store_of_lt (before : index < data) : store array data events index = array index := by
  rw [store, if_neg]
  omega

theorem store_add (k : ℕ) (here : k < events.length) :
    store array data events (data + k) = events[k]? := by
  rw [store, if_pos (by omega), add_sub_cancel_left, Int.toNat_natCast]

theorem store_self (nonempty : events ≠ []) : store array data events data ≠ none := by
  have written := List.length_pos_iff.mpr nonempty
  rw [store, if_pos (by omega), sub_self, ne_eq, List.getElem?_eq_none_iff]
  simpa using nonempty

/-- What is written stays inside when both it and the array before do. -/
theorem inside_store {count : ℤ} (inside : Inside count array)
    (written : events ≠ [] → 0 ≤ data ∧ data + events.length ≤ count) :
    Inside count (store array data events) := by
  intro index some
  unfold store at some
  split at some
  · next here =>
      have nonempty : events ≠ [] := by
        rintro rfl
        simp at some
      obtain ⟨low, high⟩ := written nonempty
      omega
  · exact inside index some

/-- Writing does not take anything back. -/
theorem inside_of_store {count : ℤ} (inside : Inside count (store array data events)) :
    Inside count array := by
  intro index some
  by_cases here : data ≤ index ∧ index < data + events.length
  · refine inside index ?_
    rw [store, if_pos here, ne_eq, List.getElem?_eq_none_iff]
    omega
  · refine inside index ?_
    rwa [store, if_neg here]

end Store

/-- What the variables of `pollEvents` have to do with the calls so far. -/
structure Kept (count : ℤ) (loop : PollLoop S Event) : Prop where
  room : loop.data + loop.count = count
  nonneg : 0 ≤ loop.count
  sum : loop.data = (loop.calls.map ReadCall.nb).sum
  same : loop.nbEvents = loop.data
  fits : AllFit loop.calls
  inside : NothingBehindError loop.calls → Inside count loop.array
  behind : eventsOf loop.calls = [] → Inside count loop.array → NothingBehindError loop.calls
  events : (∀ call ∈ loop.calls, 0 ≤ call.nb) → ∀ k : ℕ, k < loop.data →
    loop.array k = (eventsOf loop.calls)[k]?

section Loop

variable {base : SensorBase S Event α} {count : ℤ} {loop : PollLoop S Event}

theorem eventsOf_concat (calls : List (ReadCall S Event)) (call : ReadCall S Event) :
    eventsOf (calls ++ [call]) = eventsOf calls ++ call.returned := by
  simp [eventsOf]

theorem Kept.start (context : PollContext S) (room : 1 ≤ count) :
    Kept count (context.start count : PollLoop S Event) where
  room := zero_add count
  nonneg := by
    change 0 ≤ count
    omega
  sum := rfl
  same := rfl
  fits := fun _ member => absurd member List.not_mem_nil
  inside := fun _ _ some => absurd rfl some
  behind := fun _ _ => List.Pairwise.nil
  events := fun _ k low => absurd low (by simp [PollContext.start])

/-- Reading keeps the books, whatever the result. -/
theorem Kept.take (kept : Kept count loop) (i : SensorDriver) {reading : Reading S Event}
    (fits : FitsRoom loop.count reading.nb reading.stored) : Kept count (loop.take i reading) := by
  have room := kept.room
  have nonneg := kept.nonneg
  have sum := sum_nb kept.fits
  rw [← kept.sum] at sum
  constructor
  case room =>
    simp only [PollLoop.take]
    omega
  case nonneg =>
    simp only [PollLoop.take]
    rcases fits with ⟨-, stored, fit⟩ | ⟨negative, -⟩ <;> omega
  case sum => simp [PollLoop.take, kept.sum]
  case same => simp [PollLoop.take, kept.same]
  case fits =>
    intro call member
    rcases List.mem_append.mp member with early | last
    · exact kept.fits call early
    · rw [List.mem_singleton.mp last]
      exact fits
  case inside =>
    intro behind
    obtain ⟨before, -, last⟩ := List.pairwise_append.mp behind
    apply inside_store (kept.inside before)
    intro nonempty
    have spared : ∀ call ∈ loop.calls, 0 ≤ call.nb := by
      intro call member
      by_contra negative
      exact nonempty (last call member _ (List.mem_singleton.mpr rfl) (by omega))
    have low := sum.2.mpr spared
    rcases fits with ⟨-, -, fit⟩ | ⟨-, stored⟩
    · omega
    · exact absurd stored nonempty
  case behind =>
    intro nothing inside
    rw [PollLoop.take, eventsOf_concat, List.append_eq_nil_iff] at nothing
    have inside : Inside count (store loop.array loop.data reading.stored) := inside
    refine List.pairwise_append.mpr ⟨kept.behind nothing.1 (inside_of_store inside),
      List.pairwise_singleton _ _, fun earlier member later last negative => ?_⟩
    rw [List.mem_singleton.mp last]
    by_contra nonempty
    have low := (inside loop.data (store_self nonempty)).1
    rw [nothing.1] at sum
    have disturbed : ¬ ∀ call ∈ loop.calls, 0 ≤ call.nb :=
      fun spared => absurd (spared earlier member) (by omega)
    have none : loop.data = ([] : List Event).length := by
      have bound := sum.1
      rw [List.length_nil] at bound ⊢
      omega
    exact disturbed (sum.2.mp none)
  case events =>
    intro spared k low
    have before : ∀ call ∈ loop.calls, 0 ≤ call.nb :=
      fun call member => spared call (List.mem_append_left _ member)
    have length := sum.2.mpr before
    have last : 0 ≤ reading.nb :=
      spared _ (List.mem_append_right _ (List.mem_singleton.mpr rfl))
    have stored : reading.nb ≤ reading.stored.length := by
      rcases fits with ⟨-, stored, -⟩ | ⟨negative, -⟩ <;> omega
    simp only [PollLoop.take, eventsOf_concat] at low ⊢
    by_cases old : (k : ℤ) < loop.data
    · rw [store_of_lt old, kept.events before k old, List.getElem?_append_left (by omega)]
    · have here : (k : ℤ) = loop.data + (k - (eventsOf loop.calls).length : ℕ) := by omega
      rw [here, store_add _ (by omega), List.getElem?_append_right (by omega), ReadCall.returned,
        List.getElem?_take_of_lt]
      simp only []
      omega

/-- The books are kept over a whole call. -/
theorem kept_pollEvents (fits : base.FitsRoom) (context : PollContext S) (room : 1 ≤ count)
    {polls : List (PollAnswer α)} {final : PollLoop S Event × PollEnd}
    (reached : final ∈ context.pollEvents base count polls) : Kept count final.1 := by
  refine PollLoop.rounds_induction (Kept count) (Kept count) ?_
    (fun _ kept => kept) ?_ (Kept.start context room) reached
  · intro loop kept after reads
    refine PollLoop.readDrivers_induction (fun _ loop => Kept count loop) ?_ kept reads
    intro visited i loop kept after turn
    rcases PollLoop.readDriver_cases turn with ⟨rfl, -⟩ | ⟨reading, given, rfl, space, -⟩
    · exact kept
    · have nonneg := kept.nonneg
      exact kept.take i (fits loop.sensors i loop.count (by omega) reading given)
  · intro loop revents meanwhile kept space
    exact ⟨kept.room, kept.nonneg, kept.sum, kept.same, kept.fits, kept.inside, kept.behind,
      kept.events⟩

/-- What an undisturbed call leaves behind is in order. -/
theorem accounts_of_undisturbed {final : PollLoop S Event × PollEnd} (kept : Kept count final.1)
    (value : ∀ nbEvents, final.2 = .returned nbEvents → nbEvents = final.1.nbEvents)
    (undisturbed : Undisturbed final) : Accounts count final := by
  have sum := sum_nb kept.fits
  rw [← kept.sum, ← kept.same] at sum
  refine ⟨kept.inside undisturbed.behind, ?_, ?_⟩
  · intro result same nonneg
    cases ended : final.2 with
    | waiting =>
        rw [ended] at same
        cases same
    | failed errno =>
        rw [ended] at same
        cases same
        have positive := errno.2
        omega
    | returned nbEvents =>
        rw [ended] at same
        obtain rfl : nbEvents = result := Option.some.inj same
        have number := value nbEvents ended
        rcases undisturbed.events with nothing | ⟨spared, -⟩
        · rw [nothing, List.length_nil] at sum
          rw [nothing, List.length_nil]
          refine ⟨by omega, fun k low => ?_⟩
          omega
        · refine ⟨number.trans (sum.2.mpr spared), fun k low => kept.events spared k ?_⟩
          rw [← kept.same, ← number]
          exact low
  · intro result same negative
    rcases undisturbed.events with nothing | ⟨spared, calm⟩
    · exact nothing
    · exfalso
      cases ended : final.2 with
      | waiting =>
          rw [ended] at same
          cases same
      | failed errno =>
          rw [ended] at calm
          cases calm
      | returned nbEvents =>
          rw [ended] at same
          obtain rfl : nbEvents = result := Option.some.inj same
          have number := value nbEvents ended
          have length := sum.2.mpr spared
          omega

/-- A disturbed call that returns does not account for its events. -/
theorem undisturbed_of_accounts {final : PollLoop S Event × PollEnd} (kept : Kept count final.1)
    (value : ∀ nbEvents, final.2 = .returned nbEvents → nbEvents = final.1.nbEvents)
    (returns : final.2.value.isSome = true) (accounts : Accounts count final) :
    Undisturbed final := by
  have sum := sum_nb kept.fits
  rw [← kept.sum, ← kept.same] at sum
  by_cases nothing : eventsOf final.1.calls = []
  · exact ⟨Or.inl nothing, kept.behind nothing accounts.inside⟩
  · have spared : (∀ call ∈ final.1.calls, 0 ≤ call.nb) ∧ final.2.pollFailed = false := by
      cases ended : final.2 with
      | waiting =>
          rw [ended] at returns
          cases returns
      | failed errno =>
          have positive := errno.2
          have failure : final.2.value = some (-errno : ℤ) := by rw [ended]; rfl
          exact absurd (accounts.failed _ failure (by omega)) nothing
      | returned nbEvents =>
          have success : final.2.value = some nbEvents := by rw [ended]; rfl
          have nonneg : 0 ≤ nbEvents := by
            by_contra negative
            exact nothing (accounts.failed _ success (by omega))
          have number := (accounts.complete _ success nonneg).1
          exact ⟨sum.2.mp ((value nbEvents ended).symm.trans number), rfl⟩
    refine ⟨Or.inr spared,
      List.pairwise_of_forall_mem_list fun earlier member later _ negative => ?_⟩
    exact absurd (spared.1 earlier member) (by omega)

/-- **`pollEvents` accounts for the events it takes exactly in undisturbed calls.** At
no time does an undisturbed call write outside the room, and what it returns is right;
a disturbed call that returns has written outside or returns something else. -/
theorem pollEvents_accounts_iff (base : SensorBase S Event α) (fits : base.FitsRoom)
    (context : PollContext S) (count : ℤ) (room : 1 ≤ count) (polls : List (PollAnswer α)) :
    ∀ final ∈ context.pollEvents base count polls,
      (Undisturbed final → Accounts count final) ∧
        (final.2.value.isSome = true → Accounts count final → Undisturbed final) := by
  intro final reached
  have kept := kept_pollEvents fits context room reached
  have value : ∀ nbEvents, final.2 = .returned nbEvents → nbEvents = final.1.nbEvents :=
    fun _ returned => PollLoop.rounds_returned reached returned
  exact ⟨accounts_of_undisturbed kept value, undisturbed_of_accounts kept value⟩

end Loop

/-- Drivers whose results are laid down in advance. -/
def SensorBase.scripted : SensorBase (List (ℤ × List ℕ)) ℕ Unit where
  hasPendingEvents _ _ := false
  readEvents script _ count := match script with
    | (nb, stored) :: rest =>
        if Sensors.FitsRoom count nb stored then some ⟨rest, nb, stored⟩ else none
    | [] => none
  act script _ := script

theorem SensorBase.scripted_fitsRoom : SensorBase.scripted.FitsRoom := by
  intro script i count _ reading given
  cases script with
  | nil => cases given
  | cons result rest =>
      simp only [SensorBase.scripted] at given
      split at given
      · next fits =>
          cases given
          exact fits
      · cases given

/-- Two drivers that have one event and two events. -/
theorem pollEvents_accounts_three :
    ∃ final, PollContext.pollEvents .scripted ⟨[(1, [10]), (2, [11, 12])], fun i => i = .light ∨
        i = .akm⟩ 8 [.ready 0 (fun _ => false) []] = some final ∧
      final.2.value = some 3 ∧ Undisturbed final ∧ Accounts 8 final := by
  refine ⟨_, rfl, rfl, ⟨Or.inr (by decide), by decide⟩, ?_⟩
  exact (pollEvents_accounts_iff .scripted SensorBase.scripted_fitsRoom
    ⟨[(1, [10]), (2, [11, 12])], fun i => i = .light ∨ i = .akm⟩ 8 (by decide)
    [.ready 0 (fun _ => false) []] _ rfl).1 ⟨Or.inr (by decide), by decide⟩

/-- An error of a driver behind two events, an event behind an error, and an error of
`poll` behind an event. -/
theorem not_pollEvents_accounts :
    (∃ final, PollContext.pollEvents .scripted ⟨[(2, [10, 11]), (-5, [])], fun i => i = .light ∨
        i = .akm⟩ 8 [.ready 0 (fun _ => false) []] = some final ∧
      final.2.value = some (-3) ∧ ¬ Accounts 8 final) ∧
    (∃ final, PollContext.pollEvents .scripted ⟨[(-5, []), (1, [10])], fun i => i = .light ∨
        i = .akm⟩ 8 [.ready 0 (fun _ => false) []] = some final ∧
      final.1.array (-5) = some 10 ∧ ¬ Accounts 8 final) ∧
    ∃ final, PollContext.pollEvents .scripted ⟨[(1, [10])], fun i => i = .light⟩ 8
        [.failed ⟨4, by decide⟩ (fun _ => false) []] = some final ∧
      final.2.value = some (-4) ∧ ¬ Accounts 8 final :=
  ⟨⟨_, rfl, rfl, fun accounts => absurd (accounts.failed (-3) rfl (by decide)) (by decide)⟩,
    ⟨_, rfl, rfl, fun accounts => absurd (accounts.inside (-5) (by decide)).1 (by decide)⟩,
    ⟨_, rfl, rfl, fun accounts => absurd (accounts.failed (-4) rfl (by decide)) (by decide)⟩⟩

end Msm8660.Sensors
