import Mathlib.Data.List.Count
import Msm8660.Lib.Machine

/-!
# The shared context

`LocEngContext` of `loc_eng.cpp`: all clients share one message queue and one thread, which the
first `get` creates and the last `drop` takes down again. `drop` sends `LOC_ENG_MSG_QUIT` and
waits, with the lock given up, until the thread has signalled; then it deletes the context. It
waits without looking at anything when it wakes up, and a client may call `get` while it waits.

A client that has dropped the context sets its own member `context` to NULL. If the thread comes
to a message of such a client after that, it deletes the message and is over, whoever else has
the context.

Whoever still has a pointer to the context finds it alive exactly in the runs in which no such
wait ends without a signal while the thread runs, nor after another `get`
(`pointers_valid_iff`).
-/

set_option autoImplicit false

namespace Msm8660.Gps

/-- What is in `deferred_q`. -/
inductive DeferredMsg (κ μ : Type*) where
  /-- `LOC_ENG_MSG_QUIT` -/
  | quit
  | other (owner : κ) (msg : μ)
deriving DecidableEq

/-- Where a `loc_eng_deferred_action_thread` is. -/
inductive DeferredPlace where
  /-- not created yet -/
  | absent
  /-- before `msg_q_rcv` -/
  | listening
  /-- `LOC_ENG_MSG_QUIT` has been received, and the lock is wanted -/
  | quitting
  | returned
deriving DecidableEq, Repr

/-- A call of `drop` that waits for `cond`. -/
structure Dropping (κ : Type*) where
  client : κ
  context : ℕ
  signalled : Bool
deriving DecidableEq

/-- All contexts, known by the order in which they are created, and who has a pointer to one.
`initialized` tells whose member `context` is not NULL. -/
structure ContextState (κ : Type*) (μ : Type*) where
  /-- `LocEngContext::me` -/
  me : Option ℕ
  created : ℕ
  counter : ℕ → ℕ
  deferredQ : ℕ → List (DeferredMsg κ μ)
  thread : ℕ → DeferredPlace
  deleted : ℕ → Bool
  users : List (κ × ℕ)
  dropping : List (Dropping κ)
  initialized : κ → Bool

/-- The steps of the clients and the threads. -/
inductive ContextInput (κ : Type*) (μ : Type*) where
  | get (client : κ)
  | drop (client : κ) (onThread : Bool)
  /-- "loc_eng_data.context = NULL" after a `drop` -/
  | clear (client : κ)
  /-- `loc_eng_msg_sender` -/
  | send (client : κ) (msg : μ)
  /-- The thread of a context. `found` is whether the word that it takes for a `context` of
  `LOC_ENG_MSG_QUIT` is not NULL; `choice` is the one that `pthread_cond_signal` wakes up. -/
  | thread (context : ℕ) (found : Bool) (choice : ℕ)
  /-- A `drop` wakes up after the signal. -/
  | wakeUp (client : κ)
  /-- A `drop` wakes up without the signal. -/
  | spurious (client : κ)

/-- What can be seen of it. -/
inductive ContextEvent (μ : Type*) where
  | sent (context : ℕ) (msg : μ)
  | handled (context : ℕ) (msg : μ)
  /-- "instance cleanup happened" -/
  | discarded (context : ℕ) (msg : μ)
  | deleted (context : ℕ)
deriving DecidableEq

namespace ContextState

variable {κ μ : Type*} [DecidableEq κ]

/-- Nothing has been created. -/
def initial : ContextState κ μ where
  me := none
  created := 0
  counter _ := 0
  deferredQ _ := []
  thread _ := .absent
  deleted _ := false
  users := []
  dropping := []
  initialized _ := false

variable (state : ContextState κ μ)

/-- The pointer of a client that has one and does not wait. -/
def pointer (client : κ) : Option (κ × ℕ) := state.users.find? fun user => user.1 = client

/-- Whether a client waits in `drop`. -/
def waiting (client : κ) : Option (Dropping κ) :=
  state.dropping.find? fun drop => drop.client = client

/-- The constructor, with the thread that it creates. -/
def create : ContextState κ μ :=
  { state with
    me := some state.created
    created := state.created + 1
    counter := Function.update state.counter state.created 0
    deferredQ := Function.update state.deferredQ state.created []
    thread := Function.update state.thread state.created .listening }

/-- The second half of `get`. -/
def share (client : κ) : ContextState κ μ :=
  match state.me with
  | none => state
  | some me =>
      { state with
        counter := Function.update state.counter me (state.counter me + 1)
        users := (client, me) :: state.users
        initialized := Function.update state.initialized client true }

/-- `LocEngContext::get`, behind "instance already initialized". -/
def get (client : κ) : ContextState κ μ :=
  if state.initialized client then state
  else if state.me = none then state.create.share client
  else state.share client

/-- `msg_q_snd` on `deferred_q`. -/
def enqueue (context : ℕ) (msg : DeferredMsg κ μ) : ContextState κ μ :=
  { state with deferredQ :=
      Function.update state.deferredQ context (state.deferredQ context ++ [msg]) }

/-- `LocEngContext::drop` up to `pthread_cond_wait`. -/
def drop (user : κ × ℕ) : ContextState κ μ :=
  let (client, context) := user
  let counter := state.counter context - 1
  let dropped := { state with
    counter := Function.update state.counter context counter
    users := state.users.erase user }
  if counter = 0 then
    { dropped.enqueue context .quit with
      dropping := state.dropping ++ [⟨client, context, false⟩] }
  else dropped

/-- `LocEngContext::drop` after `pthread_cond_wait`. -/
def finishDrop (drop : Dropping κ) : ContextState κ μ × List (ContextEvent μ) :=
  ({ state with
      deleted := fun context =>
        decide (context = drop.context) || decide (state.me = some context) ||
          state.deleted context
      me := none
      dropping := state.dropping.erase drop }, [.deleted drop.context])

/-- A client that has no pointer to the context any more and does not wait forgets it. -/
def clear (client : κ) : ContextState κ μ :=
  if (state.pointer client).isSome ∨ (state.waiting client).isSome then state
  else { state with initialized := Function.update state.initialized client false }

/-- `pthread_cond_signal`. -/
def signal (choice : ℕ) : List (Dropping κ) :=
  state.dropping.modify (choice % state.dropping.length) fun drop => { drop with signalled := true }

/-- `loc_eng_deferred_action_thread`. A message whose owner has no `context` is deleted, and the
thread is over. The owner of `LOC_ENG_MSG_QUIT` is the `LocEngContext`, but it is taken for a
`loc_eng_data_s_type`, whose member `context` would lie behind its end. -/
def runThread (context : ℕ) (found : Bool) (choice : ℕ) :
    ContextState κ μ × List (ContextEvent μ) :=
  match state.thread context with
  | .absent => (state, [])
  | .listening => match state.deferredQ context with
    | [] => (state, [])
    | .quit :: rest =>
        ({ state with
            deferredQ := Function.update state.deferredQ context rest
            thread := Function.update state.thread context
              (if found then .quitting else .returned) }, [])
    | .other owner msg :: rest =>
        if state.initialized owner then
          ({ state with deferredQ := Function.update state.deferredQ context rest },
            [.handled context msg])
        else
          ({ state with
              deferredQ := Function.update state.deferredQ context rest
              thread := Function.update state.thread context .returned },
            [.discarded context msg])
  | .quitting =>
      ({ state with
          dropping := state.signal choice
          thread := Function.update state.thread context .returned }, [])
  | .returned => (state, [])

end ContextState

/-- The clients and the threads, one critical section at a time. -/
def sharedContext {κ μ : Type*} [DecidableEq κ] :
    Machine (ContextState κ μ) (ContextInput κ μ) (ContextEvent μ) where
  step state input := match input with
    | .get client => (state.get client, [])
    | .drop client onThread => match state.pointer client with
      | some user => (if onThread then state else state.drop user, [])
      | none => (state, [])
    | .clear client => (state.clear client, [])
    | .send client msg => match state.pointer client with
      | some (_, context) =>
          (state.enqueue context (.other client msg), [.sent context msg])
      | none => (state, [])
    | .thread context found choice => state.runThread context found choice
    | .wakeUp client => match state.waiting client with
      | some drop => if drop.signalled then state.finishDrop drop else (state, [])
      | none => (state, [])
    | .spurious client => match state.waiting client with
      | some drop => state.finishDrop drop
      | none => (state, [])

/-! ## Pointers -/

section Pointers

variable {κ μ : Type*}

/-- Nobody has a pointer to a context that has been deleted. -/
structure PointersValid (state : ContextState κ μ) : Prop where
  users : ∀ user ∈ state.users, state.deleted user.2 = false
  dropping : ∀ drop ∈ state.dropping, state.deleted drop.context = false
  thread : ∀ context, state.deleted context = true → state.thread context = .returned

/-- Someone has got the context while a `drop` waits. -/
def Contended (state : ContextState κ μ) : Prop :=
  state.dropping ≠ [] ∧ 2 ≤ state.users.length + state.dropping.length

/-! ## What holds as long as the pointers are valid -/

/-- How far the thread is when one `drop` waits for it and nobody else has the context. -/
inductive Ending {κ μ : Type*} (queue : List (DeferredMsg κ μ)) : DeferredPlace → Bool → Prop where
  | listening (msgs : List (DeferredMsg κ μ)) (ordinary : .quit ∉ msgs)
      (there : queue = msgs ++ [.quit]) : Ending queue .listening false
  | quitting (empty : queue = []) : Ending queue .quitting false
  | returned (signalled : Bool) : Ending queue .returned signalled

/-- One context at most is alive, all pointers are to it, and its counter is right. As long as
nobody waits in `drop`, its thread listens, or it has discarded a message. -/
structure ContextInv (state : ContextState κ μ) : Prop where
  bounded : ∀ context, state.me = some context → context < state.created
  fresh : ∀ context, state.created ≤ context → state.thread context = .absent ∧
    state.deferredQ context = [] ∧ state.deleted context = false
  ended : ∀ context < state.created, state.me ≠ some context → state.thread context = .returned
  unowned : state.me = none → state.users = [] ∧ state.dropping = []
  alive : ∀ context, state.me = some context → state.deleted context = false
  users : ∀ context, state.me = some context → ∀ user ∈ state.users, user.2 = context
  dropping : ∀ context, state.me = some context → ∀ drop ∈ state.dropping, drop.context = context
  counter : ∀ context, state.me = some context → state.counter context = state.users.length
  owned : ∀ context, state.me = some context → state.users = [] → state.dropping ≠ []
  listens : ∀ context, state.me = some context → state.dropping = [] →
    (state.thread context = .listening ∨ state.thread context = .returned) ∧
      .quit ∉ state.deferredQ context
  ending : ∀ context drop, state.me = some context → state.users = [] →
    state.dropping = [drop] →
      Ending (state.deferredQ context) (state.thread context) drop.signalled

/-- A signal changes no pointer. -/
theorem mem_signal {state : ContextState κ μ} {choice : ℕ} {drop : Dropping κ}
    (member : drop ∈ state.signal choice) :
    ∃ earlier ∈ state.dropping, drop.context = earlier.context := by
  obtain ⟨place, inside, rfl⟩ := List.mem_iff_getElem.mp member
  rw [ContextState.signal, List.length_modify] at inside
  refine ⟨state.dropping[place], List.getElem_mem inside, ?_⟩
  simp only [ContextState.signal, List.getElem_modify]
  split <;> rfl

theorem contextInv_initial : ContextInv (.initial : ContextState κ μ) where
  bounded _ none := nomatch none
  fresh _ _ := ⟨rfl, rfl, rfl⟩
  ended _ none := absurd none (Nat.not_lt_zero _)
  unowned _ := ⟨rfl, rfl⟩
  alive _ none := nomatch none
  users _ none := nomatch none
  dropping _ none := nomatch none
  counter _ none := nomatch none
  owned _ none := nomatch none
  listens _ none := nomatch none
  ending _ _ none := nomatch none

/-- Without others the `drop` that waits is alone. -/
theorem alone_of_not_contended {state : ContextState κ μ} {drop : Dropping κ}
    (waits : drop ∈ state.dropping) (calm : ¬ Contended state) :
    state.users = [] ∧ state.dropping = [drop] := by
  have waiting : state.dropping ≠ [] := List.ne_nil_of_mem waits
  have positive : 0 < state.dropping.length := List.length_pos_of_mem waits
  have few : ¬ 2 ≤ state.users.length + state.dropping.length := fun many => calm ⟨waiting, many⟩
  obtain ⟨only, same⟩ := List.length_eq_one_iff.mp (show state.dropping.length = 1 by omega)
  rw [same, List.mem_singleton] at waits
  exact ⟨List.eq_nil_of_length_eq_zero (by omega), waits ▸ same⟩

end Pointers

namespace ContextInv

variable {κ μ : Type*} {state : ContextState κ μ} (inv : ContextInv state)

include inv

/-- The invariant keeps the pointers valid. -/
theorem pointersValid : PointersValid state := by
  constructor
  case users =>
    intro user member
    cases me : state.me with
    | none => rw [(inv.unowned me).1] at member; exact absurd member List.not_mem_nil
    | some context => rw [inv.users context me user member]; exact inv.alive context me
  case dropping =>
    intro drop member
    cases me : state.me with
    | none => rw [(inv.unowned me).2] at member; exact absurd member List.not_mem_nil
    | some context => rw [inv.dropping context me drop member]; exact inv.alive context me
  case thread =>
    intro context deleted
    have known : context < state.created := by
      by_contra fresh
      rw [(inv.fresh context (Nat.le_of_not_lt fresh)).2.2] at deleted
      exact absurd deleted (by decide)
    refine inv.ended context known fun me => ?_
    rw [inv.alive context me] at deleted
    exact absurd deleted (by decide)

/-- Whoever has a pointer has it to the context that is alive. -/
theorem me_of_user {user : κ × ℕ} (member : user ∈ state.users) : state.me = some user.2 := by
  cases me : state.me with
  | none => rw [(inv.unowned me).1] at member; exact absurd member List.not_mem_nil
  | some context => rw [inv.users context me user member]

theorem me_of_dropping {drop : Dropping κ} (member : drop ∈ state.dropping) :
    state.me = some drop.context := by
  cases me : state.me with
  | none => rw [(inv.unowned me).2] at member; exact absurd member List.not_mem_nil
  | some context => rw [inv.dropping context me drop member]

/-- A message from a client. -/
theorem enqueue {user : κ × ℕ} (member : user ∈ state.users) (client : κ) (msg : μ) :
    ContextInv (state.enqueue user.2 (.other client msg)) := by
  have me := inv.me_of_user member
  constructor
  case bounded => exact inv.bounded
  case fresh =>
    intro context fresh
    have other : context ≠ user.2 := fun same =>
      absurd (inv.bounded _ me) (by rw [← same]; exact Nat.not_lt.mpr fresh)
    exact ⟨(inv.fresh context fresh).1,
      (Function.update_of_ne other _ _).trans (inv.fresh context fresh).2.1,
      (inv.fresh context fresh).2.2⟩
  case ended => exact inv.ended
  case unowned => exact inv.unowned
  case alive => exact inv.alive
  case users => exact inv.users
  case dropping => exact inv.dropping
  case counter => exact inv.counter
  case owned => exact inv.owned
  case listens =>
    intro context here none
    obtain ⟨running, noQuit⟩ := inv.listens context here none
    refine ⟨running, ?_⟩
    obtain rfl : context = user.2 := Option.some.inj (here.symm.trans me)
    show DeferredMsg.quit ∉ Function.update state.deferredQ user.2 _ user.2
    rw [Function.update_self]
    simpa using noQuit
  case ending =>
    intro context drop here empty
    exact absurd (show state.users = [] from empty) (List.ne_nil_of_mem member)

/-- A client gets the context that is alive. -/
theorem share [DecidableEq κ] {context : ℕ} (me : state.me = some context) (client : κ) :
    ContextInv (state.share client) := by
  have shared : state.share client = { state with
      counter := Function.update state.counter context (state.counter context + 1)
      users := (client, context) :: state.users
      initialized := Function.update state.initialized client true } := by
    rw [ContextState.share, me]
  rw [shared]
  constructor
  case bounded => exact inv.bounded
  case fresh => exact inv.fresh
  case ended => exact inv.ended
  case unowned => exact fun none => absurd (me.symm.trans none) (Option.some_ne_none _)
  case alive => exact inv.alive
  case users =>
    intro other here user member
    rcases List.mem_cons.mp member with rfl | member
    · exact Option.some.inj (me.symm.trans here)
    · exact inv.users other here user member
  case dropping => exact inv.dropping
  case counter =>
    intro other here
    obtain rfl : context = other := Option.some.inj (me.symm.trans here)
    show Function.update state.counter context (state.counter context + 1) context =
      state.users.length + 1
    rw [Function.update_self, inv.counter context me]
  case owned => exact fun _ _ empty => absurd empty (List.cons_ne_nil _ _)
  case listens => exact inv.listens
  case ending => exact fun _ _ _ empty => absurd empty (List.cons_ne_nil _ _)

/-- A context is created where there is none. -/
theorem create [DecidableEq κ] (none : state.me = none) (client : κ) :
    ContextInv (state.create.share client) := by
  obtain ⟨noUsers, noDrops⟩ := inv.unowned none
  have created : state.create.share client = { state.create with
      counter := Function.update state.create.counter state.created
        (state.create.counter state.created + 1)
      users := (client, state.created) :: state.users
      initialized := Function.update state.initialized client true } := rfl
  rw [created]
  have self {context : ℕ} (here : state.create.me = some context) : context = state.created :=
    (Option.some.inj here).symm
  constructor
  case bounded =>
    intro context here
    rw [self here]
    exact Nat.lt_succ_self _
  case fresh =>
    intro context fresh
    have other : context ≠ state.created := Nat.ne_of_gt fresh
    have earlier := inv.fresh context (Nat.le_of_succ_le fresh)
    exact ⟨(Function.update_of_ne other _ _).trans earlier.1,
      (Function.update_of_ne other _ _).trans earlier.2.1, earlier.2.2⟩
  case ended =>
    intro context before different
    have other : context ≠ state.created := fun same => different (congrArg some same.symm)
    have known : context < state.created := Nat.lt_of_le_of_ne (Nat.le_of_lt_succ before) other
    refine (Function.update_of_ne other _ _).trans (inv.ended context known ?_)
    rw [none]
    exact Option.some_ne_none context |>.symm
  case unowned => exact fun none => nomatch none
  case alive =>
    intro context here
    rw [self here]
    exact (inv.fresh state.created (Nat.le_refl _)).2.2
  case users =>
    intro context here user member
    rw [noUsers, List.mem_singleton] at member
    rw [member, self here]
  case dropping =>
    intro context here drop member
    exact absurd (noDrops ▸ member) List.not_mem_nil
  case counter =>
    intro context here
    rw [self here]
    simp [ContextState.create, noUsers]
  case owned => exact fun _ _ empty => absurd empty (List.cons_ne_nil _ _)
  case listens =>
    intro context here _
    rw [self here]
    simp [ContextState.create]
  case ending => exact fun _ _ _ empty => absurd empty (List.cons_ne_nil _ _)

/-- `LocEngContext::get`. -/
theorem get [DecidableEq κ] (client : κ) : ContextInv (state.get client) := by
  unfold ContextState.get
  split
  · exact inv
  · split
    · next none => exact inv.create none client
    · next some =>
        obtain ⟨context, me⟩ := Option.ne_none_iff_exists'.mp some
        exact inv.share me client

/-- What the clients know themselves is nothing to the context. -/
theorem clear [DecidableEq κ] (client : κ) : ContextInv (state.clear client) := by
  unfold ContextState.clear
  split
  · exact inv
  · exact ⟨inv.bounded, inv.fresh, inv.ended, inv.unowned, inv.alive, inv.users, inv.dropping,
      inv.counter, inv.owned, inv.listens, inv.ending⟩

/-- `LocEngContext::drop` up to the wait. -/
theorem drop [DecidableEq κ] {user : κ × ℕ} (member : user ∈ state.users) :
    ContextInv (state.drop user) := by
  have me := inv.me_of_user member
  have positive : 0 < state.users.length := List.length_pos_of_mem member
  have erased : (state.users.erase user).length = state.users.length - 1 :=
    List.length_erase_of_mem member
  have count := inv.counter user.2 me
  have others {other : κ × ℕ} (there : other ∈ state.users.erase user) : other.2 = user.2 :=
    inv.users user.2 me other (List.mem_of_mem_erase there)
  have self {context : ℕ} (here : state.me = some context) : context = user.2 :=
    Option.some.inj (here.symm.trans me)
  obtain ⟨client, number⟩ := user
  unfold ContextState.drop
  simp only at me count others self ⊢
  split
  · next last =>
      have alone : state.users.erase (client, number) = [] :=
        List.eq_nil_of_length_eq_zero (by omega)
      constructor
      case bounded => exact inv.bounded
      case fresh =>
        intro context fresh
        have other : context ≠ number := fun same =>
          absurd (inv.bounded _ me) (by rw [← same]; exact Nat.not_lt.mpr fresh)
        exact ⟨(inv.fresh context fresh).1,
          (Function.update_of_ne other _ _).trans (inv.fresh context fresh).2.1,
          (inv.fresh context fresh).2.2⟩
      case ended => exact inv.ended
      case unowned => exact fun none => absurd (me.symm.trans none) (Option.some_ne_none _)
      case alive => exact inv.alive
      case users => exact fun context here user there => (others there).trans (self here).symm
      case dropping =>
        intro context here drop there
        rcases List.mem_append.mp there with before | last
        · exact inv.dropping context here drop before
        · rw [List.mem_singleton.mp last]
          exact (self here).symm
      case counter =>
        intro context here
        rw [self here]
        show Function.update state.counter number (state.counter number - 1) number = _
        rw [Function.update_self, count]
        exact erased.symm
      case owned => exact fun _ _ _ => List.append_ne_nil_of_right_ne_nil _ (List.cons_ne_nil _ _)
      case listens =>
        exact fun _ _ none => absurd none
          (List.append_ne_nil_of_right_ne_nil _ (List.cons_ne_nil _ _))
      case ending =>
        intro context drop here _ only
        obtain rfl := self here
        have nobody : state.dropping = [] := by
          have length := congrArg List.length only
          simp only [List.length_append, List.length_singleton] at length
          exact List.eq_nil_of_length_eq_zero (by omega)
        obtain ⟨running, noQuit⟩ := inv.listens context me nobody
        have same : drop = ⟨client, context, false⟩ := by
          have whole : state.dropping ++ [⟨client, context, false⟩] = [drop] := only
          rw [nobody, List.nil_append] at whole
          exact (List.cons.inj whole).1.symm
        rw [same]
        show Ending (Function.update state.deferredQ context (state.deferredQ context ++ [.quit])
          context) (state.thread context) false
        rw [Function.update_self]
        rcases running with listening | returned
        · rw [listening]
          exact Ending.listening _ noQuit rfl
        · rw [returned]
          exact Ending.returned false
  · next more =>
      constructor
      case bounded => exact inv.bounded
      case fresh => exact inv.fresh
      case ended => exact inv.ended
      case unowned => exact fun none => absurd (me.symm.trans none) (Option.some_ne_none _)
      case alive => exact inv.alive
      case users => exact fun context here user there => (others there).trans (self here).symm
      case dropping => exact inv.dropping
      case counter =>
        intro context here
        rw [self here]
        show Function.update state.counter number (state.counter number - 1) number = _
        rw [Function.update_self, count]
        exact erased.symm
      case owned =>
        intro context here alone
        have length : (state.users.erase (client, number)).length = 0 := by
          rw [show state.users.erase (client, number) = [] from alone, List.length_nil]
        omega
      case listens => exact inv.listens
      case ending =>
        intro context drop here alone
        have length : (state.users.erase (client, number)).length = 0 := by
          rw [show state.users.erase (client, number) = [] from alone, List.length_nil]
        omega

/-- The thread takes a message. -/
theorem withQueue {context : ℕ} (me : state.me = some context) {rest : List (DeferredMsg κ μ)}
    {later : DeferredPlace}
    (listens : ∀ _ : Unit, state.dropping = [] →
      (later = .listening ∨ later = .returned) ∧ .quit ∉ rest)
    (ending : ∀ drop, state.users = [] → state.dropping = [drop] →
      Ending rest later drop.signalled) :
    ContextInv { state with
      deferredQ := Function.update state.deferredQ context rest
      thread := Function.update state.thread context later } := by
  have self {other : ℕ} (here : state.me = some other) : other = context :=
    Option.some.inj (here.symm.trans me)
  constructor
  case bounded => exact inv.bounded
  case fresh =>
    intro other fresh
    have different : other ≠ context := fun same =>
      absurd (inv.bounded _ me) (by rw [← same]; exact Nat.not_lt.mpr fresh)
    exact ⟨(Function.update_of_ne different _ _).trans (inv.fresh other fresh).1,
      (Function.update_of_ne different _ _).trans (inv.fresh other fresh).2.1,
      (inv.fresh other fresh).2.2⟩
  case ended =>
    intro other known dead
    have different : other ≠ context := fun same => dead (same ▸ me)
    exact (Function.update_of_ne different _ _).trans (inv.ended other known dead)
  case unowned => exact inv.unowned
  case alive => exact inv.alive
  case users => exact inv.users
  case dropping => exact inv.dropping
  case counter => exact inv.counter
  case owned => exact inv.owned
  case listens =>
    intro other here none
    obtain rfl := self here
    simpa using listens () none
  case ending =>
    intro other drop here alone only
    obtain rfl := self here
    simpa using ending drop alone only

/-- A step of the thread of the context that is alive. -/
theorem runThread (context : ℕ) (found : Bool) (choice : ℕ) :
    ContextInv (state.runThread context found choice).1 := by
  have alive (running : state.thread context ≠ .returned)
      (created : state.thread context ≠ .absent) : state.me = some context := by
    by_contra dead
    have known : context < state.created := by
      by_contra fresh
      exact created (inv.fresh context (Nat.le_of_not_lt fresh)).1
    exact running (inv.ended context known dead)
  unfold ContextState.runThread
  cases place : state.thread context with
  | absent => exact inv
  | returned => exact inv
  | listening =>
      have me := alive (by rw [place]; decide) (by rw [place]; decide)
      cases queue : state.deferredQ context with
      | nil => exact inv
      | cons first rest =>
          cases first with
          | quit =>
              have nobody : state.dropping ≠ [] := fun none =>
                (inv.listens context me none).2 (queue ▸ List.mem_cons_self ..)
              refine inv.withQueue me (fun _ none => absurd none nobody) fun drop alone only => ?_
              have ending := inv.ending context drop me alone only
              rw [place, queue] at ending
              generalize drop.signalled = signalled at ending ⊢
              cases ending with
              | listening msgs ordinary there =>
                  cases msgs with
                  | nil =>
                      obtain ⟨-, rfl⟩ := List.cons.inj there
                      cases found
                      · exact Ending.returned false
                      · exact Ending.quitting rfl
                  | cons first msgs =>
                      obtain ⟨rfl, -⟩ := List.cons.inj there
                      exact absurd (List.mem_cons_self ..) ordinary
          | other owner msg =>
              have noQuit (none : state.dropping = []) : .quit ∉ rest := by
                intro later
                refine (inv.listens context me none).2 ?_
                rw [queue]
                exact List.mem_cons_of_mem _ later
              dsimp only
              split
              · -- the thread goes on
                have same : Function.update state.thread context .listening = state.thread := by
                  rw [← place, Function.update_eq_self]
                suffices next : ContextInv { state with
                    deferredQ := Function.update state.deferredQ context rest
                    thread := Function.update state.thread context .listening } by
                  rwa [same] at next
                refine inv.withQueue me (fun _ none => ⟨Or.inl rfl, noQuit none⟩)
                  fun drop alone only => ?_
                have ending := inv.ending context drop me alone only
                rw [place, queue] at ending
                generalize drop.signalled = signalled at ending ⊢
                cases ending with
                | listening msgs ordinary there =>
                    cases msgs with
                    | nil => exact absurd (List.cons.inj there).1 (by simp)
                    | cons first msgs =>
                        exact Ending.listening msgs
                          (fun member => ordinary (List.mem_cons_of_mem _ member))
                          (List.cons.inj there).2
              · refine inv.withQueue me (fun _ none => ⟨Or.inr rfl, noQuit none⟩)
                  fun drop alone only => ?_
                exact Ending.returned _
  | quitting =>
      have me := alive (by rw [place]; decide) (by rw [place]; decide)
      have self {other : ℕ} (here : state.me = some other) : other = context :=
        Option.some.inj (here.symm.trans me)
      have length : (state.signal choice).length = state.dropping.length := by
        rw [ContextState.signal, List.length_modify]
      have nobody : state.dropping ≠ [] := by
        intro none
        rcases (inv.listens context me none).1 with listening | returned
        · exact absurd (listening.symm.trans place) (by decide)
        · exact absurd (returned.symm.trans place) (by decide)
      constructor
      case bounded => exact inv.bounded
      case fresh =>
        intro other fresh
        have different : other ≠ context := fun same =>
          absurd (inv.bounded _ me) (by rw [← same]; exact Nat.not_lt.mpr fresh)
        exact ⟨(Function.update_of_ne different _ _).trans (inv.fresh other fresh).1,
          (inv.fresh other fresh).2⟩
      case ended =>
        intro other known dead
        have different : other ≠ context := fun same => dead (same ▸ me)
        exact (Function.update_of_ne different _ _).trans (inv.ended other known dead)
      case unowned => exact fun none => absurd (me.symm.trans none) (Option.some_ne_none _)
      case alive => exact inv.alive
      case users => exact inv.users
      case dropping =>
        intro other here drop member
        obtain ⟨earlier, listed, same⟩ := mem_signal member
        rw [same]
        exact inv.dropping other here earlier listed
      case counter => exact inv.counter
      case owned =>
        intro other here alone none
        refine nobody (List.eq_nil_of_length_eq_zero ?_)
        rw [← length]
        exact congrArg List.length none
      case listens =>
        intro other here none
        refine absurd (List.eq_nil_of_length_eq_zero ?_) nobody
        rw [← length]
        exact congrArg List.length none
      case ending =>
        intro other drop here alone only
        obtain rfl := self here
        show Ending (state.deferredQ other) (Function.update state.thread other .returned other)
          drop.signalled
        rw [Function.update_self]
        exact Ending.returned _

section Finish

variable [DecidableEq κ] {drop : Dropping κ} (waits : drop ∈ state.dropping)

include waits

/-- **The context may be deleted exactly if its thread is over and nobody else has it.** -/
theorem finishDrop_iff : PointersValid (state.finishDrop drop).1 ↔
    ¬ Contended state ∧ state.thread drop.context = .returned := by
  have me := inv.me_of_dropping waits
  constructor
  · intro valid
    have gone : (state.finishDrop drop).1.deleted drop.context = true := by
      simp [ContextState.finishDrop]
    refine ⟨fun ⟨_, many⟩ => ?_, valid.thread drop.context gone⟩
    cases users : state.users with
    | cons user rest =>
        have member : user ∈ state.users := users ▸ List.mem_cons_self ..
        have alive := valid.users user member
        rw [inv.users _ me user member, gone] at alive
        exact absurd alive (by decide)
    | nil =>
        have erased : (state.dropping.erase drop).length = state.dropping.length - 1 :=
          List.length_erase_of_mem waits
        rw [users, List.length_nil] at many
        obtain ⟨other, member⟩ := List.exists_mem_of_length_pos
          (show 0 < (state.dropping.erase drop).length by omega)
        have alive := valid.dropping other member
        rw [inv.dropping _ me other (List.mem_of_mem_erase member), gone] at alive
        exact absurd alive (by decide)
  · rintro ⟨calm, returned⟩
    obtain ⟨noUsers, only⟩ := alone_of_not_contended waits calm
    constructor
    case users =>
      intro user member
      exact absurd (noUsers ▸ (show user ∈ state.users from member)) List.not_mem_nil
    case dropping =>
      intro other member
      exact absurd (show other ∈ state.dropping.erase drop from member) (by simp [only])
    case thread =>
      intro context deleted
      show state.thread context = .returned
      simp only [ContextState.finishDrop, Bool.or_eq_true, decide_eq_true_eq] at deleted
      rcases deleted with (rfl | here) | before
      · exact returned
      · rwa [Option.some.inj (here.symm.trans me)]
      · exact inv.pointersValid.thread context before

/-- Then there is no context any more. -/
theorem finishDrop (calm : ¬ Contended state) (returned : state.thread drop.context = .returned) :
    ContextInv (state.finishDrop drop).1 := by
  have me := inv.me_of_dropping waits
  obtain ⟨noUsers, only⟩ := alone_of_not_contended waits calm
  constructor
  case bounded => exact fun _ none => nomatch none
  case fresh =>
    intro context fresh
    have other : context ≠ drop.context := fun same =>
      absurd (inv.bounded _ me) (by rw [← same]; exact Nat.not_lt.mpr fresh)
    obtain ⟨absent, empty, alive⟩ := inv.fresh context fresh
    refine ⟨absent, empty, ?_⟩
    simp [ContextState.finishDrop, other, alive, me, other.symm]
  case ended =>
    intro context known _
    by_cases here : context = drop.context
    · rw [here]
      exact returned
    · exact inv.ended context known fun mine => here (Option.some.inj (mine.symm.trans me))
  case unowned => exact fun _ => ⟨noUsers, by simp [ContextState.finishDrop, only]⟩
  case alive => exact fun _ none => nomatch none
  case users => exact fun _ none => nomatch none
  case dropping => exact fun _ none => nomatch none
  case counter => exact fun _ none => nomatch none
  case owned => exact fun _ none => nomatch none
  case listens => exact fun _ none => nomatch none
  case ending => exact fun _ _ none => nomatch none

end Finish

end ContextInv

/-! ## Runs -/

section Runs

variable {κ μ : Type*} [DecidableEq κ] {state : ContextState κ μ}

theorem mem_of_pointer {client : κ} {user : κ × ℕ} (has : state.pointer client = some user) :
    user ∈ state.users := List.mem_of_find?_eq_some has

theorem mem_of_waiting {client : κ} {drop : Dropping κ} (waits : state.waiting client = some drop) :
    drop ∈ state.dropping := List.mem_of_find?_eq_some waits

/-- Whether a call of `get` returns a context. -/
def ContextState.gets (state : ContextState κ μ) : ContextInput κ μ → Bool
  | .get client => !state.initialized client
  | _ => false

/-- Whether a client has called `get` while a `drop` has been waiting. -/
def raced (before : Bool)
    (taken : Machine.Step (ContextState κ μ) (ContextInput κ μ) (ContextEvent μ)) : Bool :=
  !taken.after.dropping.isEmpty &&
    (before || !taken.before.dropping.isEmpty && taken.before.gets taken.input)

/-- The steps, watched for a `get` while a `drop` waits. -/
def watchedContext : Machine (ContextState κ μ × Bool) (ContextInput κ μ) (ContextEvent μ) :=
  sharedContext.monitored raced

/-- No wait ends after a `get`, nor without a signal while the thread runs. -/
def Orderly
    (taken : Machine.Step (ContextState κ μ × Bool) (ContextInput κ μ) (ContextEvent μ)) : Prop :=
  match taken.input with
  | .wakeUp client => ∀ drop, taken.before.1.waiting client = some drop →
      drop.signalled = true → taken.before.2 = false
  | .spurious client => ∀ drop, taken.before.1.waiting client = some drop →
      taken.before.2 = false ∧ taken.before.1.thread drop.context = .returned
  | _ => True

/-- A step that ends no wait keeps the invariant. -/
theorem ContextInv.other (inv : ContextInv state) (input : ContextInput κ μ)
    (wakeUp : ∀ client, input ≠ .wakeUp client) (spurious : ∀ client, input ≠ .spurious client) :
    ContextInv (sharedContext.step state input).1 := by
  cases input with
  | get client => exact inv.get client
  | drop client onThread =>
      simp only [sharedContext]
      cases has : state.pointer client with
      | none => exact inv
      | some user =>
          cases onThread
          · exact inv.drop (mem_of_pointer has)
          · exact inv
  | clear client => exact inv.clear client
  | send client msg =>
      simp only [sharedContext]
      cases has : state.pointer client with
      | none => exact inv
      | some user => exact inv.enqueue (mem_of_pointer has) client msg
  | thread context found choice => exact inv.runThread context found choice
  | wakeUp client => exact absurd rfl (wakeUp client)
  | spurious client => exact absurd rfl (spurious client)

/-- A step after which the pointers are valid keeps the invariant. -/
theorem ContextInv.step (inv : ContextInv state) (input : ContextInput κ μ)
    (valid : PointersValid (sharedContext.step state input).1) :
    ContextInv (sharedContext.step state input).1 := by
  have finish {client : κ} {drop : Dropping κ} (waits : state.waiting client = some drop)
      (valid : PointersValid (state.finishDrop drop).1) : ContextInv (state.finishDrop drop).1 := by
    have member := mem_of_waiting waits
    obtain ⟨calm, returned⟩ := (inv.finishDrop_iff member).mp valid
    exact inv.finishDrop member calm returned
  cases input with
  | wakeUp client =>
      simp only [sharedContext] at valid ⊢
      cases waits : state.waiting client with
      | none => exact inv
      | some drop =>
          rw [waits] at valid
          cases signalled : drop.signalled with
          | false => simpa only [signalled, Bool.false_eq_true, if_false] using inv
          | true =>
              simp only [signalled, if_true] at valid ⊢
              exact finish waits valid
  | spurious client =>
      simp only [sharedContext] at valid ⊢
      cases waits : state.waiting client with
      | none => exact inv
      | some drop =>
          rw [waits] at valid
          exact finish waits valid
  | _ => exact inv.other _ nofun nofun

/-- A run in which the pointers stay valid keeps the invariant. -/
theorem contextInv_run {inputs : List (ContextInput κ μ)}
    (valid : ∀ taken ∈ sharedContext.steps .initial inputs, PointersValid taken.after) :
    ContextInv (sharedContext.run (.initial : ContextState κ μ) inputs) :=
  Machine.run_spared (fun _ input inv _ valid => inv.step input valid) contextInv_initial
    (fun _ _ => trivial) valid

/-- As long as no wait ends, the pointers stay valid. -/
theorem pointersValid_of_noWakeUp {inputs : List (ContextInput κ μ)}
    (asleep : ∀ input ∈ inputs,
      (∀ client, input ≠ .wakeUp client) ∧ ∀ client, input ≠ .spurious client) :
    ∀ taken ∈ sharedContext.steps (.initial : ContextState κ μ) inputs,
      PointersValid taken.after :=
  Machine.steps_induction (fun _ input inv allowed => inv.other input allowed.1 allowed.2)
    (fun _ input inv allowed => (inv.other input allowed.1 allowed.2).pointersValid)
    contextInv_initial asleep

/-- The monitor tells whether someone else has got the context. -/
structure Watched (state : ContextState κ μ × Bool) : Prop where
  inv : ContextInv state.1
  flag : state.2 = true ↔ Contended state.1

omit [DecidableEq κ] in
theorem Watched.calm {state : ContextState κ μ × Bool} (watched : Watched state) :
    state.2 = false ↔ ¬ Contended state.1 := by
  rw [← watched.flag, Bool.not_eq_true]

omit [DecidableEq κ] in
/-- A signalled `drop` that is alone finds the thread over. -/
theorem ContextInv.returned_of_signalled (inv : ContextInv state) {drop : Dropping κ}
    (waits : drop ∈ state.dropping) (calm : ¬ Contended state) (signalled : drop.signalled = true) :
    state.thread drop.context = .returned := by
  obtain ⟨noUsers, only⟩ := alone_of_not_contended waits calm
  have ending := inv.ending drop.context drop (inv.me_of_dropping waits) noUsers only
  rw [signalled] at ending
  generalize state.thread drop.context = place at ending ⊢
  cases ending
  rfl

/-- **A step keeps the pointers valid exactly if it is orderly.** -/
theorem Watched.step_iff {state : ContextState κ μ × Bool} (watched : Watched state)
    (input : ContextInput κ μ) :
    PointersValid (watchedContext.step state input).1.1 ↔
      Orderly (watchedContext.stepOn state input) := by
  have inv := watched.inv
  show PointersValid (sharedContext.step state.1 input).1 ↔ Orderly _
  cases input with
  | wakeUp client =>
      simp only [Orderly, sharedContext, Machine.stepOn]
      cases waits : state.1.waiting client with
      | none => simpa using inv.pointersValid
      | some drop =>
          have member := mem_of_waiting waits
          cases signalled : drop.signalled with
          | false => simpa [signalled] using inv.pointersValid
          | true =>
              simp only [signalled, if_true, inv.finishDrop_iff member, Option.some.injEq,
                forall_eq', forall_const, watched.calm]
              exact and_iff_left_of_imp fun calm => inv.returned_of_signalled member calm signalled
  | spurious client =>
      simp only [Orderly, sharedContext, Machine.stepOn]
      cases waits : state.1.waiting client with
      | none => simpa using inv.pointersValid
      | some drop =>
          simp only [inv.finishDrop_iff (mem_of_waiting waits), Option.some.injEq, forall_eq',
            watched.calm]
  | _ =>
      refine iff_of_true (ContextInv.pointersValid ?_) trivial
      exact inv.other _ nofun nofun

/-- What a call of `get` changes. -/
theorem get_cases (state : ContextState κ μ) (client : κ) :
    state.gets (.get client) = false ∧ state.get client = state ∨
      state.gets (.get client) = true ∧ (state.get client).dropping = state.dropping ∧
        (state.get client).users.length = state.users.length + 1 := by
  have gets : state.gets (.get client) = !state.initialized client := rfl
  rw [gets]
  unfold ContextState.get
  cases known : state.initialized client with
  | true => exact Or.inl ⟨rfl, if_pos rfl⟩
  | false =>
      right
      rw [if_neg Bool.false_ne_true]
      refine ⟨rfl, ?_⟩
      cases me : state.me with
      | none => exact ⟨rfl, rfl⟩
      | some context => simp [ContextState.share, me]

/-- What a client forgets is no pointer. -/
theorem clear_pointers (state : ContextState κ μ) (client : κ) :
    (state.clear client).users = state.users ∧ (state.clear client).dropping = state.dropping := by
  unfold ContextState.clear
  split <;> exact ⟨rfl, rfl⟩

/-- What a call of `drop` changes: a pointer goes, and a wait may begin. -/
theorem ContextInv.drop_cases (inv : ContextInv state) {user : κ × ℕ}
    (member : user ∈ state.users) :
    (state.users.length = 1 ∧ (state.drop user).dropping.length = state.dropping.length + 1 ∨
      2 ≤ state.users.length ∧ (state.drop user).dropping.length = state.dropping.length) ∧
      (state.drop user).users.length = state.users.length - 1 := by
  have count := inv.counter user.2 (inv.me_of_user member)
  have positive : 0 < state.users.length := List.length_pos_of_mem member
  have erased : (state.users.erase user).length = state.users.length - 1 :=
    List.length_erase_of_mem member
  obtain ⟨client, context⟩ := user
  unfold ContextState.drop
  simp only at count ⊢
  split
  · exact ⟨Or.inl ⟨by omega, by simp⟩, erased⟩
  · exact ⟨Or.inr ⟨by omega, rfl⟩, erased⟩

omit [DecidableEq κ] in
/-- Steps of the thread change no number of pointers. -/
theorem runThread_pointers (state : ContextState κ μ) (context : ℕ) (found : Bool) (choice : ℕ) :
    (state.runThread context found choice).1.users = state.users ∧
      (state.runThread context found choice).1.dropping.length = state.dropping.length := by
  unfold ContextState.runThread
  split
  · exact ⟨rfl, rfl⟩
  · split
    · exact ⟨rfl, rfl⟩
    · exact ⟨rfl, rfl⟩
    · split <;> exact ⟨rfl, rfl⟩
  · exact ⟨rfl, List.length_modify ..⟩
  · exact ⟨rfl, rfl⟩

omit [DecidableEq κ] in
theorem contended_iff (state : ContextState κ μ) :
    Contended state ↔
      0 < state.dropping.length ∧ 2 ≤ state.users.length + state.dropping.length := by
  rw [Contended, List.length_pos_iff]

omit [DecidableEq κ] in
theorem raced_iff (before : Bool)
    (taken : Machine.Step (ContextState κ μ) (ContextInput κ μ) (ContextEvent μ)) :
    raced before taken = true ↔
      0 < taken.after.dropping.length ∧
        (before = true ∨
          0 < taken.before.dropping.length ∧ taken.before.gets taken.input = true) := by
  simp [raced, List.length_pos_iff]

/-- The monitor stays right. -/
theorem Watched.step {state : ContextState κ μ × Bool} (watched : Watched state)
    (input : ContextInput κ μ) (valid : PointersValid (watchedContext.step state input).1.1) :
    Watched (watchedContext.step state input).1 := by
  have inv := watched.inv
  have flag := watched.flag
  have next : ContextInv (sharedContext.step state.1 input).1 := inv.step input valid
  refine ⟨next, ?_⟩
  show raced state.2 (sharedContext.stepOn state.1 input) = true ↔
    Contended (sharedContext.step state.1 input).1
  rw [raced_iff, flag, contended_iff, contended_iff]
  have same (quiet : state.1.gets input = false)
      (users : (sharedContext.step state.1 input).1.users.length = state.1.users.length)
      (dropping : (sharedContext.step state.1 input).1.dropping.length =
        state.1.dropping.length) :
      0 < (sharedContext.step state.1 input).1.dropping.length ∧
          ((0 < state.1.dropping.length ∧ 2 ≤ state.1.users.length + state.1.dropping.length) ∨
            0 < state.1.dropping.length ∧ state.1.gets input = true) ↔
        0 < (sharedContext.step state.1 input).1.dropping.length ∧
          2 ≤ (sharedContext.step state.1 input).1.users.length +
            (sharedContext.step state.1 input).1.dropping.length := by
    rw [quiet, users, dropping]
    simp
  -- where a wait ends rightly, nobody waits any more
  have finish {client : κ} {drop : Dropping κ} (waits : state.1.waiting client = some drop)
      (done : (sharedContext.step state.1 input).1 = (state.1.finishDrop drop).1)
      (valid : PointersValid (sharedContext.step state.1 input).1) {flagged contended : Prop} :
      0 < (sharedContext.step state.1 input).1.dropping.length ∧ flagged ↔
        0 < (sharedContext.step state.1 input).1.dropping.length ∧ contended := by
    rw [done] at valid
    have member := mem_of_waiting waits
    have none : (sharedContext.step state.1 input).1.dropping.length = 0 := by
      rw [done]
      simp [ContextState.finishDrop,
        (alone_of_not_contended member ((inv.finishDrop_iff member).mp valid).1).2]
    exact iff_of_false (fun some => absurd some.1 (by omega)) fun some => absurd some.1 (by omega)
  cases input with
  | get client =>
      rcases get_cases state.1 client with ⟨quiet, unchanged⟩ | ⟨gets, dropping, users⟩
      · refine same quiet ?_ ?_
        · exact congrArg (fun state => state.users.length) unchanged
        · exact congrArg (fun state => state.dropping.length) unchanged
      · show 0 < (state.1.get client).dropping.length ∧ (_ ∨ _ ∧ state.1.gets _ = true) ↔
          0 < (state.1.get client).dropping.length ∧ 2 ≤ (state.1.get client).users.length +
            (state.1.get client).dropping.length
        simp only [Machine.stepOn]
        rw [gets, dropping, users, and_iff_left rfl]
        omega
  | drop client onThread =>
      cases has : state.1.pointer client with
      | none => refine same rfl ?_ ?_ <;> simp [sharedContext, has]
      | some user =>
          cases onThread with
          | true => refine same rfl ?_ ?_ <;> simp [sharedContext, has]
          | false =>
              have step : (sharedContext.step state.1 (.drop client false)).1 =
                  state.1.drop user := by
                simp [sharedContext, has]
              have quiet : state.1.gets (.drop client false) = false := rfl
              obtain ⟨dropping, users⟩ := inv.drop_cases (mem_of_pointer has)
              simp only [Machine.stepOn]
              rw [step, quiet]
              rcases dropping with ⟨last, dropping⟩ | ⟨more, dropping⟩
              · rw [users, dropping]
                omega
              · rw [users, dropping]
                omega
  | clear client =>
      obtain ⟨users, dropping⟩ := clear_pointers state.1 client
      exact same rfl (congrArg List.length users) (congrArg List.length dropping)
  | send client msg =>
      refine same rfl ?_ ?_
      all_goals
        simp only [sharedContext]
        cases state.1.pointer client <;> rfl
  | thread context found choice =>
      obtain ⟨users, dropping⟩ := runThread_pointers state.1 context found choice
      exact same rfl (congrArg List.length users) dropping
  | wakeUp client =>
      cases waits : state.1.waiting client with
      | none => refine same rfl ?_ ?_ <;> simp [sharedContext, waits]
      | some drop =>
          cases signalled : drop.signalled with
          | false => refine same rfl ?_ ?_ <;> simp [sharedContext, waits, signalled]
          | true =>
              refine finish waits ?_ valid
              simp [sharedContext, waits, signalled]
  | spurious client =>
      cases waits : state.1.waiting client with
      | none => refine same rfl ?_ ?_ <;> simp [sharedContext, waits]
      | some drop =>
          refine finish waits ?_ valid
          simp [sharedContext, waits]

/-- **All pointers stay valid exactly in the runs in which no wait ends after a `get`, nor without
a signal while the thread runs.** -/
theorem pointers_valid_iff (inputs : List (ContextInput κ μ)) :
    (∀ taken ∈ watchedContext.steps (.initial, false) inputs, PointersValid taken.after.1) ↔
      ∀ taken ∈ watchedContext.steps ((.initial : ContextState κ μ), false) inputs,
        Orderly taken := by
  have start : Watched ((.initial : ContextState κ μ), false) :=
    ⟨contextInv_initial, by simp [Contended, ContextState.initial]⟩
  exact Machine.steps_iff (fun _ input watched => watched.step_iff input)
    (fun _ input watched valid => watched.step input valid) start inputs

end Runs

end Msm8660.Gps
