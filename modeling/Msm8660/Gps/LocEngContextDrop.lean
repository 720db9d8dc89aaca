import Msm8660.Gps.LocEngContext
import Msm8660.Lib.Progress

/-!
# The end of the shared context

What the last `drop` of a `LocEngContext` leaves behind. As long as the pointers stay valid, the
thread of a context that is deleted has handled everything that was sent, unless it has discarded
a message of a client that had forgotten the context (`context_drained`).

A `drop` that waits alone comes back (`drop_returns`) if the thread discards nothing, but that
hangs on a word which does not belong to the context: the thread takes the owner of
`LOC_ENG_MSG_QUIT` for a `loc_eng_data_s_type`. If it finds NULL there, it returns without the
signal, and the `drop` waits for ever (`drop_lost`).
-/

set_option autoImplicit false

namespace Msm8660.Gps

section Runs

variable {κ μ : Type*} [DecidableEq κ] {state : ContextState κ μ}

/-! ## The messages -/

/-- What has been sent to a context. -/
def sentInto (context : ℕ) (seen : List (ContextEvent μ)) : List μ :=
  seen.filterMap fun
    | .sent other msg => if other = context then some msg else none
    | _ => none

/-- What the thread of a context has handled. -/
def handledIn (context : ℕ) (seen : List (ContextEvent μ)) : List μ :=
  seen.filterMap fun
    | .handled other msg => if other = context then some msg else none
    | _ => none

/-- What the thread of a context has deleted without looking at it. -/
def discardedIn (context : ℕ) (seen : List (ContextEvent μ)) : List μ :=
  seen.filterMap fun
    | .discarded other msg => if other = context then some msg else none
    | _ => none

/-- What is still to be handled. -/
def others (queue : List (DeferredMsg κ μ)) : List μ :=
  queue.filterMap fun
    | .other _ msg => some msg
    | .quit => none

/-- What was sent has been handled, in its order, or is in the queue, but for the message that
the thread has ended with. Where nobody else has the context, a thread that is over has ended
with such a message, or has left nothing. -/
structure Accounted (state : ContextState κ μ) (seen : List (ContextEvent μ)) : Prop where
  sent : ∀ context, sentInto context seen =
    handledIn context seen ++ discardedIn context seen ++ others (state.deferredQ context)
  ended : ∀ context, discardedIn context seen ≠ [] → state.thread context = .returned
  early : ∀ context, state.me = some context → state.thread context = .returned →
    ¬ Contended state → discardedIn context seen ≠ [] ∨
      state.dropping ≠ [] ∧ state.deferredQ context = []

/-- Before a context is deleted, everything that was sent to it has been handled, unless a message
has been discarded. -/
def Drained (seen : List (ContextEvent μ)) (event : ContextEvent μ) : Prop :=
  ∀ context, event = .deleted context →
    (sentInto context seen = handledIn context seen ↔ discardedIn context seen = [])

/-- Who does not look at an event has seen what he had seen before. -/
theorem filterMap_concat_of_none {ε α : Type*} {look : ε → Option α} (seen : List ε) {event : ε}
    (unseen : look event = none) : (seen ++ [event]).filterMap look = seen.filterMap look := by
  rw [List.filterMap_append, List.filterMap_cons_none unseen, List.filterMap_nil, List.append_nil]

namespace Accounted

variable {seen : List (ContextEvent μ)}

omit [DecidableEq κ]

/-- A step that neither sends nor takes a message, and after which a thread is over only if it
was before. -/
theorem quiet (accounted : Accounted state seen) {next : ContextState κ μ}
    {more : List (ContextEvent μ)} (silent : ∀ context, sentInto context more = [] ∧
      handledIn context more = [] ∧ discardedIn context more = [])
    (queue : ∀ context, others (next.deferredQ context) = others (state.deferredQ context))
    (ended : ∀ context, state.thread context = .returned → next.thread context = .returned)
    (early : ∀ context, next.me = some context → next.thread context = .returned →
      ¬ Contended next → discardedIn context seen ≠ [] ∨
        next.dropping ≠ [] ∧ next.deferredQ context = []) :
    Accounted next (seen ++ more) := by
  have added (context : ℕ) : sentInto context (seen ++ more) = sentInto context seen ∧
      handledIn context (seen ++ more) = handledIn context seen ∧
        discardedIn context (seen ++ more) = discardedIn context seen := by
    obtain ⟨sent, handled, discarded⟩ := silent context
    unfold sentInto handledIn discardedIn at *
    simp only [List.filterMap_append, sent, handled, discarded, List.append_nil, and_self]
  constructor
  case sent =>
    intro context
    rw [(added context).1, (added context).2.1, (added context).2.2, queue]
    exact accounted.sent context
  case ended =>
    intro context some
    rw [(added context).2.2] at some
    exact ended context (accounted.ended context some)
  case early =>
    intro context me returned calm
    rw [(added context).2.2]
    exact early context me returned calm

omit [DecidableEq κ] in
/-- Where a client still has the context, it is not waited for. -/
theorem dropping_of_calm (calm : ¬ Contended state) (some : 0 < state.users.length) :
    state.dropping = [] := by
  rw [contended_iff] at calm
  exact List.eq_nil_of_length_eq_zero (by omega)

/-- As long as nobody waits in `drop`, a thread that is over has discarded a message. -/
theorem discarded (accounted : Accounted state seen) {context : ℕ}
    (me : state.me = some context) (returned : state.thread context = .returned)
    (nobody : state.dropping = []) : discardedIn context seen ≠ [] := by
  rcases accounted.early context me returned fun contended => contended.1 nobody with some | last
  · exact some
  · exact absurd nobody last.1

theorem get (inv : ContextInv state) (accounted : Accounted state seen) [DecidableEq κ]
    (client : κ) : Accounted (state.get client) seen := by
  unfold ContextState.get
  split
  · exact accounted
  · split
    · -- a new context
      next none =>
        refine List.append_nil seen ▸ accounted.quiet (fun _ => ⟨rfl, rfl, rfl⟩) ?_ ?_ ?_
        · intro context
          by_cases new : context = state.created
          · rw [new, (inv.fresh _ (Nat.le_refl _)).2.1]
            simp [ContextState.share, ContextState.create]
          · simp [ContextState.share, ContextState.create, Function.update_of_ne new]
        · intro context returned
          have old : context ≠ state.created := by
            rintro rfl
            exact absurd ((inv.fresh _ (Nat.le_refl _)).1.symm.trans returned) (by decide)
          exact (Function.update_of_ne old _ _).trans returned
        · intro context me returned
          obtain rfl : state.created = context := Option.some.inj me
          exact absurd ((Function.update_self ..).symm.trans returned) (by decide)
    · next some =>
        obtain ⟨number, here⟩ := Option.ne_none_iff_exists'.mp some
        rw [ContextState.share, here]
        refine List.append_nil seen ▸ accounted.quiet (fun _ => ⟨rfl, rfl, rfl⟩)
          (fun _ => rfl) (fun _ returned => returned) fun context me returned calm => Or.inl ?_
        have nobody := dropping_of_calm calm (Nat.succ_pos _)
        exact accounted.discarded (here.trans (by exact me)) returned nobody

theorem drop (inv : ContextInv state) (accounted : Accounted state seen) [DecidableEq κ]
    {user : κ × ℕ} (member : user ∈ state.users) : Accounted (state.drop user) seen := by
  have cases := inv.drop_cases member
  have queue (context : ℕ) : others ((state.drop user).deferredQ context) =
      others (state.deferredQ context) := by
    obtain ⟨client, number⟩ := user
    unfold ContextState.drop
    dsimp only
    split
    · by_cases here : context = number
      · rw [here]
        simp [ContextState.enqueue, others]
      · simp [ContextState.enqueue, Function.update_of_ne here]
    · rfl
  have same : (state.drop user).thread = state.thread ∧ (state.drop user).me = state.me := by
    unfold ContextState.drop
    dsimp only
    split <;> exact ⟨rfl, rfl⟩
  refine List.append_nil seen ▸ accounted.quiet (fun _ => ⟨rfl, rfl, rfl⟩) queue ?_ ?_
  · intro context returned
    rwa [same.1]
  · intro context me returned calm
    rw [same.1] at returned
    rw [same.2] at me
    rw [contended_iff] at calm
    refine Or.inl (accounted.discarded me returned (List.eq_nil_of_length_eq_zero ?_))
    omega

/-- A message is sent. -/
theorem send (accounted : Accounted state seen) {user : κ × ℕ} (member : user ∈ state.users)
    (client : κ) (msg : μ) :
    Accounted (state.enqueue user.2 (.other client msg)) (seen ++ [.sent user.2 msg]) := by
  have kept (context : ℕ) : handledIn context (seen ++ [.sent user.2 msg]) =
      handledIn context seen ∧
        discardedIn context (seen ++ [.sent user.2 msg]) = discardedIn context seen :=
    ⟨filterMap_concat_of_none seen rfl, filterMap_concat_of_none seen rfl⟩
  constructor
  case sent =>
    intro context
    have before := accounted.sent context
    rw [(kept context).1, (kept context).2, sentInto, List.filterMap_append, ← sentInto, before]
    by_cases here : context = user.2
    · simp [here, others, ContextState.enqueue]
    · simp [ContextState.enqueue, Function.update_of_ne here, Ne.symm here]
  case ended =>
    intro context some
    rw [(kept context).2] at some
    exact accounted.ended context some
  case early =>
    intro context me returned after
    rw [(kept context).2]
    have calm : ¬ Contended state := after
    have nobody := dropping_of_calm calm (List.length_pos_of_mem member)
    exact Or.inl (accounted.discarded me returned nobody)

/-- The thread takes an ordinary message. -/
theorem take (accounted : Accounted state seen) {number : ℕ}
    (listening : state.thread number = .listening) {owner : κ} {msg : μ}
    {rest : List (DeferredMsg κ μ)} (queue : state.deferredQ number = .other owner msg :: rest)
    (found : Bool) (choice : ℕ) :
    Accounted (state.runThread number found choice).1
      (seen ++ (state.runThread number found choice).2) := by
  have none : discardedIn number seen = [] := by
    by_contra some
    exact absurd (listening.symm.trans (accounted.ended number some)) (by decide)
  have before := accounted.sent number
  rw [none, List.append_nil, queue] at before
  by_cases alive : state.initialized owner = true
  · have step : state.runThread number found choice =
        ({ state with deferredQ := Function.update state.deferredQ number rest },
          [.handled number msg]) := by
      simp [ContextState.runThread, listening, queue, alive]
    have kept (context : ℕ) : sentInto context (seen ++ [.handled number msg]) =
        sentInto context seen ∧
          discardedIn context (seen ++ [.handled number msg]) = discardedIn context seen :=
      ⟨filterMap_concat_of_none seen rfl, filterMap_concat_of_none seen rfl⟩
    rw [step]
    constructor
    case sent =>
      intro context
      rw [(kept context).1, (kept context).2, handledIn, List.filterMap_append, ← handledIn]
      by_cases here : context = number
      · rw [here, before, none]
        simp [others]
      · simp [Function.update_of_ne here, Ne.symm here, accounted.sent context]
    case ended =>
      intro context some
      rw [(kept context).2] at some
      exact accounted.ended context some
    case early =>
      intro context me returned calm
      have other : context ≠ number := by
        rintro rfl
        exact absurd (listening.symm.trans returned) (by decide)
      rw [(kept context).2]
      simpa [Function.update_of_ne other] using accounted.early context me returned calm
  · have step : state.runThread number found choice =
        ({ state with
            deferredQ := Function.update state.deferredQ number rest
            thread := Function.update state.thread number .returned },
          [.discarded number msg]) := by
      simp [ContextState.runThread, listening, queue, alive]
    have kept (context : ℕ) : sentInto context (seen ++ [.discarded number msg]) =
        sentInto context seen ∧
          handledIn context (seen ++ [.discarded number msg]) = handledIn context seen :=
      ⟨filterMap_concat_of_none seen rfl, filterMap_concat_of_none seen rfl⟩
    have added (context : ℕ) : discardedIn context (seen ++ [.discarded number msg]) =
        discardedIn context seen ++ if number = context then [msg] else [] := by
      rw [discardedIn, List.filterMap_append, ← discardedIn]
      by_cases here : number = context <;> simp [here]
    rw [step]
    constructor
    case sent =>
      intro context
      rw [(kept context).1, (kept context).2, added]
      by_cases here : context = number
      · rw [here, before, none]
        simp [others]
      · simp [Function.update_of_ne here, Ne.symm here, accounted.sent context]
    case ended =>
      intro context some
      by_cases here : context = number
      · rw [here]
        exact Function.update_self ..
      · rw [added, if_neg (Ne.symm here), List.append_nil] at some
        exact (Function.update_of_ne here _ _).trans (accounted.ended context some)
    case early =>
      intro context me returned calm
      rw [added]
      by_cases here : context = number
      · rw [if_pos here.symm]
        exact Or.inl (List.append_ne_nil_of_right_ne_nil _ (List.cons_ne_nil _ _))
      · have earlier : state.thread context = .returned :=
          (Function.update_of_ne here _ _).symm.trans returned
        simpa [Function.update_of_ne here, Ne.symm here] using
          accounted.early context me earlier calm

/-- The thread takes the message to quit. -/
theorem quit (inv : ContextInv state) (accounted : Accounted state seen) {number : ℕ}
    (listening : state.thread number = .listening) {rest : List (DeferredMsg κ μ)}
    (queue : state.deferredQ number = .quit :: rest) (later : DeferredPlace) :
    Accounted { state with
      deferredQ := Function.update state.deferredQ number rest
      thread := Function.update state.thread number later } seen := by
  refine List.append_nil seen ▸ accounted.quiet (fun _ => ⟨rfl, rfl, rfl⟩) ?_ ?_ ?_
  · intro context
    by_cases here : context = number
    · simp [here, queue, others]
    · simp [Function.update_of_ne here]
  · intro context returned
    have other : context ≠ number := by
      rintro rfl
      exact absurd (listening.symm.trans returned) (by decide)
    exact (Function.update_of_ne other _ _).trans returned
  · intro context me returned after
    have calm : ¬ Contended state := after
    by_cases here : context = number
    · right
      subst here
      have waiting : state.dropping ≠ [] := fun none =>
        (inv.listens context me none).2 (queue ▸ List.mem_cons_self ..)
      obtain ⟨drop, waits⟩ := List.exists_mem_of_ne_nil _ waiting
      obtain ⟨noUsers, only⟩ := alone_of_not_contended waits calm
      have ending := inv.ending context drop me noUsers only
      rw [listening, queue] at ending
      refine ⟨waiting, ?_⟩
      show Function.update state.deferredQ context rest context = []
      rw [Function.update_self]
      generalize drop.signalled = signalled at ending
      cases ending with
      | listening msgs ordinary there =>
          cases msgs with
          | nil => exact (List.cons.inj there).2
          | cons first msgs =>
              obtain ⟨rfl, -⟩ := List.cons.inj there
              exact absurd (List.mem_cons_self ..) ordinary
    · have earlier : state.thread context = .returned :=
        (Function.update_of_ne here _ _).symm.trans returned
      simpa [Function.update_of_ne here] using accounted.early context me earlier calm

/-- The thread signals. -/
theorem signal (inv : ContextInv state) (accounted : Accounted state seen) {number : ℕ}
    (quitting : state.thread number = .quitting) (choice : ℕ) :
    Accounted { state with
      dropping := state.signal choice
      thread := Function.update state.thread number .returned } seen := by
  have length : (state.signal choice).length = state.dropping.length := List.length_modify ..
  refine List.append_nil seen ▸ accounted.quiet (fun _ => ⟨rfl, rfl, rfl⟩) (fun _ => rfl) ?_ ?_
  · intro context returned
    have other : context ≠ number := by
      rintro rfl
      exact absurd (quitting.symm.trans returned) (by decide)
    exact (Function.update_of_ne other _ _).trans returned
  · intro context me returned after
    have calm : ¬ Contended state := by
      rw [contended_iff] at after ⊢
      rwa [← length]
    have still (waiting : state.dropping ≠ []) : state.signal choice ≠ [] :=
      List.ne_nil_of_length_pos (by rw [length]; exact List.length_pos_iff.mpr waiting)
    by_cases here : context = number
    · right
      subst here
      have waiting : state.dropping ≠ [] := by
        intro none
        rcases (inv.listens context me none).1 with listening | returned
        · exact absurd (listening.symm.trans quitting) (by decide)
        · exact absurd (returned.symm.trans quitting) (by decide)
      obtain ⟨drop, waits⟩ := List.exists_mem_of_ne_nil _ waiting
      obtain ⟨noUsers, only⟩ := alone_of_not_contended waits calm
      have ending := inv.ending context drop me noUsers only
      rw [quitting] at ending
      refine ⟨still waiting, ?_⟩
      generalize drop.signalled = signalled at ending
      cases ending with
      | quitting empty => exact empty
    · have earlier : state.thread context = .returned :=
        (Function.update_of_ne here _ _).symm.trans returned
      exact (accounted.early context me earlier calm).imp_right fun last =>
        ⟨still last.1, last.2⟩

/-- A wait ends, and there is no context any more. -/
theorem finishDrop (accounted : Accounted state seen) [DecidableEq κ] (drop : Dropping κ) :
    Accounted (state.finishDrop drop).1 (seen ++ (state.finishDrop drop).2) :=
  accounted.quiet (fun _ => ⟨rfl, rfl, rfl⟩) (fun _ => rfl) (fun _ returned => returned)
    fun _ none => nomatch none

/-- No step loses a message or handles one twice. -/
theorem step (inv : ContextInv state) (accounted : Accounted state seen) [DecidableEq κ]
    (input : ContextInput κ μ) :
    Accounted (sharedContext.step state input).1
      (seen ++ (sharedContext.step state input).2) := by
  have same : Accounted state (seen ++ []) := by rwa [List.append_nil]
  cases input with
  | get client => exact (List.append_nil seen).symm ▸ accounted.get inv client
  | drop client onThread =>
      simp only [sharedContext]
      cases has : state.pointer client with
      | none => exact same
      | some user =>
          cases onThread with
          | true => exact same
          | false => exact (List.append_nil seen).symm ▸ accounted.drop inv (mem_of_pointer has)
  | clear client =>
      refine accounted.quiet (fun _ => ⟨rfl, rfl, rfl⟩) ?_ ?_ ?_
      all_goals
        simp only [sharedContext, ContextState.clear]
        split
      · exact fun _ => rfl
      · exact fun _ => rfl
      · exact fun _ returned => returned
      · exact fun _ returned => returned
      · exact accounted.early
      · exact accounted.early
  | send client msg =>
      simp only [sharedContext]
      cases has : state.pointer client with
      | none => exact same
      | some user => exact accounted.send (mem_of_pointer has) client msg
  | thread number found choice =>
      simp only [sharedContext]
      cases place : state.thread number with
      | absent =>
          simp only [ContextState.runThread, place]
          exact same
      | returned =>
          simp only [ContextState.runThread, place]
          exact same
      | quitting =>
          simp only [ContextState.runThread, place, List.append_nil]
          exact accounted.signal inv place choice
      | listening =>
          cases queue : state.deferredQ number with
          | nil =>
              simp only [ContextState.runThread, place, queue]
              exact same
          | cons first rest =>
              cases first with
              | quit =>
                  simp only [ContextState.runThread, place, queue, List.append_nil]
                  exact accounted.quit inv place queue _
              | other owner msg => exact accounted.take place queue found choice
  | wakeUp client =>
      simp only [sharedContext]
      cases state.waiting client with
      | none => exact same
      | some drop =>
          cases signalled : drop.signalled with
          | false => simpa only [signalled, Bool.false_eq_true, if_false] using same
          | true =>
              simp only [signalled, if_true]
              exact accounted.finishDrop drop
  | spurious client =>
      simp only [sharedContext]
      cases state.waiting client with
      | none => exact same
      | some drop => exact accounted.finishDrop drop

end Accounted

/-- A step that deletes a context finds its thread over, and nobody else has it. -/
theorem ContextInv.returned_of_deleted (inv : ContextInv state) {input : ContextInput κ μ}
    (valid : PointersValid (sharedContext.step state input).1)
    {before after : List (ContextEvent μ)} {context : ℕ}
    (events : (sharedContext.step state input).2 = before ++ .deleted context :: after) :
    before = [] ∧ state.me = some context ∧ state.thread context = .returned ∧
      ¬ Contended state := by
  have finish {client : κ} {drop : Dropping κ} (waits : state.waiting client = some drop)
      (valid : PointersValid (state.finishDrop drop).1)
      (events : (state.finishDrop drop).2 = before ++ .deleted context :: after) :
      before = [] ∧ state.me = some context ∧ state.thread context = .returned ∧
        ¬ Contended state := by
    have member := mem_of_waiting waits
    obtain ⟨calm, returned⟩ := (inv.finishDrop_iff member).mp valid
    cases before with
    | cons first rest =>
        exact absurd (congrArg List.length events) (by simp [ContextState.finishDrop])
    | nil =>
        obtain ⟨same, -⟩ := List.cons.inj events
        obtain rfl : drop.context = context := by injection same
        exact ⟨rfl, inv.me_of_dropping member, returned, calm⟩
  cases input with
  | get client => exact absurd events (by simp [sharedContext])
  | drop client onThread =>
      simp only [sharedContext] at events
      split at events <;> exact absurd events (by simp)
  | clear client => exact absurd events (by simp [sharedContext])
  | send client msg =>
      simp only [sharedContext] at events
      split at events
      · exact absurd events (by cases before <;> simp)
      · exact absurd events (by simp)
  | thread number found choice =>
      simp only [sharedContext, ContextState.runThread] at events
      split at events
      · exact absurd events (by simp)
      · split at events
        · exact absurd events (by simp)
        · exact absurd events (by simp)
        · split at events <;> exact absurd events (by cases before <;> simp)
      · exact absurd events (by simp)
      · exact absurd events (by simp)
  | wakeUp client =>
      simp only [sharedContext] at events valid
      cases waits : state.waiting client with
      | none => rw [waits] at events; exact absurd events (by simp)
      | some drop =>
          rw [waits] at events valid
          cases signalled : drop.signalled with
          | false => simp [signalled] at events
          | true =>
              simp only [signalled, if_true] at events valid
              exact finish waits valid events
  | spurious client =>
      simp only [sharedContext] at events valid
      cases waits : state.waiting client with
      | none => rw [waits] at events; exact absurd events (by simp)
      | some drop =>
          rw [waits] at events valid
          exact finish waits valid events

/-- **When a context is deleted, everything that was sent has been handled, exactly if no message
has been discarded**, as long as the pointers stay valid. -/
theorem context_drained {inputs : List (ContextInput κ μ)}
    (valid : ∀ taken ∈ sharedContext.steps .initial inputs, PointersValid taken.after)
    {before after : List (ContextEvent μ)} {context : ℕ}
    (split : sharedContext.outputs .initial inputs = before ++ .deleted context :: after) :
    sentInto context before = handledIn context before ↔ discardedIn context before = [] := by
  have start : ContextInv (.initial : ContextState κ μ) ∧
      Accounted (.initial : ContextState κ μ) [] :=
    ⟨contextInv_initial, ⟨fun _ => rfl, fun _ some => absurd rfl some, fun _ none => nomatch none⟩⟩
  have kept (state : ContextState κ μ) (seen : List (ContextEvent μ)) (input : ContextInput κ μ)
      (good : ContextInv state ∧ Accounted state seen)
      (valid : PointersValid (sharedContext.stepOn state input).after) :
      ContextInv (sharedContext.step state input).1 ∧
        Accounted (sharedContext.step state input).1
          (seen ++ (sharedContext.step state input).2) :=
    ⟨good.1.step input valid, Accounted.step good.1 good.2 input⟩
  have fact (state : ContextState κ μ) (seen : List (ContextEvent μ)) (input : ContextInput κ μ)
      (good : ContextInv state ∧ Accounted state seen)
      (valid : PointersValid (sharedContext.stepOn state input).after)
      (before : List (ContextEvent μ)) (event : ContextEvent μ) (after : List (ContextEvent μ))
      (events : (sharedContext.step state input).2 = before ++ event :: after) :
      Drained (seen ++ before) event := by
    rintro context rfl
    obtain ⟨rfl, me, returned, calm⟩ := good.1.returned_of_deleted valid events
    rw [List.append_nil]
    have sent := good.2.sent context
    constructor
    · intro whole
      rw [whole, List.append_assoc, List.self_eq_append_right] at sent
      exact (List.append_eq_nil_iff.mp sent).1
    · intro none
      obtain ⟨-, empty⟩ := (good.2.early context me returned calm).resolve_left (· none)
      rw [sent, none, empty, List.append_nil]
      exact List.append_nil _
  have drained : Drained ([] ++ before) (.deleted context) :=
    Machine.run_events_spared kept fact start valid split
  exact drained context rfl

/-- A client that sends a message and drops the context, up to the signal. -/
def lastClient : List (ContextInput Unit ℕ) :=
  [.get (), .send () 7, .drop () false, .thread 0 true 0, .thread 0 true 0, .thread 0 true 0]

theorem lastClient_valid :
    ∀ taken ∈ sharedContext.steps .initial lastClient, PointersValid taken.after :=
  pointersValid_of_noWakeUp (by simp [lastClient])

theorem context_drained_lastClient :
    sentInto 0 [ContextEvent.sent 0 7, .handled 0 7] = handledIn 0 [.sent 0 7, .handled 0 7] := by
  have split : sharedContext.outputs .initial (lastClient ++ [.wakeUp ()]) =
      [.sent 0 7, .handled 0 7] ++ .deleted 0 :: [] := by decide
  refine (context_drained (fun taken member => ?_) split).mpr (by decide)
  rw [Machine.steps_append, List.mem_append] at member
  rcases member with earlier | last
  · exact lastClient_valid taken earlier
  · rw [List.mem_singleton.mp last]
    have waits : ⟨(), 0, true⟩ ∈ (sharedContext.run .initial lastClient).dropping := by decide
    have calm : ¬ Contended (sharedContext.run .initial lastClient) := by
      rw [contended_iff]
      decide
    exact ((contextInv_run lastClient_valid).finishDrop waits calm (by decide)).pointersValid

/-- Of two clients one forgets the context before the thread comes to its message. -/
def forgottenMessage : List (ContextInput Bool ℕ) :=
  [.get true, .get false, .send true 7, .drop true false, .clear true, .thread 0 true 0,
    .send false 8, .drop false false]

example : discardedIn 0 (sharedContext.outputs .initial forgottenMessage) = [7] ∧
    (sharedContext.run .initial forgottenMessage).thread 0 = .returned := by decide

/-! ## The end of a wait -/

/-- Nobody calls `get`, nobody wakes up without a signal, nobody forgets the context who owns one
of the messages, and the thread finds a `context` in `LOC_ENG_MSG_QUIT`. -/
def Undisturbed (msgs : List (DeferredMsg κ μ)) : ContextInput κ μ → Prop
  | .get _ | .spurious _ => False
  | .clear client => ∀ msg, .other client msg ∉ msgs
  | .thread _ found _ => found = true
  | _ => True

/-- The `drop` of a client waits alone for a thread that will signal, or it has come back. The
messages that are left are some of these, and their owners have the context. -/
structure Closing (client : κ) (context : ℕ) (msgs : List (DeferredMsg κ μ))
    (state : ContextState κ μ) : Prop where
  inv : ContextInv state
  noUsers : state.users = []
  owners : ∀ owner msg, .other owner msg ∈ state.deferredQ context →
    .other owner msg ∈ msgs ∧ state.initialized owner = true
  waits : state.dropping = [] ∧ state.deleted context = true ∨
    ∃ signalled, state.dropping = [⟨client, context, signalled⟩] ∧
      (state.thread context = .returned → signalled = true)

/-- The context is gone. -/
def Closed (context : ℕ) (state : ContextState κ μ) : Prop :=
  state.dropping = [] ∧ state.deleted context = true

/-- How far the thread and the `drop` are from their ends. -/
def closingRank (context : ℕ) (state : ContextState κ μ) : ℕ :=
  match state.thread context with
  | .listening => (state.deferredQ context).length + 2
  | .quitting => 2
  | _ => 1

/-- The thread has to take the next step, and then the `drop`. -/
def HelpsClosing (client : κ) (context : ℕ) (state : ContextState κ μ) (input : ContextInput κ μ) :
    Prop :=
  if state.thread context = .returned then input = .wakeUp client
  else ∃ choice, input = .thread context true choice

namespace Closing

variable {client : κ} {context : ℕ} {msgs : List (DeferredMsg κ μ)}
  (closing : Closing client context msgs state)

include closing

omit [DecidableEq κ] in
/-- A thread that is not waited for does nothing. -/
theorem runThread_other {number : ℕ} (found : Bool) (choice : ℕ)
    (other : state.dropping = [] ∨ number ≠ context) :
    state.runThread number found choice = (state, []) := by
  have dead : state.me ≠ some number := by
    intro me
    rcases closing.waits with ⟨none, -⟩ | ⟨signalled, only, -⟩
    · exact closing.inv.owned number me closing.noUsers none
    · rcases other with none | different
      · exact absurd (only.symm.trans none) (List.cons_ne_nil _ _)
      · have same := closing.inv.dropping number me ⟨client, context, signalled⟩
          (only ▸ List.mem_singleton_self _)
        exact different same.symm
  unfold ContextState.runThread
  rcases Nat.lt_or_ge number state.created with known | fresh
  · rw [closing.inv.ended number known dead]
  · rw [(closing.inv.fresh number fresh).1]

omit [DecidableEq κ] in
/-- A step of the thread that is waited for brings the end closer. -/
theorem runThread_closer {signalled : Bool} (only : state.dropping = [⟨client, context, signalled⟩])
    (later : state.thread context = .returned → signalled = true) (choice : ℕ) :
    (state.thread context = .returned ∧ state.runThread context true choice = (state, [])) ∨
      Closing client context msgs (state.runThread context true choice).1 ∧
        closingRank context (state.runThread context true choice).1 <
          closingRank context state := by
  have me : state.me = some context := closing.inv.me_of_dropping
    (show ⟨client, context, signalled⟩ ∈ state.dropping from only ▸ List.mem_singleton_self _)
  have ending := closing.inv.ending context _ me closing.noUsers only
  have next : ContextInv (state.runThread context true choice).1 :=
    closing.inv.runThread context true choice
  have noUsers : (state.runThread context true choice).1.users = [] :=
    (runThread_pointers state context true choice).1.trans closing.noUsers
  cases place : state.thread context with
  | absent => rw [place] at ending; nomatch ending
  | returned => exact Or.inl ⟨rfl, by rw [ContextState.runThread, place]⟩
  | listening =>
      right
      rw [place] at ending
      cases ending with
      | listening early ordinary queue =>
          cases early with
          | nil =>
              rw [List.nil_append] at queue
              have step : (state.runThread context true choice).1 = { state with
                  deferredQ := Function.update state.deferredQ context []
                  thread := Function.update state.thread context .quitting } := by
                simp [ContextState.runThread, place, queue]
              rw [step] at next noUsers ⊢
              refine ⟨⟨next, noUsers, ?_, Or.inr ⟨false, only, ?_⟩⟩, ?_⟩
              · intro owner msg left
                simp at left
              · intro returned
                simp at returned
              · simp [closingRank, place, queue]
          | cons first rest =>
              cases first with
              | quit => exact absurd (List.mem_cons_self ..) ordinary
              | other owner msg =>
                  rw [List.cons_append] at queue
                  have alive : state.initialized owner = true :=
                    (closing.owners owner msg (queue ▸ List.mem_cons_self ..)).2
                  have step : (state.runThread context true choice).1 = { state with
                      deferredQ := Function.update state.deferredQ context (rest ++ [.quit]) } := by
                    simp [ContextState.runThread, place, queue, alive]
                  rw [step] at next noUsers ⊢
                  refine ⟨⟨next, noUsers, ?_, Or.inr ⟨false, only, ?_⟩⟩, ?_⟩
                  · intro owner msg left
                    refine closing.owners owner msg ?_
                    rw [queue]
                    exact List.mem_cons_of_mem _ (by simpa using left)
                  · intro returned
                    exact absurd (place.symm.trans returned) (by decide)
                  · simp [closingRank, place, queue]
  | quitting =>
      right
      rw [place] at ending
      cases ending with
      | quitting empty =>
          have step : (state.runThread context true choice).1 = { state with
              dropping := [⟨client, context, true⟩]
              thread := Function.update state.thread context .returned } := by
            simp [ContextState.runThread, ContextState.signal, place, only, Nat.mod_one]
          rw [step] at next noUsers ⊢
          exact ⟨⟨next, noUsers, closing.owners, Or.inr ⟨true, rfl, fun _ => rfl⟩⟩,
            by simp [closingRank, place]⟩

/-- What an undisturbed step does: nothing but that somebody forgets the context, or it brings the
end closer. -/
theorem step_cases {input : ContextInput κ μ} (undisturbed : Undisturbed msgs input) :
    (Closing client context msgs (sharedContext.step state input).1 ∧
        (∃ initialized, (sharedContext.step state input).1 =
          { state with initialized := initialized }) ∧
        (HelpsClosing client context state input → Closed context state)) ∨
      ¬ Closed context state ∧ Closing client context msgs (sharedContext.step state input).1 ∧
        (Closed context (sharedContext.step state input).1 ∨
          closingRank context (sharedContext.step state input).1 < closingRank context state) := by
  have noPointer (other : κ) : state.pointer other = none := by
    rw [ContextState.pointer, closing.noUsers]
    rfl
  have idle (same : (sharedContext.step state input).1 = state)
      (helps : HelpsClosing client context state input → Closed context state) :
      Closing client context msgs (sharedContext.step state input).1 ∧
        (∃ initialized, (sharedContext.step state input).1 =
          { state with initialized := initialized }) ∧
        (HelpsClosing client context state input → Closed context state) :=
    ⟨same.symm ▸ closing, ⟨state.initialized, same⟩, helps⟩
  cases input with
  | get other => exact undisturbed.elim
  | spurious other => exact undisturbed.elim
  | drop other onThread =>
      left
      refine idle (by simp [sharedContext, noPointer]) fun helps => ?_
      unfold HelpsClosing at helps
      split at helps
      · cases helps
      · obtain ⟨choice, same⟩ := helps
        cases same
  | clear other =>
      left
      have helpless : ¬ HelpsClosing client context state (.clear other) := by
        unfold HelpsClosing
        split
        · intro same
          cases same
        · rintro ⟨choice, same⟩
          cases same
      have next : ContextInv (state.clear other) := closing.inv.clear other
      show Closing client context msgs (state.clear other) ∧ _
      by_cases known : (state.pointer other).isSome ∨ (state.waiting other).isSome
      · have same : state.clear other = state := if_pos known
        exact ⟨same.symm ▸ closing, ⟨state.initialized, same⟩, fun helps => absurd helps helpless⟩
      · have forgotten : state.clear other =
            { state with initialized := Function.update state.initialized other false } :=
          if_neg known
        rw [forgotten] at next ⊢
        refine ⟨⟨next, closing.noUsers, fun owner msg left => ?_, closing.waits⟩, ⟨_, forgotten⟩,
          fun helps => absurd helps helpless⟩
        obtain ⟨among, alive⟩ := closing.owners owner msg left
        have different : owner ≠ other := by
          rintro rfl
          exact undisturbed msg among
        exact ⟨among, (Function.update_of_ne different _ _).trans alive⟩
  | send other msg =>
      left
      refine idle (by simp [sharedContext, noPointer]) fun helps => ?_
      unfold HelpsClosing at helps
      split at helps
      · cases helps
      · obtain ⟨choice, same⟩ := helps
        cases same
  | thread number found choice =>
      obtain rfl : found = true := undisturbed
      rcases closing.waits with closed | ⟨signalled, only, later⟩
      · left
        exact idle (congrArg Prod.fst (closing.runThread_other true choice (Or.inl closed.1)))
          fun _ => closed
      · by_cases here : number = context
        · subst here
          rcases closing.runThread_closer only later choice with ⟨returned, same⟩ | ⟨next, lower⟩
          · left
            refine idle (congrArg Prod.fst same) fun helps => ?_
            unfold HelpsClosing at helps
            rw [if_pos returned] at helps
            cases helps
          · refine Or.inr ⟨fun closed => ?_, next, Or.inr lower⟩
            exact absurd (only.symm.trans closed.1) (List.cons_ne_nil _ _)
        · left
          refine idle (congrArg Prod.fst (closing.runThread_other true choice (Or.inr here)))
            fun helps => ?_
          unfold HelpsClosing at helps
          split at helps
          · cases helps
          · obtain ⟨choice, same⟩ := helps
            injection same with same
            exact absurd same here
  | wakeUp other =>
      have unhelpful (different : other ≠ client) :
          ¬ HelpsClosing client context state (.wakeUp other) := by
        unfold HelpsClosing
        split
        · exact fun same => different (ContextInput.wakeUp.inj same)
        · rintro ⟨choice, same⟩
          cases same
      rcases closing.waits with closed | ⟨signalled, only, later⟩
      · left
        refine idle ?_ fun _ => closed
        simp [sharedContext, ContextState.waiting, closed.1]
      · by_cases here : other = client
        · subst here
          have waits : state.waiting other = some ⟨other, context, signalled⟩ := by
            simp [ContextState.waiting, only]
          have member := mem_of_waiting waits
          cases signalled with
          | false =>
              left
              refine idle (by simp [sharedContext, waits]) fun helps => ?_
              unfold HelpsClosing at helps
              split at helps
              · next returned => exact absurd (later returned) (by decide)
              · obtain ⟨choice, same⟩ := helps
                cases same
          | true =>
              right
              have calm : ¬ Contended state := by
                rw [contended_iff, only, closing.noUsers]
                simp
              have returned := closing.inv.returned_of_signalled member calm rfl
              have step : (sharedContext.step state (.wakeUp other)).1 =
                  (state.finishDrop ⟨other, context, true⟩).1 := by
                simp [sharedContext, waits]
              have closed : Closed context (state.finishDrop ⟨other, context, true⟩).1 := by
                simp [Closed, ContextState.finishDrop, only]
              rw [step]
              refine ⟨fun early => ?_, ⟨closing.inv.finishDrop member calm returned,
                closing.noUsers, closing.owners, Or.inl closed⟩, Or.inl closed⟩
              exact absurd (only.symm.trans early.1) (List.cons_ne_nil _ _)
        · left
          refine idle ?_ fun helps => absurd helps (unhelpful here)
          simp [sharedContext, ContextState.waiting, only, Ne.symm here]

end Closing

/-- The end of a wait comes closer in every round. -/
theorem closing_advances (client : κ) (context : ℕ) (msgs : List (DeferredMsg κ μ)) :
    Machine.Advances (@sharedContext κ μ _) (Closing client context msgs) (Closed context)
      (closingRank context) (HelpsClosing client context) (Undisturbed msgs) where
  kept state input closing undisturbed := by
    rcases closing.step_cases undisturbed with ⟨next, -⟩ | ⟨-, next, -⟩
    · exact next
    · exact next
  stays state input closing undisturbed closed := by
    rcases closing.step_cases undisturbed with ⟨-, ⟨initialized, same⟩, -⟩ | ⟨early, -⟩
    · rw [same]
      exact closed
    · exact absurd closed early
  helps state input closing undisturbed helps := by
    rcases closing.step_cases undisturbed with ⟨-, ⟨initialized, same⟩, closed⟩ | ⟨-, -, closer⟩
    · rw [same]
      exact Or.inl (closed helps)
    · exact closer
  harmless state input closing undisturbed := by
    rcases closing.step_cases undisturbed with ⟨-, ⟨initialized, same⟩, -⟩ | ⟨-, -, closer⟩
    · rw [same]
      exact Or.inr (Or.inr ⟨rfl, fun _ helps => helps⟩)
    · exact closer.imp_right Or.inl

/-- **A `drop` that waits alone comes back**, if the thread is not over already, the owners of the
messages that are left keep the context, and the thread finds a `context` in the message to
quit. -/
theorem drop_returns {earlier : List (ContextInput κ μ)}
    (valid : ∀ taken ∈ sharedContext.steps .initial earlier, PointersValid taken.after)
    {drop : Dropping κ} (waits : drop ∈ (sharedContext.run .initial earlier).dropping)
    (calm : ¬ Contended (sharedContext.run .initial earlier))
    (running : (sharedContext.run .initial earlier).thread drop.context = .returned →
      drop.signalled = true)
    (owners : ∀ owner msg,
      .other owner msg ∈ (sharedContext.run .initial earlier).deferredQ drop.context →
        (sharedContext.run .initial earlier).initialized owner = true)
    {rounds : List (List (ContextInput κ μ))}
    (undisturbed : ∀ round ∈ rounds, ∀ input ∈ round,
      Undisturbed ((sharedContext.run .initial earlier).deferredQ drop.context) input)
    (fair : ∀ round ∈ rounds, .wakeUp drop.client ∈ round ∧
      ∃ choice, .thread drop.context true choice ∈ round)
    (enough : closingRank drop.context (sharedContext.run .initial earlier) < rounds.length) :
    Closed drop.context (sharedContext.run .initial (earlier ++ rounds.flatten)) := by
  obtain ⟨noUsers, only⟩ := alone_of_not_contended waits calm
  have closing : Closing drop.client drop.context
      ((sharedContext.run .initial earlier).deferredQ drop.context)
      (sharedContext.run .initial earlier) :=
    ⟨contextInv_run valid, noUsers, fun owner msg left => ⟨left, owners owner msg left⟩,
      Or.inr ⟨drop.signalled, only, running⟩⟩
  rw [Machine.run_append]
  refine (closing_advances drop.client drop.context _).run_reaches closing undisturbed
    (fun round member state _ _ => ?_) enough
  obtain ⟨wakeUp, choice, thread⟩ := fair round member
  by_cases returned : state.thread drop.context = .returned
  · exact ⟨_, wakeUp, by rw [HelpsClosing, if_pos returned]⟩
  · exact ⟨_, thread, by rw [HelpsClosing, if_neg returned]; exact ⟨choice, rfl⟩⟩

theorem drop_returns_lastClient :
    Closed 0 (sharedContext.run .initial
      (lastClient.take 3 ++ (List.replicate 5 [.thread 0 true 0, .wakeUp ()]).flatten)) :=
  drop_returns (pointersValid_of_noWakeUp (by simp [lastClient]))
    (show ⟨(), 0, false⟩ ∈ _ by decide) (by rw [contended_iff]; decide) (by decide)
    (fun _ _ _ => rfl)
    (fun round member => by
      rw [(List.mem_replicate.mp member).2]
      simp [Undisturbed])
    (fun round member => by
      rw [(List.mem_replicate.mp member).2]
      exact ⟨by simp, 0, by simp⟩)
    (by decide)

/-- A `drop` waits for a thread that is over. -/
structure Stuck (drop : Dropping κ) (state : ContextState κ μ) : Prop where
  inv : ContextInv state
  waits : drop ∈ state.dropping
  ended : state.thread drop.context = .returned
  unsignalled : ∀ other ∈ state.dropping, other.signalled = false

/-- Only a wake-up without a signal could end such a wait. -/
theorem Stuck.step {drop : Dropping κ} (stuck : Stuck drop state) {input : ContextInput κ μ}
    (signalled : ∀ client, input ≠ .spurious client) :
    Stuck drop (sharedContext.step state input).1 := by
  have me := stuck.inv.me_of_dropping stuck.waits
  cases input with
  | spurious client => exact absurd rfl (signalled client)
  | get client =>
      have changed : (state.get client).thread = state.thread ∧
          (state.get client).dropping = state.dropping := by
        unfold ContextState.get
        split
        · exact ⟨rfl, rfl⟩
        · rw [if_neg (by rw [me]; exact Option.some_ne_none _), ContextState.share, me]
          exact ⟨rfl, rfl⟩
      refine ⟨stuck.inv.get client, ?_, ?_, ?_⟩
      · exact changed.2.symm ▸ stuck.waits
      · exact (congrFun changed.1 drop.context).trans stuck.ended
      · exact fun other member => stuck.unsignalled other (changed.2 ▸ member)
  | drop client onThread =>
      simp only [sharedContext]
      cases has : state.pointer client with
      | none => exact stuck
      | some user =>
          cases onThread with
          | true => exact stuck
          | false =>
              have next := stuck.inv.drop (mem_of_pointer has)
              obtain ⟨client, context⟩ := user
              simp only [Bool.false_eq_true, if_false]
              unfold ContextState.drop at next ⊢
              dsimp only at next ⊢
              split
              · next last =>
                  rw [if_pos last] at next
                  refine ⟨next, List.mem_append_left _ stuck.waits, stuck.ended, ?_⟩
                  intro other member
                  rcases List.mem_append.mp member with before | new
                  · exact stuck.unsignalled other before
                  · rw [List.mem_singleton.mp new]
              · next more =>
                  rw [if_neg more] at next
                  exact ⟨next, stuck.waits, stuck.ended, stuck.unsignalled⟩
  | clear client =>
      refine ⟨stuck.inv.clear client, ?_, ?_, ?_⟩
      all_goals
        simp only [sharedContext, ContextState.clear]
        split
      · exact stuck.waits
      · exact stuck.waits
      · exact stuck.ended
      · exact stuck.ended
      · exact stuck.unsignalled
      · exact stuck.unsignalled
  | send client msg =>
      simp only [sharedContext]
      cases has : state.pointer client with
      | none => exact stuck
      | some user =>
          exact ⟨stuck.inv.enqueue (mem_of_pointer has) client msg, stuck.waits, stuck.ended,
            stuck.unsignalled⟩
  | thread context found choice =>
      have idle : state.runThread context found choice = (state, []) := by
        unfold ContextState.runThread
        by_cases here : context = drop.context
        · rw [here, stuck.ended]
        · have dead : state.me ≠ some context := fun mine =>
            here (Option.some.inj (mine.symm.trans me))
          rcases Nat.lt_or_ge context state.created with known | fresh
          · rw [stuck.inv.ended context known dead]
          · rw [(stuck.inv.fresh context fresh).1]
      simp only [sharedContext, idle]
      exact stuck
  | wakeUp client =>
      simp only [sharedContext]
      cases waits : state.waiting client with
      | none => exact stuck
      | some other =>
          simp only [stuck.unsignalled other (mem_of_waiting waits), Bool.false_eq_true, if_false]
          exact stuck

/-- **A `drop` waits for ever** if the thread takes the word behind the `LocEngContext` for a
`context` that is NULL: it returns without the signal. -/
theorem drop_lost {earlier : List (ContextInput κ μ)}
    (valid : ∀ taken ∈ sharedContext.steps .initial earlier, PointersValid taken.after)
    {drop : Dropping κ} (waits : drop ∈ (sharedContext.run .initial earlier).dropping)
    (calm : ¬ Contended (sharedContext.run .initial earlier))
    (listening : (sharedContext.run .initial earlier).thread drop.context = .listening)
    (quit : ((sharedContext.run .initial earlier).deferredQ drop.context).head? = some .quit)
    (choice : ℕ) {later : List (ContextInput κ μ)}
    (signalled : ∀ input ∈ later, ∀ client, input ≠ .spurious client) :
    drop ∈ (sharedContext.run .initial
      (earlier ++ .thread drop.context false choice :: later)).dropping := by
  have inv := contextInv_run valid
  obtain ⟨noUsers, only⟩ := alone_of_not_contended waits calm
  rw [Machine.run_append, Machine.run_cons]
  generalize sharedContext.run .initial earlier = state at *
  have ending := inv.ending drop.context drop (inv.me_of_dropping waits) noUsers only
  rw [listening] at ending
  have silent : drop.signalled = false := by
    generalize drop.signalled = signalled at ending
    cases ending
    rfl
  have stuck : Stuck drop (sharedContext.step state (.thread drop.context false choice)).1 := by
    obtain ⟨rest, queue⟩ := List.head?_eq_some_iff.mp quit
    have next : ContextInv (state.runThread drop.context false choice).1 :=
      inv.runThread drop.context false choice
    have step : (state.runThread drop.context false choice).1 = { state with
        deferredQ := Function.update state.deferredQ drop.context rest
        thread := Function.update state.thread drop.context .returned } := by
      simp [ContextState.runThread, listening, queue]
    show Stuck drop (state.runThread drop.context false choice).1
    rw [step] at next ⊢
    refine ⟨next, waits, Function.update_self .., fun other member => ?_⟩
    rw [only, List.mem_singleton] at member
    rw [member]
    exact silent
  have kept : ∀ (state : ContextState κ μ) (input : ContextInput κ μ), Stuck drop state →
      (∀ client, input ≠ .spurious client) → Stuck drop (sharedContext.step state input).1 :=
    fun _ _ stuck signalled => stuck.step signalled
  exact (Machine.run_induction kept stuck signalled).waits

theorem drop_lost_lastClient : ⟨(), 0, false⟩ ∈ (sharedContext.run .initial
    (lastClient.take 4 ++ .thread 0 false 0 :: [.thread 0 true 0, .wakeUp ()])).dropping :=
  drop_lost (pointersValid_of_noWakeUp (by simp [lastClient])) (by decide)
    (by rw [contended_iff]; decide) (by decide) (by decide) 0 (by simp)

end Runs

end Msm8660.Gps
