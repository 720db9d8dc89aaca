import Msm8660.Gps.LinkedListHeap

/-!
# The message queue

`gps/utils/msg_q.c` on the linked list in memory. Any number of threads call
`msg_q_snd`, `msg_q_rcv`, `msg_q_flush` and `msg_q_unblock` on one queue that has been
initialised; a step is one critical section. A thread that waits for a message gives up
the mutex, and looks at the queue again whenever it wakes up, with or without a signal.

Beside it stands the queue that is meant (`closableQueue`), whose content is the list in
memory from its tail. A critical section does what a step of that queue does
(`act_models`), so that the order of the messages (`act_ordered`) and what follows from
closing (`closed_after`) are those of the queue (`msgQ_fifo`).
-/

set_option autoImplicit false

namespace Msm8660.Gps

/-- `msq_q_err_type`. -/
inductive MsqQErrType where
  | success
  | failureGeneral
  | invalidParameter
  | invalidHandle
  | unavailableResource
  | insufficientBuffer
deriving DecidableEq, Repr

/-- `convert_linked_list_err_type`. -/
def convertLinkedListErrType : LinkedListErrType → MsqQErrType
  | .success => .success
  | .invalidParameter => .invalidParameter
  | .invalidHandle => .invalidHandle
  | .unavailableResource => .unavailableResource
  | .insufficientBuffer => .insufficientBuffer
  | .failureGeneral => .failureGeneral

/-- `msg_q`, without the mutex and the condition variable. -/
structure MsgQ (κ : Type*) (α : Type*) (δ : Type*) where
  msgList : ListMemory κ α δ
  unblocked : Bool

variable {κ α δ τ : Type*}

namespace MsgQ

variable [DecidableEq κ] (pMsgQ : MsgQ κ α δ)

/-- `msg_q_init`, where the allocations succeed. -/
def msgQInit (memory : ListMemory κ α δ) : MsgQ κ α δ :=
  ⟨memory.linkedListInit, false⟩

/-- `msg_q_snd`. -/
def msgQSnd (malloc : Option κ) (msgObj : Option α) (dealloc : Option δ) :
    Option (MsgQ κ α δ × MsqQErrType) :=
  if msgObj.isNone then some (pMsgQ, .invalidParameter)
  else if pMsgQ.unblocked then some (pMsgQ, .unavailableResource)
  else
    (pMsgQ.msgList.linkedListAdd malloc msgObj dealloc).map
      fun (msgList, (reply : ListReply α δ Empty)) =>
    ({ pMsgQ with msgList := msgList }, convertLinkedListErrType reply.err)

/-- "while( linked_list_empty(p_msg_q->msg_list) && !p_msg_q->unblocked )", and what
follows the loop. A thread that goes on waiting has nothing to return yet. -/
def awaitMessage (msgObj : Option α) :
    Option (MsgQ κ α δ × Option (MsqQErrType × Option α)) :=
  if pMsgQ.msgList.linkedListEmpty ≠ 0 ∧ pMsgQ.unblocked = false then some (pMsgQ, none)
  else
    (pMsgQ.msgList.linkedListRemove (some msgObj)).map
      fun (msgList, (reply : ListReply α δ Empty)) =>
    ({ pMsgQ with msgList := msgList }, some (convertLinkedListErrType reply.err,
      reply.dataP.getD none))

/-- `msg_q_rcv` up to where it returns or waits, with what is behind `msg_obj`. -/
def msgQRcv (msgObj : Option (Option α)) :
    Option (MsgQ κ α δ × Option (MsqQErrType × Option α)) :=
  match msgObj with
  | none => some (pMsgQ, some (.invalidParameter, none))
  | some msgObj =>
      if pMsgQ.unblocked then some (pMsgQ, some (.unavailableResource, msgObj))
      else pMsgQ.awaitMessage msgObj

/-- `msg_q_flush`, with the calls of the dealloc functions. -/
def msgQFlush (fuel : ℕ) : Option (MsgQ κ α δ × MsqQErrType × List (δ × α)) :=
  (pMsgQ.msgList.linkedListFlush fuel).map fun (msgList, (reply : ListReply α δ Empty)) =>
  ({ pMsgQ with msgList := msgList }, convertLinkedListErrType reply.err, reply.deallocs)

/-- `msg_q_unblock`. -/
def msgQUnblock : MsgQ κ α δ × MsqQErrType :=
  if pMsgQ.unblocked then (pMsgQ, .unavailableResource)
  else ({ pMsgQ with unblocked := true }, .success)

end MsgQ

/-! ## The threads -/

/-- A call. A message is not a null pointer, and the receiver has a place for one, with a
null pointer in it. -/
inductive MsgQCall (κ : Type*) (α : Type*) (δ : Type*) where
  | snd (malloc : Option κ) (msgObj : α) (dealloc : Option δ)
  | rcv
  | flush
  | unblock

/-- A thread makes a call, or it wakes up. -/
inductive MsgQAction (τ : Type*) (κ : Type*) (α : Type*) (δ : Type*) where
  | call (thread : τ) (call : MsgQCall κ α δ)
  | wakeUp (thread : τ)

/-- What the call of a thread returns. Of a flush it is told what it has removed, as `φ`. -/
inductive MsgQReturn (τ : Type*) (α : Type*) (φ : Type*) where
  | snd (thread : τ) (msgObj : α) (err : MsqQErrType)
  | rcv (thread : τ) (err : MsqQErrType) (msgObj : Option α)
  | flush (thread : τ) (err : MsqQErrType) (removed : φ)
  | unblock (thread : τ) (err : MsqQErrType)
deriving DecidableEq

/-- The queue, and which threads wait in `msg_q_rcv`. -/
structure MsgQThreads (τ : Type*) (κ : Type*) (α : Type*) (δ : Type*) where
  pMsgQ : MsgQ κ α δ
  waiting : τ → Bool

namespace MsgQThreads

variable [DecidableEq κ] [DecidableEq τ] (threads : MsgQThreads τ κ α δ)

/-- A thread has looked for a message: it waits, or it returns. -/
def received (thread : τ) :
    MsgQ κ α δ × Option (MsqQErrType × Option α) →
      MsgQThreads τ κ α δ × List (MsgQReturn τ α (List (δ × α)))
  | (pMsgQ, none) => (⟨pMsgQ, Function.update threads.waiting thread true⟩, [])
  | (pMsgQ, some (err, msgObj)) =>
      (⟨pMsgQ, Function.update threads.waiting thread false⟩, [.rcv thread err msgObj])

/-- One critical section. A thread that waits makes no calls, and only such a thread
wakes up. -/
def act (fuel : ℕ) :
    MsgQAction τ κ α δ →
      Option (MsgQThreads τ κ α δ × List (MsgQReturn τ α (List (δ × α))))
  | .wakeUp thread =>
      if threads.waiting thread then
        (threads.pMsgQ.awaitMessage none).map (threads.received thread)
      else some (threads, [])
  | .call thread call =>
      if threads.waiting thread then some (threads, [])
      else match call with
        | .snd malloc msgObj dealloc =>
            (threads.pMsgQ.msgQSnd malloc (some msgObj) dealloc).map fun (pMsgQ, err) =>
            ({ threads with pMsgQ := pMsgQ }, [.snd thread msgObj err])
        | .rcv => (threads.pMsgQ.msgQRcv (some none)).map (threads.received thread)
        | .flush =>
            (threads.pMsgQ.msgQFlush fuel).map fun (pMsgQ, err, deallocs) =>
            ({ threads with pMsgQ := pMsgQ }, [.flush thread err deallocs])
        | .unblock =>
            let (pMsgQ, err) := threads.pMsgQ.msgQUnblock
            some ({ threads with pMsgQ := pMsgQ }, [.unblock thread err])

end MsgQThreads

/-- The threads as a machine. There is no state any more once a call has had no result. -/
def msgQMachine [DecidableEq κ] [DecidableEq τ] (fuel : ℕ) :
    Machine (Option (MsgQThreads τ κ α δ)) (MsgQAction τ κ α δ)
      (MsgQReturn τ α (List (δ × α))) where
  step threads action :=
    let result := threads.bind fun threads => threads.act fuel action
    (result.map Prod.fst, result.toList.flatMap Prod.snd)

/-! ## The queue that is meant -/

/-- A queue of messages, the oldest first, that can be closed, and who waits for one. -/
structure ClosableQueue (τ : Type*) (α : Type*) (δ : Type*) where
  content : List (ListElement α δ)
  closed : Bool
  waiting : τ → Bool

namespace ClosableQueue

variable [DecidableEq τ] (queue : ClosableQueue τ α δ)

/-- A thread looks for a message. It waits for one while the queue is open. -/
def take (thread : τ) :
    ClosableQueue τ α δ × List (MsgQReturn τ α (List (ListElement α δ))) :=
  match queue.content with
  | [] =>
      if queue.closed then
        ({ queue with waiting := Function.update queue.waiting thread false },
          [.rcv thread .unavailableResource none])
      else ({ queue with waiting := Function.update queue.waiting thread true }, [])
  | oldest :: rest =>
      ({ queue with
          content := rest
          waiting := Function.update queue.waiting thread false },
        [.rcv thread .success (some oldest.dataPtr)])

/-- One step of the queue. -/
def act : MsgQAction τ κ α δ →
    ClosableQueue τ α δ × List (MsgQReturn τ α (List (ListElement α δ)))
  | .wakeUp thread => if queue.waiting thread then queue.take thread else (queue, [])
  | .call thread call =>
      if queue.waiting thread then (queue, [])
      else match call with
        | .snd malloc msgObj dealloc =>
            if queue.closed then (queue, [.snd thread msgObj .unavailableResource])
            else if malloc.isNone then (queue, [.snd thread msgObj .failureGeneral])
            else
              ({ queue with content := queue.content ++ [⟨msgObj, dealloc⟩] },
                [.snd thread msgObj .success])
        | .rcv =>
            if queue.closed then (queue, [.rcv thread .unavailableResource none])
            else queue.take thread
        | .flush => ({ queue with content := [] }, [.flush thread .success queue.content])
        | .unblock =>
            if queue.closed then (queue, [.unblock thread .unavailableResource])
            else ({ queue with closed := true }, [.unblock thread .success])

end ClosableQueue

/-- **What a step of the queue does**, as a rule for what holds after it. A step changes
who waits, or it appends a message, takes the oldest one, removes them all or closes. -/
theorem ClosableQueue.act_cases [DecidableEq τ] (queue : ClosableQueue τ α δ)
    {P : ClosableQueue τ α δ × List (MsgQReturn τ α (List (ListElement α δ))) → Prop}
    (silent : ∀ waiting, P ({ queue with waiting := waiting }, []))
    (refused : ∀ thread msgObj err, err ≠ .success → P (queue, [.snd thread msgObj err]))
    (accepted : ∀ thread msgObj dealloc, queue.closed = false →
      P ({ queue with content := queue.content ++ [⟨msgObj, dealloc⟩] },
        [.snd thread msgObj .success]))
    (unavailable : ∀ thread waiting,
      P ({ queue with waiting := waiting }, [.rcv thread .unavailableResource none]))
    (taken : ∀ thread oldest rest waiting, queue.content = oldest :: rest →
      P ({ queue with content := rest, waiting := waiting },
        [.rcv thread .success (some oldest.dataPtr)]))
    (flushed : ∀ thread, P ({ queue with content := [] }, [.flush thread .success queue.content]))
    (again : ∀ thread, P (queue, [.unblock thread .unavailableResource]))
    (closes : ∀ thread, P ({ queue with closed := true }, [.unblock thread .success]))
    (action : MsgQAction τ κ α δ) : P (queue.act action) := by
  have takes : ∀ thread, P (queue.take thread) := by
    intro thread
    unfold ClosableQueue.take
    split
    · split
      · exact unavailable thread _
      · exact silent _
    · next oldest rest held => exact taken thread oldest rest _ held
  cases action with
  | wakeUp thread =>
      simp only [ClosableQueue.act]
      split
      · exact takes thread
      · exact silent queue.waiting
  | call thread call =>
      simp only [ClosableQueue.act]
      split
      · exact silent queue.waiting
      · cases call with
        | snd malloc msgObj dealloc =>
            simp only []
            split
            · exact refused thread msgObj _ (by decide)
            · next shut =>
                split
                · exact refused thread msgObj _ (by decide)
                · exact accepted thread msgObj dealloc (Bool.eq_false_iff.mpr shut)
        | rcv =>
            simp only []
            split
            · exact unavailable thread queue.waiting
            · exact takes thread
        | flush => exact flushed thread
        | unblock =>
            simp only []
            split
            · exact again thread
            · exact closes thread

/-- The queue never grows by more than one message. -/
theorem ClosableQueue.length_act [DecidableEq τ] (queue : ClosableQueue τ α δ)
    (action : MsgQAction τ κ α δ) :
    (queue.act action).1.content.length ≤ queue.content.length + 1 := by
  apply queue.act_cases (P := fun after => after.1.content.length ≤ queue.content.length + 1)
  case taken =>
    intro thread oldest rest waiting held
    rw [held]
    exact Nat.le_succ_of_le (Nat.le_succ _)
  case accepted =>
    intro thread msgObj dealloc _
    simp
  case flushed => exact fun _ => Nat.zero_le _
  all_goals
    intros
    exact Nat.le_succ _

/-- The queue as a machine. -/
def closableQueue [DecidableEq τ] :
    Machine (ClosableQueue τ α δ) (MsgQAction τ κ α δ)
      (MsgQReturn τ α (List (ListElement α δ))) where
  step := ClosableQueue.act

/-- Of a flush one sees the calls of the dealloc functions, the newest message first. -/
def MsgQReturn.shown : MsgQReturn τ α (List (ListElement α δ)) → MsgQReturn τ α (List (δ × α))
  | .snd thread msgObj err => .snd thread msgObj err
  | .rcv thread err msgObj => .rcv thread err msgObj
  | .flush thread err removed => .flush thread err (removed.reverse.flatMap ListElement.dealloc)
  | .unblock thread err => .unblock thread err

/-- The list in memory has the newest message at its head. -/
structure ClosableQueue.Models (queue : ClosableQueue τ α δ) (threads : MsgQThreads τ κ α δ) :
    Prop where
  content : threads.pMsgQ.msgList.Represents queue.content.reverse
  closed : queue.closed = threads.pMsgQ.unblocked
  waiting : queue.waiting = threads.waiting

/-- What an action asks of `malloc`. -/
def MsgQAction.AllocatesUnused (threads : Option (MsgQThreads τ κ α δ)) :
    MsgQAction τ κ α δ → Prop
  | .call _ (.snd (some elem) _ _) =>
      ∀ threads' ∈ threads, threads'.pMsgQ.msgList.heap elem = none
  | _ => True

section Simulation

variable [DecidableEq κ] [DecidableEq τ] {queue : ClosableQueue τ α δ}
  {threads : MsgQThreads τ κ α δ}

theorem take_models (models : queue.Models threads) (thread : τ) :
    ∃ after, (threads.pMsgQ.awaitMessage none).map (threads.received thread) = some after ∧
      (queue.take thread).1.Models after.1 ∧
      after.2 = (queue.take thread).2.map MsgQReturn.shown := by
  have content := models.content
  have empty := ListMemory.linkedListEmpty_eq content
  have closed := models.closed
  have waiting := models.waiting
  cases held : queue.content with
  | nil =>
      rw [held, List.reverse_nil] at content empty
      rw [if_pos rfl] at empty
      cases shut : queue.closed with
      | true =>
          rw [shut] at closed
          have removed := ListMemory.linkedListRemove_empty (ε := Empty) content none
          simp only [MsgQ.awaitMessage, ← closed, Bool.true_eq_false, and_false, if_false, removed,
            Option.map_some, ClosableQueue.take, held, shut, if_true]
          exact ⟨_, rfl, ⟨content, rfl, congrArg (Function.update · thread false) waiting⟩, rfl⟩
      | false =>
          rw [shut] at closed
          simp only [MsgQ.awaitMessage, empty, ← closed, ne_eq, Int.one_ne_zero, not_false_eq_true,
            and_self, if_true, Option.map_some, ClosableQueue.take, held, shut,
            Bool.false_eq_true, if_false]
          exact ⟨_, rfl, ⟨content, closed, congrArg (Function.update · thread true) waiting⟩, rfl⟩
  | cons oldest rest =>
      rw [held, List.reverse_cons] at content empty
      rw [if_neg (by simp)] at empty
      obtain ⟨msgList, removed, content'⟩ :=
        ListMemory.linkedListRemove_spec (ε := Empty) content none
      simp only [MsgQ.awaitMessage, empty, ne_eq, not_true_eq_false, false_and, if_false, removed,
        Option.map_some, ClosableQueue.take, held]
      exact ⟨_, rfl, ⟨content', closed, congrArg (Function.update · thread false) waiting⟩, rfl⟩

/-- **A critical section does what the queue does**, and it has a result. -/
theorem act_models (models : queue.Models threads) {fuel : ℕ}
    (enough : queue.content.length ≤ fuel) {action : MsgQAction τ κ α δ}
    (unused : action.AllocatesUnused (some threads)) :
    ∃ after, threads.act fuel action = some after ∧ (queue.act action).1.Models after.1 ∧
      after.2 = (queue.act action).2.map MsgQReturn.shown := by
  have content := models.content
  have closed := models.closed
  have waiting := models.waiting
  cases action with
  | wakeUp thread =>
      cases waits : threads.waiting thread with
      | true =>
          simp only [MsgQThreads.act, ClosableQueue.act, waiting, waits, if_true]
          exact take_models models thread
      | false =>
          simp only [MsgQThreads.act, ClosableQueue.act, waiting, waits, Bool.false_eq_true,
            if_false]
          exact ⟨_, rfl, models, rfl⟩
  | call thread call =>
      cases waits : threads.waiting thread with
      | true =>
          simp only [MsgQThreads.act, ClosableQueue.act, waiting, waits, if_true]
          exact ⟨_, rfl, models, rfl⟩
      | false =>
          simp only [MsgQThreads.act, ClosableQueue.act, waiting, waits, Bool.false_eq_true,
            if_false]
          cases call with
          | snd malloc msgObj dealloc =>
              simp only [MsgQ.msgQSnd, Option.isNone_some, Bool.false_eq_true, if_false, closed]
              split
              · exact ⟨_, rfl, models, rfl⟩
              · cases malloc with
                | none =>
                    obtain ⟨pList, nodes, shape, -⟩ := content
                    simp only [ListMemory.linkedListAdd, shape.listData, Option.map_some,
                      Option.isNone_none, if_true]
                    exact ⟨_, rfl, models, rfl⟩
                | some elem =>
                    obtain ⟨msgList, added, content'⟩ := ListMemory.linkedListAdd_spec (ε := Empty)
                      content (unused threads rfl) msgObj dealloc
                    simp only [added, Option.map_some, Option.isNone_some, Bool.false_eq_true,
                      if_false]
                    refine ⟨_, rfl, ⟨?_, rfl, rfl⟩, rfl⟩
                    rw [List.reverse_append]
                    exact content'
          | rcv =>
              simp only [MsgQ.msgQRcv, closed]
              split
              · refine ⟨_, rfl, ⟨content, closed, ?_⟩, rfl⟩
                rw [waiting]
                exact (Function.update_eq_self_iff.mpr waits.symm).symm
              · exact take_models models thread
          | flush =>
              rw [← List.length_reverse] at enough
              obtain ⟨msgList, flushed, content'⟩ :=
                ListMemory.linkedListFlush_spec (ε := Empty) content enough
              simp only [MsgQ.msgQFlush, flushed, Option.map_some]
              exact ⟨_, rfl, ⟨content', closed, rfl⟩, rfl⟩
          | unblock =>
              simp only [MsgQ.msgQUnblock, closed]
              split
              · exact ⟨_, rfl, models, rfl⟩
              · exact ⟨_, rfl, ⟨content, rfl, rfl⟩, rfl⟩

end Simulation

/-! ## First in, first out -/

/-- The message that is accepted. -/
def MsgQReturn.accepted {φ : Type*} : MsgQReturn τ α φ → List α
  | .snd _ msgObj .success => [msgObj]
  | _ => []

/-- The message that is received. -/
def MsgQReturn.received {φ : Type*} : MsgQReturn τ α φ → List α
  | .rcv _ .success msgObj => msgObj.toList
  | _ => []

/-- The messages that leave the queue, and whether they are received. -/
def MsgQReturn.departed : MsgQReturn τ α (List (ListElement α δ)) → List (α × Bool)
  | .rcv _ .success msgObj => msgObj.toList.map fun message => (message, true)
  | .flush _ _ removed => removed.map fun element => (element.dataPtr, false)
  | _ => []

/-- The messages in a queue. -/
def ClosableQueue.messages (queue : ClosableQueue τ α δ) : List α :=
  queue.content.map ListElement.dataPtr

/-- What departs is received or flushed. -/
theorem received_eq (returned : MsgQReturn τ α (List (ListElement α δ))) :
    returned.shown.received = (returned.departed.filter Prod.snd).map Prod.fst := by
  cases returned with
  | snd thread msgObj err => rfl
  | rcv thread err msgObj =>
      cases err <;> cases msgObj <;> rfl
  | flush thread err removed =>
      simp [MsgQReturn.shown, MsgQReturn.received, MsgQReturn.departed, List.filter_map,
        Function.comp_def]
  | unblock thread err => rfl

theorem accepted_shown (returned : MsgQReturn τ α (List (ListElement α δ))) :
    returned.shown.accepted = returned.accepted := by
  cases returned with
  | snd thread msgObj err => cases err <;> rfl
  | rcv thread err msgObj => rfl
  | flush thread err removed => rfl
  | unblock thread err => rfl

section Order

variable [DecidableEq τ]

/-- What a step takes in comes after what there is, and what it gives out comes first. -/
theorem act_ordered (queue : ClosableQueue τ α δ) (action : MsgQAction τ κ α δ) :
    queue.messages ++ (queue.act action).2.flatMap MsgQReturn.accepted =
      (queue.act action).2.flatMap (fun returned => returned.departed.map Prod.fst) ++
        (queue.act action).1.messages := by
  apply queue.act_cases (P := fun after =>
    queue.messages ++ after.2.flatMap MsgQReturn.accepted =
      after.2.flatMap (fun returned => returned.departed.map Prod.fst) ++ after.1.messages)
  case refused =>
    intro thread msgObj err failed
    cases err <;> simp [MsgQReturn.accepted, MsgQReturn.departed] at failed ⊢
  case taken =>
    intro thread oldest rest waiting held
    simp [ClosableQueue.messages, held, MsgQReturn.accepted, MsgQReturn.departed]
  all_goals
    intros
    simp [ClosableQueue.messages, MsgQReturn.accepted, MsgQReturn.departed]

/-- Who receives gets a message. -/
theorem act_message {queue : ClosableQueue τ α δ} {action : MsgQAction τ κ α δ} {thread : τ}
    {msgObj : Option α} (received : .rcv thread .success msgObj ∈ (queue.act action).2) :
    msgObj ≠ none := by
  revert received
  apply queue.act_cases (P := fun after => .rcv thread .success msgObj ∈ after.2 → msgObj ≠ none)
  case taken =>
    intro thread oldest rest waiting _ member
    cases List.mem_singleton.mp member
    exact Option.some_ne_none _
  all_goals
    intros
    simp_all

/-- A step of a closed queue leaves it closed. -/
theorem closed_act {queue : ClosableQueue τ α δ} (closed : queue.closed = true)
    (action : MsgQAction τ κ α δ) : (queue.act action).1.closed = true := by
  apply queue.act_cases (P := fun after => after.1.closed = true)
  case closes => exact fun _ => rfl
  all_goals
    intros
    exact closed

/-- A step that unblocks the queue leaves it closed. -/
theorem closed_of_unblock {queue : ClosableQueue τ α δ} {action : MsgQAction τ κ α δ} {thread : τ}
    (unblocked : MsgQReturn.unblock thread .success ∈ (queue.act action).2) :
    (queue.act action).1.closed = true := by
  revert unblocked
  apply queue.act_cases (P := fun after =>
    MsgQReturn.unblock thread .success ∈ after.2 → after.1.closed = true)
  case closes => exact fun _ _ => rfl
  all_goals
    intros
    simp_all

/-- A thread that has received has a message. -/
theorem outputs_message {queue : ClosableQueue τ α δ} {actions : List (MsgQAction τ κ α δ)}
    {thread : τ} {msgObj : Option α}
    (received : .rcv thread .success msgObj ∈ closableQueue.outputs queue actions) :
    msgObj ≠ none := by
  obtain ⟨taken, inSteps, here⟩ := Machine.mem_outputs.mp received
  obtain ⟨earlier, action, later, -, rfl⟩ := Machine.mem_steps.mp inSteps
  exact act_message here

/-- Once it has been unblocked, the queue is closed. -/
theorem closed_after {queue : ClosableQueue τ α δ} {actions : List (MsgQAction τ κ α δ)}
    {thread : τ} (unblocked : .unblock thread .success ∈ closableQueue.outputs queue actions) :
    (closableQueue.run queue actions).closed = true := by
  obtain ⟨taken, member, here⟩ := Machine.mem_outputs.mp unblocked
  obtain ⟨earlier, action, later, rfl, rfl⟩ := Machine.mem_steps.mp member
  rw [Machine.run_append, Machine.run_cons]
  exact @Machine.run_induction _ _ _ closableQueue (fun queue => queue.closed = true)
    (fun _ => True) (fun _ action closed _ => closed_act closed action) _
    (closed_of_unblock here) later fun _ _ => trivial

end Order

/-! ## The claims about threads -/

/-- A step after the queue has been unblocked. Who sends, receives or unblocks is
refused, and so is who has waited, if there is no message. -/
def Refused (taken : Machine.Step (Option (MsgQThreads τ κ α δ)) (MsgQAction τ κ α δ)
    (MsgQReturn τ α (List (δ × α)))) : Prop :=
  ∃ threads, taken.before = some threads ∧
    match taken.input with
    | .wakeUp thread =>
        threads.waiting thread = true → threads.pMsgQ.msgList.linkedListEmpty ≠ 0 →
          taken.outputs = [.rcv thread .unavailableResource none]
    | .call thread call =>
        threads.waiting thread = false →
          match call with
          | .snd _ msgObj _ => taken.outputs = [.snd thread msgObj .unavailableResource]
          | .rcv => taken.outputs = [.rcv thread .unavailableResource none]
          | .flush => True
          | .unblock => taken.outputs = [.unblock thread .unavailableResource]

section Threads

variable [DecidableEq κ] [DecidableEq τ]

theorem refused_of_closed {queue : ClosableQueue τ α δ} {threads : MsgQThreads τ κ α δ}
    (models : queue.Models threads) (closed : queue.closed = true) {fuel : ℕ}
    (enough : queue.content.length ≤ fuel) {action : MsgQAction τ κ α δ}
    (unused : action.AllocatesUnused (some threads)) :
    Refused ((msgQMachine fuel).stepOn (some threads) action) := by
  obtain ⟨after, acted, -, same⟩ := act_models models enough unused
  have waiting := models.waiting
  have outputs : ((msgQMachine fuel).stepOn (some threads) action).outputs =
      (queue.act action).2.map MsgQReturn.shown := by
    rw [← same]
    simp [Machine.stepOn, msgQMachine, acted]
  refine ⟨threads, rfl, ?_⟩
  cases action with
  | wakeUp thread =>
      intro waits empty
      rw [outputs]
      rw [ListMemory.linkedListEmpty_eq models.content] at empty
      have none : queue.content = [] := by
        by_contra some_
        exact empty (if_neg (by simpa using some_))
      simp only [ClosableQueue.act, waiting, waits, if_true, ClosableQueue.take, none, closed]
      rfl
  | call thread call =>
      intro idle
      cases call with
      | snd malloc msgObj dealloc =>
          simp only [outputs, ClosableQueue.act, waiting, idle, closed, Bool.false_eq_true,
            if_false, if_true]
          rfl
      | rcv =>
          simp only [outputs, ClosableQueue.act, waiting, idle, closed, Bool.false_eq_true,
            if_false, if_true]
          rfl
      | flush => trivial
      | unblock =>
          simp only [outputs, ClosableQueue.act, waiting, idle, closed, Bool.false_eq_true,
            if_false, if_true]
          rfl

/-- The state of the machine and the queue that is meant, with as many messages at most
as the loops can visit in the actions to come. -/
def Follows (fuel : ℕ) (actions : List (MsgQAction τ κ α δ)) (state : Option (MsgQThreads τ κ α δ))
    (queue : ClosableQueue τ α δ) : Prop :=
  ∃ threads, state = some threads ∧ queue.Models threads ∧
    queue.content.length + actions.length ≤ fuel ∧
    ∀ taken ∈ (msgQMachine fuel).steps state actions, taken.input.AllocatesUnused taken.before

/-- One action. -/
theorem Follows.step {fuel : ℕ} {action : MsgQAction τ κ α δ} {rest : List (MsgQAction τ κ α δ)}
    {state : Option (MsgQThreads τ κ α δ)} {queue : ClosableQueue τ α δ}
    (follows : Follows fuel (action :: rest) state queue) :
    Follows fuel rest ((msgQMachine fuel).step state action).1 (queue.act action).1 ∧
      ((msgQMachine fuel).step state action).2 = (queue.act action).2.map MsgQReturn.shown := by
  obtain ⟨threads, rfl, models, room, unused⟩ := follows
  rw [Machine.steps_cons, List.forall_mem_cons] at unused
  rw [List.length_cons] at room
  have enough : queue.content.length ≤ fuel := by omega
  obtain ⟨after, acted, models', same⟩ := act_models models enough unused.1
  have grown := queue.length_act action
  have stepped : (msgQMachine fuel).step (some threads) action = (some after.1, after.2) := by
    simp only [Machine.stepOn] at acted
    simp [msgQMachine, acted]
  rw [stepped] at unused ⊢
  exact ⟨⟨after.1, rfl, models', by omega, unused.2⟩, same⟩

/-- The whole run, and every part of it at the beginning. -/
theorem follows_run {memory : ListMemory κ α δ} (empty : memory.heap = fun _ => none)
    {actions : List (MsgQAction τ κ α δ)} {fuel : ℕ} (enough : actions.length ≤ fuel)
    (unused : ∀ taken ∈ (msgQMachine fuel).steps (some ⟨.msgQInit memory, fun _ => false⟩) actions,
      taken.input.AllocatesUnused taken.before)
    {earlier later : List (MsgQAction τ κ α δ)} (split : actions = earlier ++ later) :
    Follows fuel later ((msgQMachine fuel).run (some ⟨.msgQInit memory, fun _ => false⟩) earlier)
        (closableQueue.run ⟨[], false, fun _ => false⟩ earlier) ∧
      (msgQMachine fuel).outputs (some ⟨.msgQInit memory, fun _ => false⟩) earlier =
        (closableQueue.outputs ⟨[], false, fun _ => false⟩ earlier).map MsgQReturn.shown := by
  have start : Follows fuel (earlier ++ later) (some ⟨.msgQInit memory, fun _ => false⟩)
      (⟨[], false, fun _ => false⟩ : ClosableQueue τ α δ) := by
    refine ⟨_, rfl, ⟨ListMemory.represents_init memory empty, rfl, rfl⟩, ?_, split ▸ unused⟩
    rw [← split]
    simpa using enough
  exact @Machine.run_simulation_seen _ _ _ _ (msgQMachine fuel) _ closableQueue MsgQReturn.shown
    (Follows fuel) (fun _ _ _ _ follows => follows.step) _ _ earlier later start

/-- **The message queue is first in, first out, and it closes.** Whatever the threads do,
every critical section has a result, which is that of the queue that is meant. What has
been accepted is, in order, what has departed and what is left; what has been received
is, in order, what has departed without being flushed. A thread that receives has a
message. And once the queue has been unblocked, who sends, receives or unblocks is
refused. -/
theorem msgQ_fifo (memory : ListMemory κ α δ) (empty : memory.heap = fun _ => none)
    (actions : List (MsgQAction τ κ α δ)) {fuel : ℕ} (enough : actions.length ≤ fuel)
    (unused : ∀ taken ∈ (msgQMachine fuel).steps (some ⟨.msgQInit memory, fun _ => false⟩) actions,
      taken.input.AllocatesUnused taken.before) :
    let M : Machine _ _ (MsgQReturn τ α (List (δ × α))) := msgQMachine fuel
    let start : Option (MsgQThreads τ κ α δ) := some ⟨.msgQInit memory, fun _ => false⟩
    let returned := M.outputs start actions
    let meant := closableQueue.outputs ⟨[], false, fun _ => false⟩ actions
    let departed := meant.flatMap MsgQReturn.departed
    let left := (closableQueue.run ⟨[], false, fun _ => false⟩ actions).messages
    returned = meant.map MsgQReturn.shown ∧
      returned.flatMap MsgQReturn.accepted = departed.map Prod.fst ++ left ∧
      returned.flatMap MsgQReturn.received = (departed.filter Prod.snd).map Prod.fst ∧
      (∀ thread msgObj, .rcv thread .success msgObj ∈ returned → msgObj ≠ none) ∧
      ∀ earlier later, actions = earlier ++ later →
        (∃ thread, .unblock thread .success ∈ M.outputs start earlier) →
        ∀ taken ∈ M.steps (M.run start earlier) later, Refused taken := by
  intro M start returned meant departed left
  have same : returned = meant.map MsgQReturn.shown :=
    (follows_run empty enough unused (List.append_nil actions).symm).2
  refine ⟨same, ?_, ?_, ?_, ?_⟩
  · have accepted : returned.flatMap MsgQReturn.accepted = meant.flatMap MsgQReturn.accepted := by
      rw [same, List.flatMap_map]
      exact congrArg (List.flatMap · meant) (funext accepted_shown)
    have ordered := closableQueue.run_ordered act_ordered
      (⟨[], false, fun _ => false⟩ : ClosableQueue τ α δ) actions
    rw [accepted, List.map_flatMap]
    exact ordered
  · rw [same, List.flatMap_map, List.filter_flatMap, List.map_flatMap]
    exact congrArg (List.flatMap · meant) (funext received_eq)
  · intro thread msgObj received
    rw [same] at received
    obtain ⟨event, member, shown⟩ := List.mem_map.mp received
    cases event with
    | rcv thread' err msgObj' =>
        cases shown
        exact outputs_message member
    | snd thread' msgObj' err => cases shown
    | flush thread' err removed => cases shown
    | unblock thread' err => cases shown
  · rintro earlier later split ⟨thread, unblocked⟩ taken member
    obtain ⟨before, action, after, rfl, rfl⟩ := Machine.mem_steps.mp member
    rw [← List.append_assoc] at split
    obtain ⟨⟨threads, reached, models, room, rest⟩, -⟩ := follows_run empty enough unused split
    rw [reached] at rest
    rw [Machine.run_append] at reached
    rw [reached]
    have closed : (closableQueue.run (⟨[], false, fun _ => false⟩ : ClosableQueue τ α δ)
        (earlier ++ before)).closed = true := by
      have outputs := (follows_run empty enough unused
        (split.trans (List.append_assoc earlier before (action :: after)))).2
      rw [outputs] at unblocked
      obtain ⟨event, emitted, shown⟩ := List.mem_map.mp unblocked
      have here : event = .unblock thread .success := by
        cases event <;> cases shown
        rfl
      subst here
      have unblocked' : .unblock thread .success ∈ closableQueue.outputs
          (⟨[], false, fun _ => false⟩ : ClosableQueue τ α δ) (earlier ++ before) := by
        rw [Machine.outputs_append]
        exact List.mem_append_left _ emitted
      exact closed_after unblocked'
    exact refused_of_closed models closed (by omega) (rest _ (List.mem_cons_self ..))

end Threads

/-- A receiver waits, wakes up without a message, and is given the first of two. The
other one is flushed, and a sender comes too late. -/
theorem msgQ_fifo_closed :
    let memory : ListMemory ℕ ℕ Bool := ⟨fun _ => none, none⟩
    let actions : List (MsgQAction Bool ℕ ℕ Bool) :=
      [.call true .rcv, .wakeUp true, .call false (.snd (some 0) 7 (some true)),
        .call false (.snd (some 1) 8 (some true)), .wakeUp true, .call false .flush,
        .call false .unblock, .call false (.snd (some 0) 9 none)]
    (msgQMachine 8).outputs (some ⟨.msgQInit memory, fun _ => false⟩) actions =
      [.snd false 7 .success, .snd false 8 .success, .rcv true .success (some 7),
        .flush false .success [(true, 8)], .unblock false .success,
        .snd false 9 .unavailableResource] := by
  intro memory actions
  exact (msgQ_fifo memory rfl actions (Nat.le_refl 8)
    (List.forall_mem_cons.mpr ⟨trivial, List.forall_mem_cons.mpr ⟨trivial,
      List.forall_mem_cons.mpr ⟨fun _ same => by cases same; rfl,
        List.forall_mem_cons.mpr ⟨fun _ same => by cases same; rfl,
          List.forall_mem_cons.mpr ⟨trivial, List.forall_mem_cons.mpr ⟨trivial,
            List.forall_mem_cons.mpr ⟨trivial,
              List.forall_mem_cons.mpr ⟨fun _ same => by cases same; rfl,
                fun _ member => by cases member⟩⟩⟩⟩⟩⟩⟩⟩)).1

end Msm8660.Gps
