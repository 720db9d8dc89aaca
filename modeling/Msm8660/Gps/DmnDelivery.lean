import Msm8660.Gps.DmnServer

/-!
# From the clients to the messages that are posted

What the server posts is what its clients have sent, in the order in which they sent it
(`requests_posted`): nothing is lost, posted twice or overtaken, wherever the helper thread is
and whatever `malloc` and the opening of the pipe answer, as long as every message fits and has
the bytes that decide what it does (`Decides`). What has not been posted is in the pipe.

A server that has been launched with 0 comes to all of it (`requests_delivered`), unless it is
unblocked or `malloc` fails.
-/

set_option autoImplicit false

namespace Msm8660.Gps

/-! ## What is sent and what is posted -/

/-- What the server posts for a message. -/
def DmnMessage.posts (locApiHandle : Bool) (message : DmnMessage) : List IfMessage :=
  (dispatch locApiHandle (overwrite (fun _ => 0) 0 message.bytes) message.msgsz).toList

/-- A message that fits and has the bytes that decide what it does. -/
structure DmnMessage.Complete (locApiHandle : Bool) (message : DmnMessage) : Prop where
  fits : message.msgsz ≤ sizeofCtrlMsgbuf + 256
  decides : Decides locApiHandle message.bytes

/-- The messages of the clients are complete. -/
def SendsComplete (locApiHandle : Bool) : HelperInput ServerEvent → Prop
  | .environment (.send message) => message.Complete locApiHandle
  | _ => True

/-- The message that a client sends. -/
def clientMessage : HelperInput ServerEvent → List DmnMessage
  | .environment (.send message) => [message]
  | _ => []

/-- What is in the pipe, what has been posted, and what has been sent in all. -/
structure PipeAccount (locApiHandle : Bool) (waiting sent : List DmnMessage)
    (server : ServerContext) : Prop where
  handle : server.locApiHandle = locApiHandle
  complete : ∀ message ∈ waiting, message.Complete locApiHandle
  pipe : server.pipe = waiting.flatMap DmnMessage.bytes
  posted : server.posted ++ waiting.flatMap (DmnMessage.posts locApiHandle) =
    sent.flatMap (DmnMessage.posts locApiHandle)

/-! ## A message -/

section Messages

variable {locApiHandle : Bool} {message : DmnMessage}

/-- The message of `loc_eng_dmn_conn_unblock_proc` is complete, and nothing is posted for it. -/
theorem unblockMessage_complete (locApiHandle : Bool) (stack : ℕ → UInt8) :
    (unblockMessage stack).Complete locApiHandle ∧
      (unblockMessage stack).posts locApiHandle = [] := by
  have length : (unblockMessage stack).bytes.length = 112 := (unblockMessage stack).length_bytes
  have type : (unblockMessage stack).bytes[12]? = some gpsoneUnblock := by
    have inside : 12 < (unblockMessage stack).msgsz := show 12 < 112 by decide
    rw [DmnMessage.bytes, readAt, List.getElem?_map, List.getElem?_range inside]
    rfl
  have received : 12 < (unblockMessage stack).bytes.length :=
    Nat.lt_of_lt_of_eq (show 12 < 112 by decide) length.symm
  refine ⟨⟨show 112 ≤ 368 by decide, received, fun handled => ?_⟩, ?_⟩
  · rw [Handled, type] at handled
    rcases handled with release | ⟨request, -⟩
    · exact absurd release (by decide)
    · exact absurd request (by decide)
  · have field : ctrlType (overwrite (fun _ => 0) 0 (unblockMessage stack).bytes) =
        gpsoneUnblock := receivedAt_eq _ type
    rw [DmnMessage.posts, dispatch, field, if_neg (by decide), if_neg (by decide)]
    rfl

/-- A complete message at the front of the pipe is received whole. -/
theorem msgrcv_message (fits : message.msgsz ≤ sizeofCtrlMsgbuf + 256) (pCmsgbuf : ℕ → UInt8)
    (rest : Pipe) :
    locEngDmnConnGlueMsgrcv (message.bytes ++ rest) pCmsgbuf (sizeofCtrlMsgbuf + 256) =
      some ((message.msgsz : ℤ), overwrite pCmsgbuf 0 message.bytes, rest) := by
  have header := message.header
  have isInt : message.msgsz < 2147483648 := Nat.lt_of_le_of_lt fits (by decide)
  obtain ⟨taken, called, later⟩ := intake_of_frame (frame_fits fits isInt rest)
  have reply : (message.reply (sizeofCtrlMsgbuf + 256)).1 = message.msgsz := by
    rw [DmnMessage.reply, if_pos fits]
  rw [reply] at called
  have whole : taken = message.bytes.length := by
    obtain ⟨-, minus | three | ⟨-, same, -⟩⟩ := intake_cases called
    · omega
    · omega
    · rw [same, leValue_bytes, message.length_bytes]
  rw [msgrcv_eq, called, whole]
  simp only [Option.map_some, List.take_left, List.drop_left]

end Messages

/-! ## The account -/

section Account

variable {locApiHandle : Bool} {waiting sent : List DmnMessage} {server : ServerContext}

/-- Only the identifier of the pipe is changed. -/
theorem PipeAccount.withMsgqId (accounts : PipeAccount locApiHandle waiting sent server)
    (id : MsgqId) :
    PipeAccount locApiHandle waiting sent { server with locApiServerMsgqid := id } :=
  ⟨accounts.handle, accounts.complete, accounts.pipe, accounts.posted⟩

/-- **A call of `loc_api_server_proc`** blocks on an empty pipe, leaves everything as it is, or
takes the oldest message and posts what that says. -/
theorem PipeAccount.proc_cases (accounts : PipeAccount locApiHandle waiting sent server) :
    (server.locApiServerProc = none ∧ waiting = []) ∨
      ((server.malloc = none ∨ server.locApiServerMsgqid ≠ .opened) ∧
        ∃ result, server.locApiServerProc = some (result, server)) ∨
      ∃ message rest later, waiting = message :: rest ∧
        server.locApiServerProc = some (0, later) ∧ PipeAccount locApiHandle rest sent later ∧
          later.posted = server.posted ++ message.posts locApiHandle := by
  obtain ⟨id, pipe, handle, posted, canOpen, malloc⟩ := server
  cases malloc with
  | none => exact Or.inr (Or.inl ⟨Or.inl rfl, -1, rfl⟩)
  | some pCmsgbuf =>
      cases id with
      | unset | failed | closed => exact Or.inr (Or.inl ⟨Or.inr (by simp), 0, rfl⟩)
      | opened =>
          obtain rfl : handle = locApiHandle := accounts.handle
          obtain rfl : pipe = waiting.flatMap DmnMessage.bytes := accounts.pipe
          cases waiting with
          | nil => exact Or.inl ⟨rfl, rfl⟩
          | cons message rest =>
              obtain ⟨complete, others⟩ := List.forall_mem_cons.mp accounts.complete
              have header := message.header
              have posts : dispatch handle (overwrite pCmsgbuf 0 message.bytes) message.msgsz =
                  dispatch handle (overwrite (fun _ => 0) 0 message.bytes) message.msgsz :=
                dispatch_agree complete.decides _ _ _
              have longer : ¬ (message.msgsz : ℤ) ≤ 0 := by omega
              refine Or.inr (Or.inr ⟨message, rest, ⟨.opened, rest.flatMap DmnMessage.bytes, handle,
                posted ++ message.posts handle, canOpen, some pCmsgbuf⟩, rfl, ?_,
                ⟨rfl, others, rfl, ?_⟩, rfl⟩)
              · simp only [ServerContext.locApiServerProc, ServerContext.receive,
                  List.flatMap_cons, msgrcv_message complete.fits, Option.map_some, posts,
                  if_neg longer]
                rfl
              · rw [← accounts.posted, List.flatMap_cons]
                exact List.append_assoc _ _ _

/-- A function of the thread that returns keeps the account. -/
theorem PipeAccount.called (accounts : PipeAccount locApiHandle waiting sent server)
    {which : ThreadProc} {threadProc : ServerContext → Option (ℤ × ServerContext)}
    (found : locApiServer which = some threadProc) {result : ℤ} {later : ServerContext}
    (called : threadProc server = some (result, later)) :
    ∃ waiting, PipeAccount locApiHandle waiting sent later := by
  cases which with
  | init =>
      cases found
      cases called
      exact ⟨waiting, accounts.withMsgqId _⟩
  | pre =>
      cases found
      cases called
      exact ⟨waiting, accounts⟩
  | proc =>
      cases found
      rcases accounts.proc_cases with ⟨blocked, -⟩ | ⟨-, _, left⟩ | ⟨_, rest, _, -, taken, kept, -⟩
      · cases blocked.symm.trans called
      · cases left.symm.trans called
        exact ⟨waiting, accounts⟩
      · cases taken.symm.trans called
        exact ⟨rest, kept⟩
  | post =>
      cases found
      cases called
      exact ⟨waiting, accounts.withMsgqId _⟩

/-- **What the environment does**: a message of a client stands behind the others, and so does
one of `loc_eng_dmn_conn_unblock_proc`. -/
theorem PipeAccount.change (accounts : PipeAccount locApiHandle waiting sent server)
    {event : ServerEvent} (complete : SendsComplete locApiHandle (.environment event)) :
    ∃ more, PipeAccount locApiHandle (waiting ++ more) (sent ++ clientMessage (.environment event))
        (server.change event) ∧ (server.change event).posted = server.posted ∧
      (server.change event).locApiServerMsgqid = server.locApiServerMsgqid := by
  have sends : ∀ message : DmnMessage, message.Complete locApiHandle →
      ∀ told, message.posts locApiHandle = told.flatMap (DmnMessage.posts locApiHandle) →
        PipeAccount locApiHandle (waiting ++ [message]) (sent ++ told)
          { server with pipe := server.pipe ++ message.bytes } := by
    intro message complete told same
    refine ⟨accounts.handle, ?_, ?_, ?_⟩
    · simpa [or_imp, forall_and] using ⟨accounts.complete, complete⟩
    · simp [accounts.pipe]
    · rw [List.flatMap_append, List.flatMap_append, ← List.append_assoc, accounts.posted, ← same,
        List.flatMap_singleton]
  have left : PipeAccount locApiHandle (waiting ++ []) (sent ++ []) server := by
    rwa [List.append_nil, List.append_nil]
  cases event with
  | send message => exact ⟨[message], sends message complete [message] (by simp), rfl, rfl⟩
  | unblockProc stack =>
      obtain ⟨whole, silent⟩ := unblockMessage_complete locApiHandle stack
      rcases server.unblockProc_cases stack with ⟨-, same⟩ | ⟨-, same⟩
      · rw [same]
        exact ⟨[unblockMessage stack], sends _ whole [] silent, rfl, rfl⟩
      · rw [same]
        exact ⟨[], left, rfl, rfl⟩
  | malloc buffer =>
      exact ⟨[], ⟨left.handle, left.complete, left.pipe, left.posted⟩, rfl, rfl⟩
  | canOpen can => exact ⟨[], ⟨left.handle, left.complete, left.pipe, left.posted⟩, rfl, rfl⟩

/-- Any step keeps the account. -/
theorem PipeAccount.step {x : HelperState ServerContext}
    (accounts : PipeAccount locApiHandle waiting sent x.context)
    {input : HelperInput ServerEvent} (complete : SendsComplete locApiHandle input) :
    ∃ waiting, PipeAccount locApiHandle waiting (sent ++ clientMessage input)
      (serverThread.step x input).1.context := by
  have nothing : (∀ event, input ≠ .environment event) → clientMessage input = [] := by
    intro inside
    unfold clientMessage
    split
    · exact absurd rfl (inside _)
    · rfl
  rcases step_context locApiServer ServerContext.change x input with
    ⟨same, inside⟩ | ⟨rfl, which, threadProc, result, found, called⟩ | ⟨event, rfl, changed⟩
  · rw [nothing inside, List.append_nil]
    exact ⟨waiting, (congrArg (PipeAccount locApiHandle waiting sent) same).mpr accounts⟩
  · rw [nothing (by simp), List.append_nil]
    exact accounts.called found called
  · obtain ⟨more, kept, -⟩ := accounts.change complete
    exact ⟨waiting ++ more, (congrArg (PipeAccount locApiHandle _ _) changed).mpr kept⟩

theorem PipeAccount.run {x : HelperState ServerContext}
    (accounts : PipeAccount locApiHandle waiting sent x.context)
    {inputs : List (HelperInput ServerEvent)}
    (complete : ∀ input ∈ inputs, SendsComplete locApiHandle input) :
    ∃ waiting, PipeAccount locApiHandle waiting (sent ++ inputs.flatMap clientMessage)
      (serverThread.run x inputs).context := by
  induction inputs generalizing x waiting sent with
  | nil =>
      rw [List.flatMap_nil, List.append_nil]
      exact ⟨waiting, accounts⟩
  | cons input rest ih =>
      obtain ⟨here, later⟩ := List.forall_mem_cons.mp complete
      obtain ⟨_, kept⟩ := accounts.step here
      rw [List.flatMap_cons, ← List.append_assoc]
      exact ih kept later

/-- Nothing has been sent. -/
theorem PipeAccount.start (locApiHandle canOpen : Bool) (malloc : Option (ℕ → UInt8)) :
    PipeAccount locApiHandle [] []
      (HelperState.start (ServerContext.start locApiHandle canOpen malloc)).context :=
  ⟨rfl, by simp, rfl, rfl⟩

/-- **What is posted is what the clients have sent, in order.** The server posts for the messages
that it has received; those that it has not received yet are in the pipe. -/
theorem requests_posted (locApiHandle canOpen : Bool) (malloc : Option (ℕ → UInt8))
    {inputs : List (HelperInput ServerEvent)}
    (complete : ∀ input ∈ inputs, SendsComplete locApiHandle input) :
    ∃ waiting : List DmnMessage,
      (serverThread.run (.start (.start locApiHandle canOpen malloc)) inputs).context.pipe =
          waiting.flatMap DmnMessage.bytes ∧
        (serverThread.run (.start (.start locApiHandle canOpen malloc)) inputs).context.posted ++
            waiting.flatMap (DmnMessage.posts locApiHandle) =
          (inputs.flatMap clientMessage).flatMap (DmnMessage.posts locApiHandle) := by
  obtain ⟨waiting, accounts⟩ := PipeAccount.start locApiHandle canOpen malloc |>.run complete
  exact ⟨waiting, accounts.pipe, accounts.posted⟩

/-- A release of the addresses 10.0.0.1 and ::1. -/
def releaseBitMessage : DmnMessage where
  msgp offset := releaseBit.getD offset 0
  msgsz := 44
  header := by decide
  isSize := by decide

/-- The server posts a message that is sent to it, and another one is sent. -/
def twoReleases : List (HelperInput ServerEvent) :=
  [.create true, .launcher, .launcher, .child, .child, .child, .child, .launcher, .launcher,
    .launcher, .environment (.send releaseBitMessage), .child, .child, .child,
    .environment (.send releaseBitMessage)]

theorem releaseBitMessage_complete : releaseBitMessage.Complete true := by
  have bytes : releaseBitMessage.bytes = releaseBit := by decide
  refine ⟨show 44 ≤ 368 by decide, ?_⟩
  rw [bytes]
  exact ⟨by decide, fun _ => Or.inr ⟨by decide, by decide⟩⟩

/-- Of two messages the server has received the first, and the second waits in the pipe. -/
theorem requests_posted_releaseBit :
    (serverThread.run (.start (.start true true (some fun _ => 0))) twoReleases).context.posted =
        releaseBitMessage.posts true ∧
      (serverThread.run (.start (.start true true (some fun _ => 0))) twoReleases).context.pipe =
        releaseBitMessage.bytes ∧
      releaseBitMessage.posts true ≠ [] ∧
      ∃ waiting : List DmnMessage,
        (serverThread.run (.start (.start true true (some fun _ => 0)))
            twoReleases).context.pipe = waiting.flatMap DmnMessage.bytes ∧
          (serverThread.run (.start (.start true true (some fun _ => 0)))
                twoReleases).context.posted ++ waiting.flatMap (DmnMessage.posts true) =
            (twoReleases.flatMap clientMessage).flatMap (DmnMessage.posts true) :=
  ⟨by decide +kernel, by decide +kernel, by decide +kernel,
    requests_posted true true (some fun _ => 0)
      (by simpa [twoReleases, SendsComplete] using releaseBitMessage_complete)⟩

end Account

/-! ## A server that goes on -/

/-- The child is on its way to `thread_proc`, or in its loop. -/
def MainPlace.serves : MainPlace → Bool
  | .absent | .procInit | .readyLock false | .readySignal false | .readyUnlock false | .procPre
  | .proc | .test => true
  | _ => false

/-- How far a child that has signalled is from `thread_proc`. -/
def MainPlace.serveRank : MainPlace → ℕ
  | .readyUnlock _ => 2
  | .procPre | .test => 1
  | _ => 0

/-- The server is not unblocked, the pipe can be opened, `malloc` succeeds, and the messages of
the clients are complete. -/
def Attended (locApiHandle : Bool) : HelperInput ServerEvent → Prop
  | .unblock | .environment (.malloc none) | .environment (.canOpen false) => False
  | .environment (.send message) => message.Complete locApiHandle
  | _ => True

/-- Nothing ends the thread. -/
structure Serving (x : HelperState ServerContext) : Prop where
  sound : HelperSound x
  exit : x.thelper.threadExit = false
  serves : x.main.serves = true
  opened : x.main.early = true ∨ x.context.locApiServerMsgqid = .opened
  canOpen : x.context.canOpen = true
  malloc : x.context.malloc.isSome = true

section Serve

variable {locApiHandle : Bool} {x : HelperState ServerContext}

theorem Attended.sendsComplete {input : HelperInput ServerEvent}
    (attended : Attended locApiHandle input) : SendsComplete locApiHandle input := by
  unfold SendsComplete
  split
  · exact attended
  · trivial

theorem Serving.start (locApiHandle : Bool) (fill : ℕ → UInt8) :
    Serving (.start (.start locApiHandle true (some fill))) :=
  ⟨HelperSound.start _, rfl, rfl, Or.inl rfl, rfl, rfl⟩

/-- With memory, `loc_api_server_proc` returns 0, and it does not touch the identifier. -/
theorem locApiServerProc_zero {server later : ServerContext} (memory : server.malloc.isSome = true)
    {result : ℤ} (called : server.locApiServerProc = some (result, later)) :
    result = 0 ∧ later.locApiServerMsgqid = server.locApiServerMsgqid := by
  obtain ⟨fill, allocated⟩ := Option.isSome_iff_exists.mp memory
  unfold ServerContext.locApiServerProc at called
  rw [allocated] at called
  obtain ⟨⟨length, buffer, pipe⟩, -, done⟩ := Option.map_eq_some_iff.mp called
  by_cases short : length ≤ 0
  · simp only [if_pos short] at done
    cases done
    exact ⟨rfl, rfl⟩
  · simp only [if_neg short] at done
    cases done
    exact ⟨rfl, rfl⟩

/-- A step that the child does not see. -/
theorem Serving.unseen (serving : Serving x) {y : HelperState ServerContext}
    (sound : HelperSound y) (exit : y.thelper.threadExit = x.thelper.threadExit)
    (main : y.main = x.main) (context : y.context = x.context) : Serving y := by
  refine ⟨sound, exit.trans serving.exit, ?_, ?_, ?_, ?_⟩
  · rw [main]
    exact serving.serves
  · rw [main, context]
    exact serving.opened
  · rw [context]
    exact serving.canOpen
  · rw [context]
    exact serving.malloc

/-- What a step of the child does. -/
theorem Serving.child (serving : Serving x) : Serving (x.thelperMain locApiServer).1 := by
  have sound := serving.sound.thelperMain locApiServer
  obtain ⟨canOpen, malloc⟩ := thelperMain_environment x
  have canOpen' := canOpen.trans serving.canOpen
  have malloc' : (x.thelperMain locApiServer).1.context.malloc.isSome = true :=
    (congrArg Option.isSome malloc).trans serving.malloc
  suffices rest : (x.thelperMain locApiServer).1.thelper.threadExit = false ∧
      (x.thelperMain locApiServer).1.main.serves = true ∧
      ((x.thelperMain locApiServer).1.main.early = true ∨
        (x.thelperMain locApiServer).1.context.locApiServerMsgqid = .opened) from
    ⟨sound, rest.1, rest.2.1, rest.2.2, canOpen', malloc'⟩
  have serves := serving.serves
  have opened := serving.opened
  have exit := serving.exit
  unfold HelperState.thelperMain
  cases here : x.main with
  | initFailed | preFailed | procFailed | procPost | returned =>
      rw [here] at serves
      cases serves
  | absent => exact ⟨exit, serves, opened⟩
  | procInit => exact ⟨exit, rfl, Or.inr (if_pos serving.canOpen)⟩
  | readyLock failed =>
      cases failed with
      | true =>
          rw [here] at serves
          cases serves
      | false =>
          rw [here] at opened
          have open_ := opened.resolve_left (by decide)
          simp only [HelperState.lock]
          split
          · split
            · exact ⟨exit, rfl, Or.inr open_⟩
            · exact ⟨exit, serves, Or.inr open_⟩
          · exact ⟨exit, rfl, Or.inr open_⟩
  | readySignal failed | readyUnlock failed =>
      cases failed with
      | true =>
          rw [here] at serves
          cases serves
      | false =>
          rw [here] at opened
          exact ⟨exit, rfl, Or.inr (opened.resolve_left (by decide))⟩
  | procPre =>
      rw [here] at opened
      exact ⟨exit, rfl, Or.inr (opened.resolve_left (by decide))⟩
  | test =>
      rw [here] at opened
      simp only [exit, Bool.false_eq_true, if_false]
      exact ⟨trivial, rfl, Or.inr (opened.resolve_left (by decide))⟩
  | proc =>
      simp only [HelperState.callProc, locApiServer]
      cases called : x.context.locApiServerProc with
      | none => exact ⟨exit, serves, opened⟩
      | some answer =>
          obtain ⟨zero, id⟩ := locApiServerProc_zero serving.malloc called
          rw [here] at opened
          simp only [zero]
          exact ⟨exit, rfl, Or.inr (id.trans (opened.resolve_left (by decide)))⟩

theorem Serving.step (serving : Serving x) {input : HelperInput ServerEvent}
    (attended : Attended locApiHandle input) : Serving (serverThread.step x input).1 := by
  have sound := serving.sound.step locApiServer ServerContext.change input
  cases input with
  | create created =>
      simp only [serverThread, threadHelper, HelperState.createThread] at sound ⊢
      split at sound
      · next here =>
          cases created
          · exact serving.unseen sound rfl rfl rfl
          · exact ⟨sound, serving.exit, rfl, Or.inl rfl, serving.canOpen, serving.malloc⟩
      · exact serving
  | launcher =>
      obtain ⟨main, exit, -⟩ := launchThelper_child x
      exact serving.unseen sound exit main (launchThelper_context x)
  | child => exact serving.child
  | spurious => exact serving.unseen sound rfl rfl rfl
  | unblock => exact attended.elim
  | join =>
      obtain ⟨thelper, main, context⟩ := joinThelper_child x
      exact serving.unseen sound (congrArg Thelper.threadExit thelper) main context
  | environment event =>
      cases event with
      | send message =>
          exact ⟨sound, serving.exit, serving.serves, serving.opened, serving.canOpen,
            serving.malloc⟩
      | malloc buffer =>
          cases buffer with
          | none => exact attended.elim
          | some fill =>
              exact ⟨sound, serving.exit, serving.serves, serving.opened, serving.canOpen, rfl⟩
      | canOpen can =>
          cases can with
          | false => exact attended.elim
          | true =>
              exact ⟨sound, serving.exit, serving.serves, serving.opened, rfl, serving.malloc⟩
      | unblockProc stack =>
          rcases x.context.unblockProc_cases stack with ⟨-, sent⟩ | ⟨-, left⟩
          · refine ⟨sound, serving.exit, serving.serves, ?_, ?_, ?_⟩
            · exact serving.opened.imp_right (congrArg ServerContext.locApiServerMsgqid sent).trans
            · exact (congrArg ServerContext.canOpen sent).trans serving.canOpen
            · exact (congrArg (fun server => server.malloc.isSome) sent).trans serving.malloc
          · exact serving.unseen sound rfl rfl left

theorem Serving.run (serving : Serving x) {inputs : List (HelperInput ServerEvent)}
    (attended : ∀ input ∈ inputs, Attended locApiHandle input) :
    Serving (serverThread.run x inputs) := by
  have kept : ∀ (x : HelperState ServerContext) (input : HelperInput ServerEvent), Serving x →
      Attended locApiHandle input → Serving (serverThread.step x input).1 :=
    fun _ _ serving attended => serving.step attended
  exact Machine.run_induction kept serving attended

end Serve

/-! ## Delivery -/

/-- The messages that a call of `thread_proc` leaves. -/
def leftAfter (left : List DmnMessage)
    (taken : Machine.Step (HelperState ServerContext) (HelperInput ServerEvent) HelperEvent) :
    List DmnMessage :=
  match taken.input, taken.before.main with
  | .child, .proc => if taken.outputs = [] then left else left.tail
  | _, _ => left

/-- The server, beside the messages of some that it has not received yet. -/
def delivering : Machine (HelperState ServerContext × List DmnMessage) (HelperInput ServerEvent)
    HelperEvent :=
  serverThread.monitored leftAfter

/-- How far a server is from having received them. -/
def deliveryRank (state : HelperState ServerContext × List DmnMessage) : ℕ :=
  2 * state.2.length + state.1.main.serveRank

/-- A server that goes on, with messages in front of the pipe. Once it has received them, it has
posted what it is told. -/
structure Delivering (locApiHandle : Bool) (told : List IfMessage)
    (state : HelperState ServerContext × List DmnMessage) : Prop where
  serving : Serving state.1
  signalled : state.1.main.signalled = true
  account : ∃ later sent, PipeAccount locApiHandle (state.2 ++ later) sent state.1.context
  told : told <+: state.1.context.posted ++ state.2.flatMap (DmnMessage.posts locApiHandle)

section Delivery

variable {locApiHandle : Bool} {told : List IfMessage} {x : HelperState ServerContext}
  {left : List DmnMessage}

theorem leftAfter_proc (here : x.main = .proc) :
    leftAfter left (serverThread.stepOn x .child) =
      if (x.thelperMain locApiServer).2 = [] then left else left.tail := by
  simp only [leftAfter, Machine.stepOn, here]
  rfl

theorem leftAfter_of_ne (elsewhere : x.main ≠ .proc) :
    leftAfter left (serverThread.stepOn x .child) = left := by
  unfold leftAfter
  split
  · next here => exact absurd here elsewhere
  · rfl

theorem signalled_of_early {place : MainPlace} (early : place.early = true) :
    place.signalled = false := by
  cases place <;> first | rfl | cases early

/-- A step of another thread, or of the environment. -/
theorem Delivering.other (delivering : Delivering locApiHandle told (x, left))
    {input : HelperInput ServerEvent} (attended : Attended locApiHandle input)
    (other : input ≠ .child) :
    Delivering locApiHandle told ((serverThread.step x input).1, left) ∧
      (serverThread.step x input).1.main = x.main := by
  have main : (serverThread.step x input).1.main = x.main := by
    cases input with
    | create created =>
        have signalled : x.main.signalled = true := delivering.signalled
        simp only [serverThread, threadHelper, HelperState.createThread]
        split
        · next here =>
            rw [delivering.serving.sound.absent.mpr (Or.inl here)] at signalled
            cases signalled
        · rfl
    | launcher => exact (launchThelper_child x).1
    | child => exact absurd rfl other
    | spurious | unblock | environment => rfl
    | join => exact (joinThelper_child x).2.1
  obtain ⟨later, sent, accounts⟩ := delivering.account
  have account : ∃ later sent,
      PipeAccount locApiHandle (left ++ later) sent (serverThread.step x input).1.context ∧
        (serverThread.step x input).1.context.posted = x.context.posted := by
    rcases step_context locApiServer ServerContext.change x input with
      ⟨same, -⟩ | ⟨child, -⟩ | ⟨event, rfl, changed⟩
    · exact ⟨later, sent, (congrArg (PipeAccount locApiHandle _ _) same).mpr accounts,
        congrArg ServerContext.posted same⟩
    · exact absurd child other
    · obtain ⟨more, kept, posted, -⟩ := accounts.change attended.sendsComplete
      rw [List.append_assoc] at kept
      exact ⟨later ++ more, _, (congrArg (PipeAccount locApiHandle _ _) changed).mpr kept,
        (congrArg ServerContext.posted changed).trans posted⟩
  obtain ⟨later, sent, accounts, posted⟩ := account
  refine ⟨⟨delivering.serving.step attended, ?_, ⟨later, sent, accounts⟩, ?_⟩, main⟩
  · exact (congrArg MainPlace.signalled main).trans delivering.signalled
  · rw [posted]
    exact delivering.told

/-- A step of the child. -/
theorem Delivering.child (good : Delivering locApiHandle told (x, left)) :
    Delivering locApiHandle told (delivering.step (x, left) .child).1 ∧
      (left = [] → (delivering.step (x, left) .child).1.2 = []) ∧
        (left ≠ [] → deliveryRank (delivering.step (x, left) .child).1 <
          deliveryRank (x, left)) := by
  have serving : Serving (x.thelperMain locApiServer).1 := good.serving.child
  have signalled : (x.thelperMain locApiServer).1.main.signalled = true :=
    thelperMain_signalled locApiServer good.signalled
  have waits : x.main ≠ .proc → (x.thelperMain locApiServer).1.context = x.context →
      (x.thelperMain locApiServer).1.main.serveRank < x.main.serveRank →
        Delivering locApiHandle told (delivering.step (x, left) .child).1 ∧
          (left = [] → (delivering.step (x, left) .child).1.2 = []) ∧
            (left ≠ [] → deliveryRank (delivering.step (x, left) .child).1 <
              deliveryRank (x, left)) := by
    intro elsewhere context closer
    have same : (delivering.step (x, left) .child).1 = ((x.thelperMain locApiServer).1, left) :=
      Prod.ext rfl (leftAfter_of_ne elsewhere)
    rw [same]
    refine ⟨⟨serving, signalled, ?_, ?_⟩, id, fun _ => Nat.add_lt_add_left closer _⟩
    · obtain ⟨later, sent, accounts⟩ := good.account
      exact ⟨later, sent, (congrArg (PipeAccount locApiHandle _ _) context).mpr accounts⟩
    · exact (congrArg (fun server => told <+: server.posted ++ _) context).mpr good.told
  have serves : x.main.serves = true := good.serving.serves
  have before : x.main.signalled = true := good.signalled
  have exit : x.thelper.threadExit = false := good.serving.exit
  cases here : x.main with
  | absent | procInit | initFailed | readyLock | readySignal =>
      rw [here] at before
      cases before
  | preFailed | procFailed | procPost | returned =>
      rw [here] at serves
      cases serves
  | readyUnlock failed =>
      cases failed with
      | true =>
          rw [here] at serves
          cases serves
      | false =>
          refine waits (by simp [here]) ?_ ?_ <;> simp only [HelperState.thelperMain, here]
          · rfl
          · exact show 1 < 2 by decide
  | procPre =>
      refine waits (by simp [here]) ?_ ?_ <;> simp only [HelperState.thelperMain, here]
      · rfl
      · exact show 0 < 1 by decide
  | test =>
      refine waits (by simp [here]) ?_ ?_ <;>
        simp only [HelperState.thelperMain, here, exit, Bool.false_eq_true, if_false]
      exact show 0 < 1 by decide
  | proc =>
      have opened : x.context.locApiServerMsgqid = .opened := by
        refine good.serving.opened.resolve_left fun early => ?_
        rw [signalled_of_early early] at before
        cases before
      have memory : x.context.malloc ≠ none := Option.isSome_iff_ne_none.mp good.serving.malloc
      obtain ⟨later, sent, accounts⟩ := good.account
      rcases accounts.proc_cases with ⟨blocked, empty⟩ | ⟨nothing, -⟩ |
        ⟨message, rest, after, front, called, kept, posted⟩
      · have stays : (x.thelperMain locApiServer) = (x, []) := by
          simp only [HelperState.thelperMain, here, HelperState.callProc, locApiServer, blocked]
        have same : (delivering.step (x, left) .child).1 = (x, left) := by
          show ((x.thelperMain locApiServer).1, leftAfter left _) = _
          rw [leftAfter_proc here, stays, if_pos rfl]
        rw [same]
        exact ⟨good, id, fun some_ => absurd (List.append_eq_nil_iff.mp empty).1 some_⟩
      · exact absurd nothing (by simp [memory, opened])
      · have moves : (x.thelperMain locApiServer) =
            ({ x with context := after, main := .test }, [.called .proc 0]) := by
          simp only [HelperState.thelperMain, here, HelperState.callProc, locApiServer, called]
          rfl
        have next : (delivering.step (x, left) .child).1 =
            ({ x with context := after, main := .test }, left.tail) := by
          show ((x.thelperMain locApiServer).1, leftAfter left _) = _
          rw [leftAfter_proc here, moves, if_neg (List.cons_ne_nil _ _)]
        rw [moves] at serving
        rw [next]
        have grown : told <+: x.context.posted ++
            left.flatMap (DmnMessage.posts locApiHandle) := good.told
        cases left with
        | nil =>
            refine ⟨⟨serving, rfl, ⟨rest, sent, kept⟩, ?_⟩, fun _ => rfl, fun some_ => ?_⟩
            · rw [List.flatMap_nil, List.append_nil] at grown
              rw [posted]
              exact (grown.trans (List.prefix_append _ _)).trans (List.prefix_append _ _)
            · exact absurd rfl some_
        | cons first others =>
            obtain ⟨rfl, rfl⟩ := List.cons.inj front
            refine ⟨⟨serving, rfl, ⟨later, sent, kept⟩, ?_⟩,
              fun none_ => absurd none_ (List.cons_ne_nil _ _), fun _ => ?_⟩
            · rw [posted]
              rwa [List.flatMap_cons, ← List.append_assoc] at grown
            · simp only [deliveryRank, here, MainPlace.serveRank, List.tail_cons, List.length_cons]
              omega

theorem delivering_step_other {input : HelperInput ServerEvent} (other : input ≠ .child) :
    (delivering.step (x, left) input).1 = ((serverThread.step x input).1, left) := by
  refine Prod.ext rfl ?_
  show leftAfter left (serverThread.stepOn x input) = left
  unfold leftAfter
  split
  · next here _ => exact absurd here other
  · rfl

/-- The child comes closer to having received the messages, and the others do not delay it. -/
theorem delivering_advances (locApiHandle : Bool) (told : List IfMessage) :
    delivering.Advances (Delivering locApiHandle told) (fun state => state.2 = []) deliveryRank
      (fun _ input => input = .child) (Attended locApiHandle) where
  kept := by
    rintro ⟨x, left⟩ input good attended
    by_cases other : input = .child
    · exact other ▸ good.child.1
    · rw [delivering_step_other other]
      exact (good.other attended other).1
  stays := by
    rintro ⟨x, left⟩ input good attended received
    by_cases other : input = .child
    · exact other ▸ good.child.2.1 received
    · rw [delivering_step_other other]
      exact received
  helps := by
    rintro ⟨x, left⟩ input good - rfl
    by_cases received : left = []
    · exact Or.inl (good.child.2.1 received)
    · exact Or.inr (good.child.2.2 received)
  harmless := by
    rintro ⟨x, left⟩ input good attended
    by_cases other : input = .child
    · subst other
      by_cases received : left = []
      · exact Or.inl (good.child.2.1 received)
      · exact Or.inr (Or.inl (good.child.2.2 received))
    · rw [delivering_step_other other]
      refine Or.inr (Or.inr ⟨?_, fun _ helping => helping⟩)
      exact congrArg (fun place => 2 * left.length + MainPlace.serveRank place)
        (good.other attended other).2

/-- Whole messages have four bytes at least. -/
theorem length_le_bytes (messages : List DmnMessage) :
    4 * messages.length ≤ (messages.flatMap DmnMessage.bytes).length := by
  induction messages with
  | nil => exact Nat.le_refl 0
  | cons message rest ih =>
      have header := message.header
      rw [List.flatMap_cons, List.length_append, message.length_bytes, List.length_cons]
      omega

/-- **A server that has been launched with 0 posts whatever it has been sent**, after more rounds
with a step of the child than two for each message that may be in the pipe, and two more. Where
the child was and what the clients send in between does not matter. -/
theorem requests_delivered (locApiHandle : Bool) (fill : ℕ → UInt8)
    {earlier : List (HelperInput ServerEvent)} {rounds : List (List (HelperInput ServerEvent))}
    (quiet : ∀ input ∈ earlier, input ≠ .spurious)
    (attended : ∀ input ∈ earlier ++ rounds.flatten, Attended locApiHandle input)
    (reached : serverThread.run (.start (.start locApiHandle true (some fill))) earlier = x)
    (launched : x.launcher = .launched 0) (fair : ∀ round ∈ rounds, .child ∈ round)
    (enough : x.context.pipe.length / 2 + 2 < rounds.length) :
    (earlier.flatMap clientMessage).flatMap (DmnMessage.posts locApiHandle) <+:
      (serverThread.run x rounds.flatten).context.posted := by
  simp only [List.mem_append, or_imp, forall_and] at attended
  obtain ⟨attendedEarlier, attendedLater⟩ := attended
  have serving : Serving x := reached ▸ (Serving.start locApiHandle fill).run attendedEarlier
  have signalled : x.main.signalled = true := by
    have waited : Waited x := reached ▸ run_waited locApiServer ServerContext.change _ quiet
    unfold Waited at waited
    rw [launched] at waited
    exact waited rfl
  obtain ⟨waiting, accounts⟩ := (PipeAccount.start locApiHandle true (some fill)).run
    fun input member => (attendedEarlier input member).sendsComplete
  have here : PipeAccount locApiHandle waiting (earlier.flatMap clientMessage) x.context :=
    reached ▸ accounts
  have good : Delivering locApiHandle ((earlier.flatMap clientMessage).flatMap
      (DmnMessage.posts locApiHandle)) (x, waiting) := by
    refine ⟨serving, signalled, ⟨[], earlier.flatMap clientMessage, ?_⟩, ?_⟩
    · rw [List.append_nil]
      exact here
    · simp only [here.posted, List.prefix_refl]
  have few : deliveryRank (x, waiting) < rounds.length := by
    have bytes := length_le_bytes waiting
    have place : x.main.serveRank ≤ 2 := by
      cases x.main <;> simp [MainPlace.serveRank]
    rw [← here.pipe] at bytes
    simp only [deliveryRank]
    omega
  have admissible : ∀ round ∈ rounds, ∀ input ∈ round, Attended locApiHandle input :=
    fun round member input inside =>
      attendedLater input (List.mem_flatten.mpr ⟨round, member, inside⟩)
  have received := (delivering_advances locApiHandle _).run_reaches good admissible
    (fun round member _ _ _ => ⟨.child, fair round member, rfl⟩) few
  have still := Machine.run_induction (delivering_advances locApiHandle _).kept good
    (fun input member => attendedLater input member)
  have told := still.told
  rw [received, List.flatMap_nil, List.append_nil] at told
  rwa [delivering, Machine.monitored_run_fst] at told

theorem requests_delivered_releaseBit :
    ([HelperInput.create true, .launcher, .launcher, .child, .child, .child, .child, .launcher,
          .launcher, .launcher, .environment (.send releaseBitMessage)].flatMap
        clientMessage).flatMap (DmnMessage.posts true) <+:
      (serverThread.run (serverThread.run (.start (.start true true (some fun _ => 0)))
          [.create true, .launcher, .launcher, .child, .child, .child, .child, .launcher,
            .launcher, .launcher, .environment (.send releaseBitMessage)])
        (List.replicate 25 [HelperInput.child]).flatten).context.posted :=
  requests_delivered true (fun _ => 0) (by simp)
    (fun input member => by
      rcases List.mem_append.mp member with early | late
      · revert input
        simpa [Attended] using releaseBitMessage_complete
      · obtain ⟨round, among, inside⟩ := List.mem_flatten.mp late
        obtain rfl := List.eq_of_mem_replicate among
        obtain rfl := List.mem_singleton.mp inside
        trivial)
    rfl rfl
    (fun round among => by
      obtain rfl := List.eq_of_mem_replicate among
      exact List.mem_singleton.mpr rfl)
    (by decide)

end Delivery

end Msm8660.Gps
