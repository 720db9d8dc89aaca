import Msm8660.Gps.DmnConn
import Msm8660.Gps.ThreadHelperLaunch

/-!
# The server of the daemon

The functions of `loc_eng_dmn_conn.cpp` that the helper thread runs: it opens the pipes,
receives messages until `thread_exit` is set, and removes the pipes. As the thread may block in
`read`, `loc_eng_dmn_conn_loc_api_server_unblock` sets `thread_exit` first and then sends a
message to the server itself.

That ends the thread (`server_shutdown`) if the pipe was open when the message was sent, and so
whenever `loc_eng_dmn_conn_loc_api_server_launch` has returned 0 after a proper wait. Before the
pipe is open the message is lost, and the thread waits for a client (`unblock_lost`).
-/

set_option autoImplicit false

namespace Msm8660.Gps

/-! ## The functions of the thread -/

/-- `GPSONE_UNBLOCK`. -/
def gpsoneUnblock : UInt8 := 0xF3

/-- What `loc_api_server_msgqid` stands for: nothing yet, the pipe, a pipe that could not be
opened, or one that has been closed. -/
inductive MsgqId where
  | unset
  | opened
  | failed
  | closed
deriving DecidableEq, Repr

/-- What the server works on. Whether the pipe can be opened, and what `malloc` returns next, is
up to the environment. -/
structure ServerContext where
  locApiServerMsgqid : MsgqId
  pipe : Pipe
  locApiHandle : Bool
  posted : List IfMessage
  canOpen : Bool
  malloc : Option (ℕ → UInt8)

namespace ServerContext

variable (server : ServerContext)

/-- `loc_api_server_proc_init`, for the pipe of the requests. -/
def locApiServerProcInit : Option (ℤ × ServerContext) :=
  some (0, { server with locApiServerMsgqid := if server.canOpen then .opened else .failed })

/-- `loc_api_server_proc_pre`. -/
def locApiServerProcPre : Option (ℤ × ServerContext) := some (0, server)

/-- `loc_eng_dmn_conn_glue_msgrcv` from `loc_api_server_msgqid`. A read from no pipe fails. -/
def receive (pCmsgbuf : ℕ → UInt8) : Option (ℤ × (ℕ → UInt8) × Pipe) :=
  match server.locApiServerMsgqid with
  | .opened => locEngDmnConnGlueMsgrcv server.pipe pCmsgbuf (sizeofCtrlMsgbuf + 256)
  | _ => some (-1, pCmsgbuf, server.pipe)

/-- `loc_api_server_proc`. -/
def locApiServerProc : Option (ℤ × ServerContext) :=
  match server.malloc with
  | none => some (-1, server)
  | some pCmsgbuf =>
      (server.receive pCmsgbuf).map fun (length, pCmsgbuf, pipe) =>
      if length ≤ 0 then (0, { server with pipe := pipe })
      else (0, { server with
        pipe := pipe
        posted := server.posted ++ (dispatch server.locApiHandle pCmsgbuf length).toList })

/-- `loc_api_server_proc_post`, for the pipe of the requests. -/
def locApiServerProcPost : Option (ℤ × ServerContext) :=
  some (0, { server with locApiServerMsgqid :=
    match server.locApiServerMsgqid with
    | .opened => .closed
    | id => id })

end ServerContext

/-- What `loc_eng_dmn_conn_loc_api_server_launch` gives to the helper. -/
def locApiServer : ThreadProcs ServerContext
  | .init => some ServerContext.locApiServerProcInit
  | .pre => some ServerContext.locApiServerProcPre
  | .proc => some ServerContext.locApiServerProc
  | .post => some ServerContext.locApiServerProcPost

/-- What happens around the server. -/
inductive ServerEvent where
  /-- A client sends a message. -/
  | send (message : DmnMessage)
  /-- `loc_eng_dmn_conn_unblock_proc`, with what is on the stack. -/
  | unblockProc (stack : ℕ → UInt8)
  | malloc (buffer : Option (ℕ → UInt8))
  | canOpen (can : Bool)

theorem four_le_sizeofCtrlMsgbuf : 4 ≤ sizeofCtrlMsgbuf := by decide

theorem sizeofCtrlMsgbuf_isSize : sizeofCtrlMsgbuf < 4294967296 := by decide

/-- The message of `loc_eng_dmn_conn_unblock_proc`. -/
def unblockMessage (stack : ℕ → UInt8) : DmnMessage where
  msgp := overwrite stack 12 [gpsoneUnblock]
  msgsz := sizeofCtrlMsgbuf
  header := four_le_sizeofCtrlMsgbuf
  isSize := sizeofCtrlMsgbuf_isSize

namespace ServerContext

/-- `loc_eng_dmn_conn_unblock_proc`. -/
def locEngDmnConnUnblockProc (server : ServerContext) (stack : ℕ → UInt8) : ServerContext :=
  match server.locApiServerMsgqid with
  | .opened =>
      let cmsgbuf := unblockMessage stack
      { server with
        pipe := (locEngDmnConnGlueMsgsnd server.pipe cmsgbuf.msgp cmsgbuf.msgsz).2 }
  | _ => server

def change (server : ServerContext) : ServerEvent → ServerContext
  | .send message =>
      { server with
        pipe := (locEngDmnConnGlueMsgsnd server.pipe message.msgp message.msgsz).2 }
  | .unblockProc stack => server.locEngDmnConnUnblockProc stack
  | .malloc buffer => { server with malloc := buffer }
  | .canOpen can => { server with canOpen := can }

/-- Before the server is launched. -/
def start (locApiHandle canOpen : Bool) (malloc : Option (ℕ → UInt8)) : ServerContext :=
  ⟨.unset, [], locApiHandle, [], canOpen, malloc⟩

end ServerContext

/-- The server and what surrounds it. -/
def serverThread : Machine (HelperState ServerContext) (HelperInput ServerEvent) HelperEvent :=
  threadHelper locApiServer ServerContext.change

/-! ## The pipe -/

/-- What has been sent and not received is whole messages that fit. -/
def WholeMessages (pipe : Pipe) : Prop :=
  ∃ messages : List DmnMessage, (∀ message ∈ messages, message.msgsz ≤ sizeofCtrlMsgbuf + 256) ∧
    pipe = messages.flatMap DmnMessage.bytes

theorem WholeMessages.send {pipe : Pipe} (inStep : WholeMessages pipe) {message : DmnMessage}
    (fits : message.msgsz ≤ sizeofCtrlMsgbuf + 256) : WholeMessages (pipe ++ message.bytes) := by
  obtain ⟨messages, fit, rfl⟩ := inStep
  refine ⟨messages ++ [message], ?_, ?_⟩
  · simpa [or_imp, forall_and] using ⟨fit, fits⟩
  · simp

theorem append_bytes_ne_nil (pipe : Pipe) (message : DmnMessage) : pipe ++ message.bytes ≠ [] := by
  intro empty
  have length := message.length_bytes
  rw [(List.append_eq_nil_iff.mp empty).2] at length
  have header := message.header
  simp only [List.length_nil] at length
  omega

/-- A pipe that is in step and not empty does not block, and stays in step. -/
theorem WholeMessages.receive {pipe : Pipe} (inStep : WholeMessages pipe) (pCmsgbuf : ℕ → UInt8) :
    (pipe = [] ∧ locEngDmnConnGlueMsgrcv pipe pCmsgbuf (sizeofCtrlMsgbuf + 256) = none) ∨
      ∃ length buffer later, WholeMessages later ∧
        locEngDmnConnGlueMsgrcv pipe pCmsgbuf (sizeofCtrlMsgbuf + 256) =
          some (length, buffer, later) := by
  obtain ⟨messages, fit, rfl⟩ := inStep
  cases messages with
  | nil => exact Or.inl ⟨rfl, rfl⟩
  | cons message rest =>
      obtain ⟨fits, others⟩ := List.forall_mem_cons.mp fit
      have isInt : message.msgsz < 2147483648 :=
        Nat.lt_of_le_of_lt fits (by decide)
      obtain ⟨taken, called, later⟩ :=
        intake_of_frame (frame_fits fits isInt (rest.flatMap DmnMessage.bytes))
      refine Or.inr ⟨(message.reply (sizeofCtrlMsgbuf + 256)).1,
        overwrite pCmsgbuf 0 ((message.bytes ++ rest.flatMap DmnMessage.bytes).take taken),
        rest.flatMap DmnMessage.bytes, ⟨rest, others, rfl⟩, ?_⟩
      rw [msgrcv_eq, List.flatMap_cons, called, Option.map_some, ← later]

namespace ServerContext

variable {server : ServerContext}

/-- `loc_api_server_proc` blocks only on an empty pipe. -/
theorem locApiServerProc_cases (inStep : WholeMessages server.pipe) :
    (server.locApiServerProc = none ∧ server.locApiServerMsgqid = .opened ∧ server.pipe = []) ∨
      ∃ result later, server.locApiServerProc = some (result, later) ∧ WholeMessages later.pipe ∧
        later.locApiServerMsgqid = server.locApiServerMsgqid := by
  unfold locApiServerProc receive
  cases server.malloc with
  | none => exact Or.inr ⟨-1, server, rfl, inStep, rfl⟩
  | some pCmsgbuf =>
      cases id : server.locApiServerMsgqid with
      | opened =>
          rcases inStep.receive pCmsgbuf with ⟨empty, blocked⟩ | ⟨length, buffer, rest, still, got⟩
          · exact Or.inl ⟨by simp only [blocked, Option.map_none], rfl, empty⟩
          · right
            simp only [got, Option.map_some]
            split
            · exact ⟨_, _, rfl, still, rfl⟩
            · exact ⟨_, _, rfl, still, rfl⟩
      | unset | failed | closed => exact Or.inr ⟨0, _, rfl, inStep, rfl⟩

/-- The message of `loc_eng_dmn_conn_unblock_proc` is sent, or there is no pipe for it. -/
theorem unblockProc_cases (server : ServerContext) (stack : ℕ → UInt8) :
    (server.locApiServerMsgqid = .opened ∧ server.change (.unblockProc stack) =
        { server with pipe := server.pipe ++ (unblockMessage stack).bytes }) ∨
      server.locApiServerMsgqid ≠ .opened ∧ server.change (.unblockProc stack) = server := by
  show (server.locApiServerMsgqid = .opened ∧ server.locEngDmnConnUnblockProc stack = _) ∨
    server.locApiServerMsgqid ≠ .opened ∧ server.locEngDmnConnUnblockProc stack = server
  unfold locEngDmnConnUnblockProc
  split
  · next opened => exact Or.inl ⟨opened, rfl⟩
  · next other => exact Or.inr ⟨other, rfl⟩

/-- With a pipe and a buffer it posts what `dispatch` makes of the message. -/
theorem locApiServerProc_posts (opened : server.locApiServerMsgqid = .opened)
    {pCmsgbuf : ℕ → UInt8} (allocated : server.malloc = some pCmsgbuf) :
    server.locApiServerProc.map (fun done => done.2.posted) =
      (Gps.locApiServerProc server.locApiHandle pCmsgbuf server.pipe).map fun message =>
        server.posted ++ message.toList := by
  unfold ServerContext.locApiServerProc receive Gps.locApiServerProc
  simp only [opened, allocated, Option.map_map]
  congr 1
  funext received
  simp only [Function.comp_apply]
  split
  · exact (List.append_nil _).symm
  · rfl

end ServerContext

/-! ## The end of the thread -/

/-- How far the child is from its end when `thread_exit` is set. -/
def MainPlace.stopRank : MainPlace → ℕ
  | .returned => 0
  | .preFailed | .procPost => 1
  | .test => 2
  | .procFailed => 3
  | .proc => 4
  | .procPre => 5
  | _ => 6

/-- How far the launching thread is from the end of `loc_eng_dmn_conn_join_thelper`. -/
def LauncherPlace.joinRank : LauncherPlace → ℕ
  | .joined => 0
  | .destroy => 1
  | _ => 2

/-- The server has been launched and unblocked. As long as the child may come to `thread_proc`,
there is a message for it. -/
structure Stopping (x : HelperState ServerContext) : Prop where
  sound : HelperSound x
  exit : x.thelper.threadExit = true
  back : x.launcher.rank = 0
  signalled : x.main.signalled = true
  inStep : WholeMessages x.context.pipe
  awake : 4 ≤ x.main.stopRank → x.context.locApiServerMsgqid = .opened → x.context.pipe ≠ []

/-- The server is waited for. -/
structure Joining (x : HelperState ServerContext) : Prop where
  stopping : Stopping x
  joins : x.launcher = .joining ∨ x.launcher = .destroy ∨ x.launcher = .joined

/-- The distance of both threads. -/
def HelperState.stopRank (x : HelperState ServerContext) : ℕ :=
  x.main.stopRank + x.launcher.joinRank

/-- The child has to take the next step, and then the launching thread. -/
def HelperState.HelpsStop (x : HelperState ServerContext) (input : HelperInput ServerEvent) :
    Prop :=
  if x.main = .returned then input = .launcher else input = .child

/-- The messages of the clients fit. -/
def Fits : HelperInput ServerEvent → Prop
  | .environment (.send message) => message.msgsz ≤ sizeofCtrlMsgbuf + 256
  | _ => True

theorem launchThelper_context (x : HelperState ServerContext) :
    x.launchThelper.1.context = x.context := by
  rcases step_context locApiServer ServerContext.change x .launcher with
    ⟨same, -⟩ | ⟨child, -⟩ | ⟨event, other, -⟩
  · exact same
  · cases child
  · cases other

namespace Stopping

variable {x : HelperState ServerContext}

/-- A step of the child: it comes closer to its end. -/
theorem child_cases (stopping : Stopping x) :
    (x.main = .returned ∧ (x.thelperMain locApiServer).1 = x) ∨
      (x.thelperMain locApiServer).1.main.stopRank < x.main.stopRank ∧
        WholeMessages (x.thelperMain locApiServer).1.context.pipe ∧
          (4 ≤ (x.thelperMain locApiServer).1.main.stopRank →
            (x.thelperMain locApiServer).1.context = x.context) := by
  have signalled := stopping.signalled
  have exit := stopping.exit
  have inStep := stopping.inStep
  unfold HelperState.thelperMain
  cases here : x.main with
  | absent | procInit | initFailed | readyLock | readySignal =>
      rw [here] at signalled
      cases signalled
  | returned => exact Or.inl ⟨rfl, rfl⟩
  | readyUnlock failed =>
      refine Or.inr ⟨?_, inStep, fun _ => rfl⟩
      cases failed
      · exact show 5 < 6 by decide
      · exact show 0 < 6 by decide
  | procPre => exact Or.inr ⟨show 4 < 5 by decide, inStep, fun _ => rfl⟩
  | preFailed => exact Or.inr ⟨show 0 < 1 by decide, inStep, fun _ => rfl⟩
  | procFailed => exact Or.inr ⟨show 2 < 3 by decide, inStep, fun _ => rfl⟩
  | procPost =>
      exact Or.inr ⟨show 0 < 1 by decide, inStep, fun far => absurd far (show ¬ 4 ≤ 0 by decide)⟩
  | test =>
      refine Or.inr ⟨?_, inStep, fun _ => rfl⟩
      rw [exit]
      exact show 1 < 2 by decide
  | proc =>
      right
      have awake := stopping.awake (by rw [here]; decide)
      rcases ServerContext.locApiServerProc_cases inStep with
        ⟨-, opened, empty⟩ | ⟨result, later, called, still, -⟩
      · exact absurd empty (awake opened)
      · simp only [HelperState.callProc, locApiServer, called]
        split
        · exact ⟨show 3 < 4 by decide, still, fun far => absurd far (by decide)⟩
        · exact ⟨show 2 < 4 by decide, still, fun far => absurd far (by decide)⟩

/-- A step of the child leaves the launching thread where it is. -/
theorem child_launcher (stopping : Stopping x) :
    (x.thelperMain locApiServer).1.launcher = x.launcher := by
  rcases thelperMain_launcher locApiServer x with same | ⟨waiting, -⟩
  · exact same
  · have back := stopping.back
    rw [waiting] at back
    cases back

theorem child (stopping : Stopping x) : Stopping (x.thelperMain locApiServer).1 where
  sound := stopping.sound.thelperMain locApiServer
  exit := thelperMain_exit stopping.exit
  back := by
    rw [stopping.child_launcher]
    exact stopping.back
  signalled := thelperMain_signalled locApiServer stopping.signalled
  inStep := by
    rcases stopping.child_cases with ⟨-, same⟩ | ⟨-, still, -⟩
    · rw [same]
      exact stopping.inStep
    · exact still
  awake := by
    rcases stopping.child_cases with ⟨-, same⟩ | ⟨closer, -, same⟩
    · rw [same]
      exact stopping.awake
    · intro far opened
      rw [same far] at opened ⊢
      exact stopping.awake (by omega) opened

theorem created (stopping : Stopping x) : Created x := by
  refine ⟨stopping.sound, fun early => ?_⟩
  have back := stopping.back
  rw [early] at back
  cases back

/-- A step that changes nothing that the child sees. -/
theorem unseen (stopping : Stopping x) {y : HelperState ServerContext} (sound : HelperSound y)
    (back : y.launcher.rank = 0) (exit : y.thelper.threadExit = x.thelper.threadExit)
    (main : y.main = x.main) (context : y.context = x.context) : Stopping y := by
  refine ⟨sound, exit.trans stopping.exit, back, ?_, ?_, ?_⟩
  · rw [main]
    exact stopping.signalled
  · rw [context]
    exact stopping.inStep
  · rw [main, context]
    exact stopping.awake

/-- An event leaves the pipe in step, and takes nothing from it. -/
theorem event (stopping : Stopping x) {event : ServerEvent} (fits : Fits (.environment event)) :
    Stopping { x with context := x.context.change event } := by
  have sent : ∀ message : DmnMessage, message.msgsz ≤ sizeofCtrlMsgbuf + 256 →
      WholeMessages (x.context.pipe ++ message.bytes) ∧ x.context.pipe ++ message.bytes ≠ [] :=
    fun message small => ⟨stopping.inStep.send small, append_bytes_ne_nil _ _⟩
  have sound : HelperSound { x with context := x.context.change event } :=
    stopping.sound.step locApiServer ServerContext.change (.environment event)
  cases event with
  | send message =>
      obtain ⟨inStep, filled⟩ := sent message fits
      exact ⟨sound, stopping.exit, stopping.back, stopping.signalled, inStep, fun _ _ => filled⟩
  | unblockProc stack =>
      rcases x.context.unblockProc_cases stack with ⟨-, same⟩ | ⟨-, same⟩
      · obtain ⟨inStep, filled⟩ := sent (unblockMessage stack) (show 112 ≤ 368 by decide)
        rw [same] at sound ⊢
        exact ⟨sound, stopping.exit, stopping.back, stopping.signalled, inStep, fun _ _ => filled⟩
      · rw [same]
        exact stopping
  | malloc buffer =>
      exact ⟨sound, stopping.exit, stopping.back, stopping.signalled, stopping.inStep,
        stopping.awake⟩
  | canOpen can =>
      exact ⟨sound, stopping.exit, stopping.back, stopping.signalled, stopping.inStep,
        stopping.awake⟩

theorem step (stopping : Stopping x) {input : HelperInput ServerEvent} (fits : Fits input) :
    Stopping (serverThread.step x input).1 := by
  have sound := stopping.sound.step locApiServer ServerContext.change input
  have back := (@Created.step _ _ locApiServer _ ServerContext.change stopping.created input).2
    stopping.back
  cases input with
  | create created =>
      have same : (x.createThread created).1 = x := by
        unfold HelperState.createThread
        split
        · next here => exact absurd here stopping.created.2
        · rfl
      exact stopping.unseen sound back
        (congrArg (fun y : HelperState ServerContext => y.thelper.threadExit) same)
        (congrArg HelperState.main same) (congrArg HelperState.context same)
  | launcher =>
      obtain ⟨main, exit, -⟩ := launchThelper_child x
      exact stopping.unseen sound back exit main (launchThelper_context x)
  | child => exact stopping.child
  | spurious => exact stopping.unseen sound back rfl rfl rfl
  | unblock => exact stopping.unseen sound back stopping.exit.symm rfl rfl
  | join =>
      obtain ⟨thelper, main, context⟩ := joinThelper_child x
      exact stopping.unseen sound back (congrArg Thelper.threadExit thelper) main context
  | environment event => exact stopping.event fits

end Stopping

namespace Joining

variable {x : HelperState ServerContext}

/-- A step of the launching thread: it waits for the child, or it comes closer to its end. -/
theorem launcher_cases (joining : Joining x) :
    (x.launchThelper.1.launcher = .joining ∨ x.launchThelper.1.launcher = .destroy ∨
        x.launchThelper.1.launcher = .joined) ∧ x.launchThelper.1.main = x.main ∧
      x.launchThelper.1.context = x.context ∧ x.launchThelper.1.thelper.threadExit = true ∧
      (x.launchThelper.1.launcher = x.launcher ∧ (x.main = .returned → x.launcher = .joined) ∨
        x.launchThelper.1.launcher.joinRank < x.launcher.joinRank) := by
  rcases joining.joins with here | here | here
  · have stepped : x.launchThelper.1 =
        { x with launcher := if x.main = .returned then .destroy else .joining } := by
      simp only [HelperState.launchThelper, here]
    rw [stepped, here]
    refine ⟨?_, rfl, rfl, joining.stopping.exit, ?_⟩
    · by_cases returned : x.main = .returned
      · exact Or.inr (Or.inl (if_pos returned))
      · exact Or.inl (if_neg returned)
    · by_cases returned : x.main = .returned
      · right
        simp only [if_pos returned]
        decide
      · exact Or.inl ⟨if_neg returned, fun returned' => absurd returned' returned⟩
  · have stepped : x.launchThelper.1 =
        { x with thelper := { x.thelper with usable := false }, launcher := .joined } := by
      simp only [HelperState.launchThelper, here]
    rw [stepped, here]
    exact ⟨Or.inr (Or.inr rfl), rfl, rfl, joining.stopping.exit, Or.inr (show 0 < 1 by decide)⟩
  · have stepped : x.launchThelper.1 = x := by simp only [HelperState.launchThelper, here]
    rw [stepped, here]
    exact ⟨Or.inr (Or.inr rfl), rfl, rfl, joining.stopping.exit, Or.inl ⟨rfl, fun _ => rfl⟩⟩

theorem rank_le (joining : Joining x) : x.stopRank ≤ 8 := by
  have main : x.main.stopRank ≤ 6 := by
    cases x.main <;> first | exact Nat.le_refl 6 | (unfold MainPlace.stopRank; decide)
  have launcher : x.launcher.joinRank ≤ 2 := by
    rcases joining.joins with here | here | here <;> rw [here] <;> decide
  exact Nat.add_le_add main launcher

/-- Nothing else is to be done. -/
theorem idle (joining : Joining x) :
    (∀ created, (x.createThread created).1 = x) ∧ x.wakeSpuriously = x ∧ x.joinThelper = x := by
  obtain ⟨thelper, launcher, main, context⟩ := x
  rcases joining.joins with here | here | here <;> simp only at here <;> subst here <;>
    exact ⟨fun _ => rfl, rfl, rfl⟩

theorem step (joining : Joining x) {input : HelperInput ServerEvent} (fits : Fits input) :
    Joining (serverThread.step x input).1 := by
  refine ⟨joining.stopping.step fits, ?_⟩
  have same : ∀ y : HelperState ServerContext, y.launcher = x.launcher →
      y.launcher = .joining ∨ y.launcher = .destroy ∨ y.launcher = .joined := by
    intro y launcher
    rw [launcher]
    exact joining.joins
  cases input with
  | launcher => exact joining.launcher_cases.1
  | child => exact same _ joining.stopping.child_launcher
  | create created => exact same _ (congrArg HelperState.launcher (joining.idle.1 created))
  | spurious => exact same _ (congrArg HelperState.launcher joining.idle.2.1)
  | join => exact same _ (congrArg HelperState.launcher joining.idle.2.2)
  | unblock | environment => exact same _ rfl

/-- Every step brings both threads closer to their ends, or leaves that to the one that can. -/
theorem advances : serverThread.Advances Joining (fun x => x.launcher = .joined)
    HelperState.stopRank HelperState.HelpsStop Fits where
  kept := fun _ _ joining fits => joining.step fits
  stays := by
    intro x input joining _ joined
    cases input with
    | launcher =>
        rcases joining.launcher_cases with ⟨-, -, -, -, ⟨same, -⟩ | closer⟩
        · exact same.trans joined
        · rw [joined] at closer
          exact absurd closer (Nat.not_lt_zero _)
    | child => exact joining.stopping.child_launcher.trans joined
    | create created => exact (congrArg HelperState.launcher (joining.idle.1 created)).trans joined
    | spurious => exact (congrArg HelperState.launcher joining.idle.2.1).trans joined
    | join => exact (congrArg HelperState.launcher joining.idle.2.2).trans joined
    | unblock | environment => exact joined
  helps := by
    intro x input joining _ helping
    unfold HelperState.HelpsStop at helping
    split at helping
    · next returned =>
        subst helping
        obtain ⟨-, main, -, -, ⟨same, ended⟩ | closer⟩ := joining.launcher_cases
        · exact Or.inl (same.trans (ended returned))
        · right
          show x.launchThelper.1.main.stopRank + x.launchThelper.1.launcher.joinRank < _
          rw [main]
          exact Nat.add_lt_add_left closer _
    · next working =>
        subst helping
        rcases joining.stopping.child_cases with ⟨returned, -⟩ | ⟨closer, -, -⟩
        · exact absurd returned working
        · right
          show (x.thelperMain locApiServer).1.main.stopRank +
            (x.thelperMain locApiServer).1.launcher.joinRank < _
          rw [joining.stopping.child_launcher]
          exact Nat.add_lt_add_right closer _
  harmless := by
    intro x input joining _
    have same : ∀ y : HelperState ServerContext, y.launcher = x.launcher → y.main = x.main →
        y.launcher = .joined ∨ y.stopRank < x.stopRank ∨ y.stopRank = x.stopRank ∧
          ∀ later, x.HelpsStop later → y.HelpsStop later := by
      intro y launcher main
      unfold HelperState.stopRank HelperState.HelpsStop
      rw [launcher, main]
      exact Or.inr (Or.inr ⟨rfl, fun _ helping => helping⟩)
    have left : ∀ y : HelperState ServerContext, y = x →
        y.launcher = .joined ∨ y.stopRank < x.stopRank ∨ y.stopRank = x.stopRank ∧
          ∀ later, x.HelpsStop later → y.HelpsStop later :=
      fun y equal => same y (congrArg HelperState.launcher equal) (congrArg HelperState.main equal)
    cases input with
    | create created => exact left _ (joining.idle.1 created)
    | spurious => exact left _ joining.idle.2.1
    | join => exact left _ joining.idle.2.2
    | unblock => exact same _ rfl rfl
    | environment event => exact same _ rfl rfl
    | launcher =>
        obtain ⟨-, main, -, -, ⟨launcher, -⟩ | closer⟩ := joining.launcher_cases
        · exact same _ launcher main
        · refine Or.inr (Or.inl ?_)
          show x.launchThelper.1.main.stopRank + x.launchThelper.1.launcher.joinRank < _
          rw [main]
          exact Nat.add_lt_add_left closer _
    | child =>
        rcases joining.stopping.child_cases with ⟨-, equal⟩ | ⟨closer, -, -⟩
        · exact left _ equal
        · refine Or.inr (Or.inl ?_)
          show (x.thelperMain locApiServer).1.main.stopRank +
            (x.thelperMain locApiServer).1.launcher.joinRank < _
          rw [joining.stopping.child_launcher]
          exact Nat.add_lt_add_right closer _

end Joining

/-! ## From the start -/

/-- A function of the thread takes whole messages. -/
theorem called_wholeMessages {server later : ServerContext} (inStep : WholeMessages server.pipe)
    {which : ThreadProc} {threadProc : ServerContext → Option (ℤ × ServerContext)}
    (found : locApiServer which = some threadProc) {result : ℤ}
    (called : threadProc server = some (result, later)) : WholeMessages later.pipe := by
  cases which with
  | init | pre | post =>
      cases found
      cases called
      exact inStep
  | proc =>
      cases found
      rcases server.locApiServerProc_cases inStep with ⟨blocked, -, -⟩ | ⟨_, _, taken, still, -⟩
      · cases blocked.symm.trans called
      · cases taken.symm.trans called
        exact still

/-- The pipe stays in step as long as the messages of the clients fit. -/
theorem step_wholeMessages {x : HelperState ServerContext} (inStep : WholeMessages x.context.pipe)
    {input : HelperInput ServerEvent} (fits : Fits input) :
    WholeMessages (serverThread.step x input).1.context.pipe := by
  have keeps : ∀ server, (serverThread.step x input).1.context = server →
      WholeMessages server.pipe → WholeMessages (serverThread.step x input).1.context.pipe :=
    fun _ same still => same ▸ still
  rcases step_context locApiServer ServerContext.change x input with
    ⟨same, -⟩ | ⟨-, which, threadProc, result, found, called⟩ | ⟨event, rfl, changed⟩
  · exact keeps _ same inStep
  · exact called_wholeMessages inStep found called
  · refine keeps _ changed ?_
    cases event with
    | send message => exact inStep.send fits
    | malloc | canOpen => exact inStep
    | unblockProc stack =>
        rcases x.context.unblockProc_cases stack with ⟨-, sent⟩ | ⟨-, left⟩
        · rw [sent]
          exact inStep.send (show 112 ≤ 368 by decide)
        · rw [left]
          exact inStep

/-- The server has been launched with 0, and `thread_exit` is set. -/
structure UnblockedServer (x : HelperState ServerContext) : Prop where
  created : Created x
  exit : x.thelper.threadExit = true
  back : x.launcher.rank = 0
  signalled : x.main.signalled = true

theorem UnblockedServer.step {x : HelperState ServerContext} (unblocked : UnblockedServer x)
    (input : HelperInput ServerEvent) : UnblockedServer (serverThread.step x input).1 := by
  obtain ⟨created, back⟩ :=
    @Created.step _ _ locApiServer _ ServerContext.change unblocked.created input
  refine ⟨created, ?_, back unblocked.back, ?_⟩
  · exact (step_roundsLeft locApiServer ServerContext.change unblocked.created.1 unblocked.exit
      input).1
  · cases input with
    | create flag =>
        simp only [serverThread, threadHelper, HelperState.createThread]
        split
        · next here => exact absurd here unblocked.created.2
        · exact unblocked.signalled
    | launcher =>
        simp only [serverThread, threadHelper]
        rw [(launchThelper_child x).1]
        exact unblocked.signalled
    | child => exact thelperMain_signalled locApiServer unblocked.signalled
    | join =>
        simp only [serverThread, threadHelper, HelperState.joinThelper]
        split
        · split <;> exact unblocked.signalled
        · exact unblocked.signalled
    | spurious | unblock | environment => exact unblocked.signalled

/-- The message of `loc_eng_dmn_conn_unblock_proc` reaches the pipe of a server that has been
launched. -/
theorem UnblockedServer.unblockProc {x : HelperState ServerContext} (unblocked : UnblockedServer x)
    (inStep : WholeMessages x.context.pipe) (stack : ℕ → UInt8) :
    Stopping (serverThread.step x (.environment (.unblockProc stack))).1 := by
  have same := unblocked.step (.environment (.unblockProc stack))
  have fits : Fits (.environment (.unblockProc stack)) := trivial
  refine ⟨same.created.1, same.exit, same.back, same.signalled, step_wholeMessages inStep fits, ?_⟩
  intro _ opened
  rcases x.context.unblockProc_cases stack with ⟨-, sent⟩ | ⟨closed, left⟩
  · exact (congrArg (fun server => server.pipe ≠ []) sent).mpr (append_bytes_ne_nil _ _)
  · have still : x.context.locApiServerMsgqid = .opened :=
      (congrArg ServerContext.locApiServerMsgqid left).symm.trans opened
    exact absurd still closed

theorem run_wholeMessages {x : HelperState ServerContext} (inStep : WholeMessages x.context.pipe)
    {inputs : List (HelperInput ServerEvent)} (fit : ∀ input ∈ inputs, Fits input) :
    WholeMessages (serverThread.run x inputs).context.pipe := by
  have kept : ∀ (x : HelperState ServerContext) (input : HelperInput ServerEvent),
      WholeMessages x.context.pipe → Fits input →
        WholeMessages (serverThread.step x input).1.context.pipe :=
    fun _ _ inStep fits => step_wholeMessages inStep fits
  exact Machine.run_induction kept inStep fit

theorem UnblockedServer.run {x : HelperState ServerContext} (unblocked : UnblockedServer x)
    (inputs : List (HelperInput ServerEvent)) : UnblockedServer (serverThread.run x inputs) := by
  have kept : ∀ (x : HelperState ServerContext) (input : HelperInput ServerEvent),
      UnblockedServer x → True → UnblockedServer (serverThread.step x input).1 :=
    fun _ input unblocked _ => unblocked.step input
  exact Machine.run_induction kept unblocked fun _ _ => trivial

/-- A run without spurious wake-ups. -/
theorem run_waited {κ ε : Type*} (procs : ThreadProcs κ) (change : κ → ε → κ) (context : κ)
    {inputs : List (HelperInput ε)} (quiet : ∀ input ∈ inputs, input ≠ .spurious) :
    Waited ((threadHelper procs change).run (.start context) inputs) := by
  have kept : ∀ (x : HelperState κ) (input : HelperInput ε), HelperSound x ∧ Waited x →
      input ≠ .spurious → HelperSound ((threadHelper procs change).step x input).1 ∧
        Waited ((threadHelper procs change).step x input).1 := fun _ input both quiet =>
    ⟨both.1.step procs change input, both.2.step procs change both.1 quiet⟩
  exact (Machine.run_induction kept ⟨HelperSound.start context, trivial⟩ quiet).2

/-- A launched server that is unblocked, is unblocked. -/
theorem unblocked_of_launched {x : HelperState ServerContext} (sound : HelperSound x)
    (waited : Waited x) (launched : x.launcher = .launched 0) :
    UnblockedServer (serverThread.step x .unblock).1 := by
  unfold Waited at waited
  rw [launched] at waited
  refine ⟨⟨sound.step locApiServer ServerContext.change .unblock, ?_⟩, rfl, ?_, waited rfl⟩
  · exact fun early => nomatch launched.symm.trans early
  · exact congrArg LauncherPlace.rank launched

/-- `loc_eng_dmn_conn_join_thelper` is called for a launched server. -/
theorem Stopping.join {x : HelperState ServerContext} (stopping : Stopping x) :
    Joining (serverThread.step x .join).1 := by
  refine ⟨stopping.step (show Fits .join from trivial), ?_⟩
  have present : x.main ≠ .absent := by
    intro absent
    have signalled := stopping.signalled
    rw [absent] at signalled
    cases signalled
  have back := stopping.back
  simp only [serverThread, threadHelper, HelperState.joinThelper]
  cases here : x.launcher with
  | launched result => simp only [if_neg present, true_or]
  | joining | destroy | joined => simp [here]
  | create | lock | test | waiting | woken | unlock | returnExit =>
      rw [here] at back
      cases back

/-- **A server that has been launched with 0 can be stopped.** After
`loc_eng_dmn_conn_loc_api_server_unblock` and `loc_eng_dmn_conn_loc_api_server_join`, the join
ends after nine rounds in which both threads take a step, whatever the clients send and wherever
the server was. -/
theorem server_shutdown (locApiHandle canOpen : Bool) (malloc : Option (ℕ → UInt8))
    (stack : ℕ → UInt8) {earlier between waiting : List (HelperInput ServerEvent)}
    {rounds : List (List (HelperInput ServerEvent))}
    (quiet : ∀ input ∈ earlier, input ≠ .spurious)
    (launched : (serverThread.run (.start (.start locApiHandle canOpen malloc)) earlier).launcher =
      .launched 0)
    (fit : ∀ input ∈ earlier ++ between ++ waiting ++ rounds.flatten, Fits input)
    (fair : ∀ round ∈ rounds, .child ∈ round ∧ .launcher ∈ round) (enough : 9 ≤ rounds.length) :
    (serverThread.run (.start (.start locApiHandle canOpen malloc))
      (earlier ++ .unblock :: between ++ .environment (.unblockProc stack) :: waiting ++
        .join :: rounds.flatten)).launcher = .joined := by
  simp only [List.mem_append, or_imp, forall_and] at fit
  obtain ⟨⟨⟨fitEarlier, fitBetween⟩, fitWaiting⟩, fitRounds⟩ := fit
  have sound : HelperSound
      (serverThread.run (.start (.start locApiHandle canOpen malloc)) earlier) :=
    HelperSound.run locApiServer ServerContext.change _ earlier
  have waited : Waited (serverThread.run (.start (.start locApiHandle canOpen malloc)) earlier) :=
    run_waited locApiServer ServerContext.change _ quiet
  have empty : WholeMessages (HelperState.start
      (ServerContext.start locApiHandle canOpen malloc)).context.pipe := ⟨[], by simp, rfl⟩
  have inStep := run_wholeMessages empty fitEarlier
  simp only [List.append_assoc, List.cons_append, Machine.run_append, Machine.run_cons]
  generalize serverThread.run (.start (.start locApiHandle canOpen malloc)) earlier = x at *
  have unblocked := (unblocked_of_launched sound waited launched).run between
  have pipe : WholeMessages
      (serverThread.run (serverThread.step x .unblock).1 between).context.pipe :=
    run_wholeMessages (step_wholeMessages inStep (show Fits .unblock from trivial)) fitBetween
  have stopping := unblocked.unblockProc pipe stack
  generalize (serverThread.step (serverThread.run (serverThread.step x .unblock).1 between)
    (.environment (.unblockProc stack))).1 = y at stopping
  have kept : ∀ (x : HelperState ServerContext) (input : HelperInput ServerEvent), Stopping x →
      Fits input → Stopping (serverThread.step x input).1 :=
    fun _ _ stopping fits => stopping.step fits
  have joining := (Machine.run_induction kept stopping fitWaiting).join
  have admissible : ∀ round ∈ rounds, ∀ input ∈ round, Fits input :=
    fun round member input inside => fitRounds input (List.mem_flatten.mpr ⟨round, member, inside⟩)
  refine Joining.advances.run_reaches joining admissible ?_ ?_
  · intro round member z _ _
    unfold HelperState.HelpsStop
    split
    · exact ⟨.launcher, (fair round member).2, rfl⟩
    · exact ⟨.child, (fair round member).1, rfl⟩
  · exact Nat.lt_of_le_of_lt joining.rank_le enough

theorem server_shutdown_round :
    (serverThread.run (.start (.start true true (some fun _ => 0)))
      ([.create true, .launcher, .launcher, .child, .child, .child, .child, .launcher, .launcher,
        .launcher] ++ .unblock :: [] ++ .environment (.unblockProc fun _ => 0) :: [] ++
        .join :: (List.replicate 9 [.child, .launcher]).flatten)).launcher = .joined :=
  server_shutdown true true (some fun _ => 0) (fun _ => 0) (by simp) rfl
    (by simp [Fits, or_imp, forall_and])
    (fun round member => by
      obtain rfl := (List.mem_replicate.mp member).2
      simp)
    (by decide)

/-! ## A message that is lost -/

/-- No client sends anything, the pipe can be opened and there is memory. -/
def Alone : HelperInput ServerEvent → Prop
  | .environment (.send _) | .environment (.malloc none) | .environment (.canOpen false) => False
  | _ => True

/-- The child has not called `thread_proc_init`. -/
def MainPlace.early : MainPlace → Bool
  | .absent | .procInit => true
  | _ => false

/-- The child is on its way to `thread_proc`, or in it. -/
def MainPlace.starting : MainPlace → Bool
  | .absent | .procInit | .readyLock false | .readySignal false | .readyUnlock false | .procPre
  | .proc => true
  | _ => false

/-- The server before its pipe is open. -/
structure Unopened (x : HelperState ServerContext) : Prop where
  unset : x.main.early = true → x.context.locApiServerMsgqid = .unset ∧ x.context.pipe = []
  canOpen : x.context.canOpen = true
  malloc : x.context.malloc.isSome = true

/-- The server without a message. -/
structure Unanswered (x : HelperState ServerContext) : Prop where
  starting : x.main.starting = true
  opened : x.main.early = true ∨ x.context.locApiServerMsgqid = .opened
  empty : x.context.pipe = []
  canOpen : x.context.canOpen = true
  malloc : x.context.malloc.isSome = true

section Lost

variable {x : HelperState ServerContext}

/-- The server does not change what is up to the environment. -/
theorem thelperMain_environment (x : HelperState ServerContext) :
    (x.thelperMain locApiServer).1.context.canOpen = x.context.canOpen ∧
      (x.thelperMain locApiServer).1.context.malloc = x.context.malloc := by
  have proc : ∀ result later, x.context.locApiServerProc = some (result, later) →
      later.canOpen = x.context.canOpen ∧ later.malloc = x.context.malloc := by
    intro result later called
    unfold ServerContext.locApiServerProc at called
    split at called
    · cases called
      exact ⟨rfl, rfl⟩
    · obtain ⟨⟨length, buffer, pipe⟩, -, done⟩ := Option.map_eq_some_iff.mp called
      by_cases short : length ≤ 0
      · simp only [if_pos short] at done
        cases done
        exact ⟨rfl, rfl⟩
      · simp only [if_neg short] at done
        cases done
        exact ⟨rfl, rfl⟩
  unfold HelperState.thelperMain
  cases x.main with
  | readyLock failed =>
      simp only [HelperState.lock]
      split
      · split <;> exact ⟨rfl, rfl⟩
      · exact ⟨rfl, rfl⟩
  | proc =>
      simp only [HelperState.callProc, locApiServer]
      split
      · exact ⟨rfl, rfl⟩
      · next result later called => exact proc result later called
  | _ => exact ⟨rfl, rfl⟩

/-- The child does not come back to `thread_proc_init`. -/
theorem thelperMain_early (after : (x.thelperMain locApiServer).1.main.early = true) :
    x.main = .absent := by
  unfold HelperState.thelperMain at after
  cases here : x.main with
  | absent => rfl
  | proc =>
      rw [here] at after
      simp only [HelperState.callProc, locApiServer] at after
      split at after
      · rw [here] at after
        cases after
      · split at after <;> cases after
  | readyLock failed =>
      rw [here] at after
      simp only [HelperState.lock] at after
      split at after
      · split at after
        · cases after
        · rw [here] at after
          cases after
      · cases after
  | readyUnlock failed =>
      rw [here] at after
      cases failed <;> cases after
  | test =>
      rw [here] at after
      simp only [] at after
      split at after <;> cases after
  | returned =>
      rw [here] at after
      simp only [here] at after
      cases after
  | _ =>
      rw [here] at after
      cases after

/-- A step that neither reaches the environment nor the pipe. -/
theorem Unopened.unseen (unopened : Unopened x) {y : HelperState ServerContext}
    (early : y.main.early = true → x.main.early = true) (context : y.context = x.context) :
    Unopened y := by
  refine ⟨fun before => ?_, ?_, ?_⟩
  · rw [context]
    exact unopened.unset (early before)
  · rw [context]
    exact unopened.canOpen
  · rw [context]
    exact unopened.malloc

/-- Before the pipe is open, nothing is put into it. -/
theorem Unopened.step (unopened : Unopened x) (sound : HelperSound x)
    {input : HelperInput ServerEvent} (alone : Alone input) :
    Unopened (serverThread.step x input).1 := by
  cases input with
  | create created =>
      simp only [serverThread, threadHelper, HelperState.createThread]
      split
      · next here =>
          have absent := sound.absent.mpr (Or.inl here)
          cases created
          · exact unopened.unseen id rfl
          · exact unopened.unseen (fun _ => by rw [absent]; rfl) rfl
      · exact unopened
  | launcher =>
      refine unopened.unseen ?_ (launchThelper_context x)
      simp only [serverThread, threadHelper]
      rw [(launchThelper_child x).1]
      exact id
  | child =>
      obtain ⟨canOpen, malloc⟩ := thelperMain_environment x
      refine ⟨fun after => ?_, canOpen.trans unopened.canOpen, ?_⟩
      · have absent : x.main = .absent := thelperMain_early after
        have same : (x.thelperMain locApiServer).1 = x := by
          simp only [HelperState.thelperMain, absent]
        simp only [serverThread, threadHelper, same]
        exact unopened.unset (by rw [absent]; rfl)
      · simp only [serverThread, threadHelper]
        rw [malloc]
        exact unopened.malloc
  | join =>
      simp only [serverThread, threadHelper, HelperState.joinThelper]
      split
      · split
        · exact unopened
        · exact unopened.unseen id rfl
      · exact unopened
  | spurious | unblock => exact unopened.unseen id rfl
  | environment event =>
      cases event with
      | send message => exact alone.elim
      | malloc buffer =>
          cases buffer with
          | none => exact alone.elim
          | some fill => exact ⟨unopened.unset, unopened.canOpen, rfl⟩
      | canOpen can =>
          cases can with
          | false => exact alone.elim
          | true => exact ⟨unopened.unset, rfl, unopened.malloc⟩
      | unblockProc stack =>
          rcases x.context.unblockProc_cases stack with ⟨opened, sent⟩ | ⟨-, left⟩
          · refine ⟨fun early => ?_, ?_, ?_⟩
            · cases (unopened.unset early).1.symm.trans opened
            · exact (congrArg ServerContext.canOpen sent).trans unopened.canOpen
            · exact (congrArg (fun server => server.malloc.isSome) sent).trans unopened.malloc
          · exact unopened.unseen id left

theorem Unanswered.unseen (unanswered : Unanswered x) {y : HelperState ServerContext}
    (starting : y.main.starting = true)
    (late : x.main.early = true → y.main.early = true) (context : y.context = x.context) :
    Unanswered y := by
  refine ⟨starting, ?_, ?_, ?_, ?_⟩ <;> rw [context]
  · exact unanswered.opened.imp_left late
  · exact unanswered.empty
  · exact unanswered.canOpen
  · exact unanswered.malloc

/-- The child of a server without a message comes to `read`, and stays there. -/
theorem Unanswered.child (unanswered : Unanswered x) :
    Unanswered (x.thelperMain locApiServer).1 := by
  have starting := unanswered.starting
  have opened := unanswered.opened
  unfold HelperState.thelperMain
  cases here : x.main with
  | initFailed | preFailed | procFailed | test | procPost | returned =>
      rw [here] at starting
      cases starting
  | absent => exact unanswered
  | procInit =>
      refine ⟨rfl, Or.inr ?_, unanswered.empty, unanswered.canOpen, unanswered.malloc⟩
      exact if_pos unanswered.canOpen
  | readyLock failed =>
      cases failed with
      | true =>
          rw [here] at starting
          cases starting
      | false =>
          have late : x.main.early = true → False := by
            rw [here]
            exact fun early => by cases early
          simp only [HelperState.lock]
          split
          · split
            · exact unanswered.unseen rfl (fun early => (late early).elim) rfl
            · exact unanswered
          · exact unanswered.unseen rfl (fun early => (late early).elim) rfl
  | readySignal failed | readyUnlock failed =>
      cases failed with
      | true =>
          rw [here] at starting
          cases starting
      | false =>
          refine unanswered.unseen rfl ?_ rfl
          rw [here]
          exact fun early => by cases early
  | procPre =>
      refine unanswered.unseen rfl ?_ rfl
      rw [here]
      exact fun early => by cases early
  | proc =>
      rw [here] at opened
      have pipe : x.context.locApiServerMsgqid = .opened :=
        opened.resolve_left fun early => by cases early
      obtain ⟨fill, allocated⟩ := Option.isSome_iff_exists.mp unanswered.malloc
      have blocked : x.context.locApiServerProc = none := by
        simp only [ServerContext.locApiServerProc, allocated, ServerContext.receive, pipe,
          unanswered.empty]
        rfl
      simp only [HelperState.callProc, locApiServer, blocked]
      exact unanswered

/-- Nothing else reaches it. -/
theorem Unanswered.step (unanswered : Unanswered x) {input : HelperInput ServerEvent}
    (alone : Alone input)
    (silent : ∀ stack, input ≠ .environment (.unblockProc stack)) :
    Unanswered (serverThread.step x input).1 := by
  cases input with
  | create created =>
      simp only [serverThread, threadHelper, HelperState.createThread]
      split
      · cases created
        · exact unanswered.unseen unanswered.starting id rfl
        · exact unanswered.unseen rfl (fun _ => rfl) rfl
      · exact unanswered
  | launcher =>
      have main := (launchThelper_child x).1
      refine unanswered.unseen ?_ ?_ (launchThelper_context x)
      all_goals
        simp only [serverThread, threadHelper]
        rw [main]
      · exact unanswered.starting
      · exact id
  | child => exact unanswered.child
  | join =>
      simp only [serverThread, threadHelper, HelperState.joinThelper]
      split
      · split
        · exact unanswered
        · exact unanswered.unseen unanswered.starting id rfl
      · exact unanswered
  | spurious | unblock => exact unanswered.unseen unanswered.starting id rfl
  | environment event =>
      cases event with
      | send message => exact alone.elim
      | malloc buffer =>
          cases buffer with
          | none => exact alone.elim
          | some fill =>
              exact ⟨unanswered.starting, unanswered.opened, unanswered.empty, unanswered.canOpen,
                rfl⟩
      | canOpen can =>
          cases can with
          | false => exact alone.elim
          | true =>
              exact ⟨unanswered.starting, unanswered.opened, unanswered.empty, rfl,
                unanswered.malloc⟩
      | unblockProc stack => exact absurd rfl (silent stack)

end Lost

end Msm8660.Gps
