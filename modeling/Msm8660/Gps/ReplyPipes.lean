import Msm8660.Gps.AgpsStateMachine
import Msm8660.Gps.DmnConn

/-!
# The replies to the daemons

A client that asks for an interface is answered on a pipe: QuIPC and MSAPM have one each, and
the third belongs to the GPSOne daemon, which also speaks for the BIT clients.
`loc_eng_dmn_conn_loc_api_server_data_conn` puts the result into a message on its stack, of
which it writes two fields, and sends that to the pipe of the sender. The daemons read when they
like. Whatever the order of all this, every daemon reads the results that were meant for it, in
the order in which they were sent, and nothing else (`replies_in_order`). The pipes are open.
-/

set_option autoImplicit false

namespace Msm8660.Gps

/-! ## Sending a reply -/

/-- `GPSONE_LOC_API_RESPONSE`. -/
def gpsoneLocApiResponse : UInt8 := 0xF2

/-- The enumerator as an `int`. -/
def IfResult.value : IfResult → ℕ
  | .gpsoneLocApiIfRequestSuccess => 0xF0
  | .gpsoneLocApiIfReleaseSuccess => 0xF1
  | .gpsoneLocApiIfFailure => 0xF2

/-- The pipes of the replies. -/
inductive ReplyPipe where
  /-- `quipc_msgqid` -/
  | quipc
  /-- `msapm_msgqid` -/
  | msapm
  /-- `loc_api_resp_msgqid` -/
  | locApiResp
deriving DecidableEq, Repr

/-- The pipe for a sender. The others are an "invalid sender ID". -/
def LocIfReqSenderId.replyPipe : LocIfReqSenderId → Option ReplyPipe
  | .quipc => some .quipc
  | .msapm => some .msapm
  | .gpsoneDaemon => some .locApiResp
  | .modem => none
  | .unknown => none

/-- The offset of `cmsg.cmsg_response.result`. -/
def resultOffset : ℕ := 16

/-- `cmsgbuf`, with its two fields written. -/
def responseMessage (stack : ℕ → UInt8) (status : IfResult) : DmnMessage where
  msgp := overwrite (overwrite stack 12 [gpsoneLocApiResponse]) resultOffset
    (leBytes 4 status.value)
  msgsz := sizeofCtrlMsgbuf
  header := by decide
  isSize := by decide

/-- `loc_eng_dmn_conn_loc_api_server_data_conn`. -/
def locEngDmnConnLocApiServerDataConn (pipes : ReplyPipe → Pipe) (stack : ℕ → UInt8)
    (senderId : LocIfReqSenderId) (status : IfResult) : ℤ × (ReplyPipe → Pipe) :=
  let cmsgbuf := responseMessage stack status
  match senderId.replyPipe with
  | none => (0, pipes)
  | some msgqid =>
      let (result, pipe) := locEngDmnConnGlueMsgsnd (pipes msgqid) cmsgbuf.msgp cmsgbuf.msgsz
      (if result < 0 then -1 else 0, Function.update pipes msgqid pipe)

/-! ## The pipes under all threads -/

/-- What happens to the pipes: a subscriber passes a notification on, or a daemon calls
`loc_eng_dmn_conn_glue_msgrcv` with a buffer of its own. -/
inductive ReplyInput where
  | call (call : ClientCall) (stack : ℕ → UInt8)
  | receive (msgqid : ReplyPipe) (msgp : ℕ → UInt8) (msgbufsz : ℕ)

/-- The daemons have room for a message. -/
def ReplyInput.HasRoom : ReplyInput → Prop
  | .call _ _ => True
  | .receive _ _ msgbufsz => sizeofCtrlMsgbuf ≤ msgbufsz

/-- The three pipes, with the replies that are read from them. A daemon that has nothing to
read blocks. -/
def replyPipes : Machine (ReplyPipe → Pipe) ReplyInput (ReplyPipe × Reply) where
  step pipes input := match input with
    | .call (.dataConn senderId status) stack =>
        ((locEngDmnConnLocApiServerDataConn pipes stack senderId status).2, [])
    | .call _ _ => (pipes, [])
    | .receive msgqid msgp msgbufsz =>
        match locEngDmnConnGlueMsgrcv (pipes msgqid) msgp msgbufsz with
        | none => (pipes, [])
        | some (length, msgp, pipe) => (Function.update pipes msgqid pipe,
            [(msgqid, length, readAt msgp 0 length.toNat)])

/-- The result that a call has for the listener at a pipe. -/
def ClientCall.resultFor (msgqid : ReplyPipe) : ClientCall → Option IfResult
  | .dataConn senderId status =>
      if senderId.replyPipe = some msgqid then some status else none
  | _ => none

/-- What is sent to the listener at a pipe. -/
def sentTo (msgqid : ReplyPipe) (inputs : List ReplyInput) : List IfResult :=
  inputs.filterMap fun input => match input with
    | .call made _ => made.resultFor msgqid
    | .receive _ _ _ => none

/-- The result in a reply, where a daemon finds it. -/
def Reply.result (reply : Reply) : Option IfResult :=
  if reply.1 = sizeofCtrlMsgbuf ∧ reply.2[12]? = some gpsoneLocApiResponse then
    [IfResult.gpsoneLocApiIfRequestSuccess, .gpsoneLocApiIfReleaseSuccess,
      .gpsoneLocApiIfFailure].find? fun status =>
        (reply.2.drop resultOffset).take 4 = leBytes 4 status.value
  else none

/-- What the listener at a pipe has read. -/
def readFrom (msgqid : ReplyPipe) (replies : List (ReplyPipe × Reply)) : List (Option IfResult) :=
  (replies.filter fun reply => reply.1 = msgqid).map fun reply => Reply.result reply.2

/-! ## What the pipes are for -/

/-- A queue of results for every listener. -/
def replyQueues : Machine (ReplyPipe → List IfResult) ReplyInput (ReplyPipe × IfResult) where
  step queues input := match input with
    | .call made _ => (fun msgqid => queues msgqid ++ (made.resultFor msgqid).toList, [])
    | .receive msgqid _ _ =>
        (Function.update queues msgqid (queues msgqid).tail,
          ((queues msgqid).head?.map (Prod.mk msgqid)).toList)

/-! ## One reply -/

/-- The fields of a message as it arrives: its size has been written over what was in front. -/
theorem responseMessage_bytes (stack : ℕ → UInt8) (status : IfResult) :
    (responseMessage stack status).bytes[12]? = some gpsoneLocApiResponse ∧
      (((responseMessage stack status).bytes.drop resultOffset).take 4) =
        leBytes 4 status.value := by
  have width : (leBytes 4 status.value).length = 4 := length_leBytes _ _
  have same : ∀ address, 4 ≤ address → overwrite (responseMessage stack status).msgp 0
      (leBytes 4 sizeofCtrlMsgbuf) address = (responseMessage stack status).msgp address :=
    fun address behind => overwrite_outside (Or.inr (by rw [length_leBytes]; omega))
  have bytes : (responseMessage stack status).bytes = readAt (overwrite
      (responseMessage stack status).msgp 0 (leBytes 4 sizeofCtrlMsgbuf)) 0 112 := rfl
  rw [bytes]
  generalize overwrite (responseMessage stack status).msgp 0 (leBytes 4 sizeofCtrlMsgbuf) =
    memory at same
  constructor
  · have type : (responseMessage stack status).msgp 12 = gpsoneLocApiResponse := by
      have outside : (12 : ℕ) < resultOffset ∨
          resultOffset + (leBytes 4 status.value).length ≤ 12 := Or.inl (by decide)
      have inside : overwrite stack 12 [gpsoneLocApiResponse] (12 + 0) = gpsoneLocApiResponse :=
        overwrite_inside stack 12 Nat.zero_lt_one
      exact (overwrite_outside outside).trans inside
    rw [← type, ← same 12 (by decide)]
    simp [readAt]
  · have cut : readAt memory 0 112 =
        readAt memory 0 resultOffset ++ readAt memory resultOffset 96 :=
      readAt_add memory 0 16 96
    have written := readAt_overwrite (overwrite stack 12 [gpsoneLocApiResponse]) resultOffset
      (leBytes 4 status.value)
    rw [width] at written
    rw [cut, List.drop_left' (length_readAt memory 0 resultOffset),
      take_readAt memory _ (by decide),
      ← written]
    apply List.map_congr_left
    intro offset _
    exact same _ (by unfold resultOffset; omega)

/-- What was sent is read. -/
theorem result_reply (stack : ℕ → UInt8) (status : IfResult) {msgbufsz : ℕ}
    (room : sizeofCtrlMsgbuf ≤ msgbufsz) :
    Reply.result ((responseMessage stack status).reply msgbufsz) = some status := by
  obtain ⟨type, field⟩ := responseMessage_bytes stack status
  rw [DmnMessage.reply, if_pos (show (responseMessage stack status).msgsz ≤ msgbufsz from room),
    Reply.result, if_pos ⟨rfl, type⟩, field]
  cases status <;> decide

/-- A reply is put behind what is in the pipe of its sender; the others stay as they are. -/
theorem dataConn_pipes (pipes : ReplyPipe → Pipe) (stack : ℕ → UInt8)
    (senderId : LocIfReqSenderId) (status : IfResult) (msgqid : ReplyPipe) :
    (locEngDmnConnLocApiServerDataConn pipes stack senderId status).2 msgqid =
      pipes msgqid ++
        if senderId.replyPipe = some msgqid then (responseMessage stack status).bytes else [] := by
  unfold locEngDmnConnLocApiServerDataConn
  cases target : senderId.replyPipe with
  | none => simp
  | some other =>
      by_cases here : other = msgqid
      · subst here
        simp only [Function.update_self, if_true]
        rfl
      · simp [Function.update_of_ne (Ne.symm here), here]

/-! ## The pipes are the queues -/

/-- The pipes hold the messages for the results in the queues, whatever else is in them. -/
def Carries (pipes : ReplyPipe → Pipe) (queues : ReplyPipe → List IfResult) : Prop :=
  ∀ msgqid, ∃ messages : List ((ℕ → UInt8) × IfResult),
    pipes msgqid = messages.flatMap (fun message =>
      (responseMessage message.1 message.2).bytes) ∧
    queues msgqid = messages.map Prod.snd

section Carries

variable {pipes : ReplyPipe → Pipe} {queues : ReplyPipe → List IfResult}

theorem Carries.call (carries : Carries pipes queues) (made : ClientCall) (stack : ℕ → UInt8) :
    Carries (replyPipes.step pipes (.call made stack)).1
        (replyQueues.step queues (.call made stack)).1 ∧
      (replyPipes.step pipes (.call made stack)).2 = [] := by
  cases made with
  | dataConn senderId status =>
      refine ⟨fun msgqid => ?_, rfl⟩
      obtain ⟨messages, bytes, results⟩ := carries msgqid
      simp only [replyPipes, replyQueues, dataConn_pipes, ClientCall.resultFor]
      by_cases here : senderId.replyPipe = some msgqid
      · exact ⟨messages ++ [(stack, status)], by simp [bytes, here], by simp [results, here]⟩
      · exact ⟨messages, by simp [bytes, here], by simp [results, here]⟩
  | atlOpenStatus handle isSucc apn bear agpsType =>
      refine ⟨fun msgqid => ?_, rfl⟩
      obtain ⟨messages, bytes, results⟩ := carries msgqid
      exact ⟨messages, bytes, by simp [replyQueues, ClientCall.resultFor, results]⟩
  | atlCloseStatus handle isSucc =>
      refine ⟨fun msgqid => ?_, rfl⟩
      obtain ⟨messages, bytes, results⟩ := carries msgqid
      exact ⟨messages, bytes, by simp [replyQueues, ClientCall.resultFor, results]⟩

theorem Carries.receive (carries : Carries pipes queues) (msgqid : ReplyPipe)
    (msgp : ℕ → UInt8) {msgbufsz : ℕ} (room : sizeofCtrlMsgbuf ≤ msgbufsz) :
    Carries (replyPipes.step pipes (.receive msgqid msgp msgbufsz)).1
        (replyQueues.step queues (.receive msgqid msgp msgbufsz)).1 ∧
      ∀ listener, readFrom listener (replyPipes.step pipes (.receive msgqid msgp msgbufsz)).2 =
        if listener = msgqid then ((queues msgqid).take 1).map some else [] := by
  obtain ⟨messages, bytes, results⟩ := carries msgqid
  have others : ∀ (pipe : Pipe) (rest : List ((ℕ → UInt8) × IfResult)),
      pipe = rest.flatMap (fun message => (responseMessage message.1 message.2).bytes) →
      Carries (Function.update pipes msgqid pipe)
        (Function.update queues msgqid (rest.map Prod.snd)) := by
    intro pipe rest same other
    by_cases here : other = msgqid
    · subst here
      exact ⟨rest, by rw [Function.update_self, same], by rw [Function.update_self]⟩
    · rw [Function.update_of_ne here, Function.update_of_ne here]
      exact carries other
  cases messages with
  | nil =>
      have blocked : locEngDmnConnGlueMsgrcv (pipes msgqid) msgp msgbufsz = none := by
        rw [bytes]
        rfl
      have nothing : queues msgqid = [] := results
      simp only [replyPipes, replyQueues, blocked, nothing, List.tail_nil, List.take_nil]
      refine ⟨?_, fun listener => by simp [readFrom]⟩
      rw [← nothing, Function.update_eq_self]
      exact carries
  | cons message rest =>
      obtain ⟨stack, status⟩ := message
      have fits : (responseMessage stack status).msgsz ≤ msgbufsz := room
      have framed := frame_fits fits (show sizeofCtrlMsgbuf < 2147483648 by decide)
        (rest.flatMap fun message => (responseMessage message.1 message.2).bytes)
      rw [List.flatMap_cons] at bytes
      rw [← bytes, ← msgrcv_eq_frame (pipes msgqid) msgp] at framed
      obtain ⟨⟨length, buffer, later⟩, called, same⟩ := Option.map_eq_some_iff.mp framed
      obtain ⟨reply, left⟩ := Prod.mk.inj same
      simp only [replyPipes, replyQueues, called, results, List.map_cons, List.tail_cons]
      refine ⟨others later rest left, fun listener => ?_⟩
      have result := result_reply stack status room
      rw [← reply] at result
      by_cases here : msgqid = listener
      · simp [readFrom, here, result]
      · simp [readFrom, here, Ne.symm here]

/-- One step: what is read was at the head of its queue. -/
theorem Carries.step (carries : Carries pipes queues) {input : ReplyInput} (room : input.HasRoom) :
    Carries (replyPipes.step pipes input).1 (replyQueues.step queues input).1 ∧
      ∀ msgqid, (queues msgqid ++ sentTo msgqid [input]).map some =
        readFrom msgqid (replyPipes.step pipes input).2 ++
          ((replyQueues.step queues input).1 msgqid).map some := by
  cases input with
  | call made stack =>
      obtain ⟨next, silent⟩ := carries.call made stack
      refine ⟨next, fun msgqid => ?_⟩
      rw [silent]
      cases result : made.resultFor msgqid <;> simp [sentTo, readFrom, replyQueues, result]
  | receive from_ msgp msgbufsz =>
      obtain ⟨next, reads⟩ := carries.receive from_ msgp room
      refine ⟨next, fun msgqid => ?_⟩
      rw [reads]
      by_cases here : msgqid = from_
      · subst here
        cases unread : queues msgqid <;> simp [sentTo, replyQueues, unread]
      · simp [sentTo, replyQueues, here]

theorem sentTo_append (msgqid : ReplyPipe) (earlier later : List ReplyInput) :
    sentTo msgqid (earlier ++ later) = sentTo msgqid earlier ++ sentTo msgqid later :=
  List.filterMap_append

theorem readFrom_append (msgqid : ReplyPipe) (earlier later : List (ReplyPipe × Reply)) :
    readFrom msgqid (earlier ++ later) = readFrom msgqid earlier ++ readFrom msgqid later := by
  rw [readFrom, List.filter_append, List.map_append]
  rfl

/-- A run: what has been sent has been read or is in the queues. -/
theorem Carries.run (carries : Carries pipes queues) {inputs : List ReplyInput}
    (room : ∀ input ∈ inputs, input.HasRoom) :
    Carries (replyPipes.run pipes inputs) (replyQueues.run queues inputs) ∧
      ∀ msgqid, (queues msgqid ++ sentTo msgqid inputs).map some =
        readFrom msgqid (replyPipes.outputs pipes inputs) ++
          ((replyQueues.run queues inputs) msgqid).map some := by
  induction inputs generalizing pipes queues with
  | nil => exact ⟨carries, fun msgqid => by simp [sentTo, readFrom]⟩
  | cons input rest ih =>
      obtain ⟨here, later⟩ := List.forall_mem_cons.mp room
      obtain ⟨next, one⟩ := carries.step here
      obtain ⟨final, more⟩ := ih next later
      refine ⟨final, fun msgqid => ?_⟩
      calc (queues msgqid ++ sentTo msgqid (input :: rest)).map some
        _ = (queues msgqid ++ sentTo msgqid [input]).map some ++
              (sentTo msgqid rest).map some := by
            rw [← List.singleton_append, sentTo_append, ← List.append_assoc, List.map_append]
        _ = readFrom msgqid (replyPipes.step pipes input).2 ++
              (((replyQueues.step queues input).1 msgqid) ++ sentTo msgqid rest).map some := by
            rw [one, List.append_assoc, List.map_append]
        _ = readFrom msgqid (replyPipes.outputs pipes (input :: rest)) ++
              ((replyQueues.run queues (input :: rest)) msgqid).map some := by
            rw [more, ← List.append_assoc, ← readFrom_append, Machine.outputs_cons,
              Machine.run_cons]

/-- Reading from one queue only. -/
theorem run_receive (queues : ReplyPipe → List IfResult) (msgqid : ReplyPipe) (msgp : ℕ → UInt8)
    (msgbufsz count : ℕ) :
    replyQueues.run queues (List.replicate count (.receive msgqid msgp msgbufsz)) msgqid =
      (queues msgqid).drop count := by
  induction count generalizing queues with
  | zero => rfl
  | succ count ih =>
      rw [List.replicate_succ, Machine.run_cons, ih]
      simp [replyQueues]

end Carries

/-- **Every daemon reads its own replies, in order.** Whatever is sent and read in whatever
order, what a daemon has read is the beginning of what was sent to it; and if it goes on reading
it gets the rest, as soon as it calls often enough. -/
theorem replies_in_order {inputs : List ReplyInput} (room : ∀ input ∈ inputs, input.HasRoom)
    (msgqid : ReplyPipe) :
    readFrom msgqid (replyPipes.outputs (fun _ => []) inputs) <+:
        (sentTo msgqid inputs).map some ∧
      ∀ (msgp : ℕ → UInt8) (msgbufsz count : ℕ), sizeofCtrlMsgbuf ≤ msgbufsz →
        (sentTo msgqid inputs).length ≤
          (readFrom msgqid (replyPipes.outputs (fun _ => []) inputs)).length + count →
        readFrom msgqid (replyPipes.outputs (fun _ => [])
            (inputs ++ List.replicate count (.receive msgqid msgp msgbufsz))) =
          (sentTo msgqid inputs).map some := by
  have start : Carries (fun _ => []) fun _ => [] := fun _ => ⟨[], rfl, rfl⟩
  obtain ⟨-, balance⟩ := start.run room
  refine ⟨⟨_, (balance msgqid).symm⟩, fun msgp msgbufsz count fits enough => ?_⟩
  have drained : ∀ input ∈ inputs ++ List.replicate count (.receive msgqid msgp msgbufsz),
      input.HasRoom := by
    intro input member
    rcases List.mem_append.mp member with before | after
    · exact room input before
    · rw [List.eq_of_mem_replicate after]
      exact fits
  have total := (start.run drained).2 msgqid
  have left : replyQueues.run (fun _ => [])
      (inputs ++ List.replicate count (.receive msgqid msgp msgbufsz)) msgqid = [] := by
    rw [Machine.run_append, run_receive, List.drop_eq_nil_iff]
    have lengths := congrArg List.length (balance msgqid)
    simp only [List.nil_append, List.length_map, List.length_append] at lengths
    omega
  have nothing : sentTo msgqid (List.replicate count (.receive msgqid msgp msgbufsz)) = [] := by
    rw [sentTo, List.filterMap_replicate_of_none]
    rfl
  rw [left, sentTo_append, nothing] at total
  simpa using total.symm

/-- QuIPC is granted its interface, MSAPM is refused, and QuIPC is told of the release. -/
def threeReplies : List ReplyInput :=
  [.call (.dataConn .quipc .gpsoneLocApiIfRequestSuccess) fun _ => 0xF0,
    .call (.dataConn .msapm .gpsoneLocApiIfFailure) fun _ => 0,
    .receive .quipc (fun _ => 0) 112,
    .call (.dataConn .quipc .gpsoneLocApiIfReleaseSuccess) fun _ => 0xF2]

theorem replies_in_order_three : readFrom .quipc (replyPipes.outputs (fun _ => [])
    (threeReplies ++ List.replicate 2 (.receive .quipc (fun _ => 0) 368))) =
      [some .gpsoneLocApiIfRequestSuccess, some .gpsoneLocApiIfReleaseSuccess] :=
  (replies_in_order (show ∀ input ∈ threeReplies, input.HasRoom by
      simp [threeReplies, ReplyInput.HasRoom, sizeofCtrlMsgbuf]) .quipc).2
    (fun _ => 0) 368 2 (by decide) (Nat.le_add_left 2 _)

end Msm8660.Gps
