import Msm8660.Lib.Bytes

/-!
# The frames on the daemon's pipe

`loc_eng_dmn_conn_glue_msgsnd` puts the size of a message in front of it, and
`loc_eng_dmn_conn_glue_msgrcv` reads the size first and then the rest. Of the pipe it is
assumed that it delivers the bytes in their order, and that a `read` returns what was
asked for once there is enough; until then it blocks. `size_t` and `int` have 32 bits.
-/

set_option autoImplicit false

namespace Msm8660.Gps

/-- `(int)` of a `size_t`. -/
def toInt (n : ℕ) : ℤ :=
  if n % 4294967296 < 2147483648 then (n % 4294967296 : ℕ)
  else (n % 4294967296 : ℕ) - 4294967296

theorem toInt_of_lt {n : ℕ} (small : n < 2147483648) : toInt n = n := by
  rw [toInt, Nat.mod_eq_of_lt (by omega), if_pos small]

theorem toNat_toInt_le (n : ℕ) : (toInt n).toNat ≤ n := by
  have := Nat.mod_le n 4294967296
  unfold toInt
  split <;> omega

/-- The unread bytes of a pipe. -/
abbrev Pipe := List UInt8

/-- `loc_eng_dmn_conn_glue_pipewrite`, with what is written. -/
def locEngDmnConnGluePipewrite (pipe : Pipe) (buf : ℕ → UInt8) (sz : ℕ) : ℤ × Pipe :=
  (toInt sz, pipe ++ readAt buf 0 sz)

/-- `loc_eng_dmn_conn_glue_piperead` into a buffer from an offset on. `read` refuses more
bytes than its result can count, and it blocks while there are too few. -/
def locEngDmnConnGluePiperead (pipe : Pipe) (buf : ℕ → UInt8) (offset sz : ℕ) :
    Option (ℤ × (ℕ → UInt8) × Pipe) :=
  if 2147483648 ≤ sz then some (-1, buf, pipe)
  else if sz ≤ pipe.length then
    some (sz, overwrite buf offset (pipe.take sz), pipe.drop sz)
  else none

/-- `loc_eng_dmn_conn_glue_msgsnd`. -/
def locEngDmnConnGlueMsgsnd (pipe : Pipe) (msgp : ℕ → UInt8) (msgsz : ℕ) : ℤ × Pipe :=
  let pmsg := overwrite msgp 0 (leBytes 4 msgsz)
  let (result, pipe) := locEngDmnConnGluePipewrite pipe pmsg msgsz
  (if result ≠ toInt msgsz then -1 else result, pipe)

/-- `pmsg->msgsz`. -/
def msgszField (pmsg : ℕ → UInt8) : ℕ := leValue (readAt pmsg 0 4)

/-- `loc_eng_dmn_conn_glue_msgrcv`. -/
def locEngDmnConnGlueMsgrcv (pipe : Pipe) (msgp : ℕ → UInt8) (msgbufsz : ℕ) :
    Option (ℤ × (ℕ → UInt8) × Pipe) :=
  (locEngDmnConnGluePiperead pipe msgp 0 4).bind fun (result, pmsg, pipe) =>
  if result ≠ 4 then some (-1, pmsg, pipe)
  else if msgbufsz < msgszField pmsg then some (-1, pmsg, pipe)
  else
    -- the difference of two `size_t`
    let rest := (msgszField pmsg + 4294967296 - 4) % 4294967296
    (locEngDmnConnGluePiperead pipe pmsg 4 rest).map fun (result, pmsg, pipe) =>
    if result ≠ toInt rest then (-1, pmsg, pipe)
    else (toInt (msgszField pmsg), pmsg, pipe)

/-! ## Messages and replies -/

/-- A message for `loc_eng_dmn_conn_glue_msgsnd`. -/
structure DmnMessage where
  msgp : ℕ → UInt8
  msgsz : ℕ
  header : 4 ≤ msgsz
  isSize : msgsz < 4294967296

/-- The bytes of a message, its size in front. -/
def DmnMessage.bytes (message : DmnMessage) : List UInt8 :=
  readAt (overwrite message.msgp 0 (leBytes 4 message.msgsz)) 0 message.msgsz

/-- The pipe after messages have been sent. -/
def sendAll (messages : List DmnMessage) : Pipe :=
  messages.foldl (fun pipe message => (locEngDmnConnGlueMsgsnd pipe message.msgp message.msgsz).2)
    []

/-- What a call of `loc_eng_dmn_conn_glue_msgrcv` gives its caller: the number that it
returns, and so many bytes of the buffer. -/
abbrev Reply := ℤ × List UInt8

/-- Calls of `loc_eng_dmn_conn_glue_msgrcv` with one buffer, until one blocks. -/
def receiveAll (msgbufsz : ℕ) : ℕ → (ℕ → UInt8) → Pipe → List Reply
  | 0, _, _ => []
  | count + 1, msgp, pipe =>
      match locEngDmnConnGlueMsgrcv pipe msgp msgbufsz with
      | none => []
      | some (length, msgp, pipe) =>
          (length, readAt msgp 0 length.toNat) :: receiveAll msgbufsz count msgp pipe

/-- What the receiver is to be given for a message. -/
def DmnMessage.reply (msgbufsz : ℕ) (message : DmnMessage) : Reply :=
  if message.msgsz ≤ msgbufsz then (message.msgsz, message.bytes) else (-1, [])

/-- The receiver is given the messages that fit and is refused the others, and later
calls return what they would return without these messages, whatever is sent later. -/
def StaysInStep (msgbufsz : ℕ) (msgp : ℕ → UInt8) (messages : List DmnMessage) : Prop :=
  ∀ later : List DmnMessage,
    receiveAll msgbufsz (messages.length + later.length) msgp (sendAll (messages ++ later)) =
      messages.map (DmnMessage.reply msgbufsz) ++
        receiveAll msgbufsz later.length msgp (sendAll later)

/-! ## What a call does to the pipe -/

/-- What a call returns, and how many bytes it takes from the pipe. -/
def intake (msgbufsz : ℕ) (pipe : Pipe) : Option (ℤ × ℕ) :=
  let msgsz := leValue (pipe.take 4)
  let rest := (msgsz + 4294967296 - 4) % 4294967296
  if pipe.length < 4 then none
  else if msgbufsz < msgsz then some (-1, 4)
  else if 2147483648 ≤ rest then some (if toInt rest = -1 then toInt msgsz else -1, 4)
  else if rest + 4 ≤ pipe.length then some (toInt msgsz, rest + 4)
  else none

/-- A call refuses a size and takes no more, or it takes what it accepts. A `read` that fails
is taken for the rest of a message of three bytes. -/
theorem intake_cases {msgbufsz : ℕ} {pipe : Pipe} {returned : ℤ} {taken : ℕ}
    (called : intake msgbufsz pipe = some (returned, taken)) :
    4 ≤ pipe.length ∧
      (returned = -1 ∧ taken = 4 ∧ ¬ (leValue (pipe.take 4) ≤ msgbufsz ∧
          4 ≤ leValue (pipe.take 4) ∧ leValue (pipe.take 4) < 2147483652) ∨
        returned = 3 ∧ taken = 4 ∧ leValue (pipe.take 4) = 3 ∨
        returned = toInt taken ∧ taken = leValue (pipe.take 4) ∧ taken ≤ msgbufsz ∧ 4 ≤ taken ∧
          taken < 2147483652 ∧ taken ≤ pipe.length) := by
  simp only [intake] at called
  split at called
  · cases called
  · next enough =>
      have bound := leValue_lt (pipe.take 4)
      rw [List.length_take, Nat.min_eq_left (by omega)] at bound
      refine ⟨by omega, ?_⟩
      generalize leValue (pipe.take 4) = msgsz at called bound ⊢
      split at called
      · cases called
        exact Or.inl ⟨rfl, rfl, by omega⟩
      · split at called
        · obtain ⟨same, rfl⟩ := Prod.mk.inj (Option.some.inj called)
          split at same
          · next error =>
              have three : msgsz = 3 := by
                unfold toInt at error
                split at error <;> omega
              subst three
              exact Or.inr (Or.inl ⟨same.symm, rfl, rfl⟩)
          · exact Or.inl ⟨same.symm, rfl, by omega⟩
        · split at called
          · obtain ⟨rfl, rfl⟩ := Prod.mk.inj (Option.some.inj called)
            have size : (msgsz + 4294967296 - 4) % 4294967296 + 4 = msgsz := by omega
            rw [size]
            exact Or.inr (Or.inr ⟨rfl, rfl, by omega, by omega, by omega, by omega⟩)
          · cases called

/-- The bytes that a call takes are there, and at least as many as it returns. -/
theorem intake_bounds {msgbufsz : ℕ} {pipe : Pipe} {returned : ℤ} {taken : ℕ}
    (called : intake msgbufsz pipe = some (returned, taken)) :
    4 ≤ taken ∧ taken ≤ pipe.length ∧ returned.toNat ≤ taken := by
  obtain ⟨enough, ⟨rfl, rfl, -⟩ | ⟨rfl, rfl, -⟩ | ⟨rfl, -, -, header, -, there⟩⟩ :=
    intake_cases called
  · exact ⟨Nat.le_refl 4, enough, by decide⟩
  · exact ⟨Nat.le_refl 4, enough, by decide⟩
  · exact ⟨header, there, toNat_toInt_le taken⟩

theorem msgszField_overwrite {msgp : ℕ → UInt8} {bytes : List UInt8} (enough : 4 ≤ bytes.length) :
    msgszField (overwrite msgp 0 bytes) = leValue (bytes.take 4) := by
  rw [msgszField, ← take_readAt _ 0 enough, readAt_overwrite]

/-- **A call stores what it takes at the beginning of the buffer.** What was there before
does not matter. -/
theorem msgrcv_eq (pipe : Pipe) (msgp : ℕ → UInt8) (msgbufsz : ℕ) :
    locEngDmnConnGlueMsgrcv pipe msgp msgbufsz = (intake msgbufsz pipe).map fun called =>
      (called.1, overwrite msgp 0 (pipe.take called.2), pipe.drop called.2) := by
  by_cases short : pipe.length < 4
  · have blocked : ¬ 4 ≤ pipe.length := by omega
    simp only [locEngDmnConnGlueMsgrcv, locEngDmnConnGluePiperead, intake, if_pos short,
      if_neg blocked, show ¬ 2147483648 ≤ 4 by decide, if_false, Option.bind_none, Option.map_none]
  · have enough : 4 ≤ pipe.length := by omega
    have four : (pipe.take 4).length = 4 := by rw [List.length_take]; omega
    have field : msgszField (overwrite msgp 0 (pipe.take 4)) = leValue (pipe.take 4) := by
      rw [msgszField_overwrite (by omega), List.take_take]
      rfl
    simp only [locEngDmnConnGlueMsgrcv, locEngDmnConnGluePiperead, intake, if_neg short,
      if_pos enough, show ¬ 2147483648 ≤ 4 by decide, show ¬ ((4 : ℕ) : ℤ) ≠ 4 by decide,
      if_false, Option.bind_some, field]
    generalize size : leValue (pipe.take 4) = msgsz at field ⊢
    generalize body : (msgsz + 4294967296 - 4) % 4294967296 = rest
    by_cases big : msgbufsz < msgsz
    · simp only [if_pos big, Option.map_some]
    · by_cases huge : 2147483648 ≤ rest
      · simp only [if_neg big, if_pos huge, Option.map_some, field]
        by_cases same : toInt rest = -1
        · simp only [same, ne_eq, not_true_eq_false, if_false, if_true]
        · have differ : ¬ (-1 : ℤ) = toInt rest := fun equal => same equal.symm
          simp only [differ, same, ne_eq, not_false_eq_true, if_true, if_false]
      · simp only [if_neg big, if_neg huge, List.length_drop]
        by_cases room : rest + 4 ≤ pipe.length
        · have there : rest ≤ pipe.length - 4 := by omega
          have same : ¬ (rest : ℤ) ≠ toInt rest := by
            rw [toInt_of_lt (by omega)]
            exact fun differ => differ rfl
          have stored : overwrite (overwrite msgp 0 (pipe.take 4)) 4 ((pipe.drop 4).take rest) =
              overwrite msgp 0 (pipe.take (rest + 4)) := by
            have parts := overwrite_append msgp 0 (pipe.take 4) ((pipe.drop 4).take rest)
            rw [four, ← List.take_add, Nat.add_comm 4 rest] at parts
            exact parts.symm
          have kept : msgszField (overwrite msgp 0 (pipe.take (rest + 4))) = msgsz := by
            rw [msgszField_overwrite (by rw [List.length_take]; omega), List.take_take,
              Nat.min_eq_left (by omega)]
            exact size
          rw [if_pos there, if_pos room, Option.map_some, Option.map_some, if_neg same, stored,
            kept, List.drop_drop, Nat.add_comm 4 rest]
        · have absent : ¬ rest ≤ pipe.length - 4 := by omega
          rw [if_neg absent, if_neg room]
          rfl

/-- One call, without the buffer: the reply, and what is left unread. -/
def frame (msgbufsz : ℕ) (pipe : Pipe) : Option (Reply × Pipe) :=
  (intake msgbufsz pipe).map fun called =>
    ((called.1, pipe.take called.1.toNat), pipe.drop called.2)

/-- Calls without the buffer. -/
def receiveFrames (msgbufsz : ℕ) : ℕ → Pipe → List Reply
  | 0, _ => []
  | count + 1, pipe =>
      match frame msgbufsz pipe with
      | none => []
      | some (reply, pipe) => reply :: receiveFrames msgbufsz count pipe

/-- The reply of a call is the beginning of the pipe. -/
theorem msgrcv_eq_frame (pipe : Pipe) (msgp : ℕ → UInt8) (msgbufsz : ℕ) :
    (locEngDmnConnGlueMsgrcv pipe msgp msgbufsz).map (fun received =>
        (((received.1, readAt received.2.1 0 received.1.toNat) : Reply), received.2.2)) =
      frame msgbufsz pipe := by
  rw [msgrcv_eq, frame, Option.map_map]
  cases called : intake msgbufsz pipe with
  | none => rfl
  | some result =>
      obtain ⟨returned, taken⟩ := result
      obtain ⟨-, there, within⟩ := intake_bounds called
      have length : (pipe.take taken).length = taken := by rw [List.length_take]; omega
      have stored := readAt_overwrite msgp 0 (pipe.take taken)
      rw [length] at stored
      simp only [Option.map_some, Function.comp_apply]
      rw [← take_readAt _ 0 within, stored, List.take_take, Nat.min_eq_left within]

/-- Calls with a buffer are calls without one. -/
theorem receiveAll_eq_receiveFrames (msgbufsz count : ℕ) (msgp : ℕ → UInt8) (pipe : Pipe) :
    receiveAll msgbufsz count msgp pipe = receiveFrames msgbufsz count pipe := by
  induction count generalizing msgp pipe with
  | zero => rfl
  | succ count ih =>
      have same := msgrcv_eq_frame pipe msgp msgbufsz
      cases received : locEngDmnConnGlueMsgrcv pipe msgp msgbufsz with
      | none =>
          rw [received, Option.map_none] at same
          simp only [receiveAll, receiveFrames, received, ← same]
      | some result =>
          obtain ⟨length, buffer, later⟩ := result
          rw [received, Option.map_some] at same
          simp only [receiveAll, receiveFrames, received, ← same, ih]

/-! ## Messages that fit -/

namespace DmnMessage

variable (message : DmnMessage)

theorem length_bytes : message.bytes.length = message.msgsz := length_readAt _ _ _

/-- The size of a message stands in front. -/
theorem take_bytes : message.bytes.take 4 = leBytes 4 message.msgsz := by
  have read := readAt_overwrite message.msgp 0 (leBytes 4 message.msgsz)
  rw [length_leBytes] at read
  rw [bytes, take_readAt _ 0 message.header, read]

end DmnMessage

/-- What has been sent is the bytes of the messages. -/
theorem sendAll_eq (messages : List DmnMessage) :
    sendAll messages = messages.flatMap DmnMessage.bytes := by
  have sent : ∀ pipe : Pipe, messages.foldl (fun pipe message =>
      (locEngDmnConnGlueMsgsnd pipe message.msgp message.msgsz).2) pipe =
        pipe ++ messages.flatMap DmnMessage.bytes := by
    induction messages with
    | nil => simp
    | cons message rest ih =>
        intro pipe
        rw [List.foldl_cons, ih, List.flatMap_cons, ← List.append_assoc]
        rfl
  exact sent []

/-- The size that a call on a message reads. -/
theorem leValue_bytes (message : DmnMessage) (later : Pipe) :
    leValue ((message.bytes ++ later).take 4) = message.msgsz := by
  have header := message.header
  have length := message.length_bytes
  rw [List.take_append_of_le_length (by omega), message.take_bytes,
    leValue_leBytes message.isSize]

/-- A call on a message that fits. -/
theorem frame_fits {msgbufsz : ℕ} {message : DmnMessage} (fits : message.msgsz ≤ msgbufsz)
    (isInt : message.msgsz < 2147483648) (later : Pipe) :
    frame msgbufsz (message.bytes ++ later) = some (message.reply msgbufsz, later) := by
  have header := message.header
  have length := message.length_bytes
  have rest : (message.msgsz + 4294967296 - 4) % 4294967296 + 4 = message.msgsz := by omega
  have called : intake msgbufsz (message.bytes ++ later) =
      some ((message.msgsz : ℤ), message.msgsz) := by
    simp only [intake, leValue_bytes, rest, List.length_append, length]
    rw [if_neg (by omega), if_neg (by omega), if_neg (by omega), if_pos (by omega),
      toInt_of_lt isInt]
  rw [frame, called, Option.map_some, DmnMessage.reply, if_pos fits, Int.toNat_natCast,
    List.take_left' length, List.drop_left' length]

/-- A call on a message that does not fit leaves all but its size. -/
theorem frame_tooLarge {msgbufsz : ℕ} {message : DmnMessage}
    (tooLarge : ¬ message.msgsz ≤ msgbufsz) (later : Pipe) :
    frame msgbufsz (message.bytes ++ later) =
      some (message.reply msgbufsz, (message.bytes ++ later).drop 4) := by
  have header := message.header
  have length := message.length_bytes
  have called : intake msgbufsz (message.bytes ++ later) = some (-1, 4) := by
    simp only [intake, leValue_bytes, List.length_append, length]
    rw [if_neg (by omega), if_pos (by omega)]
  rw [frame, called, Option.map_some, DmnMessage.reply, if_neg tooLarge]
  rfl

theorem intake_of_frame {msgbufsz : ℕ} {pipe later : Pipe} {reply : Reply}
    (framed : frame msgbufsz pipe = some (reply, later)) :
    ∃ taken, intake msgbufsz pipe = some (reply.1, taken) ∧ later = pipe.drop taken := by
  cases called : intake msgbufsz pipe with
  | none => simp [frame, called] at framed
  | some result =>
      simp only [frame, called, Option.map_some, Option.some.injEq, Prod.mk.injEq] at framed
      obtain ⟨rfl, rfl⟩ := framed
      exact ⟨result.2, rfl, rfl⟩

/-- What the receiver reads of a message: all of it, or its size only. -/
def DmnMessage.consumed (msgbufsz : ℕ) (message : DmnMessage) : ℕ :=
  if message.msgsz ≤ msgbufsz then message.msgsz else 4

/-- A call that returns what it should has read so much. -/
theorem frame_consumes {msgbufsz : ℕ} {message : DmnMessage} {pipe later : Pipe}
    (framed : frame msgbufsz pipe = some (message.reply msgbufsz, later)) :
    later = pipe.drop (message.consumed msgbufsz) ∧
      (message.msgsz ≤ msgbufsz → message.msgsz < 2147483648) := by
  have header := message.header
  obtain ⟨taken, called, rfl⟩ := intake_of_frame framed
  obtain ⟨-, which⟩ := intake_cases called
  by_cases fits : message.msgsz ≤ msgbufsz
  · have returned : (message.reply msgbufsz).1 = message.msgsz := by
      rw [DmnMessage.reply, if_pos fits]
    rw [DmnMessage.consumed, if_pos fits]
    have same : taken = message.msgsz ∧ message.msgsz < 2147483648 := by
      rcases which with ⟨refused, -⟩ | ⟨failed, -⟩ | ⟨accepted, -, -, -, bound, -⟩
      · omega
      · omega
      · rw [returned] at accepted
        unfold toInt at accepted
        split at accepted <;> omega
    exact ⟨by rw [same.1], fun _ => same.2⟩
  · have returned : (message.reply msgbufsz).1 = -1 := by
      rw [DmnMessage.reply, if_neg fits]
    rw [DmnMessage.consumed, if_neg fits]
    have same : taken = 4 := by
      rcases which with ⟨-, same, -⟩ | ⟨-, same, -⟩ | ⟨accepted, -, -, -, bound, -⟩
      · exact same
      · exact same
      · rw [returned] at accepted
        unfold toInt at accepted
        split at accepted <;> omega
    exact ⟨by rw [same], fun fits' => absurd fits' fits⟩

/-- The header-only message. -/
def DmnMessage.headerOnly : DmnMessage := ⟨fun _ => 0, 4, Nat.le_refl 4, by decide⟩

/-- Calls that return what they should have read so much. -/
theorem receiveFrames_consumes {msgbufsz count : ℕ} {messages : List DmnMessage} {pipe : Pipe}
    {more : List Reply} (received : receiveFrames msgbufsz (messages.length + count) pipe =
      messages.map (DmnMessage.reply msgbufsz) ++ more) :
    receiveFrames msgbufsz count
        (pipe.drop (messages.map (DmnMessage.consumed msgbufsz)).sum) = more ∧
      ∀ message ∈ messages, message.msgsz ≤ msgbufsz → message.msgsz < 2147483648 := by
  induction messages generalizing pipe with
  | nil =>
      refine ⟨?_, fun _ member => absurd member List.not_mem_nil⟩
      simpa using received
  | cons message rest ih =>
      rw [List.length_cons, Nat.add_right_comm, List.map_cons, List.cons_append] at received
      cases framed : frame msgbufsz pipe with
      | none => simp [receiveFrames, framed] at received
      | some result =>
          obtain ⟨reply, later⟩ := result
          simp only [receiveFrames, framed] at received
          obtain ⟨rfl, tail⟩ := List.cons.inj received
          obtain ⟨rfl, isInt⟩ := frame_consumes framed
          obtain ⟨after, others⟩ := ih tail
          rw [List.map_cons, List.sum_cons, ← List.drop_drop, List.forall_mem_cons]
          exact ⟨after, isInt, others⟩

/-- Calls on messages that fit. -/
theorem receiveFrames_fit {msgbufsz : ℕ} {messages : List DmnMessage}
    (fit : ∀ message ∈ messages, message.msgsz ≤ msgbufsz ∧ message.msgsz < 2147483648)
    (count : ℕ) (later : Pipe) :
    receiveFrames msgbufsz (messages.length + count)
        (messages.flatMap DmnMessage.bytes ++ later) =
      messages.map (DmnMessage.reply msgbufsz) ++ receiveFrames msgbufsz count later := by
  induction messages with
  | nil => simp
  | cons message rest ih =>
      obtain ⟨⟨fits, isInt⟩, others⟩ := List.forall_mem_cons.mp fit
      rw [List.length_cons, Nat.add_right_comm, List.flatMap_cons, List.append_assoc,
        List.map_cons, List.cons_append, ← ih others]
      simp only [receiveFrames, frame_fits fits isInt]

/-- What the receiver has not read of messages that do not all fit. -/
theorem consumed_lt {msgbufsz : ℕ} (room : 4 ≤ msgbufsz) {messages : List DmnMessage}
    {large : DmnMessage} (member : large ∈ messages) (tooLarge : ¬ large.msgsz ≤ msgbufsz) :
    (messages.map (DmnMessage.consumed msgbufsz)).sum <
      (messages.flatMap DmnMessage.bytes).length := by
  have each : ∀ message : DmnMessage, message.consumed msgbufsz ≤ message.bytes.length := by
    intro message
    rw [message.length_bytes, DmnMessage.consumed]
    split
    · exact Nat.le_refl _
    · exact message.header
  have all : ∀ messages : List DmnMessage, (messages.map (DmnMessage.consumed msgbufsz)).sum ≤
      (messages.flatMap DmnMessage.bytes).length := by
    intro messages
    induction messages with
    | nil => exact Nat.le_refl 0
    | cons message rest ih =>
        have here := each message
        rw [List.map_cons, List.sum_cons, List.flatMap_cons, List.length_append]
        omega
  obtain ⟨before, after, rfl⟩ := List.append_of_mem member
  have early := all before
  have late := all after
  have strict : large.consumed msgbufsz < large.bytes.length := by
    rw [large.length_bytes, DmnMessage.consumed, if_neg tooLarge]
    omega
  simp only [List.map_append, List.map_cons, List.sum_append, List.sum_cons, List.flatMap_append,
    List.flatMap_cons, List.length_append]
  omega

/-- A call returns 4 exactly when it reads that size. -/
theorem frame_four {msgbufsz : ℕ} (room : 4 ≤ msgbufsz) {pipe later : Pipe} {reply : Reply}
    (framed : frame msgbufsz pipe = some (reply, later)) :
    reply.1 = 4 ↔ leValue (pipe.take 4) = 4 := by
  obtain ⟨taken, called, -⟩ := intake_of_frame framed
  obtain ⟨-, ⟨refused, -, why⟩ | ⟨failed, -, three⟩ | ⟨accepted, size, -, -, bound, -⟩⟩ :=
    intake_cases called
  · omega
  · omega
  · rw [accepted, ← size]
    unfold toInt
    split <;> omega

theorem frame_of_receiveFrames {msgbufsz : ℕ} {pipe : Pipe} {reply : Reply}
    (received : receiveFrames msgbufsz 1 pipe = [reply]) :
    ∃ later, frame msgbufsz pipe = some (reply, later) := by
  cases framed : frame msgbufsz pipe with
  | none => simp [receiveFrames, framed] at received
  | some result =>
      simp only [receiveFrames, framed, List.cons.injEq, and_true] at received
      exact ⟨result.2, by rw [← received]⟩

/-- Where bytes of a message are left, a small message and a large one cannot both be
told apart. -/
theorem out_of_step {msgbufsz : ℕ} (room : 4 ≤ msgbufsz) {large : DmnMessage}
    (tooLarge : ¬ large.msgsz ≤ msgbufsz) {left : Pipe} (some_ : left ≠ [])
    (small : receiveFrames msgbufsz 1 (left ++ DmnMessage.headerOnly.bytes) =
      [DmnMessage.headerOnly.reply msgbufsz])
    (refused : receiveFrames msgbufsz 1 (left ++ large.bytes) = [large.reply msgbufsz]) :
    False := by
  obtain ⟨_, framedSmall⟩ := frame_of_receiveFrames small
  obtain ⟨_, framedLarge⟩ := frame_of_receiveFrames refused
  have four : (DmnMessage.headerOnly.reply msgbufsz).1 = 4 := by
    rw [DmnMessage.reply, if_pos (show DmnMessage.headerOnly.msgsz ≤ msgbufsz from room)]
    rfl
  have notFour : (large.reply msgbufsz).1 ≠ 4 := by
    rw [DmnMessage.reply, if_neg tooLarge]
    decide
  have read := (frame_four room framedSmall).mp four
  have notRead := fun same => notFour ((frame_four room framedLarge).mpr same)
  by_cases enough : 4 ≤ left.length
  · -- the size is read from what is left
    rw [List.take_append_of_le_length enough] at read notRead
    exact notRead read
  · -- the size is read across the boundary
    have bytes : DmnMessage.headerOnly.bytes = [4, 0, 0, 0] := by decide
    have short : left.length = 1 ∨ left.length = 2 ∨ left.length = 3 := by
      have := List.length_pos_iff.mpr some_
      omega
    rw [List.take_append, List.take_of_length_le (by omega), bytes, leValue_append] at read
    rcases short with one | two | three
    · rw [one, show leValue (([4, 0, 0, 0] : List UInt8).take (4 - 1)) = 4 by decide] at read
      omega
    · rw [two, show leValue (([4, 0, 0, 0] : List UInt8).take (4 - 2)) = 4 by decide] at read
      omega
    · rw [three, show leValue (([4, 0, 0, 0] : List UInt8).take (4 - 3)) = 4 by decide] at read
      omega

/-- **The framing stays in step exactly for messages that fit**, and whose sizes an `int`
can hold. -/
theorem staysInStep_iff {msgbufsz : ℕ} (room : 4 ≤ msgbufsz) (msgp : ℕ → UInt8)
    (messages : List DmnMessage) :
    StaysInStep msgbufsz msgp messages ↔
      ∀ message ∈ messages, message.msgsz ≤ msgbufsz ∧ message.msgsz < 2147483648 := by
  simp only [StaysInStep, receiveAll_eq_receiveFrames, sendAll_eq, List.flatMap_append]
  constructor
  · intro inStep message member
    have afterwards : ∀ later : List DmnMessage,
        receiveFrames msgbufsz later.length ((messages.flatMap DmnMessage.bytes ++
          later.flatMap DmnMessage.bytes).drop
            (messages.map (DmnMessage.consumed msgbufsz)).sum) =
          receiveFrames msgbufsz later.length (later.flatMap DmnMessage.bytes) :=
      fun later => (receiveFrames_consumes (inStep later)).1
    have isInt := (receiveFrames_consumes (inStep [])).2 message member
    by_cases fits : message.msgsz ≤ msgbufsz
    · exact ⟨fits, isInt fits⟩
    · exfalso
      have less := consumed_lt room member fits
      have left : (messages.flatMap DmnMessage.bytes).drop
          (messages.map (DmnMessage.consumed msgbufsz)).sum ≠ [] := by
        rw [ne_eq, List.drop_eq_nil_iff]
        omega
      have single : ∀ later : DmnMessage,
          receiveFrames msgbufsz 1 later.bytes = [later.reply msgbufsz] →
          receiveFrames msgbufsz 1 ((messages.flatMap DmnMessage.bytes).drop
            (messages.map (DmnMessage.consumed msgbufsz)).sum ++ later.bytes) =
              [later.reply msgbufsz] := by
        intro later alone
        have same := afterwards [later]
        rw [List.length_singleton, List.flatMap_singleton, alone,
          List.drop_append_of_le_length (Nat.le_of_lt less)] at same
        exact same
      refine out_of_step room fits left (single _ ?_) (single message ?_)
      · have framed : frame msgbufsz (DmnMessage.headerOnly.bytes ++ []) = _ :=
          frame_fits room (by decide) []
        rw [List.append_nil] at framed
        simp only [receiveFrames, framed]
      · have framed := frame_tooLarge fits []
        rw [List.append_nil] at framed
        simp only [receiveFrames, framed]
  · intro fit later
    exact receiveFrames_fit fit _ _

/-- A message of one byte more than the buffer of `loc_api_server_proc` holds, all of it
zero but its size, is followed by one that fits. The second call reads the size of a
message in the rest of the first one. -/
theorem not_staysInStep : ∃ large : DmnMessage, large.msgsz = 369 ∧
    ¬ StaysInStep 368 (fun _ => 0) [large] := by
  refine ⟨⟨fun _ => 0, 369, by decide, by decide⟩, rfl, fun inStep => ?_⟩
  have same := inStep [.headerOnly]
  exact absurd same (by decide +kernel)

/-- Two messages that fit. -/
theorem staysInStep_iff_fit : StaysInStep 368 (fun _ => 0)
    [⟨fun _ => 7, 368, by decide, by decide⟩, .headerOnly] :=
  (staysInStep_iff (by decide) _ _).mpr (by
    intro message member
    rcases List.mem_cons.mp member with rfl | member
    · decide
    · cases List.mem_singleton.mp member
      decide)

end Msm8660.Gps
