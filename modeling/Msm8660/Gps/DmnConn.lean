import Msm8660.Gps.DmnPipe
import Msm8660.Gps.LocEngMsg
import Msm8660.Lib.CString
import Mathlib.Data.List.TakeWhile

/-!
# What a message of the daemon does

`loc_api_server_proc` receives one message into a buffer that it has just allocated and
hands it to the handler of its `ctrl_type`. The handlers are told how long the message
is, but they do not look at it: they read their fields wherever `struct ctrl_msgbuf` has
them, so that behind the end of the message they read what was in the buffer before.
-/

set_option autoImplicit false

namespace Msm8660.Gps

/-- Whether an interface is requested or released. -/
inductive IfKind where
  | request
  | release
deriving DecidableEq, Repr

/-- `loc_eng_msg_request_wifi` and `loc_eng_msg_release_wifi`, and `loc_eng_msg_request_bit`
and `loc_eng_msg_release_bit`, with what their constructors copy. -/
inductive IfMessage where
  | wifi (kind : IfKind) (ifType : LocIfReqType) (senderId : LocIfReqSenderId)
      (ssid password : List UInt8)
  | bit (kind : IfKind) (ifType : LocIfReqType) (ipv4Addr : BitVec 32) (ipv6Addr : List UInt8)
deriving DecidableEq

/-! ## `struct ctrl_msgbuf` -/

/-- `sizeof(struct ctrl_msgbuf)`, where pointers, `size_t` and enumerations have four
bytes. -/
def sizeofCtrlMsgbuf : ℕ := 112

/-- `ctrl_type`. -/
def ctrlType (pmsg : ℕ → UInt8) : UInt8 := pmsg 12

/-- `GPSONE_LOC_API_IF_REQUEST`. -/
def gpsoneLocApiIfRequest : UInt8 := 0xF0

/-- `GPSONE_LOC_API_IF_RELEASE`. -/
def gpsoneLocApiIfRelease : UInt8 := 0xF1

/-- `cmsg.cmsg_if_request.type`, if it is one of the three that there are. -/
def ifRequestType (pmsg : ℕ → UInt8) : Option LocIfReqType :=
  match leValue (readAt pmsg 16 4) with
  | 0 => some .supl
  | 1 => some .wifi
  | 2 => some .any
  | _ => none

/-- `cmsg.cmsg_if_request.sender_id`. -/
def ifRequestSenderId (pmsg : ℕ → UInt8) : ℕ := leValue (readAt pmsg 20 4)

/-- `cmsg.cmsg_if_request.ipv4_addr`. -/
def ipv4AddrField (pmsg : ℕ → UInt8) : BitVec 32 := BitVec.ofNat 32 (leValue (readAt pmsg 24 4))

/-- `cmsg.cmsg_if_request.ipv6_addr`. -/
def ipv6AddrField (pmsg : ℕ → UInt8) : List UInt8 := readAt pmsg 28 16

/-- The string that `strlcpy` makes of a field of `SSID_BUF_SIZE` bytes. -/
def stringField (pmsg : ℕ → UInt8) (offset : ℕ) : List UInt8 :=
  cString (ssidBufSize - 1) (readAt pmsg offset ssidBufSize)

/-- Where `cmsg.cmsg_if_request.ssid` is. -/
def ssidOffset : ℕ := 44

/-- Where `cmsg.cmsg_if_request.password` is. -/
def passwordOffset : ℕ := 77

/-! ## The handlers -/

/-- What both handlers do: the type and the sender are looked at, and a message is
posted. -/
def ifHandler (kind : IfKind) (pmsg : ℕ → UInt8) : ℤ × Option IfMessage :=
  match ifRequestType pmsg with
  | none => (-1, none)
  | some type =>
      match ifRequestSenderId pmsg with
      | 0 => (0, some (.wifi kind type .quipc (stringField pmsg ssidOffset)
          (stringField pmsg passwordOffset)))
      | 1 => (0, some (.wifi kind type .msapm (stringField pmsg ssidOffset)
          (stringField pmsg passwordOffset)))
      | 2 => (0, some (.bit kind type (ipv4AddrField pmsg) (ipv6AddrField pmsg)))
      | _ => (-1, none)

/-- `loc_eng_dmn_conn_loc_api_server_if_request_handler`, with the message it posts. -/
def ifRequestHandler (locApiHandle : Bool) (pmsg : ℕ → UInt8) (_len : ℤ) : ℤ × Option IfMessage :=
  if locApiHandle then ifHandler .request pmsg else (1, none)

/-- `loc_eng_dmn_conn_loc_api_server_if_release_handler`, with the message it posts. -/
def ifReleaseHandler (pmsg : ℕ → UInt8) (_len : ℤ) : ℤ × Option IfMessage :=
  ifHandler .release pmsg

/-- The part of `loc_api_server_proc` behind the receipt of a message: what it posts. -/
def dispatch (locApiHandle : Bool) (pCmsgbuf : ℕ → UInt8) (length : ℤ) : Option IfMessage :=
  if ctrlType pCmsgbuf = gpsoneLocApiIfRequest then
    (ifRequestHandler locApiHandle pCmsgbuf length).2
  else if ctrlType pCmsgbuf = gpsoneLocApiIfRelease then (ifReleaseHandler pCmsgbuf length).2
  else none

/-- `loc_api_server_proc`, where `malloc` has returned a buffer: what it posts, if it does
not block. -/
def locApiServerProc (locApiHandle : Bool) (pCmsgbuf : ℕ → UInt8) (pipe : Pipe) :
    Option (Option IfMessage) :=
  (locEngDmnConnGlueMsgrcv pipe pCmsgbuf (sizeofCtrlMsgbuf + 256)).map fun received =>
    if received.1 ≤ 0 then none else dispatch locApiHandle received.2.1 received.1

/-! ## What the message decides -/

/-- The message goes to `ifHandler`. -/
def Handled (locApiHandle : Bool) (message : List UInt8) : Prop :=
  message[12]? = some gpsoneLocApiIfRelease ∨
    message[12]? = some gpsoneLocApiIfRequest ∧ locApiHandle = true

/-- A byte of the message rules out every type or every sender that there is. -/
def Excludes (message : List UInt8) : Prop :=
  ∃ offset byte, 16 ≤ offset ∧ offset < 24 ∧ message[offset]? = some byte ∧
    if offset % 4 = 0 then 2 < byte.toNat else byte ≠ 0

/-- The message has every byte that decides what it does: its `ctrl_type`, and if that is
handled, a byte that rules the request out, or the type, the sender and the addresses, or
instead of these the strings up to the end of the second one. -/
def Decides (locApiHandle : Bool) (message : List UInt8) : Prop :=
  12 < message.length ∧
    (Handled locApiHandle message → Excludes message ∨
      24 ≤ message.length ∧
        if message[20]? = some 2 then 44 ≤ message.length
        else 109 ≤ message.length ∨ 0 ∈ message.drop passwordOffset)

/-! ## The fields -/

theorem leValue_word (pmsg : ℕ → UInt8) (offset : ℕ) : leValue (readAt pmsg offset 4) =
    (pmsg offset).toNat + 256 * ((pmsg (offset + 1)).toNat +
      256 * ((pmsg (offset + 2)).toNat + 256 * (pmsg (offset + 3)).toNat)) := by
  simp [readAt, List.range_succ, leValue]

/-- An enumeration of three values. -/
theorem word_le_two_iff (pmsg : ℕ → UInt8) (offset : ℕ) : leValue (readAt pmsg offset 4) ≤ 2 ↔
    (pmsg offset).toNat ≤ 2 ∧ pmsg (offset + 1) = 0 ∧ pmsg (offset + 2) = 0 ∧
      pmsg (offset + 3) = 0 := by
  rw [leValue_word, ← UInt8.toNat_inj, ← UInt8.toNat_inj, ← UInt8.toNat_inj]
  simp only [UInt8.toNat_zero]
  omega

/-- The bytes of the type and of the sender are those of values that there are. -/
def WellFormed (pmsg : ℕ → UInt8) : Prop :=
  leValue (readAt pmsg 16 4) ≤ 2 ∧ leValue (readAt pmsg 20 4) ≤ 2

theorem ifHandler_of_not_wellFormed {pmsg : ℕ → UInt8} (malformed : ¬ WellFormed pmsg)
    (kind : IfKind) : (ifHandler kind pmsg).2 = none := by
  unfold ifHandler
  cases type : ifRequestType pmsg with
  | none => rfl
  | some ifType =>
      have known : leValue (readAt pmsg 16 4) ≤ 2 := by
        unfold ifRequestType at type
        split at type <;> first | omega | cases type
      have unknown : 2 < ifRequestSenderId pmsg := by
        have := malformed
        unfold WellFormed at this
        unfold ifRequestSenderId
        omega
      simp only []
      split <;> first | omega | rfl

/-- What is posted for a type and a sender that there are. -/
theorem ifHandler_of_wellFormed {pmsg : ℕ → UInt8} (wellFormed : WellFormed pmsg) (kind : IfKind) :
    ∃ ifType senderId, (ifHandler kind pmsg).2 =
      some (if ifRequestSenderId pmsg = 2 then
        .bit kind ifType (ipv4AddrField pmsg) (ipv6AddrField pmsg)
      else .wifi kind ifType senderId (stringField pmsg ssidOffset)
        (stringField pmsg passwordOffset)) := by
  obtain ⟨knownType, knownSender⟩ := wellFormed
  have type : ∃ ifType, ifRequestType pmsg = some ifType := by
    unfold ifRequestType
    generalize leValue (readAt pmsg 16 4) = value at knownType
    match value, knownType with
    | 0, _ => exact ⟨_, rfl⟩
    | 1, _ => exact ⟨_, rfl⟩
    | 2, _ => exact ⟨_, rfl⟩
  obtain ⟨ifType, type⟩ := type
  have sender : ifRequestSenderId pmsg = 0 ∨ ifRequestSenderId pmsg = 1 ∨
      ifRequestSenderId pmsg = 2 := by
    unfold ifRequestSenderId
    omega
  unfold ifHandler
  rcases sender with zero | one | two
  · exact ⟨ifType, .quipc, by rw [type, zero]; rfl⟩
  · exact ⟨ifType, .msapm, by rw [type, one]; rfl⟩
  · exact ⟨ifType, .quipc, by rw [type, two]; rfl⟩

/-- The same byte by byte. -/
theorem wellFormed_iff {pmsg : ℕ → UInt8} : WellFormed pmsg ↔
    ∀ offset, 16 ≤ offset → offset < 24 →
      if offset % 4 = 0 then (pmsg offset).toNat ≤ 2 else pmsg offset = 0 := by
  rw [WellFormed, word_le_two_iff, word_le_two_iff]
  constructor
  · rintro ⟨⟨type, type₁, type₂, type₃⟩, sender, sender₁, sender₂, sender₃⟩ offset after before
    have which : offset = 16 ∨ offset = 17 ∨ offset = 18 ∨ offset = 19 ∨ offset = 20 ∨
        offset = 21 ∨ offset = 22 ∨ offset = 23 := by omega
    rcases which with rfl | rfl | rfl | rfl | rfl | rfl | rfl | rfl <;> assumption
  · intro each
    exact ⟨⟨each 16 (by decide) (by decide), each 17 (by decide) (by decide),
      each 18 (by decide) (by decide), each 19 (by decide) (by decide)⟩,
      each 20 (by decide) (by decide), each 21 (by decide) (by decide),
      each 22 (by decide) (by decide), each 23 (by decide) (by decide)⟩

/-- The first byte of the sender. -/
theorem ifRequestSenderId_mod (pmsg : ℕ → UInt8) :
    ifRequestSenderId pmsg % 256 = (pmsg 20).toNat := by
  have small : (pmsg 20).toNat < 256 := (pmsg 20).toNat_lt
  rw [ifRequestSenderId, leValue_word]
  omega

/-- A sender that there is, is told by its first byte. -/
theorem ifRequestSenderId_eq_two_iff {pmsg : ℕ → UInt8} (wellFormed : WellFormed pmsg) :
    ifRequestSenderId pmsg = 2 ↔ pmsg 20 = 2 := by
  have first := ifRequestSenderId_mod pmsg
  have small : ifRequestSenderId pmsg ≤ 2 := wellFormed.2
  rw [← UInt8.toNat_inj, ← first, Nat.mod_eq_of_lt (by omega)]
  rfl

/-- What is posted depends on the type, the sender and the fields for that sender. -/
theorem ifHandler_congr {first second : ℕ → UInt8} (kind : IfKind)
    (type : ifRequestType first = ifRequestType second)
    (sender : ifRequestSenderId first = ifRequestSenderId second)
    (addresses : ifRequestSenderId second = 2 →
      ipv4AddrField first = ipv4AddrField second ∧ ipv6AddrField first = ipv6AddrField second)
    (strings : ifRequestSenderId second < 2 →
      stringField first ssidOffset = stringField second ssidOffset ∧
        stringField first passwordOffset = stringField second passwordOffset) :
    ifHandler kind first = ifHandler kind second := by
  unfold ifHandler
  rw [type, sender]
  generalize ifRequestSenderId second = senderId at addresses strings
  cases ifRequestType second with
  | none => rfl
  | some ifType =>
      match senderId with
      | 0 =>
          obtain ⟨ssid, password⟩ := strings (by decide)
          simp only [ssid, password]
      | 1 =>
          obtain ⟨ssid, password⟩ := strings (by decide)
          simp only [ssid, password]
      | 2 =>
          obtain ⟨ipv4, ipv6⟩ := addresses rfl
          simp only [ipv4, ipv6]
      | _ + 3 => rfl

/-! ## Two buffers -/

section Buffers

variable {message : List UInt8}

/-- What is received does not depend on the buffer. -/
theorem receivedAt_eq (fill : ℕ → UInt8) {address : ℕ} {byte : UInt8}
    (received : message[address]? = some byte) : overwrite fill 0 message address = byte := by
  rw [overwrite_zero, List.getD_eq_getElem?_getD, received, Option.getD_some]

/-- Behind the end of the message, the buffer is as before. -/
theorem unreceivedAt_eq (fill : ℕ → UInt8) {address : ℕ} (behind : message.length ≤ address) :
    overwrite fill 0 message address = fill address :=
  overwrite_outside (Or.inr (by omega))

theorem received_agree (first second : ℕ → UInt8) {address : ℕ} (here : address < message.length) :
    overwrite first 0 message address = overwrite second 0 message address := by
  rw [receivedAt_eq first (List.getElem?_eq_getElem here),
    receivedAt_eq second (List.getElem?_eq_getElem here)]

theorem readAt_agree (first second : ℕ → UInt8) {start count : ℕ}
    (within : start + count ≤ message.length) :
    readAt (overwrite first 0 message) start count =
      readAt (overwrite second 0 message) start count := by
  apply List.map_congr_left
  intro offset member
  have inside := List.mem_range.mp member
  exact received_agree first second (by omega)

theorem stringField_eq (pmsg : ℕ → UInt8) (offset : ℕ) :
    stringField pmsg offset = (readAt pmsg offset 32).takeWhile (· ≠ 0) := by
  rw [stringField, cString, take_readAt pmsg offset (by decide)]
  rfl

/-- A string is received if all that is copied is, or its end. -/
theorem stringField_agree (first second : ℕ → UInt8) {offset : ℕ}
    (ended : offset + 32 ≤ message.length ∨ 0 ∈ message.drop offset) :
    stringField (overwrite first 0 message) offset =
      stringField (overwrite second 0 message) offset := by
  rw [stringField_eq, stringField_eq]
  by_cases all : offset + 32 ≤ message.length
  · rw [readAt_agree first second all]
  · have zero := ended.resolve_left all
    obtain ⟨place, here, isZero⟩ := List.mem_iff_getElem.mp zero
    rw [List.length_drop] at here
    rw [List.getElem_drop] at isZero
    obtain ⟨more, split⟩ : ∃ more, 32 = place + 1 + more :=
      Nat.exists_eq_add_of_le (by omega)
    have zeroRead : ∀ fill : ℕ → UInt8,
        0 ∈ readAt (overwrite fill 0 message) offset (place + 1) := by
      intro fill
      have member : overwrite fill 0 message (offset + place) ∈
          readAt (overwrite fill 0 message) offset (place + 1) :=
        List.mem_map.mpr ⟨place, List.mem_range.mpr (by omega), rfl⟩
      rwa [receivedAt_eq fill (List.getElem?_eq_getElem (by omega)), isZero] at member
    have upTo : ∀ fill : ℕ → UInt8,
        (readAt (overwrite fill 0 message) offset 32).takeWhile (· ≠ 0) =
          (readAt (overwrite fill 0 message) offset (place + 1)).takeWhile (· ≠ 0) := by
      intro fill
      rw [split, readAt_add _ _ (place + 1), takeWhile_append_of_zero_mem (zeroRead fill)]
    rw [upTo, upTo, readAt_agree first second (by omega)]

theorem not_wellFormed_of_excludes (excludes : Excludes message) (fill : ℕ → UInt8) :
    ¬ WellFormed (overwrite fill 0 message) := by
  obtain ⟨offset, byte, after, before, received, wrong⟩ := excludes
  intro wellFormed
  have right := wellFormed_iff.mp wellFormed offset after before
  rw [receivedAt_eq fill received] at right
  split at wrong
  · next word =>
      rw [if_pos word] at right
      omega
  · next word =>
      rw [if_neg word] at right
      exact wrong right

/-- A message that rules nothing out, followed by zero bytes. -/
theorem wellFormed_of_not_excludes (open_ : ¬ Excludes message) {fill : ℕ → UInt8}
    (fits : message.length < 24 → ∀ address, fill address = 0) :
    WellFormed (overwrite fill 0 message) := by
  rw [wellFormed_iff]
  intro offset after before
  by_cases here : offset < message.length
  · have received := List.getElem?_eq_getElem here
    rw [receivedAt_eq fill received]
    by_contra wrong
    apply open_
    refine ⟨offset, _, after, before, received, ?_⟩
    split at wrong
    · next word =>
        rw [if_pos word]
        omega
    · next word =>
        rw [if_neg word]
        exact wrong
  · rw [unreceivedAt_eq fill (by omega), fits (by omega)]
    split
    · exact Nat.zero_le 2
    · rfl

/-- What a message that has been received does. -/
theorem dispatch_eq_none {locApiHandle : Bool} {length : ℤ}
    (received : 12 < message.length) (unhandled : ¬ Handled locApiHandle message)
    (fill : ℕ → UInt8) : dispatch locApiHandle (overwrite fill 0 message) length = none := by
  have byte := List.getElem?_eq_getElem received
  have type : ctrlType (overwrite fill 0 message) = message[12] := receivedAt_eq fill byte
  simp only [Handled, byte, Option.some.injEq, not_or, not_and, Bool.not_eq_true] at unhandled
  obtain ⟨notRelease, noHandle⟩ := unhandled
  unfold dispatch
  rw [type, if_neg notRelease]
  split
  · next request => rw [noHandle request]; rfl
  · rfl

theorem dispatch_eq_ifHandler {locApiHandle : Bool} (handled : Handled locApiHandle message) :
    ∃ kind, ∀ (fill : ℕ → UInt8) (length : ℤ),
      dispatch locApiHandle (overwrite fill 0 message) length =
        (ifHandler kind (overwrite fill 0 message)).2 := by
  rcases handled with release | ⟨request, handle⟩
  · refine ⟨.release, ?_⟩
    intro fill length
    have type : ctrlType (overwrite fill 0 message) = gpsoneLocApiIfRelease :=
      receivedAt_eq fill release
    rw [dispatch, type]
    rfl
  · refine ⟨.request, ?_⟩
    intro fill length
    have type : ctrlType (overwrite fill 0 message) = gpsoneLocApiIfRequest :=
      receivedAt_eq fill request
    rw [dispatch, type, handle]
    rfl

/-- A message that decides what it does. -/
theorem dispatch_agree {locApiHandle : Bool} (decides : Decides locApiHandle message)
    (first second : ℕ → UInt8) (length : ℤ) :
    dispatch locApiHandle (overwrite first 0 message) length =
      dispatch locApiHandle (overwrite second 0 message) length := by
  obtain ⟨received, fields⟩ := decides
  by_cases handled : Handled locApiHandle message
  · obtain ⟨kind, handler⟩ := dispatch_eq_ifHandler handled
    rw [handler, handler]
    rcases fields handled with excludes | ⟨header, rest⟩
    · rw [ifHandler_of_not_wellFormed (not_wellFormed_of_excludes excludes first),
        ifHandler_of_not_wellFormed (not_wellFormed_of_excludes excludes second)]
    · have byte := List.getElem?_eq_getElem (show 20 < message.length by omega)
      have sender := ifRequestSenderId_mod (overwrite second 0 message)
      rw [receivedAt_eq second byte] at sender
      simp only [byte, Option.some.injEq] at rest
      apply congrArg Prod.snd
      apply ifHandler_congr
      · rw [ifRequestType, ifRequestType, readAt_agree first second (by omega)]
      · exact congrArg leValue (readAt_agree first second (by omega))
      · intro two
        have isTwo : message[20] = 2 := by
          rw [← UInt8.toNat_inj, ← sender, two]
          rfl
        rw [if_pos isTwo] at rest
        constructor
        · rw [ipv4AddrField, ipv4AddrField, readAt_agree first second (by omega)]
        · exact readAt_agree first second (by omega)
      · intro below
        have notTwo : message[20] ≠ 2 := by
          intro isTwo
          rw [isTwo] at sender
          change _ = 2 at sender
          omega
        rw [if_neg notTwo] at rest
        have long : 77 ≤ message.length := by
          rcases rest with all | ended
          · omega
          · have := List.length_pos_of_mem ended
            rw [List.length_drop] at this
            change 0 < message.length - 77 at this
            omega
        constructor
        · exact stringField_agree first second (Or.inl (show 44 + 32 ≤ message.length by omega))
        · exact stringField_agree first second rest
  · rw [dispatch_eq_none received handled, dispatch_eq_none received handled]

/-- Without the `ctrl_type`, a request may be found in the buffer. -/
theorem dispatch_differs_type (locApiHandle : Bool) (short : message.length ≤ 12) (length : ℤ) :
    ∃ first second : ℕ → UInt8,
      dispatch locApiHandle (overwrite first 0 message) length ≠
        dispatch locApiHandle (overwrite second 0 message) length := by
  refine ⟨fun _ => 0, fun address => if address = 12 then gpsoneLocApiIfRelease else 0, ?_⟩
  have nothing : dispatch locApiHandle (overwrite (fun _ => 0) 0 message) length = none := by
    have type : ctrlType (overwrite (fun _ => 0) 0 message) = 0 := unreceivedAt_eq _ short
    rw [dispatch, type]
    rfl
  generalize made : (fun address => if address = 12 then gpsoneLocApiIfRelease else 0) = fill
  have type : ctrlType (overwrite fill 0 message) = gpsoneLocApiIfRelease := by
    rw [ctrlType, unreceivedAt_eq fill short, ← made]
    rfl
  have wellFormed : WellFormed (overwrite fill 0 message) := by
    rw [wellFormed_iff]
    intro offset after before
    have zero : fill offset = 0 := by
      rw [← made]
      exact if_neg (by omega)
    rw [unreceivedAt_eq fill (by omega), zero]
    split
    · exact Nat.zero_le 2
    · rfl
  obtain ⟨ifType, senderId, posted⟩ := ifHandler_of_wellFormed wellFormed .release
  intro same
  have released : dispatch locApiHandle (overwrite fill 0 message) length =
      (ifHandler .release (overwrite fill 0 message)).2 := by
    rw [dispatch, type]
    rfl
  rw [nothing, released, posted] at same
  cases same

/-- Without the type and the sender, the request may be well formed or not. -/
theorem ifHandler_differs_header (kind : IfKind) (possible : ¬ Excludes message)
    (short : message.length < 24) : ∃ first second : ℕ → UInt8,
      (ifHandler kind (overwrite first 0 message)).2 ≠
        (ifHandler kind (overwrite second 0 message)).2 := by
  refine ⟨fun _ => 0, fun _ => 255, ?_⟩
  have wellFormed := wellFormed_of_not_excludes possible (fun _ _ => rfl)
  obtain ⟨ifType, senderId, posted⟩ := ifHandler_of_wellFormed wellFormed kind
  have malformed : ¬ WellFormed (overwrite (fun _ => 255) 0 message) := by
    intro wellFormed'
    have last := wellFormed_iff.mp wellFormed' 23 (by decide) (by decide)
    rw [unreceivedAt_eq _ (by omega)] at last
    cases last
  rw [posted, ifHandler_of_not_wellFormed malformed]
  intro same
  cases same

/-- Without the addresses, they are those in the buffer. -/
theorem ipv6AddrField_differs (short : message.length < 44) :
    ipv6AddrField (overwrite (fun _ => 0) 0 message) ≠
      ipv6AddrField (overwrite (fun _ => 1) 0 message) := by
  intro same
  have last := eq_of_readAt_eq same (show 15 < 16 by decide)
  rw [unreceivedAt_eq _ (show message.length ≤ 28 + 15 by omega),
    unreceivedAt_eq _ (show message.length ≤ 28 + 15 by omega)] at last
  cases last

/-- A string without its end goes on in the buffer. -/
theorem stringField_differs {offset : ℕ} (short : message.length < offset + 32)
    (noEnd : 0 ∉ message.drop offset) :
    stringField (overwrite (fun _ => 0) 0 message) offset ≠
      stringField (overwrite (fun _ => 1) 0 message) offset := by
  rw [stringField_eq, stringField_eq]
  have whole : (readAt (overwrite (fun _ => 1) 0 message) offset 32).takeWhile (· ≠ 0) =
      readAt (overwrite (fun _ => 1) 0 message) offset 32 := by
    rw [List.takeWhile_eq_self_iff]
    intro byte member
    obtain ⟨place, -, rfl⟩ := List.mem_map.mp member
    by_cases here : offset + place < message.length
    · have inDrop : message[offset + place] ∈ message.drop offset := by
        rw [List.mem_iff_getElem]
        exact ⟨place, by rw [List.length_drop]; omega, List.getElem_drop⟩
      rw [receivedAt_eq _ (List.getElem?_eq_getElem here), decide_eq_true_iff]
      exact fun zero => noEnd (zero ▸ inDrop)
    · rw [unreceivedAt_eq _ (by omega)]
      decide
  rw [whole]
  intro same
  have begins := List.takeWhile_prefix (fun byte : UInt8 => decide (byte ≠ 0))
    (l := readAt (overwrite (fun _ => 0) 0 message) offset 32)
  rw [same] at begins
  have equal := begins.eq_of_length (by rw [length_readAt, length_readAt])
  have last := eq_of_readAt_eq equal (show 31 < 32 by decide)
  rw [unreceivedAt_eq _ (show message.length ≤ offset + 31 by omega),
    unreceivedAt_eq _ (show message.length ≤ offset + 31 by omega)] at last
  cases last

/-- **A message that does not decide what it does** does different things in two buffers. -/
theorem dispatch_differs {locApiHandle : Bool} (undecided : ¬ Decides locApiHandle message)
    (length : ℤ) : ∃ first second : ℕ → UInt8,
      dispatch locApiHandle (overwrite first 0 message) length ≠
        dispatch locApiHandle (overwrite second 0 message) length := by
  by_cases received : 12 < message.length
  · simp only [Decides, received, true_and, Classical.not_imp, not_or] at undecided
    obtain ⟨handled, possible, fields⟩ := undecided
    obtain ⟨kind, handler⟩ := dispatch_eq_ifHandler handled
    simp only [handler]
    by_cases header : 24 ≤ message.length
    · have wellFormed : ∀ fill : ℕ → UInt8, WellFormed (overwrite fill 0 message) := fun fill =>
        wellFormed_of_not_excludes possible (fun short => absurd header (by omega))
      refine ⟨fun _ => 0, fun _ => 1, ?_⟩
      obtain ⟨ifType, senderId, posted⟩ := ifHandler_of_wellFormed (wellFormed fun _ => 0) kind
      obtain ⟨ifType', senderId', posted'⟩ := ifHandler_of_wellFormed (wellFormed fun _ => 1) kind
      rw [posted, posted']
      have byte := List.getElem?_eq_getElem (show 20 < message.length by omega)
      have sender : ∀ fill : ℕ → UInt8,
          ifRequestSenderId (overwrite fill 0 message) = 2 ↔ message[20] = 2 := by
        intro fill
        rw [ifRequestSenderId_eq_two_iff (wellFormed fill), receivedAt_eq fill byte]
      simp only [byte, Option.some.injEq, header, true_and] at fields
      simp only [sender]
      intro same
      by_cases two : message[20] = 2
      · rw [if_pos two] at fields
        rw [if_pos two, if_pos two, Option.some.injEq, IfMessage.bit.injEq] at same
        exact ipv6AddrField_differs (by omega) same.2.2.2
      · rw [if_neg two, not_or] at fields
        rw [if_neg two, if_neg two, Option.some.injEq, IfMessage.wifi.injEq] at same
        obtain ⟨short, noEnd⟩ := fields
        exact stringField_differs (show message.length < 77 + 32 by omega) noEnd same.2.2.2.2
    · exact ifHandler_differs_header kind possible (by omega)
  · exact dispatch_differs_type locApiHandle (by omega) length

end Buffers

/-! ## Two runs -/

/-- The same message is handed to `loc_eng_msg_sender`, or none, whatever the buffer holds when it
is allocated. `loc_eng_msg_sender` itself would crash on a release while `loc_api_handle` is
NULL. -/
def OnlyReceivedDecides (locApiHandle : Bool) (pipe : Pipe) : Prop :=
  ∀ first second : ℕ → UInt8,
    locApiServerProc locApiHandle first pipe = locApiServerProc locApiHandle second pipe

/-- A failed `read` that is taken for the rest of a message leaves its size in the buffer,
so that there is more than the message says. -/
theorem not_decides_take {locApiHandle : Bool} {pipe : Pipe} {taken : ℕ} (short : taken ≤ 12) :
    ¬ Decides locApiHandle (pipe.take taken) := by
  rintro ⟨received, -⟩
  rw [List.length_take] at received
  omega

/-- **A message that is accepted has the same message handed to `loc_eng_msg_sender` in every
buffer exactly if it has the bytes that decide it.** -/
theorem onlyReceivedDecides_iff (locApiHandle : Bool) {pipe later : Pipe}
    {pCmsgbuf buffer : ℕ → UInt8} {length : ℤ}
    (accepted : locEngDmnConnGlueMsgrcv pipe pCmsgbuf (sizeofCtrlMsgbuf + 256) =
      some (length, buffer, later))
    (received : 0 < length) :
    OnlyReceivedDecides locApiHandle pipe ↔ Decides locApiHandle (pipe.take length.toNat) := by
  rw [msgrcv_eq] at accepted
  cases called : intake (sizeofCtrlMsgbuf + 256) pipe with
  | none => simp [called] at accepted
  | some result =>
      obtain ⟨returned, taken⟩ := result
      rw [called, Option.map_some, Option.some.injEq, Prod.mk.injEq] at accepted
      obtain ⟨rfl, -⟩ := accepted
      have proc : ∀ fill : ℕ → UInt8, locApiServerProc locApiHandle fill pipe =
          some (dispatch locApiHandle (overwrite fill 0 (pipe.take taken)) returned) := by
        intro fill
        rw [locApiServerProc, msgrcv_eq, called]
        simp only [Option.map_some]
        rw [if_neg (by omega)]
      have taken_eq : Decides locApiHandle (pipe.take returned.toNat) ↔
          Decides locApiHandle (pipe.take taken) := by
        obtain ⟨-, ⟨rfl, -⟩ | ⟨rfl, rfl, -⟩ | ⟨rfl, -, fits, -⟩⟩ := intake_cases called
        · cases received
        · exact iff_of_false (not_decides_take (by decide)) (not_decides_take (by decide))
        · have small : taken < 2147483648 := by
            change taken ≤ 368 at fits
            omega
          rw [toInt_of_lt small, Int.toNat_natCast]
      rw [taken_eq]
      constructor
      · intro same
        by_contra undecided
        obtain ⟨first, second, differ⟩ := dispatch_differs undecided returned
        apply differ
        have both := same first second
        rwa [proc, proc, Option.some.injEq] at both
      · intro decides first second
        rw [proc, proc, dispatch_agree decides]

/-- A release that ends behind the addresses. -/
def releaseBit : Pipe :=
  [44, 0, 0, 0, 0, 0, 0, 0, 0, 0, 0, 0, 0xF1, 0, 0, 0, 2, 0, 0, 0, 2, 0, 0, 0, 10, 0, 0, 1,
    0, 0, 0, 0, 0, 0, 0, 0, 0, 0, 0, 0, 0, 0, 0, 1]

theorem onlyReceivedDecides_iff_releaseBit : OnlyReceivedDecides true releaseBit := by
  have accepted : locEngDmnConnGlueMsgrcv releaseBit (fun _ => 0) (sizeofCtrlMsgbuf + 256) =
      some (44, overwrite (fun _ => 0) 0 releaseBit, []) := by
    rw [msgrcv_eq]
    rfl
  rw [onlyReceivedDecides_iff true accepted (by decide)]
  exact ⟨by decide, fun _ => Or.inr ⟨by decide, by decide⟩⟩

/-- **A message of four bytes is accepted**, and it releases an interface if the buffer holds
such a message. -/
theorem not_onlyReceivedDecides :
    (locEngDmnConnGlueMsgrcv [4, 0, 0, 0] (fun _ => 0) (sizeofCtrlMsgbuf + 256)).map Prod.fst =
        some 4 ∧
      ¬ OnlyReceivedDecides true [4, 0, 0, 0] := by
  constructor
  · rw [msgrcv_eq]
    rfl
  · intro same
    have released := same (fun _ => 0) fun address => if address = 12 then 0xF1 else 0
    revert released
    decide +kernel

end Msm8660.Gps
