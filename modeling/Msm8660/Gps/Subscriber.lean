import Mathlib.Data.Vector.Defs
import Msm8660.Lib.CString

/-!
# Subscribers of an AGPS state machine

The three kinds of client of `loc_eng_agps.h` and the `Notification` that a
state machine addresses to them. A `BITSubscriber` is known by its address, an
`ATLSubscriber` by its handle, a `WIFISubscriber` by its sender; all three
share the `int` that the base class calls `ID`, and `equals` compares it.

`BITSubscriber::equals` casts its argument to `BITSubscriber*` whatever it
points to. The bytes it then reads where `ipv6Addr` would lie are no member of
the other classes; they are the component `overlay` here, which may hold
anything.
-/

set_option autoImplicit false

namespace Msm8660.Gps

/-- `char ipv6Addr[16]`. -/
abbrev Ipv6Addr := List.Vector UInt8 16

/-- `INADDR_NONE`. -/
def inaddrNone : BitVec 32 := 0xffffffff#32

/-- `SSID_BUF_SIZE`. -/
def ssidBufSize : ℕ := 32 + 1

/-- `loc_if_req_sender_id_e_type`. -/
inductive LocIfReqSenderId where
  | quipc
  | msapm
  | gpsoneDaemon
  | modem
  | unknown
deriving DecidableEq, Repr

/-- The enumerator as an `int`. -/
def LocIfReqSenderId.value : LocIfReqSenderId → BitVec 32
  | .quipc => 0
  | .msapm => 1
  | .gpsoneDaemon => 2
  | .modem => 3
  | .unknown => 4

theorem LocIfReqSenderId.value_ne_inaddrNone (sender : LocIfReqSenderId) :
    sender.value ≠ inaddrNone := by
  cases sender <;> decide

/-- `AgpsRsrcStatus`, the events of a network interface. -/
inductive AgpsRsrcStatus where
  | rsrcSubscribe
  | rsrcUnsubscribe
  | rsrcGranted
  | rsrcReleased
  | rsrcDenied
  | rsrcStatusMax
deriving DecidableEq, Repr

/-- A `BITSubscriber`, created with requests from the BIT daemon. -/
structure BITSubscriber where
  ID : BitVec 32
  ipv6Addr : Ipv6Addr
deriving DecidableEq

/-- An `ATLSubscriber`, created with requests from ATL. -/
structure ATLSubscriber where
  ID : BitVec 32
  mBackwardCompatibleMode : Bool
  overlay : Ipv6Addr
deriving DecidableEq

/-- A `WIFISubscriber`, created with requests from MSAPM or QuIPC. Its `ID` is
its `senderId`. -/
structure WIFISubscriber where
  mSSID : Option (List UInt8)
  mPassword : Option (List UInt8)
  senderId : LocIfReqSenderId
  mIsInactive : Bool
  overlay : Ipv6Addr
deriving DecidableEq

/-- A `Subscriber*`. -/
inductive Subscriber where
  | bit (s : BITSubscriber)
  | atl (s : ATLSubscriber)
  | wifi (s : WIFISubscriber)
deriving DecidableEq

/-- The constructor of `BITSubscriber`. Of a missing address only the first
byte is written, which is all that `equals` then reads. -/
def BITSubscriber.new (ipv4 : BitVec 32) (ipv6 : Option Ipv6Addr) : BITSubscriber :=
  ⟨ipv4, ipv6.getD (List.Vector.replicate 16 0)⟩

/-- The constructor of `WIFISubscriber`. -/
def WIFISubscriber.new (ssid password : Option (List UInt8)) (senderId : LocIfReqSenderId)
    (overlay : Ipv6Addr) : WIFISubscriber :=
  ⟨ssid.map (strlcpy · ssidBufSize), password.map (strlcpy · ssidBufSize), senderId, false,
    overlay⟩

namespace Subscriber

/-- The member `ID` of the base class. -/
def ID : Subscriber → BitVec 32
  | .bit s => s.ID
  | .atl s => s.ID
  | .wifi s => s.senderId.value

/-- What `((BITSubscriber*)s)->ipv6Addr` reads. -/
def castIpv6Addr : Subscriber → Ipv6Addr
  | .bit s => s.ipv6Addr
  | .atl s => s.overlay
  | .wifi s => s.overlay

/-- `this->equals(s)`. -/
def equals (this s : Subscriber) : Bool :=
  match this with
  | .bit b =>
      b.ID == s.ID &&
        (b.ID != inaddrNone || strncmp b.ipv6Addr.toList s.castIpv6Addr.toList 16 == 0)
  | _ => this.ID == s.ID

/-- Only a WIFI client waits for the connection to be closed. -/
def waitForCloseComplete : Subscriber → Bool
  | .wifi _ => true
  | _ => false

def setInactive : Subscriber → Subscriber
  | .wifi s => .wifi { s with mIsInactive := true }
  | s => s

def isInactive : Subscriber → Bool
  | .wifi s => s.mIsInactive
  | _ => false

/-- `clone()`, through the constructor of the class. -/
def clone : Subscriber → Subscriber
  | .wifi s => .wifi (WIFISubscriber.new s.mSSID s.mPassword s.senderId s.overlay)
  | s => s

/-- What `setIPAddresses` writes: the address, and the leading bytes of `v6`. A
WIFI client writes nothing, so the caller's variables keep what they held. -/
def setIPAddresses : Subscriber → Option (BitVec 32) × List UInt8
  | .bit s => (some s.ID, s.ipv6Addr.toList)
  | .atl _ => (some inaddrNone, [0])
  | .wifi _ => (none, [])

/-- What `setWifiInfo` writes, as the two strings. -/
def setWifiInfo : Subscriber → List UInt8 × List UInt8
  | .wifi s =>
      ((s.mSSID.map (strlcpy · ssidBufSize)).getD [],
        (s.mPassword.map (strlcpy · ssidBufSize)).getD [])
  | _ => ([], [])

/-! ## Identity -/

@[simp] theorem equals_self (s : Subscriber) : s.equals s = true := by
  cases s <;> simp [equals, castIpv6Addr, strncmp_self, ID]

@[simp] theorem ID_clone (s : Subscriber) : s.clone.ID = s.ID := by cases s <;> rfl

@[simp] theorem ID_setInactive (s : Subscriber) : s.setInactive.ID = s.ID := by cases s <;> rfl

@[simp] theorem castIpv6Addr_clone (s : Subscriber) : s.clone.castIpv6Addr = s.castIpv6Addr := by
  cases s <;> rfl

@[simp] theorem castIpv6Addr_setInactive (s : Subscriber) :
    s.setInactive.castIpv6Addr = s.castIpv6Addr := by cases s <;> rfl

@[simp] theorem isInactive_clone (s : Subscriber) : s.clone.isInactive = false := by
  cases s <;> rfl

/-- Equality does not see copies or inactivity, on either side. -/
@[simp] theorem equals_clone_right (this s : Subscriber) :
    this.equals s.clone = this.equals s := by
  cases this <;> simp only [equals, ID_clone, castIpv6Addr_clone]

@[simp] theorem equals_setInactive_right (this s : Subscriber) :
    this.equals s.setInactive = this.equals s := by
  cases this <;> simp only [equals, ID_setInactive, castIpv6Addr_setInactive]

@[simp] theorem equals_clone_left (this s : Subscriber) :
    this.clone.equals s = this.equals s := by cases this <;> rfl

@[simp] theorem equals_setInactive_left (this s : Subscriber) :
    this.setInactive.equals s = this.equals s := by cases this <;> rfl

theorem equals_bit_iff {b : BITSubscriber} {s : Subscriber} :
    (Subscriber.bit b).equals s = true ↔
      b.ID = s.ID ∧ (b.ID ≠ inaddrNone ∨
        cString 16 b.ipv6Addr.toList = cString 16 s.castIpv6Addr.toList) := by
  have same : strncmp b.ipv6Addr.toList s.castIpv6Addr.toList 16 = 0 ↔
      cString 16 b.ipv6Addr.toList = cString 16 s.castIpv6Addr.toList :=
    strncmp_eq_zero_iff (by simp) (by simp)
  simp only [equals, Bool.and_eq_true, Bool.or_eq_true, beq_iff_eq, bne_iff_ne, same]

theorem equals_atl_iff {a : ATLSubscriber} {s : Subscriber} :
    (Subscriber.atl a).equals s = true ↔ a.ID = s.ID := by
  simp only [equals, ID, beq_iff_eq]

theorem equals_wifi_iff {w : WIFISubscriber} {s : Subscriber} :
    (Subscriber.wifi w).equals s = true ↔ w.senderId.value = s.ID := by
  simp only [equals, ID, beq_iff_eq]

/-- Equal subscribers share the `ID`. -/
theorem ID_eq_of_equals {this s : Subscriber} (equal : this.equals s = true) :
    this.ID = s.ID := by
  cases this with
  | bit b => exact (equals_bit_iff.mp equal).1
  | atl a => exact equals_atl_iff.mp equal
  | wifi w => exact equals_wifi_iff.mp equal

/-- Away from `INADDR_NONE`, subscribers are equal exactly when they share the
`ID`. -/
theorem equals_iff_ID {this s : Subscriber} (address : this.ID ≠ inaddrNone) :
    this.equals s = true ↔ this.ID = s.ID := by
  cases this with
  | bit b => exact equals_bit_iff.trans ⟨And.left, fun same => ⟨same, Or.inl address⟩⟩
  | atl a => exact equals_atl_iff
  | wifi w => exact equals_wifi_iff

/-- `equals` is symmetric between BIT subscribers. -/
theorem equals_symm_bit {b b' : BITSubscriber}
    (equal : (Subscriber.bit b).equals (.bit b') = true) :
    (Subscriber.bit b').equals (.bit b) = true := by
  obtain ⟨same, address | text⟩ := equals_bit_iff.mp equal
  · exact equals_bit_iff.mpr ⟨same.symm, Or.inl fun none => address (same.trans none)⟩
  · exact equals_bit_iff.mpr ⟨same.symm, Or.inr text.symm⟩

/-- Whether the handle of an ATL client is another than `-1`. -/
def HandleValid : Subscriber → Prop
  | .atl s => s.ID ≠ inaddrNone
  | _ => True

/-- `equals` is symmetric as long as no ATL handle reads as `INADDR_NONE`. -/
theorem equals_symm {this s : Subscriber} (valid : this.HandleValid)
    (equal : this.equals s = true) : s.equals this = true := by
  have same := ID_eq_of_equals equal
  cases s with
  | atl a => exact equals_atl_iff.mpr same.symm
  | wifi w => exact equals_wifi_iff.mpr same.symm
  | bit b =>
      cases this with
      | bit b' => exact equals_symm_bit equal
      | atl a =>
          have address : b.ID ≠ inaddrNone := fun none => valid (same.trans none)
          exact equals_bit_iff.mpr ⟨same.symm, Or.inl address⟩
      | wifi w =>
          have address : b.ID ≠ inaddrNone := fun none =>
            w.senderId.value_ne_inaddrNone (same.trans none)
          exact equals_bit_iff.mpr ⟨same.symm, Or.inl address⟩

/-- A subscriber that the search passed over does not equal the one it found,
when that one does not equal it. The two directions differ: a BIT subscriber
without an IPv4 address compares bytes that the other may not have. -/
theorem not_equals_found {passed found s : Subscriber} (miss : passed.equals s = false)
    (hit : found.equals s = true) (distinct : found.equals passed = false) :
    passed.equals found = false := by
  by_contra still
  have equal : passed.equals found = true := by simpa using still
  have toPassed : found.ID = passed.ID := (ID_eq_of_equals equal).symm
  have toS : passed.ID = s.ID := toPassed.symm.trans (ID_eq_of_equals hit)
  cases passed with
  | atl a => exact absurd (equals_atl_iff.mpr toS) (by simp [miss])
  | wifi w => exact absurd (equals_wifi_iff.mpr toS) (by simp [miss])
  | bit b =>
      cases found with
      | atl a => exact absurd (equals_atl_iff.mpr toPassed) (by simp [distinct])
      | wifi w => exact absurd (equals_wifi_iff.mpr toPassed) (by simp [distinct])
      | bit b' => exact absurd (equals_symm_bit equal) (by simp [distinct])

@[simp] theorem clone_setInactive (s : Subscriber) : s.setInactive.clone = s.clone := by
  cases s <;> rfl

@[simp] theorem clone_clone (s : Subscriber) : s.clone.clone = s.clone := by
  cases s with
  | bit s => rfl
  | atl s => rfl
  | wifi s =>
      simp only [clone, WIFISubscriber.new, Option.map_map]
      congr 3 <;> funext source <;> simp only [Function.comp_apply, strlcpy, List.take_take,
        Nat.min_self]

end Subscriber

/-! ## Notifications -/

/-- The values of `Notification::groupID`: a broadcast, or `-1` in a
notification for one receiver. -/
inductive GroupID where
  | broadcastAll
  | broadcastActive
  | broadcastInactive
  | minusOne
deriving DecidableEq, Repr

/-- `Notification`, the information bundle for subscribers. -/
structure Notification where
  rcver : Option Subscriber
  groupID : GroupID
  rsrcStatus : AgpsRsrcStatus
  postNotifyDelete : Bool
deriving DecidableEq

namespace Notification

/-- `Notification(broadcast, status, deleteAfterwards)`. -/
def toGroup (broadcast : GroupID) (status : AgpsRsrcStatus) (deleteAfterwards : Bool) :
    Notification :=
  ⟨none, broadcast, status, deleteAfterwards⟩

/-- `Notification(subscriber, status, deleteAfterwards)`. -/
def toSubscriber (subscriber : Subscriber) (status : AgpsRsrcStatus) (deleteAfterwards : Bool) :
    Notification :=
  ⟨some subscriber, .minusOne, status, deleteAfterwards⟩

/-- `Notification(broadcast)`, a bare search key. -/
def ofGroup (broadcast : GroupID) : Notification := ⟨none, broadcast, .rsrcStatusMax, false⟩

/-- `Notification(subscriber)`, a bare search key. -/
def ofSubscriber (subscriber : Subscriber) : Notification :=
  ⟨some subscriber, .minusOne, .rsrcStatusMax, false⟩

end Notification

/-- `forMe`: the notification names an equal receiver, or a group that this
subscriber belongs to. -/
def Subscriber.forMe (this : Subscriber) (notification : Notification) : Bool :=
  match notification.rcver with
  | some rcver => this.equals rcver
  | none =>
      notification.groupID == .broadcastAll ||
        (notification.groupID == .broadcastActive && !this.isInactive) ||
        (notification.groupID == .broadcastInactive && this.isInactive)

section ForMe

variable (this : Subscriber) (status : AgpsRsrcStatus) (deleteAfterwards : Bool)

@[simp] theorem Subscriber.forMe_toSubscriber (rcver : Subscriber) :
    this.forMe (.toSubscriber rcver status deleteAfterwards) = this.equals rcver := rfl

@[simp] theorem Subscriber.forMe_ofSubscriber (rcver : Subscriber) :
    this.forMe (.ofSubscriber rcver) = this.equals rcver := rfl

@[simp] theorem Subscriber.forMe_toAll :
    this.forMe (.toGroup .broadcastAll status deleteAfterwards) = true := rfl

@[simp] theorem Subscriber.forMe_toActive :
    this.forMe (.toGroup .broadcastActive status deleteAfterwards) = !this.isInactive := by
  simp only [Subscriber.forMe, Notification.toGroup]
  cases this.isInactive <;> rfl

@[simp] theorem Subscriber.forMe_toInactive :
    this.forMe (.toGroup .broadcastInactive status deleteAfterwards) = this.isInactive := by
  simp only [Subscriber.forMe, Notification.toGroup]
  cases this.isInactive <;> rfl

@[simp] theorem Subscriber.forMe_ofActive :
    this.forMe (.ofGroup .broadcastActive) = !this.isInactive := by
  simp only [Subscriber.forMe, Notification.ofGroup]
  cases this.isInactive <;> rfl

end ForMe

end Msm8660.Gps
