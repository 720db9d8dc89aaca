import Msm8660.Gps.AgpsInterface
import Msm8660.Gps.AgpsInvariant
import Msm8660.Gps.LocEngClients

/-!
# BIT and ATL clients on one machine

`agnss_nif` and `internet_nif` serve BIT clients, known by an address, and ATL
clients, known by a handle. Both are the `int` that `equals` compares, and
`equals` does not look at the kind of a client. A client of one kind therefore
meets clients of the other kind exactly when such numbers coincide, and
`clientsApart_iff` says for each message when that happens.
-/

set_option autoImplicit false

namespace Msm8660.Gps

/-- Whether a client is an `ATLSubscriber`. -/
def Subscriber.isAtl : Subscriber → Bool
  | .atl _ => true
  | _ => false

/-- The ATL client with this handle. -/
def Subscriber.IsAtl (handle : BitVec 32) (s : Subscriber) : Prop :=
  s.isAtl = true ∧ s.ID = handle

/-- The `ATLSubscriber` that is built for a machine. -/
abbrev Answers.atl (answers : Answers) (nif : Nif) (handle : BitVec 32)
    (backwardCompatibleMode : Bool) : Subscriber :=
  .atl ⟨handle, backwardCompatibleMode, answers.overlay nif⟩

namespace LocEngData

/-- A machine lists an ATL client with this handle. -/
def ListsAtl (data : LocEngData) (nif : Nif) (handle : BitVec 32) : Prop :=
  ∃ s ∈ data.subscribers nif, s.IsAtl handle

/-- A machine lists a BIT client that equals `s`. -/
def ListsBitLike (data : LocEngData) (nif : Nif) (s : Subscriber) : Prop :=
  ∃ b, Subscriber.bit b ∈ data.subscribers nif ∧ (Subscriber.bit b).equals s = true

/-- The subscriber that `addSubscriber` and `unsubscribeRsrc` find for `s`. -/
def searched (data : LocEngData) (nif : Nif) (s : Subscriber) : Option Subscriber :=
  (linkedListSearch (hasSubscriber (.ofSubscriber s)) false (data.subscribers nif)).dataP.map
    Prod.snd

/-- A handler notifies a subscriber or takes it out of a list. -/
def Touches (data : LocEngData) (outcome : Handling) (s : Subscriber) : Prop :=
  (∃ nif, s ∈ notifiedOn nif outcome.2) ∨
    ∃ nif, s ∈ data.subscribers nif ∧ ∀ after ∈ outcome.1, s ∉ after.subscribers nif

/-- A release of an ATL client touches nobody else, and takes the client out of
the only machine that lists it. -/
def ReleasesAtl (data : LocEngData) (handle : BitVec 32) (outcome : Handling) : Prop :=
  (∀ s, data.Touches outcome s → s.IsAtl handle) ∧
    ∀ nif, data.ListsAtl nif handle → (∀ other, data.ListsAtl other handle → other = nif) →
      ∃ after ∈ outcome.1, ¬ after.ListsAtl nif handle

/-- A message of a BIT client neither matches nor touches an ATL client. -/
def SparesAtl (data : LocEngData) (nif : Nif) (s : Subscriber) (outcome : Handling) : Prop :=
  (∀ found, data.searched nif s = some found → found.isAtl = false) ∧
    ∀ other, data.Touches outcome other → other.isAtl = false

end LocEngData

/-! ## Lists of clients -/

section Lists

variable {list rest : List Subscriber} {handle : BitVec 32} {s : Subscriber}

/-- An address that is not `INADDR_NONE` names at most one listed subscriber. -/
theorem eq_of_ID_eq (distinct : list.Pairwise fun newer older => older.equals newer = false)
    {one other : Subscriber} (member : one ∈ list) (member' : other ∈ list)
    (same : one.ID = other.ID) (address : one.ID ≠ inaddrNone) : one = other := by
  by_contra another
  rcases unequal_of_distinct distinct member member' another with unequal | unequal
  · exact absurd ((Subscriber.equals_iff_ID address).mpr same) (by simp [unequal])
  · exact absurd ((Subscriber.equals_iff_ID (same ▸ address)).mpr same.symm) (by simp [unequal])

theorem Subscriber.IsAtl.equals {a : Subscriber} (isAtl : a.IsAtl handle)
    (same : s.ID = handle) : a.equals s = true := by
  obtain ⟨kind, id⟩ := isAtl
  cases a with
  | atl a => exact Subscriber.equals_atl_iff.mpr (id.trans same.symm)
  | _ => cases kind

/-- A handle names at most one listed ATL client. -/
theorem eq_of_isAtl (distinct : list.Pairwise fun newer older => older.equals newer = false)
    {one other : Subscriber} (member : one ∈ list) (member' : other ∈ list)
    (isAtl : one.IsAtl handle) (isAtl' : other.IsAtl handle) : one = other := by
  by_contra another
  rcases unequal_of_distinct distinct member member' another with unequal | unequal
  · exact absurd (isAtl.equals isAtl'.2) (by simp [unequal])
  · exact absurd (isAtl'.equals isAtl.2) (by simp [unequal])

/-- What a release of an ATL client finds: the client, if it is listed; a BIT
client that happens to equal it, if it is not. -/
theorem Release.found_atl {found : Subscriber} (release : Release s list rest (some found))
    (distinct : list.Pairwise fun newer older => older.equals newer = false)
    (same : s.ID = handle) :
    found.IsAtl handle ∨ found.isAtl = false ∧ ∀ other ∈ list, ¬ other.IsAtl handle := by
  cases kind : found.isAtl with
  | true => exact Or.inl ⟨kind, (Subscriber.ID_eq_of_equals release.found_mem.2).trans same⟩
  | false =>
      refine Or.inr ⟨rfl, fun other member isAtl => ?_⟩
      have id := (Subscriber.ID_eq_of_equals release.found_mem.2).trans same
      cases release with
      | @found _ before after split first equal =>
          rw [split, List.pairwise_append, List.pairwise_cons] at distinct
          rw [split] at member
          rcases List.mem_append.mp member with early | late
          · exact absurd (isAtl.equals same) (by simp [first other early])
          · rcases List.mem_cons.mp late with rfl | later
            · exact absurd isAtl.1 (by simp [kind])
            · exact absurd (isAtl.equals id) (by simp [distinct.2.1.1 other later])

end Lists

/-! ## Releases -/

section Messages

variable {conf : LocGpsCfg} {nmea : NmeaGenerator} {data after : LocEngData} {nif : Nif}
  {s : Subscriber} {calls : List Call} {found : Option Subscriber}

namespace LocEngData

/-- A release touches the subscriber that it finds, and nobody else. -/
theorem touches_release (release : Release s (data.subscribers nif) (after.subscribers nif) found)
    (others : ∀ other, other ≠ nif → after.subscribers other = data.subscribers other)
    (notified : notifiedOn nif calls = found.toList)
    (quiet : ∀ other, other ≠ nif → notifiedOn other calls = []) (other : Subscriber) :
    data.Touches (some after, calls) other ↔ found = some other := by
  constructor
  · rintro (⟨name, told⟩ | ⟨name, member, gone⟩)
    · by_cases same : name = nif
      · subst same
        rw [notified] at told
        exact Option.mem_toList.mp told
      · rw [quiet name same] at told
        cases told
    · by_cases same : name = nif
      · subst same
        by_contra another
        exact gone after rfl (release.stays member another)
      · exact absurd member (others name same ▸ gone after rfl)
  · rintro rfl
    exact Or.inl ⟨nif, by simp [notified]⟩

/-- A release of an ATL client that reaches a machine at which it finds somebody
meets its purpose exactly when that machine lists the client. -/
theorem releasesAtl_found {handle : BitVec 32} {found : Subscriber}
    (release : Release s (data.subscribers nif) (after.subscribers nif) (some found))
    (distinct : (data.subscribers nif).Pairwise fun newer older => older.equals newer = false)
    (others : ∀ other, other ≠ nif → after.subscribers other = data.subscribers other)
    (notified : notifiedOn nif calls = [found])
    (quiet : ∀ other, other ≠ nif → notifiedOn other calls = []) (same : s.ID = handle) :
    data.ReleasesAtl handle (some after, calls) ↔ data.ListsAtl nif handle := by
  have touched := touches_release release others notified quiet
  constructor
  · intro releases
    exact ⟨found, release.found_mem.1, releases.1 found ((touched found).mpr rfl)⟩
  · rintro ⟨listed, member, isAtl⟩
    rcases release.found_atl distinct same with own | ⟨-, nobody⟩
    · refine ⟨fun other touch => ?_, fun name lists only => ⟨after, rfl, ?_⟩⟩
      · cases (touched other).mp touch
        exact own
      · obtain rfl : nif = name := only nif ⟨listed, member, isAtl⟩
        rintro ⟨left, stays, isAtl'⟩
        have same := eq_of_isAtl distinct (release.mem_of_mem stays) release.found_mem.1 isAtl' own
        exact release.leaves distinct (same ▸ stays)
    · exact absurd isAtl (nobody listed member)

/-- Only the shared machines list ATL clients. -/
theorem Running.listsAtl_shared (running : data.Running) {handle : BitVec 32}
    (lists : data.ListsAtl nif handle) : nif = .agnssNif ∨ nif = .internetNif := by
  obtain ⟨s, member, kind, -⟩ := lists
  cases nif with
  | agnssNif => exact Or.inl rfl
  | internetNif => exact Or.inr rfl
  | wifiNif =>
      have serves := running.serves .wifiNif s member
      cases s with
      | wifi s => cases kind
      | _ => exact serves.elim

/-- A subscriber of a shared machine that equals an ATL client is that client, or
a BIT client. -/
theorem Running.equals_atl (running : data.Running) (shared : nif ≠ .wifiNif)
    {other : Subscriber} (member : other ∈ data.subscribers nif)
    (equal : other.equals s = true) : other.IsAtl s.ID ∨ data.ListsBitLike nif s := by
  have serves := running.serves nif other member
  cases other with
  | bit b => exact Or.inr ⟨b, member, equal⟩
  | atl a => exact Or.inl ⟨rfl, Subscriber.ID_eq_of_equals equal⟩
  | wifi w => cases nif <;> first | exact absurd rfl shared | exact serves.elim

/-- What `RELEASE_ATL` does: a release from `agnss_nif` if that finds somebody, and
from `internet_nif` if it finds nobody. -/
theorem Running.handleMsg_releaseAtl (running : data.Running) (conf : LocGpsCfg)
    (nmea : NmeaGenerator) (answers : Answers) (handle : BitVec 32) :
    ((∃ other ∈ data.subscribers .agnssNif,
          other.equals (answers.atl .agnssNif handle false) = true) ∧
        data.handleMsg conf nmea answers (.releaseAtl handle) =
          data.callNif .agnssNif (.unsubscribeRsrc (answers.atl .agnssNif handle false))) ∨
      ((∀ other ∈ data.subscribers .agnssNif,
          other.equals (answers.atl .agnssNif handle false) = false) ∧
        data.handleMsg conf nmea answers (.releaseAtl handle) =
          data.callNif .internetNif
            (.unsubscribeRsrc (answers.atl .internetNif handle false))) := by
  obtain ⟨m, here, sound⟩ := running.nifs .agnssNif
  have called := callNif_eq here sound.servicer
    (.unsubscribeRsrc (answers.atl .agnssNif handle false))
  have release : data.handleMsg conf nmea answers (.releaseAtl handle) =
      (data.callNif .agnssNif (.unsubscribeRsrc (answers.atl .agnssNif handle false))).andThen
        fun data' => if (m.unsubscribeRsrc (answers.atl .agnssNif handle false)).1 then
          data'.done [] else data'.callNif .internetNif
            (.unsubscribeRsrc (answers.atl .internetNif handle false)) := by
    have here' : data.agnssNif = some m := here
    simp only [handleMsg, releaseAtl, here']
  rw [subscribers_eq here, release]
  rcases noHit_or_firstHit (·.equals (answers.atl .agnssNif handle false)) m.mSubscribers with
    absent | ⟨before, found, after, split, first, equal⟩
  · have nothing := m.unsubscribeRsrc_absent absent
    have stays : data.callNif .agnssNif (.unsubscribeRsrc (answers.atl .agnssNif handle false)) =
        (some data, []) := by
      rw [called]
      simp only [agpsMachine, nothing, setNif_self here]
      rfl
    rw [stays, Outcome.andThen_some, nothing]
    exact Or.inr ⟨absent, rfl⟩
  · have finds := m.unsubscribeRsrc_present split first equal
    refine Or.inl ⟨⟨found, by simp [split], equal⟩, ?_⟩
    rw [called, finds]
    exact congrArg (Prod.mk _) (List.append_nil _)

/-! ## The four messages -/

/-- The new client is listed afterwards unless a BIT client equals it. -/
theorem Running.requestAtl_iff (running : data.Running) (conf : LocGpsCfg) (nmea : NmeaGenerator)
    (answers : Answers) (handle : BitVec 32) (type : AGpsType)
    (new : ¬ data.ListsAtl (atlNif type) handle) :
    (∃ after ∈ (data.handle conf nmea answers (.requestAtl handle type)).1,
        after.ListsAtl (atlNif type) handle) ↔
      ¬ data.ListsBitLike (atlNif type)
        (answers.atl (atlNif type) handle (type == agpsTypeInvalid)) := by
  have shared : atlNif type ≠ .wifiNif := by
    unfold atlNif
    split <;> simp
  have serves : (atlNif type).Serves
      (answers.atl (atlNif type) handle (type == agpsTypeInvalid)) := by
    unfold atlNif
    split <;> trivial
  have same : data.handleMsg conf nmea answers (.requestAtl handle type) =
      data.callNif (atlNif type) (.subscribeRsrc _) := rfl
  obtain ⟨after, calls, handled, list, -, -⟩ := running.handle_subscribe shared serves same
  rw [handled]
  constructor
  · rintro ⟨_, reached, joined, member, isAtl⟩ ⟨b, present, equal⟩
    cases reached
    rw [list, listed, if_pos (List.any_eq_true.mpr ⟨_, present, equal⟩)] at member
    exact new ⟨joined, member, isAtl⟩
  · intro apart
    have nobody : ¬ (data.subscribers (atlNif type)).any (·.equals
        (answers.atl (atlNif type) handle (type == agpsTypeInvalid))) = true := by
      intro present
      obtain ⟨other, member, equal⟩ := List.any_eq_true.mp present
      rcases running.equals_atl shared member equal with isAtl | bit
      · exact new ⟨other, member, isAtl⟩
      · exact apart bit
    refine ⟨after, rfl, answers.atl (atlNif type) handle (type == agpsTypeInvalid), ?_, rfl, rfl⟩
    rw [list, listed, if_neg nobody]
    exact List.mem_cons_self

/-- A machine in which nobody equals an ATL client lists neither the client nor a
BIT client that equals it. -/
theorem unlisted_of_absent {handle : BitVec 32} {answers : Answers}
    (absent : ∀ other ∈ data.subscribers nif,
      other.equals (answers.atl nif handle false) = false) :
    ¬ data.ListsAtl nif handle ∧ ¬ data.ListsBitLike nif (answers.atl nif handle false) := by
  constructor
  · rintro ⟨present, member, isAtl⟩
    have equal : present.equals (answers.atl nif handle false) = true := isAtl.equals rfl
    exact absurd equal (by simp [absent present member])
  · rintro ⟨b, member, equal⟩
    exact absurd equal (by simp [absent _ member])

/-- A machine in which somebody equals an ATL client lists the client unless it
lists a BIT client that equals it. -/
theorem Running.listsAtl_of_found (running : data.Running) (shared : nif ≠ .wifiNif)
    {handle : BitVec 32} {answers : Answers} {other : Subscriber}
    (member : other ∈ data.subscribers nif)
    (equal : other.equals (answers.atl nif handle false) = true)
    (apart : ¬ data.ListsBitLike nif (answers.atl nif handle false)) :
    data.ListsAtl nif handle := by
  rcases running.equals_atl shared member equal with isAtl | bit
  · exact ⟨other, member, isAtl⟩
  · exact absurd bit apart

/-- A release meets its purpose when `agnss_nif` lists the client, or no BIT client
there equals it and the same is true of `internet_nif`. -/
theorem Running.releaseAtl_iff (running : data.Running) (conf : LocGpsCfg) (nmea : NmeaGenerator)
    (answers : Answers) (handle : BitVec 32) :
    data.ReleasesAtl handle (data.handle conf nmea answers (.releaseAtl handle)) ↔
      data.ListsAtl .agnssNif handle ∨
        ¬ data.ListsBitLike .agnssNif (answers.atl .agnssNif handle false) ∧
          (data.ListsAtl .internetNif handle ∨
            ¬ data.ListsBitLike .internetNif (answers.atl .internetNif handle false)) := by
  have id : ∀ nif, (answers.atl nif handle false).ID = handle := fun _ => rfl
  rcases running.handleMsg_releaseAtl conf nmea answers handle with
    ⟨⟨other, member, equal⟩, same⟩ | ⟨absent, same⟩
  · obtain ⟨after, calls, found, handled, release, others, notified, quiet⟩ :=
      running.handle_unsubscribe (by decide) same
    cases found with
    | none => exact absurd equal (by simp [release.nobody.2 other member])
    | some found =>
        rw [handled, releasesAtl_found release (running.distinct _) others notified quiet (id _)]
        refine ⟨Or.inl, ?_⟩
        rintro (lists | ⟨apart, -⟩)
        · exact lists
        · exact running.listsAtl_of_found (by decide) member equal apart
  · obtain ⟨unlisted, apart⟩ := unlisted_of_absent absent
    obtain ⟨after, calls, found, handled, release, others, notified, quiet⟩ :=
      running.handle_unsubscribe (by decide) same
    rw [handled]
    cases found with
    | some found =>
        rw [releasesAtl_found release (running.distinct _) others notified quiet (id _)]
        refine ⟨fun lists => Or.inr ⟨apart, Or.inl lists⟩, ?_⟩
        rintro (lists | ⟨-, lists | apart⟩)
        · exact absurd lists unlisted
        · exact lists
        · exact running.listsAtl_of_found (by decide) release.found_mem.1 release.found_mem.2 apart
    | none =>
        obtain ⟨unlisted', apart'⟩ := unlisted_of_absent release.nobody.2
        refine ⟨fun _ => Or.inr ⟨apart, Or.inr apart'⟩, fun _ => ⟨fun other touch => ?_, ?_⟩⟩
        · exact nomatch (touches_release release others notified quiet other).mp touch
        · intro nif lists
          rcases running.listsAtl_shared lists with rfl | rfl
          · exact absurd lists unlisted
          · exact absurd lists unlisted'

theorem searched_iff {found : Subscriber} : data.searched nif s = some found ↔
    ∃ before after, data.subscribers nif = before ++ found :: after ∧
      (∀ other ∈ before, other.equals s = false) ∧ found.equals s = true := by
  constructor
  · intro searched
    obtain ⟨⟨place, data⟩, here, rfl⟩ := Option.map_eq_some_iff.mp searched
    obtain ⟨before, after, split, -, first, equal⟩ := search_pure_some here
    exact ⟨before, after, split, first, equal⟩
  · rintro ⟨before, after, split, first, equal⟩
    rw [searched, hasSubscriber, split, search_first (by simpa [pureCallback] using first)
      (by simpa [pureCallback] using equal)]
    rfl

theorem searched_of_release (release : Release s (data.subscribers nif) (after.subscribers nif)
    found) : data.searched nif s = found := by
  cases found with
  | some found =>
      generalize after.subscribers nif = rest at release
      generalize same : data.subscribers nif = list at release
      cases release with
      | found split first equal => exact searched_iff.mpr ⟨_, _, same.trans split, first, equal⟩
  | none =>
      cases searched : data.searched nif s with
      | none => rfl
      | some found =>
          obtain ⟨before, after, split, -, equal⟩ := searched_iff.mp searched
          exact absurd equal (by simp [release.nobody.2 found (by simp [split])])

/-- The search for a BIT client finds an ATL client exactly when the address of
the one is the handle of the other. -/
theorem Running.searched_bit (running : data.Running) (known : s.ID ≠ inaddrNone) :
    (∀ found, data.searched nif s = some found → found.isAtl = false) ↔
      ¬ data.ListsAtl nif s.ID := by
  constructor
  · rintro spares ⟨listed, member, isAtl⟩
    have equal := isAtl.equals rfl
    rcases noHit_or_firstHit (·.equals s) (data.subscribers nif) with
      absent | ⟨before, found, after, split, first, hit⟩
    · exact absurd equal (by simp [absent listed member])
    · have id := Subscriber.ID_eq_of_equals hit
      have same : found = listed := eq_of_ID_eq (running.distinct nif) (by simp [split]) member
        (id.trans isAtl.2.symm) (id ▸ known)
      have kind := spares found (searched_iff.mpr ⟨before, after, split, first, hit⟩)
      exact absurd isAtl.1 (by simp [← same, kind])
  · intro unlisted found searched
    obtain ⟨before, after, split, first, equal⟩ := searched_iff.mp searched
    by_contra kind
    exact unlisted ⟨found, by simp [split], by simpa using kind,
      Subscriber.ID_eq_of_equals equal⟩

/-- A request of a BIT client touches nobody else. -/
theorem Running.requestBit_iff (running : data.Running) (conf : LocGpsCfg) (nmea : NmeaGenerator)
    (answers : Answers) {ifType : LocIfReqType} (there : bitNif ifType = some nif)
    {ipv4Addr : BitVec 32} (known : ipv4Addr ≠ inaddrNone) (ipv6Addr : Option Ipv6Addr) :
    data.SparesAtl nif (.bit (.new ipv4Addr ipv6Addr))
        (data.handle conf nmea answers (.requestBit ifType ipv4Addr ipv6Addr)) ↔
      ¬ data.ListsAtl nif ipv4Addr := by
  have shared : nif ≠ .wifiNif := by cases ifType <;> cases there <;> simp
  have serves : nif.Serves (.bit (.new ipv4Addr ipv6Addr)) := by
    cases ifType <;> cases there <;> trivial
  have same : data.handleMsg conf nmea answers (.requestBit ifType ipv4Addr ipv6Addr) =
      data.callNif nif (.subscribeRsrc (.bit (.new ipv4Addr ipv6Addr))) := by
    simp only [handleMsg, requestBit, there]
  obtain ⟨after, calls, handled, list, others, notified⟩ :=
    running.handle_subscribe shared serves same
  have untouched : ∀ other, data.Touches
      (data.handle conf nmea answers (.requestBit ifType ipv4Addr ipv6Addr)) other →
        other.isAtl = false := by
    rw [handled]
    rintro other (⟨name, told⟩ | ⟨name, member, gone⟩)
    · rw [notified name other told]
      rfl
    · refine absurd ?_ (gone after rfl)
      by_cases here : name = nif
      · subst here
        rw [list]
        exact mem_listed_of_mem member
      · exact others name here ▸ member
  exact (and_iff_left untouched).trans (running.searched_bit known)

/-- A release of a BIT client touches the subscriber that it finds. -/
theorem Running.releaseBit_iff (running : data.Running) (conf : LocGpsCfg) (nmea : NmeaGenerator)
    (answers : Answers) {ifType : LocIfReqType} (there : bitNif ifType = some nif)
    {ipv4Addr : BitVec 32} (known : ipv4Addr ≠ inaddrNone) (ipv6Addr : Option Ipv6Addr) :
    data.SparesAtl nif (.bit (.new ipv4Addr ipv6Addr))
        (data.handle conf nmea answers (.releaseBit ifType ipv4Addr ipv6Addr)) ↔
      ¬ data.ListsAtl nif ipv4Addr := by
  have shared : nif ≠ .wifiNif := by cases ifType <;> cases there <;> simp
  have same : data.handleMsg conf nmea answers (.releaseBit ifType ipv4Addr ipv6Addr) =
      data.callNif nif (.unsubscribeRsrc (.bit (.new ipv4Addr ipv6Addr))) := by
    simp only [handleMsg, releaseBit, there]
  obtain ⟨after, calls, found, handled, release, others, notified, quiet⟩ :=
    running.handle_unsubscribe shared same
  have search : (∀ found, data.searched nif (.bit (.new ipv4Addr ipv6Addr)) = some found →
      found.isAtl = false) ↔ ¬ data.ListsAtl nif ipv4Addr := running.searched_bit known
  rw [handled, ← search]
  refine ⟨And.left, fun spares => ⟨spares, fun other touch => spares other ?_⟩⟩
  rw [searched_of_release release]
  exact (touches_release release others notified quiet other).mp touch

end LocEngData

/-! ## All of them -/

/-- **When clients of different kinds keep apart.** In every state that the thread
reaches:

* a new ATL client is listed after its request exactly when no BIT client of the
  machine equals it;
* a release of an ATL client meets its purpose exactly when `agnss_nif` lists the
  client, or no BIT client there equals it and the same holds for `internet_nif`;
* a request and a release of a BIT client spare the ATL clients exactly when none
  of its machine has the address as its handle. -/
theorem clientsApart_iff (conf : LocGpsCfg) (nmea : NmeaGenerator) (initial : LocEngData)
    (started : initial.Started) (inputs : List ThreadInput) (data : LocEngData)
    (reached : data ∈ (locEngThread conf nmea).run (some initial) inputs) (answers : Answers) :
    (∀ handle type, ¬ data.ListsAtl (atlNif type) handle →
      ((∃ after ∈ (data.handle conf nmea answers (.requestAtl handle type)).1,
          after.ListsAtl (atlNif type) handle) ↔
        ¬ data.ListsBitLike (atlNif type)
          (answers.atl (atlNif type) handle (type == agpsTypeInvalid)))) ∧
    (∀ handle, data.ReleasesAtl handle (data.handle conf nmea answers (.releaseAtl handle)) ↔
      data.ListsAtl .agnssNif handle ∨
        ¬ data.ListsBitLike .agnssNif (answers.atl .agnssNif handle false) ∧
          (data.ListsAtl .internetNif handle ∨
            ¬ data.ListsBitLike .internetNif (answers.atl .internetNif handle false))) ∧
    ∀ ifType nif ipv4Addr ipv6Addr, bitNif ifType = some nif → ipv4Addr ≠ inaddrNone →
      (data.SparesAtl nif (.bit (.new ipv4Addr ipv6Addr))
          (data.handle conf nmea answers (.requestBit ifType ipv4Addr ipv6Addr)) ↔
        ¬ data.ListsAtl nif ipv4Addr) ∧
      (data.SparesAtl nif (.bit (.new ipv4Addr ipv6Addr))
          (data.handle conf nmea answers (.releaseBit ifType ipv4Addr ipv6Addr)) ↔
        ¬ data.ListsAtl nif ipv4Addr) := by
  have running := running_run started inputs data reached
  refine ⟨fun handle type new => running.requestAtl_iff conf nmea answers handle type new,
    fun handle => running.releaseAtl_iff conf nmea answers handle, ?_⟩
  intro ifType nif ipv4Addr ipv6Addr there known
  exact ⟨running.requestBit_iff conf nmea answers there known ipv6Addr,
    running.releaseBit_iff conf nmea answers there known ipv6Addr⟩

/-- `internet_nif` waits on behalf of ATL client 7, who then gives up. -/
theorem clientsApart_iff_release :
    (LocEngData.waiting .internetNif).ReleasesAtl 7
      ((LocEngData.waiting .internetNif).handle locDefaultParameters .silent .success
        (.releaseAtl 7)) := by
  have apart : ¬ (LocEngData.waiting .internetNif).ListsBitLike .agnssNif
      (Answers.success.atl .agnssNif 7 false) := by
    rintro ⟨b, member, -⟩
    exact absurd member List.not_mem_nil
  exact ((clientsApart_iff locDefaultParameters .silent .started LocEngData.started_started
    [.handle (.requestAtl 7 agpsTypeWwanAny) .success] (.waiting .internetNif) (by decide)
    .success).2.1 7).mpr (Or.inr ⟨apart, Or.inl ⟨atlClient, by decide, rfl, rfl⟩⟩)

/-- The instance in which `agnss_nif` waits on behalf of a BIT client whose address
reads as 7. -/
def LocEngData.waitingBit : LocEngData :=
  LocEngData.started.setNif .agnssNif
    ((Gps.locEngAgpsInit .agnssNif).subscribeRsrc (.bit (.new 7 none))).1

/-- ATL client 7 is not listed after its request, and its release takes out the BIT
client with address 7; the release of that BIT client takes out ATL client 7. -/
theorem not_clientsApart :
    (LocEngData.waitingBit ∈ (locEngThread locDefaultParameters .silent).run (some .started)
        [.handle (.requestBit .supl 7 none) .success] ∧
      ¬ LocEngData.waitingBit.ListsAtl .agnssNif 7 ∧
      (¬ ∃ after ∈ (LocEngData.waitingBit.handle locDefaultParameters .silent .success
        (.requestAtl 7 agpsTypeSupl)).1, after.ListsAtl .agnssNif 7) ∧
      ¬ LocEngData.waitingBit.ReleasesAtl 7 (LocEngData.waitingBit.handle locDefaultParameters
        .silent .success (.releaseAtl 7))) ∧
    LocEngData.waiting .agnssNif ∈ (locEngThread locDefaultParameters .silent).run
        (some .started) [.handle (.requestAtl 7 agpsTypeSupl) .success] ∧
      ¬ (LocEngData.waiting .agnssNif).SparesAtl .agnssNif (.bit (.new 7 none))
        ((LocEngData.waiting .agnssNif).handle locDefaultParameters .silent .success
          (.releaseBit .supl 7 none)) := by
  have unlisted : ¬ LocEngData.waitingBit.ListsAtl .agnssNif 7 := by
    rintro ⟨s, member, isAtl⟩
    cases List.mem_singleton.mp member
    cases isAtl.1
  refine ⟨⟨by decide, unlisted, ?_, fun releases => ?_⟩, by decide, fun spares => ?_⟩
  · rintro ⟨after, reached, s, member, isAtl⟩
    cases reached
    cases List.mem_singleton.mp member
    cases isAtl.1
  · cases (releases.1 (.bit (.new 7 none)) (Or.inl ⟨.agnssNif, by decide⟩)).1
  · cases spares.2 atlClient (Or.inl ⟨.agnssNif, by decide⟩)

end Messages

end Msm8660.Gps
