import Msm8660.Gps.AgpsInvariant
import Msm8660.Gps.LocEngClients

/-!
# BIT clients without an IPv4 address

A BIT client that has no IPv4 address is known by the 16 bytes of its IPv6 address.
`equals` compares them with `strncmp`, which stops at a common zero byte, so two
clients whose addresses differ only behind such a byte are taken for one another
(`Subscriber.LooksAlike`).

Among such clients every request and every release does what it is for exactly when
no listed client looks like the one that asks (`keepsIdentity_iff`).
-/

set_option autoImplicit false

namespace Msm8660.Gps

/-- The BIT client that has this IPv6 address only. -/
abbrev ipv6Client (address : Ipv6Addr) : Subscriber := .bit (.new inaddrNone (some address))

/-- Whether a client is known by its IPv6 address. -/
def Subscriber.Ipv6Only (s : Subscriber) : Prop := ∃ address, s = ipv6Client address

/-- The address of `s` is another one that differs only behind a common zero byte. -/
def Subscriber.LooksAlike (s : Subscriber) (address : Ipv6Addr) : Prop :=
  ∃ shared rest rest', s.castIpv6Addr.toList = shared ++ 0 :: rest ∧
    address.toList = shared ++ 0 :: rest' ∧ rest ≠ rest'

/-! ## Lists of such clients -/

section Lists

variable {list rest : List Subscriber} {s other : Subscriber} {address : Ipv6Addr}

theorem Subscriber.Ipv6Only.clone (only : s.Ipv6Only) : s.clone.Ipv6Only := by
  obtain ⟨address, rfl⟩ := only
  exact ⟨address, rfl⟩

theorem Subscriber.Ipv6Only.setInactive (only : s.Ipv6Only) : s.setInactive.Ipv6Only := by
  obtain ⟨address, rfl⟩ := only
  exact ⟨address, rfl⟩

/-- Who looks alike has another address that holds the same string. -/
theorem Subscriber.looksAlike_iff : s.LooksAlike address ↔
    s.castIpv6Addr ≠ address ∧
      cString 16 s.castIpv6Addr.toList = cString 16 address.toList := by
  rw [cString_eq_cString_iff (by simp) (by simp)]
  constructor
  · rintro ⟨shared, rest, rest', split, split', apart⟩
    refine ⟨?_, Or.inr ⟨shared, rest, rest', split, split'⟩⟩
    rintro rfl
    rw [split] at split'
    simp [apart] at split'
  · rintro ⟨bytes, same | ⟨shared, rest, rest', split, split'⟩⟩
    · exact absurd (List.Vector.eq _ _ same) bytes
    · refine ⟨shared, rest, rest', split, split', ?_⟩
      rintro rfl
      exact bytes (List.Vector.eq _ _ (split.trans split'.symm))

/-- Such clients are equal when their addresses hold the same string. -/
theorem Subscriber.Ipv6Only.equals_iff (only : s.Ipv6Only) (only' : other.Ipv6Only) :
    s.equals other = true ↔
      cString 16 s.castIpv6Addr.toList = cString 16 other.castIpv6Addr.toList := by
  obtain ⟨address, rfl⟩ := only
  obtain ⟨address', rfl⟩ := only'
  refine Subscriber.equals_bit_iff.trans ⟨?_, fun text => ⟨rfl, Or.inr text⟩⟩
  rintro ⟨-, address | text⟩
  · exact absurd rfl address
  · exact text

/-- A string names at most one listed client. -/
theorem eq_of_cString_eq (only : ∀ s ∈ list, s.Ipv6Only)
    (distinct : list.Pairwise fun newer older => older.equals newer = false)
    (member : s ∈ list) (member' : other ∈ list)
    (text : cString 16 s.castIpv6Addr.toList = cString 16 other.castIpv6Addr.toList) :
    s = other := by
  by_contra another
  have equal := ((only s member).equals_iff (only other member')).mpr text
  have equal' := ((only other member').equals_iff (only s member)).mpr text.symm
  rcases unequal_of_distinct distinct member member' another with unequal | unequal
  · exact absurd equal (by simp [unequal])
  · exact absurd equal' (by simp [unequal])

/-- A release takes out every subscriber that equals the client. -/
theorem Release.rest_eq {found : Option Subscriber} (release : Release s list rest found)
    (only : ∀ s ∈ list, s.Ipv6Only) (only' : s.Ipv6Only)
    (distinct : list.Pairwise fun newer older => older.equals newer = false) :
    rest = list.filter (!·.equals s) := by
  cases release with
  | absent absent =>
      exact (List.filter_eq_self.mpr fun other member => by simp [absent other member]).symm
  | @found found before after split first equal =>
      have here : found ∈ list := by simp [split]
      have others : ∀ other ∈ after, other.equals s = false := by
        intro other member
        have listed : other ∈ list := by simp [split, member]
        have unequal : other.equals found = false := by
          rw [split, List.pairwise_append, List.pairwise_cons] at distinct
          exact distinct.2.1.1 other member
        by_contra same
        have text := ((only other listed).equals_iff only').mp (by simpa using same)
        have text' := ((only found here).equals_iff only').mp equal
        exact absurd (((only other listed).equals_iff (only found here)).mpr
          (text.trans text'.symm)) (by simp [unequal])
      have early : before.filter (!·.equals s) = before :=
        List.filter_eq_self.mpr fun other member => by simp [first other member]
      have late : after.filter (!·.equals s) = after :=
        List.filter_eq_self.mpr fun other member => by simp [others other member]
      rw [split, List.filter_append, List.filter_cons, early, late, equal]
      rfl

/-- The new client is put at the head of the list, unless somebody there looks like
it. -/
theorem listed_eq_cons_iff (only : ∀ s ∈ list, s.Ipv6Only)
    (distinct : list.Pairwise fun newer older => older.equals newer = false) :
    ((∀ s ∈ list, s.castIpv6Addr ≠ address) →
        listed list (ipv6Client address) = ipv6Client address :: list) ↔
      ¬ ∃ s ∈ list, s.LooksAlike address := by
  constructor
  · rintro joins ⟨s, member, alike⟩
    obtain ⟨bytes, text⟩ := Subscriber.looksAlike_iff.mp alike
    have new : ∀ other ∈ list, other.castIpv6Addr ≠ address := by
      rintro other member' rfl
      exact bytes (congrArg _ (eq_of_cString_eq only distinct member member' text))
    have present : list.any (·.equals (ipv6Client address)) = true :=
      List.any_eq_true.mpr ⟨s, member, ((only s member).equals_iff ⟨address, rfl⟩).mpr text⟩
    have longer := congrArg List.length (joins new)
    simp [listed, present] at longer
  · intro nobody new
    have absent : ¬ list.any (·.equals (ipv6Client address)) = true := by
      intro present
      obtain ⟨s, member, equal⟩ := List.any_eq_true.mp present
      exact nobody ⟨s, member, Subscriber.looksAlike_iff.mpr ⟨new s member,
        ((only s member).equals_iff ⟨address, rfl⟩).mp equal⟩⟩
    rw [listed, if_neg absent]
    rfl

/-- A release takes out the subscriber with the address of the client, unless
somebody there looks like the client. -/
theorem Release.rest_eq_filter_iff {found : Option Subscriber}
    (release : Release (ipv6Client address) list rest found)
    (only : ∀ s ∈ list, s.Ipv6Only)
    (distinct : list.Pairwise fun newer older => older.equals newer = false) :
    rest = list.filter (·.castIpv6Addr ≠ address) ↔ ¬ ∃ s ∈ list, s.LooksAlike address := by
  rw [release.rest_eq only ⟨address, rfl⟩ distinct]
  constructor
  · rintro same ⟨s, member, alike⟩
    obtain ⟨bytes, text⟩ := Subscriber.looksAlike_iff.mp alike
    have kept : s ∈ list.filter (!·.equals (ipv6Client address)) := by
      rw [same]
      exact List.mem_filter.mpr ⟨member, by simpa using bytes⟩
    have equal := ((only s member).equals_iff ⟨address, rfl⟩).mpr text
    simp [equal] at kept
  · intro nobody
    apply List.filter_congr
    intro s member
    by_cases bytes : s.castIpv6Addr = address
    · have equal := ((only s member).equals_iff ⟨address, rfl⟩).mpr (by rw [bytes]; rfl)
      simp [equal, bytes]
    · have unequal : s.equals (ipv6Client address) = false := by
        by_contra equal
        exact nobody ⟨s, member, Subscriber.looksAlike_iff.mpr ⟨bytes,
          ((only s member).equals_iff ⟨address, rfl⟩).mp (by simpa using equal)⟩⟩
      simp [unequal, bytes]

end Lists

/-! ## Runs -/

section Runs

variable {conf : LocGpsCfg} {nmea : NmeaGenerator} {data initial : LocEngData}

/-- The client of an input, if it brings one, is known by its IPv6 address. -/
def ThreadInput.Ipv6Only (input : ThreadInput) : Prop := ∀ s ∈ input.client, s.Ipv6Only

/-- The request of the client with this address. -/
abbrev LocEngMsg.requestIpv6 (ifType : LocIfReqType) (address : Ipv6Addr) : LocEngMsg :=
  .requestBit ifType inaddrNone (some address)

/-- The release of the client with this address. -/
abbrev LocEngMsg.releaseIpv6 (ifType : LocIfReqType) (address : Ipv6Addr) : LocEngMsg :=
  .releaseBit ifType inaddrNone (some address)

theorem ThreadInput.ipv6Only_request (ifType : LocIfReqType) (address : Ipv6Addr)
    (answers : Answers) : (handle (.requestIpv6 ifType address) answers).Ipv6Only :=
  fun _ brought => ⟨address, (Option.some.inj brought).symm⟩

/-- What a step has to do: a request with new bytes adds a subscriber, a release
removes the subscriber with these bytes and no other. -/
structure KeepsIdentity (taken : Machine.Step (Option LocEngData) ThreadInput Call) : Prop where
  request : ∀ data ∈ taken.before, ∀ ifType address answers nif,
    taken.input = .handle (.requestIpv6 ifType address) answers → bitNif ifType = some nif →
      (∀ s ∈ data.subscribers nif, s.castIpv6Addr ≠ address) →
        ∃ after ∈ taken.after,
          after.subscribers nif = ipv6Client address :: data.subscribers nif
  release : ∀ data ∈ taken.before, ∀ ifType address answers nif,
    taken.input = .handle (.releaseIpv6 ifType address) answers → bitNif ifType = some nif →
      ∃ after ∈ taken.after,
        after.subscribers nif = (data.subscribers nif).filter (·.castIpv6Addr ≠ address)

/-- A client asks or leaves while the machine lists a client that looks like it. -/
def Confuses (taken : Machine.Step (Option LocEngData) ThreadInput Call) : Prop :=
  ∃ data ∈ taken.before, ∃ ifType address answers nif,
    (taken.input = .handle (.requestIpv6 ifType address) answers ∨
        taken.input = .handle (.releaseIpv6 ifType address) answers) ∧
      bitNif ifType = some nif ∧ ∃ s ∈ data.subscribers nif, s.LooksAlike address

/-- All listed subscribers are known by their IPv6 addresses. -/
def LocEngData.Ipv6Only (data : LocEngData) : Prop :=
  ∀ nif, ∀ s ∈ data.subscribers nif, s.Ipv6Only

theorem LocEngData.Ipv6Only.step (running : data.Running) (only : data.Ipv6Only)
    {input : ThreadInput} (brings : input.Ipv6Only) :
    ∀ after ∈ ((locEngThread conf nmea).step (some data) input).1, after.Ipv6Only := by
  intro after reached nif s member
  obtain ⟨m, here, sound⟩ := running.nifs nif
  have kept : ∀ held op, (Sound nif held ∧ ∀ s ∈ held.mSubscribers, s.Ipv6Only) →
      Takes input.client nif op → Sound nif (agpsMachine.step held op).1 ∧
        ∀ s ∈ (agpsMachine.step held op).1.mSubscribers, s.Ipv6Only := by
    intro held op good takes
    exact ⟨sound_takes nif held op good.1 takes, (good.1.move takes.admissible).forall_listed
      (fun _ => Subscriber.Ipv6Only.clone) (fun _ => Subscriber.Ipv6Only.setInactive)
      (fun s same => brings s (takes.2 s same)) good.2⟩
  obtain ⟨m', there, -, still⟩ := (locEngThread_acts input nif m here sound).kept kept
    ⟨sound, subscribers_eq here ▸ only nif⟩ after reached
  rw [subscribers_eq there] at member
  exact still s member

/-- What the request of an IPv6 client does. -/
theorem LocEngData.Running.handle_requestIpv6 (running : data.Running) (answers : Answers)
    {ifType : LocIfReqType} {nif : Nif} (there : bitNif ifType = some nif)
    (address : Ipv6Addr) :
    ∃ after, (data.handle conf nmea answers (.requestIpv6 ifType address)).1 = some after ∧
      after.subscribers nif = listed (data.subscribers nif) (ipv6Client address) := by
  have shared : nif ≠ .wifiNif := by cases ifType <;> cases there <;> simp
  have serves : nif.Serves (ipv6Client address) := by cases ifType <;> cases there <;> trivial
  have same : data.handleMsg conf nmea answers (.requestIpv6 ifType address) =
      data.callNif nif (.subscribeRsrc (ipv6Client address)) := by
    simp only [handleMsg, requestBit, there]
  obtain ⟨after, calls, handled, list, -⟩ := running.handle_subscribe shared serves same
  exact ⟨after, congrArg Prod.fst handled, list⟩

/-- What its release does. -/
theorem LocEngData.Running.handle_releaseIpv6 (running : data.Running) (answers : Answers)
    {ifType : LocIfReqType} {nif : Nif} (there : bitNif ifType = some nif)
    (address : Ipv6Addr) :
    ∃ after found,
      (data.handle conf nmea answers (.releaseIpv6 ifType address)).1 = some after ∧
        Release (ipv6Client address) (data.subscribers nif) (after.subscribers nif) found := by
  have shared : nif ≠ .wifiNif := by cases ifType <;> cases there <;> simp
  have same : data.handleMsg conf nmea answers (.releaseIpv6 ifType address) =
      data.callNif nif (.unsubscribeRsrc (ipv6Client address)) := by
    simp only [handleMsg, releaseBit, there]
  obtain ⟨after, calls, found, handled, release, -⟩ := running.handle_unsubscribe shared same
  exact ⟨after, found, congrArg Prod.fst handled, release⟩

/-- A step keeps the clients apart exactly when it meets nobody who looks like the
client. -/
theorem LocEngData.Running.keeps_iff (running : data.Running) (only : data.Ipv6Only)
    (input : ThreadInput) :
    KeepsIdentity ((locEngThread conf nmea).stepOn (some data) input) ↔
      ¬ Confuses ((locEngThread conf nmea).stepOn (some data) input) := by
  constructor
  · rintro keeps ⟨before, here, ifType, address, answers, nif, asks, there, alike⟩
    obtain rfl : data = before := Option.some.inj here
    rcases asks with asks | asks
    · refine (listed_eq_cons_iff (only nif) (running.distinct nif)).mp (fun new => ?_) alike
      obtain ⟨after, reached, joined⟩ := keeps.request data here ifType address answers nif asks
        there new
      obtain rfl : input = _ := asks
      obtain ⟨after', handled, list⟩ := running.handle_requestIpv6 answers there address
      obtain rfl : after' = after := Option.some.inj (handled.symm.trans reached)
      exact list.symm.trans joined
    · obtain ⟨after, reached, left⟩ := keeps.release data here ifType address answers nif asks
        there
      obtain rfl : input = _ := asks
      obtain ⟨after', found, handled, release⟩ := running.handle_releaseIpv6 answers there address
      obtain rfl : after' = after := Option.some.inj (handled.symm.trans reached)
      exact (release.rest_eq_filter_iff (only nif) (running.distinct nif)).mp left alike
  · intro apart
    constructor
    · intro before here ifType address answers nif asks there new
      obtain rfl : data = before := Option.some.inj here
      have joined := (listed_eq_cons_iff (only nif) (running.distinct nif)).mpr
        (fun alike => apart ⟨data, here, ifType, address, answers, nif, Or.inl asks, there, alike⟩)
        new
      obtain rfl : input = _ := asks
      obtain ⟨after, handled, list⟩ := running.handle_requestIpv6 answers there address
      exact ⟨after, handled, list.trans joined⟩
    · intro before here ifType address answers nif asks there
      obtain rfl : data = before := Option.some.inj here
      have nobody : ¬ ∃ s ∈ data.subscribers nif, s.LooksAlike address := fun alike =>
        apart ⟨data, here, ifType, address, answers, nif, Or.inr asks, there, alike⟩
      obtain rfl : input = _ := asks
      obtain ⟨after, found, handled, release⟩ := running.handle_releaseIpv6 answers there address
      exact ⟨after, handled,
        (release.rest_eq_filter_iff (only nif) (running.distinct nif)).mpr nobody⟩

/-- **IPv6 clients keep their identity exactly in the runs that confuse nobody.** In
a run in which nobody else subscribes, every request and every release does what it
is for if and only if none of them comes while the machine lists a client that looks
like the one that asks. -/
theorem keepsIdentity_iff (conf : LocGpsCfg) (nmea : NmeaGenerator) (initial : LocEngData)
    (started : initial.Started) (inputs : List ThreadInput)
    (only : ∀ input ∈ inputs, input.Ipv6Only) :
    (∀ taken ∈ (locEngThread conf nmea).steps (some initial) inputs, KeepsIdentity taken) ↔
      ∀ taken ∈ (locEngThread conf nmea).steps (some initial) inputs, ¬ Confuses taken := by
  have nobody : initial.Ipv6Only := by
    intro nif s member
    rw [LocEngData.subscribers_eq (started.nifs nif)] at member
    cases member
  have kept : ∀ (state : Option LocEngData) input,
      (∀ data ∈ state, data.Running ∧ data.Ipv6Only) → input.Ipv6Only →
        ∀ after ∈ ((locEngThread conf nmea).step state input).1,
          after.Running ∧ after.Ipv6Only := by
    intro state input good brings after reached
    cases state with
    | none => exact absurd reached (Option.not_mem_none after)
    | some data =>
        obtain ⟨running, only⟩ := good data rfl
        exact ⟨running.step input after reached, only.step running brings after reached⟩
  have each : ∀ taken ∈ (locEngThread conf nmea).steps (some initial) inputs,
      KeepsIdentity taken ↔ ¬ Confuses taken := by
    refine Machine.steps_induction kept (fun state input good _ => ?_)
      (fun data same => by cases same; exact ⟨started.running, nobody⟩) only
    cases state with
    | none =>
        refine ⟨fun _ => ?_, fun _ => ⟨fun _ here => ?_, fun _ here => ?_⟩⟩
        · rintro ⟨_, here, -⟩
          exact absurd here (Option.not_mem_none _)
        · exact absurd here (Option.not_mem_none _)
        · exact absurd here (Option.not_mem_none _)
    | some data => exact (good data rfl).1.keeps_iff (good data rfl).2 input
  exact forall₂_congr each

/-- The address `2001:db8::n`. -/
def documentationAddress (n : UInt8) : Ipv6Addr :=
  ⟨[0x20, 0x01, 0x0d, 0xb8, 0, 0, 0, 0, 0, 0, 0, 0, 0, 0, 0, n], rfl⟩

/-- The address `fe80::n`. -/
def linkLocalAddress (n : UInt8) : Ipv6Addr :=
  ⟨[0xfe, 0x80, 0, 0, 0, 0, 0, 0, 0, 0, 0, 0, 0, 0, 0, n], rfl⟩

/-- The instance in which `agnss_nif` waits on behalf of a client with this address. -/
def LocEngData.waitingIpv6 (address : Ipv6Addr) : LocEngData :=
  LocEngData.started.setNif .agnssNif
    ((Gps.locEngAgpsInit .agnssNif).subscribeRsrc (ipv6Client address)).1

/-- Two addresses that differ before their first zero byte. -/
theorem keepsIdentity_iff_apart :
    (linkLocalAddress 1).toList ≠ (documentationAddress 1).toList ∧
    ∀ taken ∈ (locEngThread locDefaultParameters .silent).steps (some .started)
        [.handle (.requestIpv6 .supl (documentationAddress 1)) .success,
          .handle (.requestIpv6 .supl (linkLocalAddress 1)) .success], KeepsIdentity taken := by
  refine ⟨by decide, (keepsIdentity_iff locDefaultParameters .silent .started
    LocEngData.started_started _ ?_).mpr ?_⟩
  · simp only [List.forall_mem_cons]
    exact ⟨ThreadInput.ipv6Only_request _ _ _, ThreadInput.ipv6Only_request _ _ _,
      fun _ none => absurd none List.not_mem_nil⟩
  · have reached : ((locEngThread locDefaultParameters .silent).step (some .started)
        (.handle (.requestIpv6 .supl (documentationAddress 1)) .success)).1 =
          some (.waitingIpv6 (documentationAddress 1)) := by decide
    simp only [Machine.steps_cons, Machine.steps_nil, List.forall_mem_cons, reached]
    refine ⟨?_, ?_, fun _ none => absurd none List.not_mem_nil⟩
    · rintro ⟨data, here, ifType, address, answers, nif, asks, there, s, member, alike⟩
      obtain rfl : LocEngData.started = data := Option.some.inj here
      cases nif <;> exact absurd member List.not_mem_nil
    · rintro ⟨data, here, ifType, address, answers, nif, asks, there, s, member, alike⟩
      obtain rfl : LocEngData.waitingIpv6 (documentationAddress 1) = data :=
        Option.some.inj here
      rcases asks with asks | asks
      · cases asks
        cases there
        cases List.mem_singleton.mp member
        exact absurd (Subscriber.looksAlike_iff.mp alike).2 (by decide)
      · cases asks

/-- The request of `2001:db8::2` is taken for one of `2001:db8::1`, and its release
takes out `2001:db8::1`. -/
theorem not_keepsIdentity :
    (¬ ∀ taken ∈ (locEngThread locDefaultParameters .silent).steps (some .started)
        [.handle (.requestIpv6 .supl (documentationAddress 1)) .success,
          .handle (.requestIpv6 .supl (documentationAddress 2)) .success], KeepsIdentity taken) ∧
      ¬ ∀ taken ∈ (locEngThread locDefaultParameters .silent).steps (some .started)
        [.handle (.requestIpv6 .supl (documentationAddress 1)) .success,
          .handle (.releaseIpv6 .supl (documentationAddress 2)) .success], KeepsIdentity taken := by
  simp only [Machine.steps_cons, Machine.steps_nil, List.forall_mem_cons]
  constructor
  · rintro ⟨-, keeps, -⟩
    obtain ⟨after, reached, joined⟩ := keeps.request _ rfl .supl _ _ .agnssNif rfl rfl (by decide)
    cases reached
    exact absurd joined (by decide)
  · rintro ⟨-, keeps, -⟩
    obtain ⟨after, reached, left⟩ := keeps.release _ rfl .supl _ _ .agnssNif rfl rfl
    cases reached
    exact absurd left (by decide)

end Runs

end Msm8660.Gps
