import Msm8660.Gps.LocEngThread

/-!
# Which position reports are delivered

The handler of `LOC_ENG_MSG_REPORT_POSITION` decides in a nested condition whether
`location_cb` is called. Its comment has the rule: a good final fix, or an intermediate one
where these are wanted and it is accurate enough. That a fix of the second kind is
intermediate is "implicit", which is to say that nobody looks at its status: a final fix
that is not good is delivered as an intermediate one would be
(`deliversByRule_iff`). And the accuracy is not compared with the threshold, but with the
`float` that the threshold is converted to: one that lies between the two is misjudged.
-/

set_option autoImplicit false

namespace Msm8660.Gps

/-- The data of `LOC_ENG_MSG_REPORT_POSITION`. -/
structure PositionReport where
  location : GpsLocation
  locationExtended : GpsLocationExtended
  locationExt : Pointer
  status : LocSessStatus
  technologyMask : BitVec 32
deriving DecidableEq

namespace PositionReport

/-- The message. -/
def msg (report : PositionReport) : LocEngMsg :=
  .reportPosition report.location report.locationExtended report.locationExt report.status
    report.technologyMask

/-! ## The rule -/

/-- "This is from hybrid provider", or "it is a Satellite fix", or "it is a sensor fix". -/
def IsGood (report : PositionReport) : Prop :=
  (locationHasSourceInfo &&& report.location.flags ≠ 0 ∧
      report.location.positionSource = ulpLocationIsFromHybrid) ∨
    locPosTechMaskSatellite &&& report.technologyMask ≠ 0 ∨
    locPosTechMaskSensors &&& report.technologyMask ≠ 0

/-- "There is inaccuracy", "we care about inaccuracy", and "the inaccuracy exceeds our
tolerance". -/
def IsInaccurate (conf : LocGpsCfg) (report : PositionReport) : Prop :=
  report.location.flags &&& gpsLocationHasAccuracy ≠ 0 ∧ conf.accuracyThres ≠ 0 ∧
    report.location.accuracy > conf.accuracyThres

/-- Intermediate fixes are wanted and this one would be accurate enough. -/
def IsTolerated (conf : LocGpsCfg) (data : LocEngData) (report : PositionReport) : Prop :=
  data.intermediateFix = 1 ∧ ¬ report.IsInaccurate conf

instance (report : PositionReport) : Decidable report.IsGood :=
  inferInstanceAs (Decidable (_ ∨ _))

instance (conf : LocGpsCfg) (report : PositionReport) : Decidable (report.IsInaccurate conf) :=
  inferInstanceAs (Decidable (_ ∧ _))

instance (conf : LocGpsCfg) (data : LocEngData) (report : PositionReport) :
    Decidable (report.IsTolerated conf data) :=
  inferInstanceAs (Decidable (_ ∧ _))

/-- The inaccuracy exceeds what the tolerance becomes as a `float`. -/
def IsRefused (conf : LocGpsCfg) (report : PositionReport) : Prop :=
  report.location.flags &&& gpsLocationHasAccuracy ≠ 0 ∧ conf.accuracyThres ≠ 0 ∧
    report.location.accuracy > natToFloat conf.accuracyThres

/-- Intermediate fixes are wanted and this one would not be refused. -/
def IsPassed (conf : LocGpsCfg) (data : LocEngData) (report : PositionReport) : Prop :=
  data.intermediateFix = 1 ∧ ¬ report.IsRefused conf

/-- The inaccuracy lies between the tolerance and what it becomes as a `float`. -/
def IsMisjudged (conf : LocGpsCfg) (report : PositionReport) : Prop :=
  report.location.flags &&& gpsLocationHasAccuracy ≠ 0 ∧ conf.accuracyThres ≠ 0 ∧
    (min conf.accuracyThres (natToFloat conf.accuracyThres) : ℕ) < report.location.accuracy ∧
    report.location.accuracy ≤ (max conf.accuracyThres (natToFloat conf.accuracyThres) : ℕ)

instance (conf : LocGpsCfg) (report : PositionReport) : Decidable (report.IsRefused conf) :=
  inferInstanceAs (Decidable (_ ∧ _))

instance (conf : LocGpsCfg) (data : LocEngData) (report : PositionReport) :
    Decidable (report.IsPassed conf data) :=
  inferInstanceAs (Decidable (_ ∧ _))

instance (conf : LocGpsCfg) (report : PositionReport) : Decidable (report.IsMisjudged conf) :=
  inferInstanceAs (Decidable (_ ∧ _))

/-- What the comment says of a fix that is no failure. -/
def DeservesDelivery (conf : LocGpsCfg) (data : LocEngData) (report : PositionReport) : Prop :=
  report.status = .locSessSuccess ∧ report.IsGood ∨
    report.status = .locSessIntermediate ∧ report.IsTolerated conf data

instance (conf : LocGpsCfg) (data : LocEngData) (report : PositionReport) :
    Decidable (report.DeservesDelivery conf data) :=
  inferInstanceAs (Decidable (_ ∨ _))

/-- **What the handler is to do with a report.** -/
structure DeliversByRule (conf : LocGpsCfg) (nmea : NmeaGenerator) (data : LocEngData)
    (answers : Answers) (report : PositionReport) : Prop where
  fix : .locationCb (some (report.location, report.locationExt)) ∈
      (data.handleMsg conf nmea answers report.msg).2 ↔ report.DeservesDelivery conf data
  failure : .locationCb none ∈ (data.handleMsg conf nmea answers report.msg).2 ↔
    report.status = .locSessFailure
  /-- In single-shot mode the session is over with a delivery. -/
  session : answers.recurrence = .gpsPositionRecurrenceSingle →
    ∀ reached ∈ (data.handleMsg conf nmea answers report.msg).1,
      reached.navigating = true ↔ data.navigating = true ∧
        ¬ ∃ delivered, .locationCb delivered ∈ (data.handleMsg conf nmea answers report.msg).2
  stop : answers.recurrence = .gpsPositionRecurrenceSingle →
    (.adapter .stopFix ∈ (data.handleMsg conf nmea answers report.msg).2 ↔
      (∃ delivered, .locationCb delivered ∈ (data.handleMsg conf nmea answers report.msg).2) ∧
        report.status = .locSessIntermediate)

end PositionReport

/-! ## What the handler does -/

namespace LocEngData

variable (conf : LocGpsCfg) (nmea : NmeaGenerator) (data : LocEngData) (answers : Answers)
  (report : PositionReport)

/-- What `location_cb` is called with, if it is called. -/
def delivered : List (Option (GpsLocation × Pointer)) :=
  if report.status = .locSessFailure then [none]
  else if acceptsFix conf data report.location report.status report.technologyMask then
    [some (report.location, report.locationExt)]
  else []

/-- Whether the report ends the session. -/
def endsSession : Prop :=
  data.delivered conf report ≠ [] ∧ answers.recurrence = .gpsPositionRecurrenceSingle

instance : Decidable (data.endsSession conf answers report) :=
  inferInstanceAs (Decidable (_ ∧ _))

/-- The calls of a report before any sentence. -/
def deliveryCalls : List Call :=
  (data.delivered conf report).map .locationCb ++
    if data.endsSession conf answers report ∧ report.status = .locSessIntermediate then
      [.adapter .stopFix]
    else []

/-- Whether a call belongs to the sending of a sentence. -/
def IsSentence (call : Call) : Prop :=
  call = .nullPointer ∨ ∃ sentence, call = .nmeaCb sentence

/-- The sentences of a report come last and leave the session alone. -/
theorem sentences_behind (location : GpsLocation) (locationExtended : GpsLocationExtended) :
    Outcome.Ensures (fun reached => reached.navigating = data.navigating) IsSentence
      (if data.generateNmea ∧ location.positionSource = ulpLocationIsFromGnss then
        let (cache, sentences) := nmea.generatePos data.nmeaCache location locationExtended
        { data with nmeaCache := cache }.locEngNmeaSend sentences
      else data.done []) := by
  split
  · dsimp only
    unfold locEngNmeaSend
    split
    · refine Outcome.Ensures.some (by rfl) fun call member => ?_
      obtain ⟨sentence, -, rfl⟩ := List.mem_map.mp member
      exact Or.inr ⟨sentence, rfl⟩
    · refine Outcome.Ensures.none fun call member => ?_
      exact Or.inl (List.mem_singleton.mp member)
  · exact Outcome.Ensures.silent rfl

variable {conf nmea data answers report}

/-- **What the handler does with a report**: the calls of a delivery, and then the
sentences. -/
theorem handleMsg_position (unmuted : data.muteSessionState ≠ .locMuteSessInSession)
    (listening : data.locationCb = true) :
    data.handleMsg conf nmea answers report.msg =
      (({ data with navigating :=
          if data.endsSession conf answers report then false else data.navigating }.done
        (data.deliveryCalls conf answers report)).andThen fun data =>
      if data.generateNmea ∧ report.location.positionSource = ulpLocationIsFromGnss then
        let (cache, sentences) :=
          nmea.generatePos data.nmeaCache report.location report.locationExtended
        { data with nmeaCache := cache }.locEngNmeaSend sentences
      else data.done []) := by
  have fix : (if data.locationCb = true then
      if report.status = .locSessFailure then [Call.locationCb none]
      else if acceptsFix conf data report.location report.status report.technologyMask then
        [.locationCb (some (report.location, report.locationExt))] else []
      else []) = (data.delivered conf report).map .locationCb := by
    rw [if_pos listening, delivered, apply_ite (List.map _), apply_ite (List.map _)]
    rfl
  change data.reportPosition conf nmea answers report.location report.locationExtended
    report.locationExt report.status report.technologyMask = _
  rw [reportPosition, if_neg unmuted]
  dsimp only
  rw [fix]
  congr 1
  have ends : (data.delivered conf report).map Call.locationCb ≠ [] ∧
      answers.recurrence = .gpsPositionRecurrenceSingle ↔ data.endsSession conf answers report := by
    rw [endsSession, ne_eq, List.map_eq_nil_iff]
  by_cases finished : data.endsSession conf answers report
  · simp only [done, Outcome.andThen_some, if_pos (ends.mpr finished), deliveryCalls, finished,
      true_and, if_true]
  · simp only [done, Outcome.andThen_some, if_neg (fun both => finished (ends.mp both)),
      deliveryCalls, finished, false_and, if_false]

theorem mem_handleMsg_position (unmuted : data.muteSessionState ≠ .locMuteSessInSession)
    (listening : data.locationCb = true) {call : Call} (noSentence : ¬ IsSentence call) :
    call ∈ (data.handleMsg conf nmea answers report.msg).2 ↔
      call ∈ data.deliveryCalls conf answers report := by
  rw [handleMsg_position unmuted listening]
  constructor
  · intro member
    obtain early | ⟨reached, -, late⟩ := Outcome.emitted_of_andThen member
    · exact early
    · exact absurd ((sentences_behind nmea reached _ _).every call late) noSentence
  · exact fun early => Outcome.mem_andThen_left early _

theorem navigating_handleMsg_position
    (unmuted : data.muteSessionState ≠ .locMuteSessInSession) (listening : data.locationCb = true)
    {reached : LocEngData} (alive : reached ∈ (data.handleMsg conf nmea answers report.msg).1) :
    reached.navigating =
      if data.endsSession conf answers report then false else data.navigating := by
  rw [handleMsg_position unmuted listening] at alive
  obtain ⟨middle, early, late⟩ := Outcome.exists_of_mem_andThen alive
  cases early
  exact (sentences_behind nmea _ _ _).post reached late

/-- The calls of `location_cb`. -/
theorem mem_locationCb_position (unmuted : data.muteSessionState ≠ .locMuteSessInSession)
    (listening : data.locationCb = true) {fix : Option (GpsLocation × Pointer)} :
    .locationCb fix ∈ (data.handleMsg conf nmea answers report.msg).2 ↔
      fix ∈ data.delivered conf report := by
  rw [mem_handleMsg_position unmuted listening (by rintro (same | ⟨_, same⟩) <;> cases same),
    deliveryCalls, List.mem_append, List.mem_map]
  constructor
  · rintro (⟨_, member, same⟩ | stops)
    · cases same
      exact member
    · split at stops
      · cases List.mem_singleton.mp stops
      · exact absurd stops List.not_mem_nil
  · exact fun member => Or.inl ⟨fix, member, rfl⟩

/-- The call of `stopFix`. -/
theorem mem_stopFix_position (unmuted : data.muteSessionState ≠ .locMuteSessInSession)
    (listening : data.locationCb = true) :
    .adapter .stopFix ∈ (data.handleMsg conf nmea answers report.msg).2 ↔
      data.endsSession conf answers report ∧ report.status = .locSessIntermediate := by
  rw [mem_handleMsg_position unmuted listening (by rintro (same | ⟨_, same⟩) <;> cases same),
    deliveryCalls, List.mem_append, List.mem_map]
  constructor
  · rintro (⟨_, _, same⟩ | stops)
    · cases same
    · split at stops
      · assumption
      · exact absurd stops List.not_mem_nil
  · intro stops
    rw [if_pos stops]
    exact Or.inr (List.mem_singleton_self _)

end LocEngData

/-! ## Against the rule -/

namespace PositionReport

variable {conf : LocGpsCfg} {nmea : NmeaGenerator} {data : LocEngData} {answers : Answers}
  {report : PositionReport}

/-- The condition of the source, in the words of the rule. No status is asked for on the
right. -/
theorem acceptsFix_iff :
    acceptsFix conf data report.location report.status report.technologyMask = true ↔
      report.status = .locSessSuccess ∧ report.IsGood ∨ report.IsPassed conf data := by
  simp only [acceptsFix, IsGood, IsPassed, IsRefused, LocSessStatus.value, Bool.or_eq_true,
    Bool.and_eq_true, Bool.not_eq_true', ← Bool.not_eq_true, beq_iff_eq, bne_iff_ne,
    decide_eq_true_eq, or_assoc, and_assoc, eq_comm (a := 1)]

theorem delivered_failure (failed : report.status = .locSessFailure) :
    data.delivered conf report = [none] := if_pos failed

/-- What is delivered of a report that is no failure. -/
theorem mem_delivered_iff (succeeded : report.status ≠ .locSessFailure)
    {fix : Option (GpsLocation × Pointer)} :
    fix ∈ data.delivered conf report ↔
      fix = some (report.location, report.locationExt) ∧
        (report.status = .locSessSuccess ∧ report.IsGood ∨ report.IsPassed conf data) := by
  rw [LocEngData.delivered, if_neg succeeded]
  by_cases accepted :
      acceptsFix conf data report.location report.status report.technologyMask = true
  · rw [if_pos accepted, List.mem_singleton]
    exact (and_iff_left (acceptsFix_iff.mp accepted)).symm
  · rw [if_neg accepted]
    exact iff_of_false List.not_mem_nil fun both => accepted (acceptsFix_iff.mpr both.2)

/-- The comparison goes wrong exactly for what is misjudged. -/
theorem isMisjudged_iff :
    report.IsMisjudged conf ↔ ¬ (report.IsRefused conf ↔ report.IsInaccurate conf) := by
  rw [IsMisjudged, IsRefused, IsInaccurate, Nat.cast_min, Nat.cast_max, min_lt_iff, le_max_iff]
  grind

/-- Of the numbers of type `float`, the one that the threshold is rounded up to is misjudged,
and no other. -/
theorem isMisjudged_iff_of_isBinary32 (float : IsBinary32 report.location.accuracy) :
    report.IsMisjudged conf ↔
      report.location.flags &&& gpsLocationHasAccuracy ≠ 0 ∧ conf.accuracyThres ≠ 0 ∧
        (conf.accuracyThres : ℚ) < report.location.accuracy ∧
        report.location.accuracy = natToFloat conf.accuracyThres := by
  rw [isMisjudged_iff, IsRefused, IsInaccurate, gt_iff_lt, gt_iff_lt, float.natToFloat_lt_iff]
  tauto

/-- What is tolerated, where intermediate fixes are wanted and this one is not misjudged. -/
theorem isPassed_iff_isTolerated (fair : ¬ (data.intermediateFix = 1 ∧ report.IsMisjudged conf)) :
    report.IsPassed conf data ↔ report.IsTolerated conf data := by
  rw [IsPassed, IsTolerated]
  refine and_congr_right fun wanted => not_congr ?_
  by_contra differ
  exact fair ⟨wanted, isMisjudged_iff.mpr differ⟩

/-- `location_cb` is called without a fix exactly for a failure. -/
theorem none_mem_delivered_iff :
    none ∈ data.delivered conf report ↔ report.status = .locSessFailure := by
  by_cases failed : report.status = .locSessFailure
  · rw [delivered_failure failed]
    exact iff_of_true (List.mem_singleton_self _) failed
  · rw [mem_delivered_iff failed]
    exact iff_of_false nofun failed

/-- The session is over with a delivery, in single-shot mode. -/
theorem endsSession_iff (unmuted : data.muteSessionState ≠ .locMuteSessInSession)
    (listening : data.locationCb = true)
    (single : answers.recurrence = .gpsPositionRecurrenceSingle) :
    data.endsSession conf answers report ↔
      ∃ delivered, .locationCb delivered ∈ (data.handleMsg conf nmea answers report.msg).2 := by
  simp only [LocEngData.mem_locationCb_position unmuted listening, LocEngData.endsSession, single,
    and_true]
  exact ⟨List.exists_mem_of_ne_nil _, fun ⟨_, member⟩ => List.ne_nil_of_mem member⟩

/-- **The rule is followed by all reports but two kinds**: those that are final, not good, and
yet passed, and intermediate ones that are wanted and misjudged. -/
theorem deliversByRule_iff (nmea : NmeaGenerator) (answers : Answers)
    (unmuted : data.muteSessionState ≠ .locMuteSessInSession)
    (listening : data.locationCb = true) :
    report.DeliversByRule conf nmea data answers ↔
      ¬ (report.status = .locSessSuccess ∧ ¬ report.IsGood ∧ report.IsPassed conf data) ∧
        ¬ (report.status = .locSessIntermediate ∧ data.intermediateFix = 1 ∧
          report.IsMisjudged conf) := by
  constructor
  · intro rule
    have fix := rule.fix
    rw [LocEngData.mem_locationCb_position unmuted listening] at fix
    constructor
    · rintro ⟨final, bad, passed⟩
      rw [mem_delivered_iff (by rw [final]; decide)] at fix
      obtain ⟨-, good⟩ | ⟨intermediate, -⟩ := fix.mp ⟨rfl, Or.inr passed⟩
      · exact bad good
      · rw [final] at intermediate
        cases intermediate
    · rintro ⟨intermediate, wanted, misjudged⟩
      rw [mem_delivered_iff (by rw [intermediate]; decide), DeservesDelivery, intermediate] at fix
      simp only [true_and, reduceCtorEq, false_and, false_or, IsPassed, IsTolerated, wanted] at fix
      exact isMisjudged_iff.mp misjudged (not_iff_not.mp fix)
  · rintro ⟨spared, fair⟩
    constructor
    case fix =>
      rw [LocEngData.mem_locationCb_position unmuted listening, DeservesDelivery]
      cases kind : report.status with
      | locSessSuccess =>
          rw [mem_delivered_iff (by rw [kind]; decide), kind]
          have settled : report.IsPassed conf data → report.IsGood := by
            intro passed
            by_contra bad
            exact spared ⟨kind, bad, passed⟩
          simp only [true_and, reduceCtorEq, false_and, or_false]
          exact ⟨fun either => either.elim id settled, Or.inl⟩
      | locSessIntermediate =>
          rw [mem_delivered_iff (by rw [kind]; decide), kind]
          simp only [true_and, reduceCtorEq, false_and, false_or]
          exact isPassed_iff_isTolerated fun both => fair ⟨kind, both⟩
      | locSessFailure =>
          rw [delivered_failure kind]
          simp only [List.mem_singleton, reduceCtorEq, false_and, or_false]
    case failure =>
      rw [LocEngData.mem_locationCb_position unmuted listening, none_mem_delivered_iff]
    case session =>
      intro single reached alive
      rw [LocEngData.navigating_handleMsg_position unmuted listening alive,
        ← endsSession_iff unmuted listening single]
      by_cases finished : data.endsSession conf answers report
      · rw [if_pos finished]
        exact iff_of_false Bool.false_ne_true fun both => both.2 finished
      · rw [if_neg finished]
        exact (and_iff_left finished).symm
    case stop =>
      intro single
      rw [LocEngData.mem_stopFix_position unmuted listening,
        endsSession_iff unmuted listening single]

/-- A fix without satellites, as the network gives it. -/
def cellId (status : LocSessStatus) : PositionReport :=
  ⟨⟨0, 0, 1, 2, 0, 0, 0, 0, 0⟩, ⟨0, 0, 0, 0, 0, 0⟩, 0, status, 0⟩

/-- 16777219 becomes 16777220 as a `float`. -/
example : PositionReport.IsMisjudged { locDefaultParameters with accuracyThres := 16777219 }
    { cellId .locSessIntermediate with location :=
        { (cellId .locSessIntermediate).location with flags := 0x10, accuracy := 16777220 } } := by
  decide +kernel

/-- The fix as an intermediate one, where these are wanted. -/
theorem deliversByRule_iff_intermediate :
    (cellId .locSessIntermediate).DeliversByRule locDefaultParameters .silent
      (locEngInit ⟨true, true, true, true, true⟩ 1 false) .success :=
  (deliversByRule_iff .silent .success (by decide) rfl).mpr ⟨by decide, by decide⟩

/-- The fix as a final one. It is delivered all the same. -/
theorem not_deliversByRule :
    ¬ (cellId .locSessSuccess).DeliversByRule locDefaultParameters .silent
      (locEngInit ⟨true, true, true, true, true⟩ 1 false) .success :=
  fun rule => absurd (rule.fix.mp (by decide)) (by decide)

end PositionReport

end Msm8660.Gps
