import Msm8660.Gps.Nmea

/-!
# Which satellite report a position sentence is about

A satellite report leaves its satellites and its dilution of precision for the next
position report. `Fresh` says that the cache holds nothing but what the last satellite
report said that no position report has used. A report keeps it so exactly if it is
`Settled` (`fresh_cacheAfter_iff`), and the sentences of a fresh cache are those of that
satellite report (`nmeaSentences_handle`).
-/

set_option autoImplicit false

namespace Msm8660.Gps

/-- A report about satellites or about a position. -/
inductive NmeaReport where
  | sv (svStatus : GpsSvStatus) (locationExtended : GpsLocationExtended) (svExt : Pointer)
  | position (location : GpsLocation) (locationExtended : GpsLocationExtended)
      (locationExt : Pointer) (status : LocSessStatus) (technologyMask : BitVec 32)

namespace NmeaReport

/-- The message of a report. -/
def msg : NmeaReport → LocEngMsg
  | sv svStatus locationExtended svExt => .reportSv svStatus locationExtended svExt
  | position location locationExtended locationExt status technologyMask =>
      .reportPosition location locationExtended locationExt status technologyMask

/-- The cache after a report. -/
def cacheAfter (standalone : Bool) (cache : NmeaCache) : NmeaReport → NmeaCache
  | sv svStatus locationExtended _ => (locEngNmeaGenerateSv cache svStatus locationExtended).1
  | position location locationExtended .. =>
      if location.positionSource = ulpLocationIsFromGnss then
        (locEngNmeaGeneratePos standalone cache location locationExtended).1
      else cache

/-- The sentences for a report. -/
def sentences (standalone : Bool) (cache : NmeaCache) : NmeaReport → List (List UInt8)
  | sv svStatus locationExtended _ => (locEngNmeaGenerateSv cache svStatus locationExtended).2
  | position location locationExtended .. =>
      if location.positionSource = ulpLocationIsFromGnss then
        (locEngNmeaGeneratePos standalone cache location locationExtended).2
      else []

end NmeaReport

/-! ## The last satellite report -/

/-- The last satellite report, if no position report has used it. -/
abbrev LastSv := Option (GpsSvStatus × GpsLocationExtended)

/-- What a report makes of the last satellite report. -/
def lastAfter (last : LastSv) : NmeaReport → LastSv
  | .sv svStatus locationExtended _ => some (svStatus, locationExtended)
  | .position location .. =>
      if location.positionSource = ulpLocationIsFromGnss then none else last

/-- The satellites that it says are used. -/
def LastSv.satellites : LastSv → List ℕ
  | some (svStatus, _) => svUsedList svStatus.usedInFixMask
  | none => []

/-- The dilution of precision that came with it. -/
def LastSv.dop : LastSv → Option Dop
  | some (_, locationExtended) => dopUsed none locationExtended
  | none => none

/-- The cache lists the satellites of the last report, and what it holds else is from there. -/
structure Fresh (cache : NmeaCache) (last : LastSv) : Prop where
  satellites : svUsedList cache.svUsedMask = last.satellites
  dop : ∀ dop ∈ cache.dop, last.dop = some dop

/-- What a report needs to leave a fresh cache. A satellite report prints all its sentences
and lists a satellite, or the cache holds already what it says. A position report prints all
its sentences, or no dilution of precision is cached. -/
def Settled (standalone : Bool) (cache : NmeaCache) : NmeaReport → Prop
  | .sv svStatus locationExtended _ =>
      ((svSentences svStatus).all Option.isSome ∧ svStatus.usedInFixMask ≠ 0) ∨
        cache.svUsedMask = svStatus.usedInFixMask ∧
          ∀ dop ∈ cache.dop, dopUsed none locationExtended = some dop
  | .position location locationExtended .. =>
      location.positionSource = ulpLocationIsFromGnss →
        (posSentences standalone (svUsedList cache.svUsedMask) cache.dop location
          locationExtended).all Option.isSome ∨ cache.dop = none

instance (standalone : Bool) (cache : NmeaCache) : DecidablePred (Settled standalone cache)
  | .sv .. => inferInstanceAs (Decidable (_ ∨ _ ∧ _))
  | .position .. => inferInstanceAs (Decidable (_ → _ ∨ _))

/-! ## One report -/

theorem mem_svUsedList {mask : BitVec 32} {sv : ℕ} :
    sv + 1 ∈ svUsedList mask ↔ mask.getLsbD sv = true := by
  simp only [svUsedList, List.mem_map, List.mem_filter, List.mem_range, Nat.add_right_cancel_iff,
    exists_eq_right]
  constructor
  · exact fun listed => listed.2
  · intro set
    exact ⟨BitVec.lt_of_getLsbD set, set⟩

/-- A mask is told by its satellites. -/
theorem svUsedList_inj {first second : BitVec 32} :
    svUsedList first = svUsedList second ↔ first = second := by
  constructor
  · intro same
    apply BitVec.eq_of_getLsbD_eq
    intro sv _
    rw [Bool.eq_iff_iff, ← mem_svUsedList, ← mem_svUsedList, same]
  · exact fun same => congrArg svUsedList same

@[simp] theorem svUsedList_zero : svUsedList 0 = [] := by decide

/-- A report that leaves the cache alone. -/
theorem fresh_some_iff {cache : NmeaCache} {svStatus : GpsSvStatus}
    {locationExtended : GpsLocationExtended} : Fresh cache (some (svStatus, locationExtended)) ↔
      cache.svUsedMask = svStatus.usedInFixMask ∧
        ∀ dop ∈ cache.dop, dopUsed none locationExtended = some dop := by
  constructor
  · intro fresh
    exact ⟨svUsedList_inj.mp fresh.satellites, fresh.dop⟩
  · rintro ⟨mask, dop⟩
    exact ⟨congrArg svUsedList mask, dop⟩

/-- A satellite report that is cached. -/
theorem locEngNmeaGenerateSv_cached {svStatus : GpsSvStatus}
    (printed : (svSentences svStatus).all Option.isSome) (used : svStatus.usedInFixMask ≠ 0)
    (cache : NmeaCache) (locationExtended : GpsLocationExtended) :
    Fresh (locEngNmeaGenerateSv cache svStatus locationExtended).1
      (some (svStatus, locationExtended)) := by
  rw [fresh_some_iff, locEngNmeaGenerateSv, if_pos printed, if_neg used, dopUsed]
  by_cases hasDop : HasFlag locationExtended.flags gpsLocationExtendedHasDop
  · rw [if_pos hasDop, if_pos hasDop]
    refine ⟨rfl, ?_⟩
    intro dop cached
    unfold NmeaCache.dop at cached
    split at cached
    · exact cached
    · cases cached
  · rw [if_neg hasDop, if_neg hasDop]
    exact ⟨rfl, fun _ cached => by simp [NmeaCache.dop] at cached⟩

/-- A satellite report that is not. -/
theorem locEngNmeaGenerateSv_skipped {svStatus : GpsSvStatus}
    (skipped : ¬ ((svSentences svStatus).all Option.isSome ∧ svStatus.usedInFixMask ≠ 0))
    (cache : NmeaCache) (locationExtended : GpsLocationExtended) :
    (locEngNmeaGenerateSv cache svStatus locationExtended).1 = cache := by
  unfold locEngNmeaGenerateSv
  by_cases printed : (svSentences svStatus).all Option.isSome
  · have unused : svStatus.usedInFixMask = 0 := by
      by_contra used
      exact skipped ⟨printed, used⟩
    simp only [if_pos printed, if_pos unused]
  · rw [if_neg printed]

/-- Only an unfinished position report leaves anything cached, which is the dilution of
precision. -/
theorem locEngNmeaGeneratePos_cache (standalone : Bool) (cache : NmeaCache)
    (location : GpsLocation) (locationExtended : GpsLocationExtended) :
    (locEngNmeaGeneratePos standalone cache location locationExtended).1.svUsedMask = 0 ∧
      (locEngNmeaGeneratePos standalone cache location locationExtended).1.dop =
        if (posSentences standalone (svUsedList cache.svUsedMask) cache.dop location
          locationExtended).all Option.isSome then none else cache.dop := by
  unfold locEngNmeaGeneratePos
  dsimp only
  split
  · exact ⟨rfl, rfl⟩
  · exact ⟨rfl, rfl⟩

/-- **What a fresh cache needs to stay fresh.** -/
theorem fresh_cacheAfter_iff {standalone : Bool} {cache : NmeaCache} {last : LastSv}
    (fresh : Fresh cache last) (report : NmeaReport) :
    Fresh (report.cacheAfter standalone cache) (lastAfter last report) ↔
      Settled standalone cache report := by
  cases report with
  | sv svStatus locationExtended svExt =>
      by_cases cached : (svSentences svStatus).all Option.isSome ∧ svStatus.usedInFixMask ≠ 0
      · exact iff_of_true (locEngNmeaGenerateSv_cached cached.1 cached.2 cache locationExtended)
          (Or.inl cached)
      · have same := locEngNmeaGenerateSv_skipped cached cache locationExtended
        simp only [NmeaReport.cacheAfter, lastAfter, Settled, same, fresh_some_iff]
        exact (or_iff_right cached).symm
  | position location locationExtended locationExt status technologyMask =>
      by_cases gnss : location.positionSource = ulpLocationIsFromGnss
      · obtain ⟨mask, dop⟩ := locEngNmeaGeneratePos_cache standalone cache location locationExtended
        simp only [NmeaReport.cacheAfter, lastAfter, Settled, gnss, if_true, true_imp_iff]
        by_cases printed : (posSentences standalone (svUsedList cache.svUsedMask) cache.dop location
            locationExtended).all Option.isSome
        · rw [if_pos printed] at dop
          refine iff_of_true ⟨by rw [mask]; exact svUsedList_zero, ?_⟩ (Or.inl printed)
          intro value cached
          rw [dop] at cached
          cases cached
        · rw [if_neg printed] at dop
          rw [or_iff_right printed]
          constructor
          · intro after
            cases cached : cache.dop with
            | none => rfl
            | some value => cases after.dop value (dop.trans cached)
          · intro nothing
            refine ⟨by rw [mask]; exact svUsedList_zero, ?_⟩
            intro value cached
            rw [dop, nothing] at cached
            cases cached
      · have same : (NmeaReport.position location locationExtended locationExt status
            technologyMask).cacheAfter standalone cache = cache := if_neg gnss
        have same' : lastAfter last (.position location locationExtended locationExt status
            technologyMask) = last := if_neg gnss
        rw [same, same']
        exact iff_of_true fresh fun gnss' => absurd gnss' gnss

/-! ## The thread -/

/-- The sentences among the calls of a handler. -/
def nmeaSentences (calls : List Call) : List (List UInt8) :=
  calls.filterMap fun call => match call with
    | .nmeaCb sentence => some sentence
    | _ => none

/-- What the handler of a report does: it generates, and goes on if it has not used the
callback without there being one. -/
structure SendsGenerated (data : LocEngData) (generated : NmeaCache × List (List UInt8))
    (outcome : Handling) : Prop where
  after : ∀ after ∈ outcome.1, after.nmeaCache = generated.1 ∧
    after.generateNmea = data.generateNmea ∧ after.muteSessionState = data.muteSessionState
  sentences : nmeaSentences outcome.2 = if data.nmeaCb then generated.2 else []

namespace SendsGenerated

variable {data : LocEngData} {generated : NmeaCache × List (List UInt8)}

/-- The sentences are sent. -/
theorem send {sending : LocEngData} (cache : sending.nmeaCache = generated.1)
    (setup : sending.generateNmea = data.generateNmea)
    (mute : sending.muteSessionState = data.muteSessionState)
    (callback : sending.nmeaCb = data.nmeaCb) :
    SendsGenerated data generated (sending.locEngNmeaSend generated.2) := by
  have mapped : nmeaSentences (generated.2.map .nmeaCb) = generated.2 := by
    rw [nmeaSentences, List.filterMap_map]
    exact List.filterMap_some
  unfold LocEngData.locEngNmeaSend
  split
  · next sent =>
      refine ⟨fun after reached => ?_, ?_⟩
      · cases reached
        exact ⟨cache, setup, mute⟩
      · rw [callback] at sent
        refine mapped.trans ?_
        split
        · rfl
        · next absent => exact sent.resolve_right absent
  · next unsent =>
      refine ⟨fun after reached => ?_, ?_⟩
      · cases reached
      · rw [callback, not_or] at unsent
        rw [if_neg unsent.2]
        rfl

/-- Calls before are no sentences. -/
theorem behind {sending : LocEngData} {calls : List Call} (silent : nmeaSentences calls = [])
    {next : LocEngData → Handling} (reports : SendsGenerated data generated (next sending)) :
    SendsGenerated data generated ((sending.done calls).andThen next) := by
  refine ⟨reports.after, ?_⟩
  rw [LocEngData.done, Outcome.andThen_some, nmeaSentences, List.filterMap_append]
  change nmeaSentences calls ++ nmeaSentences _ = _
  rw [silent, reports.sentences]
  rfl

/-- What follows keeps the cache and sends no sentence. -/
theorem andThen {outcome : Handling} {next : LocEngData → Handling}
    (reports : SendsGenerated data generated outcome)
    (silent : ∀ reached, ∃ after calls, next reached = (some after, calls) ∧
      nmeaSentences calls = [] ∧ after.nmeaCache = reached.nmeaCache ∧
      after.generateNmea = reached.generateNmea ∧
      after.muteSessionState = reached.muteSessionState) :
    SendsGenerated data generated (outcome.andThen next) := by
  obtain ⟨reached, calls⟩ := outcome
  cases reached with
  | none => exact reports
  | some reached =>
      obtain ⟨after, more, same, quiet, cache, setup, mute⟩ := silent reached
      obtain ⟨cache', setup', mute'⟩ := reports.after reached rfl
      rw [Outcome.andThen_some, same]
      refine ⟨fun final finally_ => ?_, ?_⟩
      · cases finally_
        exact ⟨cache.trans cache', setup.trans setup', mute.trans mute'⟩
      · rw [nmeaSentences, List.filterMap_append]
        change nmeaSentences calls ++ nmeaSentences more = _
        rw [quiet, List.append_nil]
        exact reports.sentences

end SendsGenerated

/-- A report, with what the environment answers: the calls of the adapter, and whether the
position mode is `LOC_POSITION_MODE_STANDALONE`. -/
structure ReportInput where
  report : NmeaReport
  answers : Answers
  standalone : Bool

namespace LocEngData

variable {data : LocEngData}

/-- The loop does nothing with sentences. -/
theorem afterMsg_report (reached : LocEngData) (answers : Answers) (report : NmeaReport) :
    ∃ after calls, reached.afterMsg answers report.msg = (some after, calls) ∧
      nmeaSentences calls = [] ∧ after.nmeaCache = reached.nmeaCache ∧
      after.generateNmea = reached.generateNmea ∧
      after.muteSessionState = reached.muteSessionState := by
  have other : endsDataCall report.msg = false := by cases report <;> rfl
  simp only [afterMsg, other, Bool.false_eq_true, if_false, done, Outcome.andThen_some,
    List.nil_append]
  split
  · exact ⟨_, _, rfl, rfl, rfl, rfl, rfl⟩
  · exact ⟨_, _, rfl, rfl, rfl, rfl, rfl⟩

theorem reportSv_reports (generates : data.generateNmea = true)
    (unmuted : data.muteSessionState ≠ .locMuteSessInSession) (nmea : NmeaGenerator)
    (svStatus : GpsSvStatus) (locationExtended : GpsLocationExtended) (svExt : Pointer) :
    SendsGenerated data (nmea.generateSv data.nmeaCache svStatus locationExtended)
      (data.reportSv nmea svStatus locationExtended svExt) := by
  rw [reportSv, if_neg unmuted]
  apply SendsGenerated.behind
  · split <;> rfl
  · rw [if_pos generates]
    exact SendsGenerated.send rfl rfl rfl rfl

/-- What the handler of a fix does before the sentences. -/
theorem fix_silent (data : LocEngData) {fix : List Call} (told : nmeaSentences fix = [])
    (single intermediate : Prop) [Decidable single] [Decidable intermediate] :
    ∃ navigating calls, ((data.done fix).andThen fun data =>
        if fix ≠ [] ∧ single then { data with navigating := false }.done
          (if intermediate then [.adapter .stopFix] else [])
        else data.done []) = { data with navigating := navigating }.done calls ∧
      nmeaSentences calls = [] := by
  have appended (more : List Call) (silent : nmeaSentences more = []) :
      nmeaSentences (fix ++ more) = [] := by
    rw [nmeaSentences, List.filterMap_append]
    exact List.append_eq_nil_iff.mpr ⟨told, silent⟩
  by_cases stops : fix ≠ [] ∧ single
  · simp only [done, Outcome.andThen_some, if_pos stops]
    exact ⟨false, _, rfl, appended _ (by split <;> rfl)⟩
  · simp only [done, Outcome.andThen_some, if_neg stops]
    exact ⟨data.navigating, _, rfl, appended [] rfl⟩

theorem reportPosition_reports (generates : data.generateNmea = true)
    (unmuted : data.muteSessionState ≠ .locMuteSessInSession) (conf : LocGpsCfg)
    (nmea : NmeaGenerator) (answers : Answers) (location : GpsLocation)
    (locationExtended : GpsLocationExtended) (locationExt : Pointer) (status : LocSessStatus)
    (technologyMask : BitVec 32) :
    SendsGenerated data
      (if location.positionSource = ulpLocationIsFromGnss then
        nmea.generatePos data.nmeaCache location locationExtended else (data.nmeaCache, []))
      (data.reportPosition conf nmea answers location locationExtended locationExt status
        technologyMask) := by
  rw [reportPosition, if_neg unmuted]
  generalize fixed : (if data.locationCb = true then
      if status = .locSessFailure then [Call.locationCb none]
      else if acceptsFix conf data location status technologyMask then
        [.locationCb (some (location, locationExt))] else []
    else []) = fix
  have told : nmeaSentences fix = [] := by
    rw [← fixed]
    split
    · split
      · rfl
      · split <;> rfl
    · rfl
  obtain ⟨navigating, calls, first, silent⟩ := fix_silent data told
    (answers.recurrence = .gpsPositionRecurrenceSingle) (status = .locSessIntermediate)
  dsimp only
  rw [first]
  apply SendsGenerated.behind silent
  simp only [generates, true_and]
  split
  · exact SendsGenerated.send rfl generates.symm rfl rfl
  · exact @SendsGenerated.send data (data.nmeaCache, []) _ rfl generates.symm rfl rfl

/-- **What the thread does with a report.** -/
theorem handle_reports (alive : data.context = true) (generates : data.generateNmea = true)
    (unmuted : data.muteSessionState ≠ .locMuteSessInSession) (conf : LocGpsCfg)
    (input : ReportInput) :
    SendsGenerated data
      (input.report.cacheAfter input.standalone data.nmeaCache,
        input.report.sentences input.standalone data.nmeaCache)
      (data.handle conf (locEngNmea input.standalone) input.answers input.report.msg) := by
  rw [handle, if_pos alive]
  refine SendsGenerated.andThen ?_ fun reached => afterMsg_report reached input.answers input.report
  obtain ⟨report, answers, standalone⟩ := input
  cases report with
  | sv svStatus locationExtended svExt =>
      exact reportSv_reports generates unmuted (locEngNmea standalone) svStatus locationExtended
        svExt
  | position location locationExtended locationExt status technologyMask =>
      have reports := reportPosition_reports generates unmuted conf (locEngNmea standalone)
        answers location locationExtended locationExt status technologyMask
      simp only [NmeaReport.cacheAfter, NmeaReport.sentences]
      split at reports
      · next gnss =>
          rw [if_pos gnss, if_pos gnss]
          exact reports
      · next other =>
          rw [if_neg other, if_neg other]
          exact reports

end LocEngData

/-- The thread, as far as it handles reports. -/
def reportThread (conf : LocGpsCfg) : Machine (Option LocEngData) ReportInput Call where
  step state input := match state with
    | none => (none, [])
    | some data => data.handle conf (locEngNmea input.standalone) input.answers input.report.msg

/-- The satellite report for the next position report. -/
def lastSv (inputs : List ReportInput) : LastSv :=
  inputs.foldl (fun last input => lastAfter last input.report) none

/-- Every position report that generates sentences lists and counts the satellites of the
last satellite report, if no position report has used it, and contains no cached value but
from there. -/
def GeneratesFresh (conf : LocGpsCfg) (data : LocEngData) (inputs : List ReportInput) : Prop :=
  ∀ earlier later location locationExtended locationExt status technologyMask answers standalone
      reached,
    inputs = earlier ++ ⟨.position location locationExtended locationExt status technologyMask,
      answers, standalone⟩ :: later →
    (reportThread conf).run (some data) earlier = some reached →
    location.positionSource = ulpLocationIsFromGnss →
    ∃ cached : Option Dop, (∀ dop ∈ cached, (lastSv earlier).dop = some dop) ∧
      nmeaSentences ((reportThread conf).step (some reached)
          ⟨.position location locationExtended locationExt status technologyMask, answers,
            standalone⟩).2 =
        if reached.context ∧ reached.nmeaCb then
          sentUpToError (posSentences standalone (lastSv earlier).satellites cached location
            locationExtended)
        else []

/-- The report of a step leaves a fresh cache fresh. -/
def SettledStep (taken : Machine.Step (Option LocEngData) ReportInput Call) : Prop :=
  ∀ data ∈ taken.before, Settled taken.input.standalone data.nmeaCache taken.input.report

instance (taken : Machine.Step (Option LocEngData) ReportInput Call) :
    Decidable (SettledStep taken) :=
  inferInstanceAs (Decidable (∀ data ∈ taken.before, Settled _ _ _))

section Runs

variable {conf : LocGpsCfg} {data : LocEngData}

theorem reportThread_run_none (inputs : List ReportInput) :
    (reportThread conf).run none inputs = none := by
  induction inputs with
  | nil => rfl
  | cons input rest ih => exact ih

/-- What the thread has after a report, if it goes on. -/
theorem reportThread_step (generates : data.generateNmea = true)
    (unmuted : data.muteSessionState ≠ .locMuteSessInSession) {input : ReportInput}
    {after : LocEngData} (reached : ((reportThread conf).step (some data) input).1 = some after) :
    after.generateNmea = true ∧ after.muteSessionState ≠ .locMuteSessInSession ∧
      after.nmeaCache = input.report.cacheAfter input.standalone data.nmeaCache := by
  by_cases alive : data.context = true
  · have reports := LocEngData.handle_reports alive generates unmuted conf input
    obtain ⟨cache, setup, mute⟩ := reports.after after reached
    exact ⟨setup.trans generates, fun muted => unmuted (mute.symm.trans muted), cache⟩
  · change (data.handle conf (locEngNmea input.standalone) input.answers input.report.msg).1 =
      some after at reached
    rw [LocEngData.handle, if_neg alive] at reached
    cases reached

/-- The sentences that it sends. -/
theorem reportThread_sentences (generates : data.generateNmea = true)
    (unmuted : data.muteSessionState ≠ .locMuteSessInSession) (input : ReportInput) :
    nmeaSentences ((reportThread conf).step (some data) input).2 =
      if data.context ∧ data.nmeaCb then
        input.report.sentences input.standalone data.nmeaCache else [] := by
  change nmeaSentences
    (data.handle conf (locEngNmea input.standalone) input.answers input.report.msg).2 = _
  by_cases alive : data.context = true
  · rw [(LocEngData.handle_reports alive generates unmuted conf input).sentences]
    simp only [alive, true_and]
  · rw [LocEngData.handle, if_neg alive, if_neg fun both => alive both.1]
    rfl

/-- **Settled reports keep the cache fresh.** -/
theorem fresh_run {last : LastSv} (fresh : Fresh data.nmeaCache last)
    (generates : data.generateNmea = true)
    (unmuted : data.muteSessionState ≠ .locMuteSessInSession) {inputs : List ReportInput}
    (settled : ∀ taken ∈ (reportThread conf).steps (some data) inputs, SettledStep taken)
    {reached : LocEngData} (run : (reportThread conf).run (some data) inputs = some reached) :
    reached.generateNmea = true ∧ reached.muteSessionState ≠ .locMuteSessInSession ∧
      Fresh reached.nmeaCache
        (inputs.foldl (fun last input => lastAfter last input.report) last) := by
  induction inputs generalizing data last with
  | nil =>
      cases run
      exact ⟨generates, unmuted, fresh⟩
  | cons input rest ih =>
      rw [Machine.run_cons] at run
      rw [Machine.steps_cons, List.forall_mem_cons] at settled
      cases stepped : ((reportThread conf).step (some data) input).1 with
      | none =>
          rw [stepped, reportThread_run_none] at run
          cases run
      | some after =>
          obtain ⟨generates', unmuted', cache⟩ := reportThread_step generates unmuted stepped
          have fresh' : Fresh after.nmeaCache (lastAfter last input.report) := by
            rw [cache]
            exact (fresh_cacheAfter_iff fresh input.report).mpr (settled.1 data rfl)
          rw [stepped] at run settled
          exact ih fresh' generates' unmuted' settled.2 run

/-- **Where every report leaves a fresh cache fresh, every position sentence is about the
last satellite report.** -/
theorem generatesFresh_of_settled (generates : data.generateNmea = true)
    (unmuted : data.muteSessionState ≠ .locMuteSessInSession)
    (empty : data.nmeaCache = ⟨0, 0, 0, 0⟩) {inputs : List ReportInput}
    (settled : ∀ taken ∈ (reportThread conf).steps (some data) inputs, SettledStep taken) :
    GeneratesFresh conf data inputs := by
  intro earlier later location locationExtended locationExt status technologyMask answers
    standalone reached split run gnss
  have fresh : Fresh data.nmeaCache none := by
    rw [empty]
    exact ⟨svUsedList_zero, fun _ cached => by cases cached⟩
  rw [split, Machine.steps_append] at settled
  obtain ⟨generates', unmuted', fresh'⟩ := fresh_run fresh generates unmuted
    (fun taken member => settled taken (List.mem_append_left _ member)) run
  refine ⟨reached.nmeaCache.dop, fresh'.dop, ?_⟩
  rw [reportThread_sentences generates' unmuted', lastSv, ← fresh'.satellites]
  simp only [NmeaReport.sentences, if_pos gnss]
  rfl

end Runs

/-! ## Examples -/

/-- The satellite 5 is used. -/
def svOneUsed : ReportInput :=
  ⟨.sv ⟨1, [⟨5, 30, 45, 90⟩], 0x10#32⟩ ⟨gpsLocationExtendedHasDop, 0, 2, 1, 3 / 2, 0⟩ 0,
    .success, true⟩

/-- No satellite is used any more. -/
def svNoneUsed : ReportInput := ⟨.sv ⟨0, [], 0⟩ ⟨0, 0, 0, 0, 0, 0⟩ 0, .success, true⟩

/-- A fix of the satellites. -/
def gnssLocation : GpsLocation :=
  ⟨gpsLocationHasLatLong, ulpLocationIsFromGnss, 105 / 2, -53 / 4, 0, 0, 0, 0, 1400000000000⟩

def gnssFix : ReportInput :=
  ⟨.position gnssLocation ⟨0, 0, 0, 0, 0, 0⟩ 0 .locSessSuccess locPosTechMaskSatellite,
    .success, true⟩

/-- An instance that generates sentences. -/
def LocEngData.generating : LocEngData := Gps.locEngInit ⟨true, true, true, true, true⟩ 0 true

theorem generatesFresh_of_settled_twice :
    GeneratesFresh locDefaultParameters .generating
      [svNoneUsed, svOneUsed, gnssFix, gnssFix, svNoneUsed] :=
  generatesFresh_of_settled rfl (by decide) rfl (by decide +kernel)

/-- **The satellite of an older report is listed** where the last one says that none is
used. -/
theorem not_generatesFresh :
    ¬ GeneratesFresh locDefaultParameters .generating [svOneUsed, svNoneUsed, gnssFix] := by
  intro fresh
  have run : (reportThread locDefaultParameters).run (some .generating) [svOneUsed, svNoneUsed] =
      some { LocEngData.generating with nmeaCache := ⟨0x10#32, 1, 2, 3 / 2⟩ } := by
    decide +kernel
  obtain ⟨cached, fromLast, sent⟩ := fresh [svOneUsed, svNoneUsed] [] gnssLocation
    ⟨0, 0, 0, 0, 0, 0⟩ 0 .locSessSuccess locPosTechMaskSatellite .success true _ rfl run rfl
  have nothing : cached = none := by
    cases cached with
    | none => rfl
    | some dop => cases fromLast dop rfl
  rw [nothing] at sent
  revert sent
  decide +kernel

end Msm8660.Gps
