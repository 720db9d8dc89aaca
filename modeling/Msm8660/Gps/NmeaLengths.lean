import Mathlib.Data.List.ReduceOption
import Msm8660.Gps.Nmea

/-!
# The room for the checksum

The sentences are put together in a buffer of `NMEA_SENTENCE_MAX_LENGTH` bytes. A piece is
looked at against what is left of the buffer, which leaves no room for the five characters
that `loc_eng_nmea_put_checksum` writes behind the last one, and the last piece of a sentence
of a position report is not looked at. So a `$GPGSV` sentence of 195 characters and more is
finished behind the end of the buffer, unless it is so long that a piece does not fit, and a
`$GPGGA` sentence from there on always. No other sentence becomes so long
(`staysInBuffer_iff`).
-/

set_option autoImplicit false

namespace Msm8660.Gps

/-! ## Reports -/

/-- What sentences are generated for. -/
inductive PrintedReport where
  | sv (svStatus : GpsSvStatus)
  | pos (location : GpsLocation)

/-- The sentences that are sent. -/
def PrintedReport.sentences (standalone : Bool) (cache : NmeaCache)
    (locationExtended : GpsLocationExtended) : PrintedReport → List (List UInt8)
  | .sv svStatus => (locEngNmeaGenerateSv cache svStatus locationExtended).2
  | .pos location => (locEngNmeaGeneratePos standalone cache location locationExtended).2

/-- **Every body that gets a checksum is within the buffer, with the checksum and the byte that
ends it.** -/
def StaysInBuffer (sentences : List (List UInt8)) : Prop :=
  ∀ body, locEngNmeaPutChecksum body ∈ sentences → body.length + 5 + 1 ≤ nmeaSentenceMaxLength

/-- The numbers that a `float` has. -/
def IsFloat (q : ℚ) : Prop := |q| < 2 ^ 128

instance (q : ℚ) : Decidable (IsFloat q) := inferInstanceAs (Decidable (_ < _))

/-- The members of type `float` that a position report is generated from. -/
structure AreFloats (cache : NmeaCache) (locationExtended : GpsLocationExtended)
    (location : GpsLocation) : Prop where
  cachedPdop : IsFloat cache.pdop
  cachedHdop : IsFloat cache.hdop
  cachedVdop : IsFloat cache.vdop
  pdop : IsFloat locationExtended.pdop
  hdop : IsFloat locationExtended.hdop
  vdop : IsFloat locationExtended.vdop
  altitudeMeanSeaLevel : IsFloat locationExtended.altitudeMeanSeaLevel
  magneticDeviation : IsFloat locationExtended.magneticDeviation
  speed : IsFloat location.speed
  bearing : IsFloat location.bearing

/-- The members of type `float` that are printed. -/
def PrintedReport.Floats (cache : NmeaCache) (locationExtended : GpsLocationExtended) :
    PrintedReport → Prop
  | .sv _ => True
  | .pos location => AreFloats cache locationExtended location

/-! ## Widths -/

/-- The width of what is printed of a satellite. -/
def gpsvEntryWidth (info : GpsSvInfo) : ℕ :=
  4 + intWidth 2 info.prn + intWidth 2 (truncate (1 / 2 + info.elevation)) +
    intWidth 3 (truncate (1 / 2 + info.azimuth)) +
    if 0 < info.snr then intWidth 2 (truncate (1 / 2 + info.snr)) else 0

/-- How many `$GPGSV` sentences there are. -/
def sentenceCount (svStatus : GpsSvStatus) : ℕ :=
  svStatus.numSvs.toNat / 4 + if svStatus.numSvs.toNat % 4 ≠ 0 then 1 else 0

/-- The width of the `$GPGSV` sentence with so many before it. -/
def gpgsvWidth (svStatus : GpsSvStatus) (before : ℕ) : ℕ :=
  9 + intWidth 0 (sentenceCount svStatus) + intWidth 0 (before + 1) +
    intWidth 2 svStatus.numSvs.toNat +
    ((List.range (min 4 (svStatus.numSvs.toNat - 4 * before))).map fun i =>
      gpsvEntryWidth (svStatus.svList.getD (4 * before + i) ⟨0, 0, 0, 0⟩)).sum

/-- The width of latitude and longitude. -/
def latLongWidth (location : GpsLocation) : ℕ :=
  if HasFlag location.flags gpsLocationHasLatLong then
    24 + intWidth 2 (floorByte |location.latitude|) + intWidth 3 (floorByte |location.longitude|)
  else 4

/-- The width of the `$GPGGA` sentence. -/
def gpggaWidth (cached : Option Dop) (location : GpsLocation)
    (locationExtended : GpsLocationExtended) : ℕ :=
  19 + latLongWidth location +
    (match dopUsed cached locationExtended with
      | some dop => fixedWidth 0 1 dop.hdop + 1
      | none => 1) +
    (if HasFlag locationExtended.flags gpsLocationExtendedHasAltitudeMeanSeaLevel then
      fixedWidth 0 1 locationExtended.altitudeMeanSeaLevel + 3
    else 2) +
    if HasFlag location.flags gpsLocationHasAltitude ∧
        HasFlag locationExtended.flags gpsLocationExtendedHasAltitudeMeanSeaLevel then
      fixedWidth 0 1 (location.altitude - locationExtended.altitudeMeanSeaLevel) + 4
    else 3

/-- The widths with which a report leaves room for the checksums. A `$GPGSV` sentence from 200
characters on is not sent, and none behind it. -/
def PrintedReport.LeavesRoom (cache : NmeaCache) (locationExtended : GpsLocationExtended) :
    PrintedReport → Prop
  | .sv svStatus => ∀ before < sentenceCount svStatus,
      (∀ earlier ≤ before, gpgsvWidth svStatus earlier < 200) → gpgsvWidth svStatus before ≤ 194
  | .pos location => gpggaWidth cache.dop location locationExtended ≤ 194

instance (cache : NmeaCache) (locationExtended : GpsLocationExtended) (report : PrintedReport) :
    Decidable (report.LeavesRoom cache locationExtended) :=
  match report with
  | .sv svStatus => inferInstanceAs (Decidable (∀ before < sentenceCount svStatus,
      (∀ earlier ≤ before, gpgsvWidth svStatus earlier < 200) → gpgsvWidth svStatus before ≤ 194))
  | .pos _ => inferInstanceAs (Decidable (_ ≤ _))

/-! ## Sentences that are sent -/

/-- **A sentence is sent exactly if its pieces, but for the last, leave room for the byte that
ends them.** -/
theorem checkedSentence_eq (pieces : List (List UInt8)) (last : List UInt8) :
    checkedSentence pieces last =
      if pieces.flatten.length < nmeaSentenceMaxLength then
        some (locEngNmeaPutChecksum (printLast nmeaSentenceMaxLength pieces.flatten last))
      else none := by
  split
  · next fits => exact checkedSentence_of_fits last fits
  · next long =>
      cases sent : checkedSentence pieces last with
      | none => rfl
      | some sentence => exact absurd (checkedSentence_eq_some sent).1 long

/-- Bodies with one sentence have one length. -/
theorem length_eq_of_putChecksum_eq {body other : List UInt8}
    (same : locEngNmeaPutChecksum body = locEngNmeaPutChecksum other) :
    body.length = other.length := by
  have lengths := congrArg List.length same
  rw [length_locEngNmeaPutChecksum, length_locEngNmeaPutChecksum] at lengths
  omega

/-- What is sent is found at a place with nothing but sentences up to it. -/
theorem mem_sentUpToError_iff {sentences : List (Option (List UInt8))} {sentence : List UInt8} :
    sentence ∈ sentUpToError sentences ↔ ∃ place : ℕ, sentences[place]? = some (some sentence) ∧
      ∀ earlier ≤ place, ∃ text, sentences[earlier]? = some (some text) := by
  rw [sentUpToError, List.reduceOption_mem_iff]
  induction sentences with
  | nil => simp
  | cons first rest ih =>
      cases first with
      | none =>
          rw [List.takeWhile_cons_of_neg (by decide)]
          refine ⟨fun member => absurd member List.not_mem_nil, ?_⟩
          rintro ⟨place, -, whole⟩
          obtain ⟨text, there⟩ := whole 0 (Nat.zero_le _)
          cases there
      | some text =>
          rw [List.takeWhile_cons_of_pos rfl, List.mem_cons, ih]
          constructor
          · rintro (same | ⟨place, found, whole⟩)
            · refine ⟨0, congrArg some same.symm, fun earlier below => ?_⟩
              rw [Nat.le_zero.mp below]
              exact ⟨text, rfl⟩
            · refine ⟨place + 1, found, fun earlier below => ?_⟩
              cases earlier with
              | zero => exact ⟨text, rfl⟩
              | succ earlier => exact whole earlier (Nat.le_of_succ_le_succ below)
          · rintro ⟨place, found, whole⟩
            cases place with
            | zero => exact Or.inl (Option.some.inj found).symm
            | succ place =>
                exact Or.inr ⟨place, found, fun earlier below =>
                  whole (earlier + 1) (Nat.succ_le_succ below)⟩

/-- What is sent of numbered sentences. -/
theorem mem_sentUpToError_range {sentence : ℕ → Option (List UInt8)} {count : ℕ}
    {sent : List UInt8} :
    sent ∈ sentUpToError ((List.range count).map sentence) ↔ ∃ place < count,
      sentence place = some sent ∧ ∀ earlier ≤ place, (sentence earlier).isSome = true := by
  have found {place : ℕ} (among : place < count) :
      ((List.range count).map sentence)[place]? = some (sentence place) := by
    rw [List.getElem?_map, List.getElem?_range among, Option.map_some]
  rw [mem_sentUpToError_iff]
  constructor
  · rintro ⟨place, there, whole⟩
    have among : place < count := by
      have inside := (List.getElem?_eq_some_iff.mp there).1
      rwa [List.length_map, List.length_range] at inside
    rw [found among, Option.some.injEq] at there
    refine ⟨place, among, there, fun earlier below => ?_⟩
    obtain ⟨text, other⟩ := whole earlier below
    rw [found (Nat.lt_of_le_of_lt below among), Option.some.injEq] at other
    rw [other]
    rfl
  · rintro ⟨place, among, there, whole⟩
    refine ⟨place, by rw [found among, there], fun earlier below => ?_⟩
    obtain ⟨text, other⟩ := Option.isSome_iff_exists.mp (whole earlier below)
    exact ⟨text, by rw [found (Nat.lt_of_le_of_lt below among), other]⟩

/-! ## Satellite reports -/

section Satellites

variable (svStatus : GpsSvStatus)

theorem length_gpsvEntry_eq (info : GpsSvInfo) :
    (gpsvEntry info).flatten.length = gpsvEntryWidth info := by
  have comma : (ascii ",").length = 1 := rfl
  unfold gpsvEntry gpsvEntryWidth
  split
  · simp only [List.flatten_cons, List.flatten_nil, List.length_append, List.length_nil,
      length_formatInt, comma]
    omega
  · simp only [List.flatten_cons, List.flatten_nil, List.length_append, List.length_nil,
      length_formatInt, comma]
    omega

theorem length_entries (indices : List ℕ) (info : ℕ → GpsSvInfo) :
    (indices.flatMap fun i => gpsvEntry (info i)).flatten.length =
      (indices.map fun i => gpsvEntryWidth (info i)).sum := by
  induction indices with
  | nil => rfl
  | cons i rest ih =>
      rw [List.flatMap_cons, List.flatten_append, List.length_append, ih, length_gpsvEntry_eq,
        List.map_cons, List.sum_cons]

/-- **A `$GPGSV` sentence is sent exactly if it is shorter than the buffer.** -/
theorem gpgsv_eq_ite (before : ℕ) : ∃ body : List UInt8,
    body.length = gpgsvWidth svStatus before ∧
      gpgsv svStatus (sentenceCount svStatus) before =
        if gpgsvWidth svStatus before < 200 then some (locEngNmeaPutChecksum body) else none := by
  have name : (ascii "$GPGSV,").length = 7 := rfl
  have comma : (ascii ",").length = 1 := rfl
  unfold gpgsv
  dsimp only
  rw [checkedSentence_eq, printLast, List.take_nil, List.append_nil]
  generalize body_ : List.flatten (_ :: _) = body
  have width : body.length = gpgsvWidth svStatus before := by
    rw [← body_, List.flatten_cons, List.length_append, length_entries, gpgsvWidth]
    simp only [List.length_append, length_formatInt, name, comma]
    omega
  exact ⟨body, width, by rw [width, nmeaSentenceMaxLength]⟩

/-- The sentences of the function without a position report stay in the buffer. -/
theorem staysInBuffer_blankSentences : StaysInBuffer blankSentences := by
  intro body member
  simp only [blankSentences, List.mem_cons, List.not_mem_nil, or_false] at member
  rcases member with same | same | same | same
  all_goals
    rw [length_eq_of_putChecksum_eq same]
    decide

theorem StaysInBuffer.append_iff {sentences more : List (List UInt8)}
    (stays : StaysInBuffer more) : StaysInBuffer (sentences ++ more) ↔ StaysInBuffer sentences := by
  constructor
  · exact fun whole body member => whole body (List.mem_append_left _ member)
  · intro first body member
    exact (List.mem_append.mp member).elim (first body) (stays body)

/-- Only the `$GPGSV` sentences of a report can leave the buffer. -/
theorem staysInBuffer_generateSv (cache : NmeaCache) (locationExtended : GpsLocationExtended) :
    StaysInBuffer (locEngNmeaGenerateSv cache svStatus locationExtended).2 ↔
      StaysInBuffer (sentUpToError (svSentences svStatus)) := by
  unfold locEngNmeaGenerateSv
  dsimp only
  split
  · split
    · exact StaysInBuffer.append_iff staysInBuffer_blankSentences
    · exact Iff.rfl
  · exact Iff.rfl

/-- **A satellite report stays in the buffer exactly if it leaves room.** -/
theorem staysInBuffer_sv_iff (standalone : Bool) (cache : NmeaCache)
    (locationExtended : GpsLocationExtended) :
    StaysInBuffer ((PrintedReport.sv svStatus).sentences standalone cache locationExtended) ↔
      (PrintedReport.sv svStatus).LeavesRoom cache locationExtended := by
  rw [PrintedReport.sentences, staysInBuffer_generateSv]
  by_cases none_ : svStatus.numSvs ≤ 0
  · have blank : StaysInBuffer (sentUpToError (svSentences svStatus)) := by
      rw [svSentences, if_pos none_]
      intro body member
      rw [length_eq_of_putChecksum_eq (List.mem_singleton.mp member)]
      decide
    have noSentence : sentenceCount svStatus = 0 := by
      rw [sentenceCount, Int.toNat_of_nonpos none_]
      rfl
    refine iff_of_true blank fun before among => ?_
    omega
  · have numbered : svSentences svStatus = (List.range (sentenceCount svStatus)).map
        (gpgsv svStatus (sentenceCount svStatus)) := if_neg none_
    have sent (before : ℕ) : (gpgsv svStatus (sentenceCount svStatus) before).isSome = true ↔
        gpgsvWidth svStatus before < 200 := by
      obtain ⟨body, -, same⟩ := gpgsv_eq_ite svStatus before
      rw [same]
      split <;> simp [*]
    rw [numbered]
    constructor
    · intro stays before among shorter
      obtain ⟨body, width, same⟩ := gpgsv_eq_ite svStatus before
      rw [if_pos (shorter before (Nat.le_refl _))] at same
      have room := stays body (mem_sentUpToError_range.mpr ⟨before, among, same,
        fun earlier below => (sent earlier).mpr (shorter earlier below)⟩)
      rw [nmeaSentenceMaxLength] at room
      omega
    · intro leaves body member
      obtain ⟨before, among, same, whole⟩ := mem_sentUpToError_range.mp member
      have shorter : ∀ earlier ≤ before, gpgsvWidth svStatus earlier < 200 :=
        fun earlier below => (sent earlier).mp (whole earlier below)
      obtain ⟨text, width, is_⟩ := gpgsv_eq_ite svStatus before
      rw [if_pos (shorter before (Nat.le_refl _)), same, Option.some.injEq] at is_
      have room := leaves before among shorter
      rw [length_eq_of_putChecksum_eq is_, nmeaSentenceMaxLength]
      omega

end Satellites

/-! ## Parts of the sentences of a position report -/

/-- The members of a date are those of a clock, and no wider than two characters and a sign. -/
structure Tm.InRange (tm : Tm) : Prop where
  hour : 0 ≤ tm.tmHour ∧ tm.tmHour < 24
  min : 0 ≤ tm.tmMin ∧ tm.tmMin < 60
  sec : 0 ≤ tm.tmSec ∧ tm.tmSec < 60
  mday : tm.tmMday.natAbs < 100
  mon : (tm.tmMon + 1).natAbs < 100

theorem inRange_gmtime (time : ℤ) : (gmtime time).InRange := by
  unfold gmtime
  constructor
  · dsimp only
    omega
  · dsimp only
    omega
  · dsimp only
    omega
  · dsimp only
    omega
  · dsimp only
    split <;> omega

theorem length_clock (location : GpsLocation) : (clock location).length = 6 := by
  obtain ⟨hour, min, sec, -, -⟩ := inRange_gmtime
    ((location.timestamp.tdiv 1000).bmod 4294967296)
  rw [clock]
  simp only [List.length_append, length_formatInt, utcTime]
  rw [intWidth_eq (by decide) hour.1 (by omega), intWidth_eq (by decide) min.1 (by omega),
    intWidth_eq (by decide) sec.1 (by omega)]

/-- The date of `$GPRMC`. -/
theorem length_date_le (location : GpsLocation) :
    (formatDigits 2 (utcTime location).tmMday ++ formatDigits 2 ((utcTime location).tmMon + 1) ++
      formatDigits 2 ((utcTime location).tmYear.tmod 100)).length ≤ 9 := by
  obtain ⟨-, -, -, mday, mon⟩ := inRange_gmtime ((location.timestamp.tdiv 1000).bmod 4294967296)
  have year : ((utcTime location).tmYear.tmod 100).natAbs < 100 := by
    rw [Int.natAbs_tmod]
    exact Nat.mod_lt _ (by decide)
  have dayWidth : (formatDigits 2 (utcTime location).tmMday).length ≤ 3 :=
    length_formatDigits_le (by decide) (Nat.le_refl 2) mday
  have monthWidth : (formatDigits 2 ((utcTime location).tmMon + 1)).length ≤ 3 :=
    length_formatDigits_le (by decide) (Nat.le_refl 2) mon
  have yearWidth : (formatDigits 2 ((utcTime location).tmYear.tmod 100)).length ≤ 3 :=
    length_formatDigits_le (by decide) (Nat.le_refl 2) year
  rw [List.length_append, List.length_append]
  omega

/-- What is left of degrees, in minutes. -/
theorem fmodSixty_eq {angle : ℚ} (nonneg : 0 ≤ angle) :
    fmodSixty (angle * 60) = 60 * Int.fract angle := by
  have turns : (angle * 60 / 60).floor = ⌊angle⌋ := by
    rw [mul_div_cancel_right₀ _ (by norm_num)]
    rfl
  rw [fmodSixty, if_neg (not_lt.mpr (by positivity)), turns, Int.fract]
  ring

theorem fmodSixty_nonneg {angle : ℚ} (nonneg : 0 ≤ angle) : 0 ≤ fmodSixty (angle * 60) := by
  rw [fmodSixty_eq nonneg]
  exact mul_nonneg (by norm_num) (Int.fract_nonneg angle)

/-- What is left of degrees has the width of minutes. -/
theorem fixedWidth_minutes {q : ℚ} (nonneg : 0 ≤ q) : fixedWidth 9 6 (fmodSixty (q * 60)) = 9 := by
  have minutes : 0 ≤ fmodSixty (q * 60) := fmodSixty_nonneg nonneg
  have most : |fmodSixty (q * 60)| ≤ (60 : ℕ) := by
    have under := Int.fract_lt_one q
    rw [abs_of_nonneg minutes, fmodSixty_eq nonneg]
    push_cast
    linarith
  have atMost := fixedWidth_le (by decide : 0 < 2) (by decide : 0 < 6) (Nat.le_refl 9) most
    (by decide)
  have atLeast := le_fixedWidth 9 6 minutes
  rw [if_neg (not_lt.mpr minutes)] at atMost
  omega

theorem northing_eq_abs (location : GpsLocation) :
    (if 0 < location.latitude then location.latitude else location.latitude * -1) =
      |location.latitude| := by
  split
  · next positive => exact (abs_of_pos positive).symm
  · next other => rw [abs_of_nonpos (not_lt.mp other), mul_neg_one]

theorem easting_eq_abs (location : GpsLocation) :
    (if location.longitude < 0 then location.longitude * -1 else location.longitude) =
      |location.longitude| := by
  split
  · next negative => rw [abs_of_neg negative, mul_neg_one]
  · next other => exact (abs_of_nonneg (not_lt.mp other)).symm

theorem length_latLong (location : GpsLocation) :
    (latLong location).length = latLongWidth location := by
  have comma : (ascii ",").length = 1 := rfl
  have latHemisphere : (if 0 < location.latitude then ascii "N" else ascii "S").length = 1 := by
    split <;> rfl
  have lonHemisphere : (if location.longitude < 0 then ascii "W" else ascii "E").length = 1 := by
    split <;> rfl
  unfold latLong latLongWidth
  split
  · dsimp only
    simp only [northing_eq_abs, easting_eq_abs, List.length_append, length_formatInt,
      length_formatFixed, comma, latHemisphere, lonHemisphere, fixedWidth_minutes (abs_nonneg _)]
    omega
  · rfl

theorem latLongWidth_le (location : GpsLocation) : latLongWidth location ≤ 30 := by
  have degrees (width : ℕ) (fits : width ≤ 3) (q : ℚ) : intWidth width (floorByte q) ≤ 3 :=
    intWidth_le (by decide) fits (Int.emod_nonneg _ (by decide))
      (lt_trans (Int.emod_lt_of_pos _ (by decide)) (by decide))
  have latitude := degrees 2 (by decide) |location.latitude|
  have longitude := degrees 3 (by decide) |location.longitude|
  unfold latLongWidth
  split <;> omega

/-- Satellites of a mask have numbers from 1 to 32, and there are no more of them. -/
theorem svUsedList_range (mask : BitVec 32) :
    (svUsedList mask).length ≤ 32 ∧ ∀ sv ∈ svUsedList mask, sv ≤ 32 := by
  constructor
  · rw [svUsedList, List.length_map]
    exact (List.length_filter_le _ _).trans_eq List.length_range
  · intro sv member
    obtain ⟨bit, listed, rfl⟩ := List.mem_map.mp member
    have among := List.mem_range.mp (List.mem_filter.mp listed).1
    omega

/-- A `float` with one place takes 42 characters at most. -/
theorem fixedWidth_float {q : ℚ} (isFloat : IsFloat q) : fixedWidth 0 1 q ≤ 42 := by
  have within : |q| ≤ (2 ^ 128 : ℕ) := by
    rw [IsFloat] at isFloat
    push_cast
    exact isFloat.le
  have width := fixedWidth_le (by decide : 0 < 39) (by decide : 0 < 1) (by decide : 0 ≤ 41) within
    (by decide)
  split at width <;> omega

/-- A speed in another unit takes 43. -/
theorem fixedWidth_speed {q factor : ℚ} (isFloat : IsFloat q) (nonneg : 0 ≤ factor)
    (small : factor ≤ 4) : fixedWidth 0 1 (q * factor) ≤ 43 := by
  have within : |q * factor| ≤ (2 ^ 130 : ℕ) := by
    rw [IsFloat] at isFloat
    rw [abs_mul, abs_of_nonneg nonneg]
    push_cast
    calc |q| * factor ≤ 2 ^ 128 * 4 := mul_le_mul isFloat.le small nonneg (by positivity)
      _ = 2 ^ 130 := by norm_num
  have width := fixedWidth_le (by decide : 0 < 40) (by decide : 0 < 1) (by decide : 0 ≤ 42) within
    (by decide)
  split at width <;> omega

/-! ## Position reports -/

/-- A sentence that leaves room for its checksum is sent. -/
theorem checkedSentence_room {pieces : List (List UInt8)} {last : List UInt8}
    (total : pieces.flatten.length + last.length ≤ 194) : ∃ body : List UInt8,
      checkedSentence pieces last = some (locEngNmeaPutChecksum body) ∧ body.length ≤ 194 := by
  have fits : pieces.flatten.length < nmeaSentenceMaxLength := by
    rw [nmeaSentenceMaxLength]
    omega
  refine ⟨_, checkedSentence_of_fits last fits, ?_⟩
  rw [length_printLast fits]
  omega

section Positions

variable {cache : NmeaCache} {location : GpsLocation} {locationExtended : GpsLocationExtended}

/-- The values of a report, or cached ones, are of the type `float`. -/
theorem AreFloats.dop (floats : AreFloats cache locationExtended location) {dop : Dop}
    (used : dopUsed cache.dop locationExtended = some dop) :
    fixedWidth 0 1 dop.pdop ≤ 42 ∧ fixedWidth 0 1 dop.hdop ≤ 42 ∧ fixedWidth 0 1 dop.vdop ≤ 42 := by
  unfold dopUsed at used
  split at used
  · cases used
    exact ⟨fixedWidth_float floats.pdop, fixedWidth_float floats.hdop,
      fixedWidth_float floats.vdop⟩
  · unfold NmeaCache.dop at used
    split at used
    · cases used
      exact ⟨fixedWidth_float floats.cachedPdop, fixedWidth_float floats.cachedHdop,
        fixedWidth_float floats.cachedVdop⟩
    · cases used

theorem length_modeIndicator (standalone : Bool) (location : GpsLocation) :
    (modeIndicator standalone location).length = 1 := by
  unfold modeIndicator
  split
  · rfl
  · split <;> rfl

/-- The numbers of the satellites, and the commas for those that are not there. -/
theorem length_svUsed_le {used : List ℕ} (range : ∀ sv ∈ used, sv ≤ 32) (places : List ℕ) :
    (places.map fun (i : ℕ) => match used[i]? with
      | some sv => formatInt 2 sv ++ ascii ","
      | none => ascii ",").flatten.length ≤ 3 * places.length := by
  have comma : (ascii ",").length = 1 := rfl
  induction places with
  | nil => exact Nat.le_refl 0
  | cons i rest ih =>
      rw [List.map_cons, List.flatten_cons, List.length_append, List.length_cons]
      split
      · next sv there =>
          have small := range sv (List.mem_of_getElem? there)
          have width : intWidth 2 sv ≤ 2 :=
            intWidth_le (by decide) (by decide) (Int.natCast_nonneg sv) (by omega)
          rw [List.length_append, length_formatInt]
          omega
      · omega

theorem gpgsa_room (floats : AreFloats cache locationExtended location) : ∃ body : List UInt8,
    gpgsa (svUsedList cache.svUsedMask) cache.dop locationExtended =
      some (locEngNmeaPutChecksum body) ∧ body.length ≤ 194 := by
  have comma : (ascii ",").length = 1 := rfl
  have first : (ascii "$GPGSA,A," ++ (if (svUsedList cache.svUsedMask).length = 0 then ascii "1"
      else if (svUsedList cache.svUsedMask).length ≤ 3 then ascii "2" else ascii "3") ++
        ascii ",").length ≤ 11 := by
    split
    · decide
    · split <;> decide
  have satellites := length_svUsed_le (svUsedList_range cache.svUsedMask).2 (List.range 12)
  have last : (match dopUsed cache.dop locationExtended with
      | some dop => formatFixed 0 1 dop.pdop ++ ascii "," ++ formatFixed 0 1 dop.hdop ++
          ascii "," ++ formatFixed 0 1 dop.vdop
      | none => ascii ",,").length ≤ 128 := by
    split
    · next dop used =>
        obtain ⟨pdop, hdop, vdop⟩ := floats.dop used
        simp only [List.length_append, length_formatFixed, comma]
        omega
    · decide
  apply checkedSentence_room
  rw [List.flatten_cons, List.length_append]
  exact (Nat.add_le_add (Nat.add_le_add first satellites) last).trans (by decide)

/-- The track of `$GPVTG`. -/
theorem AreFloats.length_track_le (floats : AreFloats cache locationExtended location) :
    (if HasFlag location.flags gpsLocationHasBearing then
      ascii "$GPVTG," ++ formatFixed 0 1 location.bearing ++ ascii ",T," ++
        formatFixed 0 1 location.bearing ++ ascii ",M,"
    else ascii "$GPVTG,,T,,M,").length ≤ 97 := by
  have bearing := fixedWidth_float floats.bearing
  have name : (ascii "$GPVTG,").length = 7 := rfl
  have true_ : (ascii ",T,").length = 3 := rfl
  have magnetic : (ascii ",M,").length = 3 := rfl
  split
  · simp only [List.length_append, length_formatFixed, name, true_, magnetic]
    omega
  · decide

/-- The speeds of `$GPVTG`. -/
theorem AreFloats.length_speeds_le (floats : AreFloats cache locationExtended location) :
    (if HasFlag location.flags gpsLocationHasSpeed then
      formatFixed 0 1 (location.speed * (3600 / 1852)) ++ ascii ",N," ++
        formatFixed 0 1 (location.speed * (36 / 10)) ++ ascii ",K,"
    else ascii ",N,,K,").length ≤ 92 := by
  have knots : fixedWidth 0 1 (location.speed * (3600 / 1852)) ≤ 43 :=
    fixedWidth_speed floats.speed (by norm_num) (by norm_num)
  have kmPerHour : fixedWidth 0 1 (location.speed * (36 / 10)) ≤ 43 :=
    fixedWidth_speed floats.speed (by norm_num) (by norm_num)
  have inKnots : (ascii ",N,").length = 3 := rfl
  have inKm : (ascii ",K,").length = 3 := rfl
  split
  · simp only [List.length_append, length_formatFixed, inKnots, inKm]
    omega
  · decide

theorem gpvtg_room (standalone : Bool)
    (floats : AreFloats cache locationExtended location) : ∃ body : List UInt8,
    gpvtg standalone location = some (locEngNmeaPutChecksum body) ∧ body.length ≤ 194 := by
  have track := floats.length_track_le
  have speeds := floats.length_speeds_le
  apply checkedSentence_room
  simp only [List.flatten_cons, List.flatten_nil, List.append_nil, List.length_append,
    length_modeIndicator]
  omega

/-- The speed of `$GPRMC`. -/
theorem AreFloats.length_knots_le (floats : AreFloats cache locationExtended location) :
    (if HasFlag location.flags gpsLocationHasSpeed then
      formatFixed 0 1 (location.speed * (3600 / 1852)) ++ ascii ","
    else ascii ",").length ≤ 44 := by
  have knots : fixedWidth 0 1 (location.speed * (3600 / 1852)) ≤ 43 :=
    fixedWidth_speed floats.speed (by norm_num) (by norm_num)
  have comma : (ascii ",").length = 1 := rfl
  split
  · simp only [List.length_append, length_formatFixed, comma]
    omega
  · decide

/-- The bearing of `$GPRMC`. -/
theorem AreFloats.length_bearing_le (floats : AreFloats cache locationExtended location) :
    (if HasFlag location.flags gpsLocationHasBearing then
      formatFixed 0 1 location.bearing ++ ascii "," else ascii ",").length ≤ 43 := by
  have width := fixedWidth_float floats.bearing
  have comma : (ascii ",").length = 1 := rfl
  split
  · simp only [List.length_append, length_formatFixed, comma]
    omega
  · decide

/-- The magnetic variation of `$GPRMC`. -/
theorem AreFloats.length_variation_le (floats : AreFloats cache locationExtended location) :
    (if HasFlag locationExtended.flags gpsLocationExtendedHasMagDev then
      if locationExtended.magneticDeviation < 0 then
        formatFixed 0 1 (locationExtended.magneticDeviation * -1) ++ ascii ",W,"
      else formatFixed 0 1 locationExtended.magneticDeviation ++ ascii ",E,"
    else ascii ",,").length ≤ 45 := by
  have width := fixedWidth_float floats.magneticDeviation
  have opposite : fixedWidth 0 1 (locationExtended.magneticDeviation * -1) ≤ 42 := by
    refine fixedWidth_float ?_
    rw [IsFloat, mul_neg_one, abs_neg]
    exact floats.magneticDeviation
  have west : (ascii ",W,").length = 3 := rfl
  have east : (ascii ",E,").length = 3 := rfl
  split
  · split
    · simp only [List.length_append, length_formatFixed, west]
      omega
    · simp only [List.length_append, length_formatFixed, east]
      omega
  · decide

theorem gprmc_room (standalone : Bool)
    (floats : AreFloats cache locationExtended location) : ∃ body : List UInt8,
    gprmc standalone location locationExtended = some (locEngNmeaPutChecksum body) ∧
      body.length ≤ 194 := by
  have name : (ascii "$GPRMC,").length = 7 := rfl
  have active : (ascii ",A,").length = 3 := rfl
  have comma : (ascii ",").length = 1 := rfl
  have latLong_ := latLongWidth_le location
  have knots := floats.length_knots_le
  have bearing := floats.length_bearing_le
  have date := length_date_le location
  rw [List.length_append, List.length_append] at date
  have variation := floats.length_variation_le
  apply checkedSentence_room
  simp only [List.flatten_cons, List.flatten_nil, List.append_nil, List.length_append,
    length_modeIndicator, length_clock, length_latLong, name, active, comma]
  omega

/-- The altitude of `$GPGGA`. -/
theorem length_altitude (locationExtended : GpsLocationExtended) :
    (if HasFlag locationExtended.flags gpsLocationExtendedHasAltitudeMeanSeaLevel then
      formatFixed 0 1 locationExtended.altitudeMeanSeaLevel ++ ascii ",M," else ascii ",,").length =
    if HasFlag locationExtended.flags gpsLocationExtendedHasAltitudeMeanSeaLevel then
      fixedWidth 0 1 locationExtended.altitudeMeanSeaLevel + 3 else 2 := by
  split
  · rw [List.length_append, length_formatFixed]
    rfl
  · rfl

/-- The last piece of `$GPGGA`. -/
theorem length_geoid (location : GpsLocation) (locationExtended : GpsLocationExtended) :
    (if HasFlag location.flags gpsLocationHasAltitude ∧
        HasFlag locationExtended.flags gpsLocationExtendedHasAltitudeMeanSeaLevel then
      formatFixed 0 1 (location.altitude - locationExtended.altitudeMeanSeaLevel) ++ ascii ",M,,"
    else ascii ",,,").length =
    if HasFlag location.flags gpsLocationHasAltitude ∧
        HasFlag locationExtended.flags gpsLocationExtendedHasAltitudeMeanSeaLevel then
      fixedWidth 0 1 (location.altitude - locationExtended.altitudeMeanSeaLevel) + 4
    else 3 := by
  split
  · rw [List.length_append, length_formatFixed]
    rfl
  · rfl

/-- The quality of `$GPGGA`. -/
theorem length_gpsQuality (standalone : Bool) (location : GpsLocation) :
    (if ¬ HasFlag location.flags gpsLocationHasLatLong then ascii "0"
      else if standalone then ascii "1" else ascii "2").length = 1 := by
  split
  · rfl
  · split <;> rfl

/-- How many satellites were used. -/
theorem intWidth_svUsedCount (mask : BitVec 32) : intWidth 2 (svUsedList mask).length = 2 := by
  have few := (svUsedList_range mask).1
  exact intWidth_eq (by decide) (Int.natCast_nonneg _) (by omega)

/-- The pieces of `$GPGGA` have its width together, and all but the last fit. -/
theorem gpgga_pieces (standalone : Bool) (floats : AreFloats cache locationExtended location) :
    ∃ (pieces : List (List UInt8)) (last : List UInt8),
      gpgga standalone (svUsedList cache.svUsedMask) cache.dop location locationExtended =
          checkedSentence pieces last ∧
        pieces.flatten.length + last.length = gpggaWidth cache.dop location locationExtended ∧
        pieces.flatten.length < nmeaSentenceMaxLength := by
  have name : (ascii "$GPGGA,").length = 7 := rfl
  have comma : (ascii ",").length = 1 := rfl
  have latLong_ := latLongWidth_le location
  have quality := length_gpsQuality standalone location
  have satellites := intWidth_svUsedCount cache.svUsedMask
  have altitude : (if HasFlag locationExtended.flags gpsLocationExtendedHasAltitudeMeanSeaLevel then
      fixedWidth 0 1 locationExtended.altitudeMeanSeaLevel + 3 else 2) ≤ 45 := by
    have width := fixedWidth_float floats.altitudeMeanSeaLevel
    split <;> omega
  refine ⟨_, _, rfl, ?_, ?_⟩
  · unfold gpggaWidth
    -- without and with an `hdop`
    cases used : dopUsed cache.dop locationExtended with
    | none =>
        simp only [List.flatten_cons, List.flatten_nil, List.append_nil, List.length_append,
          length_formatInt, length_clock, length_latLong, length_altitude, length_geoid, name,
          comma, quality, satellites]
        omega
    | some dop =>
        simp only [List.flatten_cons, List.flatten_nil, List.append_nil, List.length_append,
          length_formatFixed, length_formatInt, length_clock, length_latLong, length_altitude,
          length_geoid, name, comma, quality, satellites]
        omega
  · rw [nmeaSentenceMaxLength]
    cases used : dopUsed cache.dop locationExtended with
    | none =>
        simp only [List.flatten_cons, List.flatten_nil, List.append_nil, List.length_append,
          length_formatInt, length_clock, length_latLong, length_altitude, name, comma, quality,
          satellites]
        omega
    | some dop =>
        have hdop := (floats.dop used).2.1
        simp only [List.flatten_cons, List.flatten_nil, List.append_nil, List.length_append,
          length_formatFixed, length_formatInt, length_clock, length_latLong, length_altitude,
          name, comma, quality, satellites]
        omega

/-- **`$GPGGA` is always sent**, as far as it fits. -/
theorem gpgga_room (standalone : Bool) (floats : AreFloats cache locationExtended location) :
    ∃ body : List UInt8,
      gpgga standalone (svUsedList cache.svUsedMask) cache.dop location locationExtended =
          some (locEngNmeaPutChecksum body) ∧
        body.length = min 199 (gpggaWidth cache.dop location locationExtended) := by
  obtain ⟨pieces, last, same, width, fits⟩ := gpgga_pieces standalone floats
  refine ⟨_, same.trans (checkedSentence_of_fits last fits), ?_⟩
  rw [length_printLast fits, width]
  rfl

/-- **A position report stays in the buffer exactly if its `$GPGGA` leaves room.** -/
theorem staysInBuffer_pos_iff (standalone : Bool)
    (floats : AreFloats cache locationExtended location) :
    StaysInBuffer ((PrintedReport.pos location).sentences standalone cache locationExtended) ↔
      (PrintedReport.pos location).LeavesRoom cache locationExtended := by
  obtain ⟨gsa, sentGsa, roomGsa⟩ := gpgsa_room floats
  obtain ⟨vtg, sentVtg, roomVtg⟩ := gpvtg_room standalone floats
  obtain ⟨rmc, sentRmc, roomRmc⟩ := gprmc_room standalone floats
  obtain ⟨gga, sentGga, widthGga⟩ := gpgga_room standalone floats
  have sent : (PrintedReport.pos location).sentences standalone cache locationExtended =
      [gsa, vtg, rmc, gga].map locEngNmeaPutChecksum := by
    rw [PrintedReport.sentences, locEngNmeaGeneratePos]
    dsimp only
    rw [posSentences, sentGsa, sentVtg, sentRmc, sentGga]
    rfl
  rw [sent, PrintedReport.LeavesRoom]
  constructor
  · intro stays
    have room := stays gga (List.mem_map_of_mem (by simp))
    rw [nmeaSentenceMaxLength] at room
    omega
  · intro leaves body member
    obtain ⟨text, listed, same⟩ := List.mem_map.mp member
    rw [← length_eq_of_putChecksum_eq same, nmeaSentenceMaxLength]
    simp only [List.mem_cons, List.not_mem_nil, or_false] at listed
    rcases listed with rfl | rfl | rfl | rfl <;> omega

end Positions

/-! ## Reports of both kinds -/

section Fixed

/-- A place 400 metres above the sea. -/
def onLand : GpsLocation where
  flags := gpsLocationHasLatLong ||| gpsLocationHasAltitude
  positionSource := 0
  latitude := 47
  longitude := -8
  altitude := 448
  speed := 0
  bearing := 0
  accuracy := 10
  timestamp := 1400000000000

/-- The altitude above the sea. -/
def aboveSea : GpsLocationExtended where
  flags := gpsLocationExtendedHasAltitudeMeanSeaLevel
  altitudeMeanSeaLevel := 400
  pdop := 0
  hdop := 0
  vdop := 0
  magneticDeviation := 0

/-- Four satellites whose numbers are as wide as a line, or nearly so. -/
def wideSatellites : GpsSvStatus where
  numSvs := 4
  svList := List.replicate 32 ⟨-2147483648, 100000000, -2000000000, -2000000000⟩
  usedInFixMask := 1

end Fixed

end Msm8660.Gps
