import Mathlib.Algebra.Order.Round
import Mathlib.Algebra.Order.Floor.Ring
import Mathlib.Data.List.GetD
import Msm8660.Gps.Nmea
import Msm8660.Lib.Fields

/-!
# The satellite sentences, read back

A reader of `$GPGSV` sentences splits what is in front of the `*` at the commas and takes four
fields for each satellite. For a report in the ranges of the fields it gets what the report
says, four satellites a sentence, and no sentence is missing (`generateSv_readBack`).
-/

set_option autoImplicit false

namespace Msm8660.Gps

/-- `GPS_MAX_SVS`. -/
def gpsMaxSvs : ℤ := 32

/-! ## Reading -/

/-- A satellite as a sentence tells of it. -/
structure SvInView where
  prn : ℤ
  elevation : ℤ
  azimuth : ℤ
  snr : Option ℤ
deriving DecidableEq

/-- What a `$GPGSV` sentence tells. -/
structure Gpgsv where
  sentenceCount : ℤ
  sentenceNumber : ℤ
  svCount : ℤ
  satellites : List SvInView
deriving DecidableEq

/-- A field that may be empty. -/
def readOptional (field : List UInt8) : Option (Option ℤ) :=
  if field = [] then some none else (readInt field).map some

/-- Four fields for each satellite. -/
def readSatellites : List (List UInt8) → Option (List SvInView)
  | [] => some []
  | prn :: elevation :: azimuth :: snr :: rest => do
      let satellite : SvInView :=
        ⟨← readInt prn, ← readInt elevation, ← readInt azimuth, ← readOptional snr⟩
      return satellite :: (← readSatellites rest)
  | _ => none

/-- What is in front of the checksum, split at the commas. -/
def readGpgsv (sentence : List UInt8) : Option Gpgsv :=
  match (sentence.takeWhile (· ≠ 42)).splitOn 44 with
  | name :: sentenceCount :: sentenceNumber :: svCount :: satellites =>
      if name = ascii "$GPGSV" then do
        return ⟨← readInt sentenceCount, ← readInt sentenceNumber, ← readInt svCount,
          ← readSatellites satellites⟩
      else none
  | _ => none

/-! ## What is to be read -/

/-- A satellite in the ranges of the fields. -/
structure GpsSvInfo.InRange (info : GpsSvInfo) : Prop where
  prn : 0 ≤ info.prn ∧ info.prn ≤ 999
  elevation : 0 ≤ info.elevation ∧ info.elevation ≤ 90
  azimuth : 0 ≤ info.azimuth ∧ info.azimuth ≤ 360
  snr : 0 ≤ info.snr ∧ info.snr ≤ 99

instance (info : GpsSvInfo) : Decidable info.InRange :=
  decidable_of_iff ((0 ≤ info.prn ∧ info.prn ≤ 999) ∧ (0 ≤ info.elevation ∧ info.elevation ≤ 90) ∧
      (0 ≤ info.azimuth ∧ info.azimuth ≤ 360) ∧ 0 ≤ info.snr ∧ info.snr ≤ 99)
    ⟨fun ⟨prn, elevation, azimuth, snr⟩ => ⟨prn, elevation, azimuth, snr⟩,
      fun ⟨prn, elevation, azimuth, snr⟩ => ⟨prn, elevation, azimuth, snr⟩⟩

/-- The satellites that a report counts. -/
def GpsSvStatus.satellites (svStatus : GpsSvStatus) : List GpsSvInfo :=
  svStatus.svList.take svStatus.numSvs.toNat

/-- A report with satellites, all of them in the ranges of the fields. -/
structure GpsSvStatus.InRange (svStatus : GpsSvStatus) : Prop where
  some_ : 1 ≤ svStatus.numSvs
  counted : svStatus.numSvs ≤ gpsMaxSvs
  held : (svStatus.svList.length : ℤ) = gpsMaxSvs
  satellites : ∀ info ∈ svStatus.satellites, info.InRange

/-- What is to be read of a satellite. -/
def GpsSvInfo.inView (info : GpsSvInfo) : SvInView where
  prn := info.prn
  elevation := round info.elevation
  azimuth := round info.azimuth
  snr := if 0 < info.snr then some (round info.snr) else none

/-- **The sentences tell the report**: they are numbered, with the counts in each, and tell of
its satellites in their order, four at most in each. -/
structure TellsReport (svStatus : GpsSvStatus) (sentences : List (List UInt8)) : Prop where
  number : (sentences.length : ℤ) = ⌈(svStatus.numSvs : ℚ) / 4⌉
  tells : ∃ groups : List (List SvInView),
    sentences.map readGpgsv = groups.mapIdx (fun before satellites =>
        some ⟨⌈(svStatus.numSvs : ℚ) / 4⌉, before + 1, svStatus.numSvs, satellites⟩) ∧
      (∀ satellites ∈ groups, satellites.length ≤ 4) ∧
      groups.flatten = svStatus.satellites.map GpsSvInfo.inView

/-! ## Single satellites -/

/-- What `(int)(0.5 + q)` is for numbers that are not negative. -/
theorem truncate_eq_round {q : ℚ} (nonneg : 0 ≤ q) : truncate (1 / 2 + q) = round q := by
  have notNegative : ¬ 1 / 2 + q < 0 := by linarith
  rw [truncate, if_neg notNegative, add_comm, round_eq]
  rfl

/-- Rounding keeps a range between integers. -/
theorem round_range {q : ℚ} (upper : ℤ) (nonneg : 0 ≤ q) (below : q ≤ upper) :
    0 ≤ round q ∧ round q ≤ upper := by
  rw [round_eq]
  constructor
  · exact Int.floor_nonneg.mpr (by linarith)
  · rw [← Int.lt_add_one_iff, Int.floor_lt, Int.cast_add, Int.cast_one]
    linarith

/-- The fields of a satellite. -/
def svFields (info : GpsSvInfo) : List (List UInt8) :=
  [formatInt 2 info.prn, formatInt 2 (truncate (1 / 2 + info.elevation)),
    formatInt 3 (truncate (1 / 2 + info.azimuth)),
    if 0 < info.snr then formatInt 2 (truncate (1 / 2 + info.snr)) else []]

/-- What is printed of a satellite is its fields, with a comma in front of each. -/
theorem flatten_gpsvEntry (info : GpsSvInfo) :
    (gpsvEntry info).flatten = (svFields info).flatMap (44 :: ·) := by
  have comma : ascii "," = [44] := rfl
  unfold gpsvEntry svFields
  split <;> simp [comma]

/-- The fields of a satellite have digits and signs only. -/
theorem notMem_svFields {info : GpsSvInfo} {byte : UInt8} (unsigned : byte ≠ 45)
    (noDigit : ¬ IsDigit byte) : ∀ text ∈ svFields info, byte ∉ text := by
  have clean (width : ℕ) (n : ℤ) : byte ∉ formatInt width n := fun member =>
    (isDigit_of_mem_formatInt member).elim unsigned noDigit
  simp [svFields, clean]

theorem readOptional_snr {info : GpsSvInfo} (inRange : info.InRange) :
    readOptional (if 0 < info.snr then formatInt 2 (truncate (1 / 2 + info.snr)) else []) =
      some info.inView.snr := by
  unfold readOptional GpsSvInfo.inView
  split
  · rw [if_neg (formatInt_ne_nil _ _), readInt_formatInt, truncate_eq_round inRange.snr.1]
    rfl
  · exact if_pos rfl

/-- The satellites of a sentence are read back. -/
theorem readSatellites_svFields {group : List GpsSvInfo}
    (inRange : ∀ info ∈ group, info.InRange) :
    readSatellites (group.flatMap svFields) = some (group.map GpsSvInfo.inView) := by
  induction group with
  | nil => rfl
  | cons info rest ih =>
      have here := inRange info (List.mem_cons_self ..)
      have behind := ih fun other member => inRange other (List.mem_cons_of_mem _ member)
      rw [List.flatMap_cons, svFields, List.cons_append, List.cons_append, List.cons_append,
        List.cons_append, List.nil_append, readSatellites, behind]
      simp only [readInt_formatInt, readOptional_snr here, truncate_eq_round here.elevation.1,
        truncate_eq_round here.azimuth.1, Option.bind_eq_bind, Option.bind_some]
      rfl

/-- A satellite in range takes fourteen characters at most. -/
theorem length_gpsvEntry {info : GpsSvInfo} (inRange : info.InRange) :
    (gpsvEntry info).flatten.length ≤ 14 := by
  obtain ⟨prn, elevation, azimuth, snr⟩ := inRange
  have prnWidth : intWidth 2 info.prn ≤ 3 :=
    intWidth_le (by decide) (by decide) prn.1 (by omega)
  have elevationWidth : intWidth 2 (truncate (1 / 2 + info.elevation)) ≤ 2 := by
    have range := round_range 90 elevation.1 (by exact_mod_cast elevation.2)
    rw [truncate_eq_round elevation.1]
    exact intWidth_le (by decide) (by decide) range.1 (by omega)
  have azimuthWidth : intWidth 3 (truncate (1 / 2 + info.azimuth)) ≤ 3 := by
    have range := round_range 360 azimuth.1 (by exact_mod_cast azimuth.2)
    rw [truncate_eq_round azimuth.1]
    exact intWidth_le (by decide) (by decide) range.1 (by omega)
  have snrWidth : intWidth 2 (truncate (1 / 2 + info.snr)) ≤ 2 := by
    have range := round_range 99 snr.1 (by exact_mod_cast snr.2)
    rw [truncate_eq_round snr.1]
    exact intWidth_le (by decide) (by decide) range.1 (by omega)
  have comma : (ascii ",").length = 1 := rfl
  unfold gpsvEntry
  split <;> simp only [List.flatten_cons, List.flatten_nil, List.length_append, List.length_nil,
    length_formatInt, comma] <;> omega

/-! ## Single sentences -/

/-- The elements from a place on, looked up one by one. -/
theorem map_range_getD {α : Type} (items : List α) (default_ : α) {count : ℕ}
    (held : count ≤ items.length) (size place : ℕ) :
    (List.range (min size (count - place))).map (fun i => items.getD (place + i) default_) =
      ((items.take count).drop place).take size := by
  apply List.ext_getElem
  · simp only [List.length_map, List.length_range, List.length_take, List.length_drop]
    omega
  · intro i inRange inItems
    rw [List.length_map, List.length_range] at inRange
    rw [List.getElem_map, List.getElem_range, List.getElem_take, List.getElem_drop,
      List.getElem_take, List.getD_eq_getElem items default_ (by omega)]

/-- Groups of elements make up the elements. -/
theorem flatMap_range_group {α : Type} (items : List α) (size count : ℕ) :
    (List.range count).flatMap (fun before => (items.drop (size * before)).take size) =
      items.take (size * count) := by
  induction count with
  | zero => simp
  | succ count ih =>
      rw [List.range_succ, List.flatMap_append, ih, List.flatMap_singleton, Nat.mul_succ,
        List.take_add]

/-- The satellites of a sentence. -/
def GpsSvStatus.group (svStatus : GpsSvStatus) (before : ℕ) : List GpsSvInfo :=
  (svStatus.satellites.drop (4 * before)).take 4

/-- What is in front of the checksum of a sentence. -/
def gpgsvBody (svStatus : GpsSvStatus) (sentenceCount before : ℕ) : List UInt8 :=
  ascii "$GPGSV" ++ (formatInt 0 sentenceCount :: formatInt 0 (before + 1) ::
    formatInt 2 svStatus.numSvs.toNat :: (svStatus.group before).flatMap svFields).flatMap (44 :: ·)

section Sentence

variable {svStatus : GpsSvStatus}

theorem GpsSvStatus.InRange.count (inRange : svStatus.InRange) :
    svStatus.numSvs = svStatus.numSvs.toNat ∧ 1 ≤ svStatus.numSvs.toNat ∧
      svStatus.numSvs.toNat ≤ 32 ∧ svStatus.numSvs.toNat ≤ svStatus.svList.length := by
  obtain ⟨some_, counted, held, -⟩ := inRange
  rw [gpsMaxSvs] at counted held
  omega

/-- The satellites of a sentence are in range. -/
theorem GpsSvStatus.InRange.group (inRange : svStatus.InRange) (before : ℕ) :
    ∀ info ∈ svStatus.group before, info.InRange := fun info member =>
  inRange.satellites info (List.mem_of_mem_drop (List.mem_of_mem_take member))

/-- Flattening what is printed of satellites gives their fields. -/
theorem flatten_flatMap_gpsvEntry (group : List GpsSvInfo) :
    (group.flatMap gpsvEntry).flatten = (group.flatMap svFields).flatMap (44 :: ·) := by
  induction group with
  | nil => rfl
  | cons info rest ih =>
      rw [List.flatMap_cons, List.flatten_append, ih, flatten_gpsvEntry, List.flatMap_cons,
        List.flatMap_append]

theorem length_flatMap_gpsvEntry {group : List GpsSvInfo}
    (inRange : ∀ info ∈ group, info.InRange) :
    (group.flatMap gpsvEntry).flatten.length ≤ 14 * group.length := by
  induction group with
  | nil => exact Nat.le_refl 0
  | cons info rest ih =>
      have here := length_gpsvEntry (inRange info (List.mem_cons_self ..))
      have behind := ih fun other member => inRange other (List.mem_cons_of_mem _ member)
      rw [List.flatMap_cons, List.flatten_append, List.length_append, List.length_cons]
      omega

/-- The fields in front of the satellites. -/
def headerFields (svStatus : GpsSvStatus) (sentenceCount before : ℕ) : List (List UInt8) :=
  [formatInt 0 sentenceCount, formatInt 0 (before + 1), formatInt 2 svStatus.numSvs.toNat]

/-- What is printed in front of the satellites. -/
theorem header_eq (svStatus : GpsSvStatus) (sentenceCount before : ℕ) :
    ascii "$GPGSV," ++ formatInt 0 sentenceCount ++ ascii "," ++ formatInt 0 (before + 1) ++
        ascii "," ++ formatInt 2 svStatus.numSvs.toNat =
      ascii "$GPGSV" ++ (headerFields svStatus sentenceCount before).flatMap (44 :: ·) := by
  have name : ascii "$GPGSV," = ascii "$GPGSV" ++ [44] := by decide
  have comma : ascii "," = [44] := by decide
  simp [headerFields, name, comma]

theorem length_header_le (inRange : svStatus.InRange) {sentenceCount before : ℕ}
    (counted : sentenceCount ≤ 8) (among : before < sentenceCount) :
    (ascii "$GPGSV" ++
      (headerFields svStatus sentenceCount before).flatMap (44 :: ·)).length ≤ 13 := by
  obtain ⟨-, -, atMost, -⟩ := inRange.count
  have countWidth : intWidth 0 sentenceCount ≤ 1 :=
    intWidth_le (by decide) (by decide) (by omega) (by omega)
  have numberWidth : intWidth 0 (before + 1) ≤ 1 :=
    intWidth_le (by decide) (by decide) (by omega) (by omega)
  have svWidth : intWidth 2 svStatus.numSvs.toNat ≤ 2 :=
    intWidth_le (by decide) (by decide) (by omega) (by omega)
  have name : (ascii "$GPGSV").length = 6 := rfl
  simp only [headerFields, List.flatMap_cons, List.flatMap_nil, List.length_append,
    List.length_cons, List.length_nil, length_formatInt, name]
  omega

/-- The pieces that are printed for the satellites of a sentence. -/
theorem entries_eq (inRange : svStatus.InRange) (before : ℕ) :
    (List.range (min 4 (svStatus.numSvs.toNat - 4 * before))).flatMap (fun i =>
        gpsvEntry (svStatus.svList.getD (4 * before + i) ⟨0, 0, 0, 0⟩)) =
      (svStatus.group before).flatMap gpsvEntry := by
  obtain ⟨-, -, -, held⟩ := inRange.count
  rw [GpsSvStatus.group, GpsSvStatus.satellites, ← map_range_getD _ ⟨0, 0, 0, 0⟩ held,
    List.flatMap_map]

/-- The pieces of a sentence make up its body. -/
theorem pieces_eq (svStatus : GpsSvStatus) (sentenceCount before : ℕ) :
    (ascii "$GPGSV" ++ (headerFields svStatus sentenceCount before).flatMap (44 :: ·)) ++
        ((svStatus.group before).flatMap gpsvEntry).flatten =
      gpgsvBody svStatus sentenceCount before := by
  rw [flatten_flatMap_gpsvEntry, gpgsvBody, List.append_assoc, ← List.flatMap_append]
  rfl

/-- **A sentence of a report in range is sent.** -/
theorem gpgsv_eq (inRange : svStatus.InRange) {sentenceCount before : ℕ}
    (counted : sentenceCount ≤ 8) (among : before < sentenceCount) :
    gpgsv svStatus sentenceCount before =
      some (locEngNmeaPutChecksum (gpgsvBody svStatus sentenceCount before)) := by
  have short := length_header_le inRange counted among
  have few : (svStatus.group before).length ≤ 4 := List.length_take_le _ _
  have more := length_flatMap_gpsvEntry (inRange.group before)
  have pieces := pieces_eq svStatus sentenceCount before
  have fits : (gpgsvBody svStatus sentenceCount before).length < nmeaSentenceMaxLength := by
    rw [← pieces, List.length_append, nmeaSentenceMaxLength]
    omega
  unfold gpgsv
  dsimp only
  rw [entries_eq inRange, header_eq, checkedSentence_of_fits, List.flatten_cons, pieces,
    printLast, List.take_nil, List.append_nil]
  rwa [List.flatten_cons, pieces]

/-- **The sentence is read back.** -/
theorem readGpgsv_gpgsvBody (inRange : svStatus.InRange) (sentenceCount before : ℕ) :
    readGpgsv (locEngNmeaPutChecksum (gpgsvBody svStatus sentenceCount before)) =
      some ⟨sentenceCount, before + 1, svStatus.numSvs,
        (svStatus.group before).map GpsSvInfo.inView⟩ := by
  -- neither the comma nor the star is in a field
  have clean {byte : UInt8} (unsigned : byte ≠ 45) (noDigit : ¬ IsDigit byte)
      (other : byte ∉ ascii "$GPGSV") : ∀ text ∈ ascii "$GPGSV" :: formatInt 0 sentenceCount ::
        formatInt 0 (before + 1) :: formatInt 2 svStatus.numSvs.toNat ::
          (svStatus.group before).flatMap svFields, byte ∉ text := by
    have number (width : ℕ) (n : ℤ) : byte ∉ formatInt width n := fun member =>
      (isDigit_of_mem_formatInt member).elim unsigned noDigit
    have satellites : ∀ text ∈ (svStatus.group before).flatMap svFields, byte ∉ text := by
      intro text member
      obtain ⟨info, -, field⟩ := List.mem_flatMap.mp member
      exact notMem_svFields unsigned noDigit text field
    simp only [List.forall_mem_cons]
    exact ⟨other, number 0 _, number 0 _, number 2 _, satellites⟩
  have noStar : ∀ byte ∈ gpgsvBody svStatus sentenceCount before, decide (byte ≠ 42) = true := by
    intro byte member
    rw [decide_eq_true_eq]
    rintro rfl
    exact notMem_fields (by decide) (clean (by decide) (by decide) (by decide)) member
  have body : (locEngNmeaPutChecksum (gpgsvBody svStatus sentenceCount before)).takeWhile
      (· ≠ 42) = gpgsvBody svStatus sentenceCount before := by
    rw [locEngNmeaPutChecksum, List.append_assoc, List.takeWhile_append_of_pos noStar,
      List.cons_append, List.takeWhile_cons_of_neg (by decide), List.append_nil]
  have fields := splitOn_fields (clean (by decide) (by decide) (by decide) : ∀ text ∈ _,
    (44 : UInt8) ∉ text)
  rw [readGpgsv, body, gpgsvBody, fields]
  dsimp only
  rw [if_pos rfl, readSatellites_svFields (inRange.group before)]
  simp only [readInt_formatInt, Option.bind_eq_bind, Option.bind_some, ← inRange.count.1]
  rfl

end Sentence

/-! ## Whole reports -/

/-- Where every sentence fits, all of them are sent. -/
theorem sentUpToError_map_some (sentences : List (List UInt8)) :
    sentUpToError (sentences.map some) = sentences := by
  induction sentences with
  | nil => rfl
  | cons sentence rest ih => exact congrArg (sentence :: ·) ih

section Report

variable {svStatus : GpsSvStatus}

/-- The bodies of the sentences. -/
def gpgsvBodies (svStatus : GpsSvStatus) : List (List UInt8) :=
  let sentenceCount := svStatus.numSvs.toNat / 4 + if svStatus.numSvs.toNat % 4 ≠ 0 then 1 else 0
  (List.range sentenceCount).map (gpgsvBody svStatus sentenceCount)

theorem length_gpgsvBodies (inRange : svStatus.InRange) :
    ((gpgsvBodies svStatus).length : ℤ) = ⌈(svStatus.numSvs : ℚ) / 4⌉ := by
  obtain ⟨same, -, -, -⟩ := inRange.count
  have rounded : ⌈(svStatus.numSvs : ℚ) / 4⌉ = -(-svStatus.numSvs / 4) := by
    exact_mod_cast Rat.ceil_intCast_div_natCast svStatus.numSvs 4
  rw [rounded, gpgsvBodies, List.length_map, List.length_range]
  split <;> omega

/-- Every sentence of a report in range is sent. -/
theorem svSentences_eq (inRange : svStatus.InRange) :
    svSentences svStatus = ((gpgsvBodies svStatus).map locEngNmeaPutChecksum).map some := by
  obtain ⟨same, some_, atMost, -⟩ := inRange.count
  have counted : svStatus.numSvs.toNat / 4 +
      (if svStatus.numSvs.toNat % 4 ≠ 0 then 1 else 0) ≤ 8 := by
    split <;> omega
  rw [svSentences, if_neg (by omega), gpgsvBodies, List.map_map, List.map_map]
  refine List.map_congr_left fun before among => ?_
  exact gpgsv_eq inRange counted (List.mem_range.mp among)

/-- **Whatever the generator sends for a report in range tells the report.** -/
theorem tellsReport (inRange : svStatus.InRange) :
    TellsReport svStatus ((gpgsvBodies svStatus).map locEngNmeaPutChecksum) := by
  have length := length_gpgsvBodies inRange
  refine ⟨by rw [List.length_map, length], (List.range (gpgsvBodies svStatus).length).map
    fun before => (svStatus.group before).map GpsSvInfo.inView, ?_, ?_, ?_⟩
  · apply List.ext_getElem
    · simp
    · intro before inSentences inGroups
      have same : ((svStatus.numSvs.toNat / 4 +
          if svStatus.numSvs.toNat % 4 ≠ 0 then 1 else 0 : ℕ) : ℤ) =
            ⌈(svStatus.numSvs : ℚ) / 4⌉ := by
        rw [← length, gpgsvBodies, List.length_map, List.length_range]
      simp only [gpgsvBodies, List.getElem_map, List.getElem_range, List.getElem_mapIdx,
        readGpgsv_gpgsvBody inRange, same]
  · intro satellites member
    obtain ⟨before, -, rfl⟩ := List.mem_map.mp member
    rw [List.length_map]
    exact List.length_take_le _ _
  · obtain ⟨-, -, -, held⟩ := inRange.count
    have enough : svStatus.satellites.length ≤ 4 * (gpgsvBodies svStatus).length := by
      rw [GpsSvStatus.satellites, List.length_take, gpgsvBodies, List.length_map,
        List.length_range]
      split <;> omega
    rw [← List.flatMap_def, ← List.map_flatMap]
    exact congrArg _ ((flatMap_range_group _ 4 _).trans (List.take_of_length_le enough))

/-- **The satellite sentences are read back as the report.** No formatting error ends the
generator, and the blank sentences of a report without a fix follow. -/
theorem generateSv_readBack (inRange : svStatus.InRange) (cache : NmeaCache)
    (locationExtended : GpsLocationExtended) :
    (∀ sentence ∈ svSentences svStatus, sentence.isSome = true) ∧
      ∃ sentences, TellsReport svStatus sentences ∧
        (locEngNmeaGenerateSv cache svStatus locationExtended).2 =
          sentences ++ if svStatus.usedInFixMask = 0 then blankSentences else [] := by
  have sent := svSentences_eq inRange
  have noError : ∀ sentence ∈ svSentences svStatus, sentence.isSome = true := by
    rw [sent]
    intro sentence member
    obtain ⟨text, -, rfl⟩ := List.mem_map.mp member
    rfl
  refine ⟨noError, _, tellsReport inRange, ?_⟩
  unfold locEngNmeaGenerateSv
  dsimp only
  rw [if_pos (List.all_eq_true.mpr noError), sent, sentUpToError_map_some]
  split
  · rfl
  · rw [List.append_nil]

end Report

/-- A report of five satellites, one of them without `snr`. -/
def fiveSatellites : GpsSvStatus where
  numSvs := 5
  svList := [⟨3, 41, 10, 300⟩, ⟨14, 0, 45, 90⟩, ⟨22, 99, 89 + 1 / 2, 359 + 1 / 2⟩,
    ⟨7, 3 / 10, 0, 0⟩, ⟨120, 12, 33, 7⟩] ++ List.replicate 27 ⟨0, 0, 0, 0⟩
  usedInFixMask := 0

theorem inRange_fiveSatellites : fiveSatellites.InRange := by
  refine ⟨by decide, by decide, by decide, ?_⟩
  decide +kernel

theorem generateSv_readBack_fiveSatellites :
    ∃ sentences, TellsReport fiveSatellites sentences ∧
      (locEngNmeaGenerateSv ⟨0, 0, 0, 0⟩ fiveSatellites ⟨0, 0, 0, 0, 0, 0⟩).2 =
        sentences ++ blankSentences :=
  (generateSv_readBack inRange_fiveSatellites ⟨0, 0, 0, 0⟩ ⟨0, 0, 0, 0, 0, 0⟩).2

end Msm8660.Gps
