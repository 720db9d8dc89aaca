import Msm8660.Gps.NmeaLengths
import Msm8660.Lib.Fields

/-!
# The fields of the position sentences

The four sentences of a position report, found by their names and split at the commas. All
four are sent (`generatePos_sentences`), and each begins with its pieces, so its fields are
known up to the last piece (`nmeaFields_gpvtg`, `nmeaFields_gprmc`, `nmeaFields_gpgga`).
-/

set_option autoImplicit false

namespace Msm8660.Gps

/-! ## Fields and names -/

/-- A sentence split at the commas. -/
def nmeaFields (sentence : List UInt8) : List (List UInt8) := sentence.splitOn 44

/-- The first sentence with this name. -/
def sentenceNamed (name : List UInt8) (sentences : List (List UInt8)) : Option (List UInt8) :=
  sentences.find? fun sentence => (nmeaFields sentence).head? = some name

theorem nmeaFields_append {field : List UInt8} (clean : 44 ∉ field) (rest : List UInt8) :
    nmeaFields (field ++ 44 :: rest) = field :: nmeaFields rest :=
  List.splitOn_append_cons_self_of_not_mem clean rest

/-- A sentence begins with its pieces. -/
theorem prefix_of_checkedSentence {pieces : List (List UInt8)} {last sentence : List UInt8}
    (sent : checkedSentence pieces last = some sentence) : pieces.flatten <+: sentence := by
  rw [(checkedSentence_eq_some sent).2, locEngNmeaPutChecksum, printLast, List.append_assoc,
    List.append_assoc]
  exact List.prefix_append _ _

/-- The name is what is in front of the first comma. -/
theorem head?_nmeaFields {name piece sentence : List UInt8} {pieces : List (List UInt8)}
    {last : List UInt8} (clean : 44 ∉ name) (begins : name ++ [44] <+: piece)
    (sent : checkedSentence (piece :: pieces) last = some sentence) :
    (nmeaFields sentence).head? = some name := by
  have whole : name ++ [44] <+: sentence := begins.trans
    ((List.prefix_append piece pieces.flatten).trans (prefix_of_checkedSentence sent))
  obtain ⟨rest, rfl⟩ := whole
  rw [List.append_assoc, List.singleton_append, nmeaFields_append clean, List.head?_cons]

/-! ## Numbers without commas -/

theorem comma_notMem_formatInt (width : ℕ) (n : ℤ) : 44 ∉ formatInt width n := fun member =>
  (isDigit_of_mem_formatInt member).elim (by decide) (by decide)

theorem comma_notMem_formatFixed (width precision : ℕ) {q : ℚ} (nonneg : 0 ≤ q) :
    44 ∉ formatFixed width precision q := by
  obtain ⟨zeros, text⟩ := formatFixed_of_nonneg width precision nonneg
  rw [text, List.mem_append, List.mem_cons, not_or, not_or]
  exact ⟨notMem_padZero (by decide), by decide, notMem_padZero (by decide)⟩

theorem comma_notMem_append {first second : List UInt8} (clean : 44 ∉ first)
    (clean' : 44 ∉ second) : 44 ∉ first ++ second := fun member =>
  (List.mem_append.mp member).elim clean clean'

theorem comma_notMem_clock (location : GpsLocation) : 44 ∉ clock location :=
  comma_notMem_append
    (comma_notMem_append (comma_notMem_formatInt _ _) (comma_notMem_formatInt _ _))
    (comma_notMem_formatInt _ _)

/-! ## Latitude and longitude -/

/-- Whole degrees and what is left in minutes. -/
def angleText (width : ℕ) (angle : ℚ) : List UInt8 :=
  formatInt width (floorByte angle) ++ formatFixed 9 6 (fmodSixty (angle * 60))

theorem comma_notMem_angleText (width : ℕ) {angle : ℚ} (nonneg : 0 ≤ angle) :
    44 ∉ angleText width angle :=
  comma_notMem_append (comma_notMem_formatInt _ _)
    (comma_notMem_formatFixed _ _ (fmodSixty_nonneg nonneg))

/-- The hemisphere of a latitude. -/
def latHemisphere (location : GpsLocation) : List UInt8 :=
  if 0 < location.latitude then ascii "N" else ascii "S"

/-- The hemisphere of a longitude. -/
def lonHemisphere (location : GpsLocation) : List UInt8 :=
  if location.longitude < 0 then ascii "W" else ascii "E"

/-- Latitude and longitude are four fields, with a comma behind each. -/
theorem latLong_eq {location : GpsLocation}
    (hasLatLong : HasFlag location.flags gpsLocationHasLatLong) :
    latLong location =
      angleText 2 |location.latitude| ++ 44 :: (latHemisphere location ++ 44 ::
        (angleText 3 |location.longitude| ++ 44 :: (lonHemisphere location ++ [44]))) := by
  have comma : ascii "," = [44] := rfl
  rw [latLong, if_pos hasLatLong]
  dsimp only
  rw [northing_eq_abs, easting_eq_abs, comma, latHemisphere, lonHemisphere, angleText, angleText]
  simp only [List.append_assoc, List.cons_append, List.nil_append]

theorem nmeaFields_latLong {location : GpsLocation}
    (hasLatLong : HasFlag location.flags gpsLocationHasLatLong) (rest : List UInt8) :
    nmeaFields (latLong location ++ rest) =
      angleText 2 |location.latitude| :: latHemisphere location ::
        angleText 3 |location.longitude| :: lonHemisphere location :: nmeaFields rest := by
  have north : 44 ∉ latHemisphere location := by
    unfold latHemisphere
    split <;> decide
  have east : 44 ∉ lonHemisphere location := by
    unfold lonHemisphere
    split <;> decide
  rw [latLong_eq hasLatLong]
  simp only [List.append_assoc, List.cons_append, List.nil_append]
  rw [nmeaFields_append (comma_notMem_angleText 2 (abs_nonneg _)), nmeaFields_append north,
    nmeaFields_append (comma_notMem_angleText 3 (abs_nonneg _)), nmeaFields_append east]

/-! ## Sentences -/

section Sentences

variable {cache : NmeaCache} {location : GpsLocation} {locationExtended : GpsLocationExtended}
  {standalone : Bool} {used : List ℕ} {cached : Option Dop} {sentence : List UInt8}

/-- **All four sentences are sent.** -/
theorem generatePos_sentences (standalone : Bool)
    (floats : AreFloats cache locationExtended location) : ∃ gsa vtg rmc gga,
      gpgsa (svUsedList cache.svUsedMask) cache.dop locationExtended = some gsa ∧
      gpvtg standalone location = some vtg ∧
      gprmc standalone location locationExtended = some rmc ∧
      gpgga standalone (svUsedList cache.svUsedMask) cache.dop location locationExtended =
        some gga ∧
      (locEngNmeaGeneratePos standalone cache location locationExtended).2 =
        [gsa, vtg, rmc, gga] := by
  obtain ⟨gsa, sentGsa, -⟩ := gpgsa_room floats
  obtain ⟨vtg, sentVtg, -⟩ := gpvtg_room standalone floats
  obtain ⟨rmc, sentRmc, -⟩ := gprmc_room standalone floats
  obtain ⟨gga, sentGga, -⟩ := gpgga_room standalone floats
  refine ⟨_, _, _, _, sentGsa, sentVtg, sentRmc, sentGga, ?_⟩
  rw [locEngNmeaGeneratePos]
  dsimp only
  rw [posSentences, sentGsa, sentVtg, sentRmc, sentGga]
  rfl

theorem head?_gpgsa (sent : gpgsa used cached locationExtended = some sentence) :
    (nmeaFields sentence).head? = some (ascii "$GPGSA") := by
  refine head?_nmeaFields (by decide) ?_ sent
  exact ⟨ascii "A," ++ ((if used.length = 0 then ascii "1" else
    if used.length ≤ 3 then ascii "2" else ascii "3") ++ ascii ","), by simp [ascii]⟩

theorem head?_gpvtg (sent : gpvtg standalone location = some sentence) :
    (nmeaFields sentence).head? = some (ascii "$GPVTG") := by
  refine head?_nmeaFields (by decide) ?_ sent
  split
  · simp only [List.append_assoc]
    exact List.prefix_append (ascii "$GPVTG,") _
  · exact List.prefix_append (ascii "$GPVTG,") (ascii ",T,,M,")

theorem head?_gprmc (sent : gprmc standalone location locationExtended = some sentence) :
    (nmeaFields sentence).head? = some (ascii "$GPRMC") := by
  refine head?_nmeaFields (by decide) ?_ sent
  rw [List.append_assoc]
  exact List.prefix_append (ascii "$GPRMC,") _

theorem head?_gpgga
    (sent : gpgga standalone used cached location locationExtended = some sentence) :
    (nmeaFields sentence).head? = some (ascii "$GPGGA") := by
  refine head?_nmeaFields (by decide) ?_ sent
  rw [List.append_assoc]
  exact List.prefix_append (ascii "$GPGGA,") _

/-- The sentences of a report are found by their names. -/
theorem sentenceNamed_pos (standalone : Bool)
    (floats : AreFloats cache locationExtended location) {sentences : List (List UInt8)}
    (sent : (PrintedReport.pos location).sentences standalone cache locationExtended =
      sentences) : ∃ vtg rmc gga,
      (gpvtg standalone location = some vtg ∧
        sentenceNamed (ascii "$GPVTG") sentences = some vtg) ∧
      (gprmc standalone location locationExtended = some rmc ∧
        sentenceNamed (ascii "$GPRMC") sentences = some rmc) ∧
      (gpgga standalone (svUsedList cache.svUsedMask) cache.dop location locationExtended =
          some gga ∧
        sentenceNamed (ascii "$GPGGA") sentences = some gga) := by
  obtain ⟨gsa, vtg, rmc, gga, sentGsa, sentVtg, sentRmc, sentGga, all⟩ :=
    generatePos_sentences standalone floats
  obtain rfl : [gsa, vtg, rmc, gga] = sentences := all.symm.trans sent
  refine ⟨vtg, rmc, gga, ⟨sentVtg, ?_⟩, ⟨sentRmc, ?_⟩, ⟨sentGga, ?_⟩⟩
  all_goals
    simp only [sentenceNamed, List.find?_cons, head?_gpgsa sentGsa, head?_gpvtg sentVtg,
      head?_gprmc sentRmc, head?_gpgga sentGga]
    rfl

/-- The fields of `$GPVTG` up to the one behind the magnetic track. -/
theorem nmeaFields_gpvtg (sent : gpvtg standalone location = some sentence)
    (hasBearing : HasFlag location.flags gpsLocationHasBearing) (nonneg : 0 ≤ location.bearing) :
    ∃ rest, nmeaFields sentence = ascii "$GPVTG" :: formatFixed 0 1 location.bearing ::
      ascii "T" :: formatFixed 0 1 location.bearing :: ascii "M" :: rest := by
  obtain ⟨behind, rfl⟩ := prefix_of_checkedSentence sent
  have begins : (ascii "$GPVTG," : List UInt8) = ascii "$GPVTG" ++ [44] := rfl
  have trueTrack : (ascii ",T," : List UInt8) = 44 :: (ascii "T" ++ [44]) := rfl
  have magnetic : (ascii ",M," : List UInt8) = 44 :: (ascii "M" ++ [44]) := rfl
  have clean := comma_notMem_formatFixed 0 1 nonneg
  rw [if_pos hasBearing, begins, trueTrack, magnetic]
  simp only [List.flatten_cons, List.append_assoc, List.cons_append, List.nil_append]
  rw [nmeaFields_append (by decide), nmeaFields_append clean, nmeaFields_append (by decide),
    nmeaFields_append clean, nmeaFields_append (by decide)]
  exact ⟨_, rfl⟩

/-- The fields of `$GPRMC`: the position is behind the name, the time and the status. -/
theorem nmeaFields_gprmc (sent : gprmc standalone location locationExtended = some sentence)
    (hasLatLong : HasFlag location.flags gpsLocationHasLatLong) :
    ∃ rest, nmeaFields sentence = ascii "$GPRMC" :: clock location :: ascii "A" ::
      angleText 2 |location.latitude| :: latHemisphere location ::
        angleText 3 |location.longitude| :: lonHemisphere location :: rest := by
  obtain ⟨behind, rfl⟩ := prefix_of_checkedSentence sent
  have begins : (ascii "$GPRMC," : List UInt8) = ascii "$GPRMC" ++ [44] := rfl
  have active : (ascii ",A," : List UInt8) = 44 :: (ascii "A" ++ [44]) := rfl
  rw [begins, active]
  simp only [List.flatten_cons, List.append_assoc, List.cons_append, List.nil_append]
  rw [nmeaFields_append (by decide), nmeaFields_append (comma_notMem_clock location),
    nmeaFields_append (by decide), nmeaFields_latLong hasLatLong]
  exact ⟨_, rfl⟩

/-- The fields of `$GPGGA`: the position is behind the name and the time. -/
theorem nmeaFields_gpgga
    (sent : gpgga standalone used cached location locationExtended = some sentence)
    (hasLatLong : HasFlag location.flags gpsLocationHasLatLong) :
    ∃ rest, nmeaFields sentence = ascii "$GPGGA" :: clock location ::
      angleText 2 |location.latitude| :: latHemisphere location ::
        angleText 3 |location.longitude| :: lonHemisphere location :: rest := by
  obtain ⟨behind, rfl⟩ := prefix_of_checkedSentence sent
  have begins : (ascii "$GPGGA," : List UInt8) = ascii "$GPGGA" ++ [44] := rfl
  have comma : ascii "," = [44] := rfl
  rw [begins, comma]
  simp only [List.flatten_cons, List.append_assoc, List.cons_append, List.nil_append]
  rw [nmeaFields_append (by decide), nmeaFields_append (comma_notMem_clock location),
    nmeaFields_latLong hasLatLong]
  exact ⟨_, rfl⟩

end Sentences

end Msm8660.Gps
