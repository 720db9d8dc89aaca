import Msm8660.Gps.LocEngThread
import Msm8660.Lib.Printf

/-!
# The generated NMEA sentences

`loc_eng_nmea_generate_pos` and `loc_eng_nmea_generate_sv`, with the sentences that they
send and what they keep in the cache. A sentence that does not fit its buffer ends the
function where the length is looked at; what was sent before has been sent.

A `double` or a `float` is a rational number, so there is no negative zero. What
`loc_eng_nmea_put_checksum` writes behind the end of a full buffer is taken to do no harm.
-/

set_option autoImplicit false

namespace Msm8660.Gps

def gpsLocationHasLatLong : BitVec 16 := 0x0001#16
def gpsLocationHasAltitude : BitVec 16 := 0x0002#16
def gpsLocationHasSpeed : BitVec 16 := 0x0004#16
def gpsLocationHasBearing : BitVec 16 := 0x0008#16
def gpsLocationExtendedHasDop : BitVec 16 := 0x0001#16
def gpsLocationExtendedHasAltitudeMeanSeaLevel : BitVec 16 := 0x0002#16
def gpsLocationExtendedHasMagDev : BitVec 16 := 0x0004#16

/-- `NMEA_SENTENCE_MAX_LENGTH`. -/
def nmeaSentenceMaxLength : ℕ := 200

/-- Whether one of the flags is set. -/
def HasFlag (flags flag : BitVec 16) : Prop := flags &&& flag ≠ 0

instance (flags flag : BitVec 16) : Decidable (HasFlag flags flag) :=
  inferInstanceAs (Decidable (_ ≠ _))

/-- `pdop`, `hdop` and `vdop`. -/
structure Dop where
  pdop : ℚ
  hdop : ℚ
  vdop : ℚ
deriving DecidableEq

/-! ## Dates -/

/-- The members of `struct tm` that are printed. -/
structure Tm where
  tmYear : ℤ
  tmMon : ℤ
  tmMday : ℤ
  tmHour : ℤ
  tmMin : ℤ
  tmSec : ℤ
deriving DecidableEq

/-- `gmtime`. Years are counted from March on, in eras of 400 years. -/
def gmtime (time : ℤ) : Tm :=
  let days := time / 86400 + 719468
  let seconds := time % 86400
  let era := days / 146097
  let dayOfEra := days % 146097
  let yearOfEra := (dayOfEra - dayOfEra / 1460 + dayOfEra / 36524 - dayOfEra / 146096) / 365
  let dayOfYear := dayOfEra - (365 * yearOfEra + yearOfEra / 4 - yearOfEra / 100)
  let month := (5 * dayOfYear + 2) / 153
  { tmYear := yearOfEra + era * 400 + (if month < 10 then 0 else 1) - 1900
    tmMon := if month < 10 then month + 2 else month - 10
    tmMday := dayOfYear - (153 * month + 2) / 5 + 1
    tmHour := seconds / 3600
    tmMin := seconds / 60 % 60
    tmSec := seconds % 60 }

example : gmtime 951782400 = ⟨100, 1, 29, 0, 0, 0⟩ := by decide

/-- `utcTime`: the conversion to a `time_t` of 32 bits. -/
def utcTime (location : GpsLocation) : Tm :=
  gmtime ((location.timestamp.tdiv 1000).bmod 4294967296)

/-! ## Parts of sentences -/

/-- `loc_eng_nmea_put_checksum`. -/
def locEngNmeaPutChecksum (sentence : List UInt8) : List UInt8 :=
  sentence ++ 42 :: formatHex ((sentence.drop 1).foldl (· ^^^ ·) 0) ++ [13, 10]

/-- The suffix has five characters. -/
@[simp] theorem length_locEngNmeaPutChecksum (sentence : List UInt8) :
    (locEngNmeaPutChecksum sentence).length = sentence.length + 5 := by
  simp [locEngNmeaPutChecksum, formatHex]

/-- A sentence of pieces, with a look at the length of each but the last. -/
def checkedSentence (pieces : List (List UInt8)) (last : List UInt8) : Option (List UInt8) :=
  (printChecked nmeaSentenceMaxLength pieces).map fun text =>
    locEngNmeaPutChecksum (printLast nmeaSentenceMaxLength text last)

/-- **A sentence that is sent contains all its pieces**, the last one as far as there is room
for it. -/
theorem checkedSentence_eq_some {pieces : List (List UInt8)} {last sentence : List UInt8}
    (sent : checkedSentence pieces last = some sentence) :
    pieces.flatten.length < nmeaSentenceMaxLength ∧
      sentence =
        locEngNmeaPutChecksum (printLast nmeaSentenceMaxLength pieces.flatten last) := by
  obtain ⟨text, printed, rfl⟩ := Option.map_eq_some_iff.mp sent
  obtain ⟨rfl, fits⟩ := printChecked_eq_some (by decide) printed
  exact ⟨fits, rfl⟩

/-- A sentence whose pieces leave room for the byte that ends them is sent. -/
theorem checkedSentence_of_fits {pieces : List (List UInt8)} (last : List UInt8)
    (fits : pieces.flatten.length < nmeaSentenceMaxLength) :
    checkedSentence pieces last =
      some (locEngNmeaPutChecksum (printLast nmeaSentenceMaxLength pieces.flatten last)) := by
  rw [checkedSentence, printChecked_of_fits fits, Option.map_some]

/-- What is sent up to the sentence that does not fit. -/
def sentUpToError (sentences : List (Option (List UInt8))) : List (List UInt8) :=
  (sentences.takeWhile Option.isSome).reduceOption

/-- `(uint8_t)floor`. -/
def floorByte (q : ℚ) : ℤ := q.floor % 256

/-- `fmod(_, 60.0)`, which has the sign of its argument. -/
def fmodSixty (q : ℚ) : ℚ :=
  if q < 0 then -(-q - 60 * (-q / 60).floor) else q - 60 * (q / 60).floor

/-- A cast to `int`. -/
def truncate (q : ℚ) : ℤ := if q < 0 then -(-q).floor else q.floor

/-- Latitude and longitude, as they are in `$GPRMC` and in `$GPGGA`. -/
def latLong (location : GpsLocation) : List UInt8 :=
  if HasFlag location.flags gpsLocationHasLatLong then
    let latitude := if 0 < location.latitude then location.latitude else location.latitude * -1
    let latHemisphere := if 0 < location.latitude then ascii "N" else ascii "S"
    let longitude := if location.longitude < 0 then location.longitude * -1 else location.longitude
    let lonHemisphere := if location.longitude < 0 then ascii "W" else ascii "E"
    formatInt 2 (floorByte latitude) ++ formatFixed 9 6 (fmodSixty (latitude * 60)) ++
      ascii "," ++ latHemisphere ++ ascii "," ++ formatInt 3 (floorByte longitude) ++
      formatFixed 9 6 (fmodSixty (longitude * 60)) ++ ascii "," ++ lonHemisphere ++ ascii ","
  else ascii ",,,,"

/-- The time, as it is in `$GPRMC` and in `$GPGGA`. -/
def clock (location : GpsLocation) : List UInt8 :=
  let tm := utcTime location
  formatInt 2 tm.tmHour ++ formatInt 2 tm.tmMin ++ formatInt 2 tm.tmSec

/-- The last field of `$GPVTG` and of `$GPRMC`; `standalone` is whether the position mode
is `LOC_POSITION_MODE_STANDALONE`. -/
def modeIndicator (standalone : Bool) (location : GpsLocation) : List UInt8 :=
  if ¬ HasFlag location.flags gpsLocationHasLatLong then ascii "N"
  else if standalone then ascii "A" else ascii "D"

/-- The satellites of a mask: `svUsedList` up to `svUsedCount`. -/
def svUsedList (mask : BitVec 32) : List ℕ :=
  ((List.range 32).filter fun bit => mask.getLsbD bit).map (· + 1)

/-- The cached values, if they may be used. -/
def NmeaCache.dop (cache : NmeaCache) : Option Dop :=
  if 0 < cache.pdop ∧ 0 < cache.hdop ∧ 0 < cache.vdop then
    some ⟨cache.pdop, cache.hdop, cache.vdop⟩
  else none

/-- The values that a sentence contains: those of the report, or cached ones. -/
def dopUsed (cached : Option Dop) (locationExtended : GpsLocationExtended) : Option Dop :=
  if HasFlag locationExtended.flags gpsLocationExtendedHasDop then
    some ⟨locationExtended.pdop, locationExtended.hdop, locationExtended.vdop⟩
  else cached

/-! ## `loc_eng_nmea_generate_pos` -/

/-- `$GPGSA`. -/
def gpgsa (used : List ℕ) (cached : Option Dop) (locationExtended : GpsLocationExtended) :
    Option (List UInt8) :=
  let fixType := if used.length = 0 then ascii "1" else if used.length ≤ 3 then ascii "2"
    else ascii "3"
  checkedSentence
    ((ascii "$GPGSA,A," ++ fixType ++ ascii ",") ::
      (List.range 12).map fun (i : ℕ) => match used[i]? with
        | some sv => formatInt 2 sv ++ ascii ","
        | none => ascii ",")
    (match dopUsed cached locationExtended with
      | some dop => formatFixed 0 1 dop.pdop ++ ascii "," ++ formatFixed 0 1 dop.hdop ++
          ascii "," ++ formatFixed 0 1 dop.vdop
      | none => ascii ",,")

/-- `$GPVTG`. The corrected `magTrack` is a variable of an inner block that nobody reads. -/
def gpvtg (standalone : Bool) (location : GpsLocation) : Option (List UInt8) :=
  let magTrack := location.bearing
  checkedSentence
    [if HasFlag location.flags gpsLocationHasBearing then
        ascii "$GPVTG," ++ formatFixed 0 1 location.bearing ++ ascii ",T," ++
          formatFixed 0 1 magTrack ++ ascii ",M,"
      else ascii "$GPVTG,,T,,M,",
      if HasFlag location.flags gpsLocationHasSpeed then
        formatFixed 0 1 (location.speed * (3600 / 1852)) ++ ascii ",N," ++
          formatFixed 0 1 (location.speed * (36 / 10)) ++ ascii ",K,"
      else ascii ",N,,K,"]
    (modeIndicator standalone location)

/-- `$GPRMC`. -/
def gprmc (standalone : Bool) (location : GpsLocation) (locationExtended : GpsLocationExtended) :
    Option (List UInt8) :=
  let tm := utcTime location
  let magneticVariation := locationExtended.magneticDeviation
  checkedSentence
    [ascii "$GPRMC," ++ clock location ++ ascii ",A,",
      latLong location,
      if HasFlag location.flags gpsLocationHasSpeed then
        formatFixed 0 1 (location.speed * (3600 / 1852)) ++ ascii ","
      else ascii ",",
      if HasFlag location.flags gpsLocationHasBearing then
        formatFixed 0 1 location.bearing ++ ascii ","
      else ascii ",",
      formatDigits 2 tm.tmMday ++ formatDigits 2 (tm.tmMon + 1) ++
        formatDigits 2 (tm.tmYear.tmod 100) ++ ascii ",",
      if HasFlag locationExtended.flags gpsLocationExtendedHasMagDev then
        if magneticVariation < 0 then
          formatFixed 0 1 (magneticVariation * -1) ++ ascii ",W,"
        else formatFixed 0 1 magneticVariation ++ ascii ",E,"
      else ascii ",,"]
    (modeIndicator standalone location)

/-- `$GPGGA`. -/
def gpgga (standalone : Bool) (used : List ℕ) (cached : Option Dop) (location : GpsLocation)
    (locationExtended : GpsLocationExtended) : Option (List UInt8) :=
  let gpsQuality := if ¬ HasFlag location.flags gpsLocationHasLatLong then ascii "0"
    else if standalone then ascii "1" else ascii "2"
  checkedSentence
    [ascii "$GPGGA," ++ clock location ++ ascii ",",
      latLong location,
      gpsQuality ++ ascii "," ++ formatInt 2 used.length ++ ascii "," ++
        match dopUsed cached locationExtended with
        | some dop => formatFixed 0 1 dop.hdop ++ ascii ","
        | none => ascii ",",
      if HasFlag locationExtended.flags gpsLocationExtendedHasAltitudeMeanSeaLevel then
        formatFixed 0 1 locationExtended.altitudeMeanSeaLevel ++ ascii ",M,"
      else ascii ",,"]
    (if HasFlag location.flags gpsLocationHasAltitude ∧
        HasFlag locationExtended.flags gpsLocationExtendedHasAltitudeMeanSeaLevel then
      formatFixed 0 1 (location.altitude - locationExtended.altitudeMeanSeaLevel) ++ ascii ",M,,"
    else ascii ",,,")

/-- The sentences of a position report, in their order. -/
def posSentences (standalone : Bool) (used : List ℕ) (cached : Option Dop)
    (location : GpsLocation) (locationExtended : GpsLocationExtended) :
    List (Option (List UInt8)) :=
  [gpgsa used cached locationExtended, gpvtg standalone location,
    gprmc standalone location locationExtended,
    gpgga standalone used cached location locationExtended]

/-- `loc_eng_nmea_generate_pos`: the mask is cleared first, the rest of the cache last. -/
def locEngNmeaGeneratePos (standalone : Bool) (cache : NmeaCache) (location : GpsLocation)
    (locationExtended : GpsLocationExtended) : NmeaCache × List (List UInt8) :=
  let sentences := posSentences standalone (svUsedList cache.svUsedMask) cache.dop location
    locationExtended
  (if sentences.all Option.isSome then { svUsedMask := 0, pdop := 0, hdop := 0, vdop := 0 }
    else { cache with svUsedMask := 0 },
    sentUpToError sentences)

/-! ## `loc_eng_nmea_generate_sv` -/

/-- What is printed of one satellite: its place, and its `snr` if there is any. -/
def gpsvEntry (info : GpsSvInfo) : List (List UInt8) :=
  (ascii "," ++ formatInt 2 info.prn ++ ascii "," ++
      formatInt 2 (truncate (1 / 2 + info.elevation)) ++ ascii "," ++
      formatInt 3 (truncate (1 / 2 + info.azimuth)) ++ ascii ",") ::
    if 0 < info.snr then [formatInt 2 (truncate (1 / 2 + info.snr))] else []

/-- The `$GPGSV` sentence with so many before it, of the satellites that are next, four at
most. -/
def gpgsv (svStatus : GpsSvStatus) (sentenceCount before : ℕ) : Option (List UInt8) :=
  let svCount := svStatus.numSvs.toNat
  checkedSentence
    ((ascii "$GPGSV," ++ formatInt 0 sentenceCount ++ ascii "," ++ formatInt 0 (before + 1) ++
        ascii "," ++ formatInt 2 svCount) ::
      ((List.range (min 4 (svCount - 4 * before))).flatMap fun i =>
        gpsvEntry (svStatus.svList.getD (4 * before + i) ⟨0, 0, 0, 0⟩)))
    []

/-- The sentences of a satellite report, in their order. -/
def svSentences (svStatus : GpsSvStatus) : List (Option (List UInt8)) :=
  if svStatus.numSvs ≤ 0 then [some (locEngNmeaPutChecksum (ascii "$GPGSV,1,1,0,"))]
  else
    let sentenceCount := svStatus.numSvs.toNat / 4 + if svStatus.numSvs.toNat % 4 ≠ 0 then 1 else 0
    (List.range sentenceCount).map (gpgsv svStatus sentenceCount)

/-- The blank sentences, "no sv used, so there will be no position report". -/
def blankSentences : List (List UInt8) :=
  [locEngNmeaPutChecksum (ascii "$GPGSA,A,1,,,,,,,,,,,,,,,"),
    locEngNmeaPutChecksum (ascii "$GPVTG,,T,,M,,N,,K,N"),
    locEngNmeaPutChecksum (ascii "$GPRMC,,V,,,,,,,,,,N"),
    locEngNmeaPutChecksum (ascii "$GPGGA,,,,,,0,,,,,,,,")]

/-- `loc_eng_nmea_generate_sv`. -/
def locEngNmeaGenerateSv (cache : NmeaCache) (svStatus : GpsSvStatus)
    (locationExtended : GpsLocationExtended) : NmeaCache × List (List UInt8) :=
  let sentences := svSentences svStatus
  if sentences.all Option.isSome then
    if svStatus.usedInFixMask = 0 then (cache, sentUpToError sentences ++ blankSentences)
    else
      (if HasFlag locationExtended.flags gpsLocationExtendedHasDop then
        { svUsedMask := svStatus.usedInFixMask
          pdop := locationExtended.pdop
          hdop := locationExtended.hdop
          vdop := locationExtended.vdop }
        else { svUsedMask := svStatus.usedInFixMask, pdop := 0, hdop := 0, vdop := 0 },
        sentUpToError sentences)
  else (cache, sentUpToError sentences)

/-- The functions of `loc_eng_nmea.cpp`. -/
def locEngNmea (standalone : Bool) : NmeaGenerator where
  generatePos := locEngNmeaGeneratePos standalone
  generateSv := locEngNmeaGenerateSv

end Msm8660.Gps
