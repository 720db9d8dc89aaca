import Msm8660.Gps.PrintedCoordinates
import Msm8660.Lib.Calendar

/-!
# The time that is printed, read back

`$GPRMC` prints the time of day and the date of a report, `$GPGGA` the time of day only. The
date has two digits for the year, which a reader takes for one of 1970 to 2069. What is read is
the second of the report as long as `(int32_t)` of its seconds is that many seconds; before 1970
and from 19 January 2038 on it is another one (`timeDecodes_iff`).
-/

set_option autoImplicit false

namespace Msm8660.Gps

/-! ## Reading -/

/-- The seconds of the day that `hhmmss` tells. -/
def readClock (field : List UInt8) : Option ℤ := do
  let hour ← readNat (field.take 2)
  let minute ← readNat ((field.drop 2).take 2)
  let second ← readNat (field.drop 4)
  return 3600 * hour + 60 * minute + second

/-- The year that two digits stand for. -/
def fullYear (digits : ℤ) : ℤ := if digits < 70 then 2000 + digits else 1900 + digits

/-- The number of the day that `ddmmyy` tells. -/
def readDate (field : List UInt8) : Option ℤ := do
  let day ← readNat (field.take 2)
  let month ← readNat ((field.drop 2).take 2)
  let year ← readNat (field.drop 4)
  return dayNumber (fullYear year) (month - 1) day

/-- The second that time and date tell. -/
def readTime (clockField dateField : List UInt8) : Option ℤ := do
  let seconds ← readClock clockField
  let days ← readDate dateField
  return 86400 * days + seconds

/-- The date is the tenth field of `$GPRMC`, and both sentences have the time in the second. -/
def TimeDecodes (sentences : List (List UInt8)) (second : ℤ) : Prop :=
  ∃ rmc gga, sentenceNamed (ascii "$GPRMC") sentences = some rmc ∧
    sentenceNamed (ascii "$GPGGA") sentences = some gga ∧
    readTime ((nmeaFields rmc).getD 1 []) ((nmeaFields rmc).getD 9 []) = some second ∧
    readClock ((nmeaFields gga).getD 1 []) = some (second % 86400)

/-! ## Two digits -/

/-- A number of two digits is printed as two digits, in both ways. -/
theorem twoDigits {n : ℤ} (nonneg : 0 ≤ n) (below : n < 100) :
    formatDigits 2 n = formatInt 2 n ∧ (formatInt 2 n).length = 2 ∧
      readNat (formatInt 2 n) = some n.toNat := by
  have notNeg : ¬ n < 0 := not_lt.mpr nonneg
  have text : formatInt 2 n = padZero 2 (decimal n.natAbs) := by rw [formatInt, if_neg notNeg]
  have same : n.natAbs = n.toNat := by omega
  refine ⟨?_, ?_, ?_⟩
  · rw [formatDigits, if_neg notNeg, text]
  · rw [length_formatInt, intWidth_eq (by decide) nonneg (by omega)]
  · rw [text, readNat_padZero, same]

/-- Three numbers of two digits are read one by one. -/
theorem readDigits {first second third : ℤ} (bounds : 0 ≤ first ∧ first < 100)
    (bounds' : 0 ≤ second ∧ second < 100) (bounds'' : 0 ≤ third ∧ third < 100) :
    let field := formatInt 2 first ++ formatInt 2 second ++ formatInt 2 third
    readNat (field.take 2) = some first.toNat ∧
      readNat ((field.drop 2).take 2) = some second.toNat ∧
      readNat (field.drop 4) = some third.toNat := by
  obtain ⟨-, width, read⟩ := twoDigits bounds.1 bounds.2
  obtain ⟨-, width', read'⟩ := twoDigits bounds'.1 bounds'.2
  obtain ⟨-, -, read''⟩ := twoDigits bounds''.1 bounds''.2
  have both : (formatInt 2 first ++ formatInt 2 second).length = 4 := by
    rw [List.length_append, width, width']
  refine ⟨?_, ?_, ?_⟩
  · rw [List.append_assoc, List.take_left' width, read]
  · rw [List.append_assoc, List.drop_left' width, List.take_left' width', read']
  · rw [List.drop_left' both, read'']

/-! ## The date of a second -/

/-- The date that is printed is the date of the day. -/
theorem gmtime_date (time : ℤ) :
    (gmtime time).tmYear + 1900 = (civilFromDays (time / 86400)).year ∧
      (gmtime time).tmMon = (civilFromDays (time / 86400)).month ∧
      (gmtime time).tmMday = (civilFromDays (time / 86400)).day :=
  ⟨Int.sub_add_cancel _ _, rfl, rfl⟩

/-- The time that is printed is the time of the day. -/
theorem gmtime_clock (time : ℤ) :
    (0 ≤ (gmtime time).tmHour ∧ (gmtime time).tmHour < 100) ∧
      (0 ≤ (gmtime time).tmMin ∧ (gmtime time).tmMin < 100) ∧
      (0 ≤ (gmtime time).tmSec ∧ (gmtime time).tmSec < 100) ∧
      3600 * (gmtime time).tmHour + 60 * (gmtime time).tmMin + (gmtime time).tmSec =
        time % 86400 := by
  simp only [gmtime]
  omega

/-- The year of a day, as far as 32 bits reach. -/
theorem year_bounds {days : ℤ} (low : -24856 ≤ days) (high : days ≤ 24855) :
    1901 ≤ (civilFromDays days).year ∧ (civilFromDays days).year ≤ 2038 ∧
      (0 ≤ days ↔ 1970 ≤ (civilFromDays days).year) := by
  have number := dayNumber_civilFromDays days
  obtain ⟨lowMonth, highMonth, lowDay, highDay⟩ := civilFromDays_range days
  obtain ⟨first, last⟩ := dayNumber_bounds (civilFromDays days).year lowMonth highMonth lowDay
    highDay
  rw [number] at first last
  generalize (civilFromDays days).year = year at first last ⊢
  have early (limit : ℤ) (before : year < limit) : days < firstOfYear limit :=
    last.trans_le (firstOfYear_mono before)
  have late (limit : ℤ) (after : limit ≤ year) : firstOfYear limit ≤ days :=
    (firstOfYear_mono after).trans first
  have value1901 : firstOfYear 1901 = -25202 := by decide
  have value1970 : firstOfYear 1970 = 0 := by decide
  have value2039 : firstOfYear 2039 = 25202 := by decide
  refine ⟨?_, ?_, ?_⟩
  · by_contra before
    have bound := early 1901 (by omega)
    omega
  · by_contra after
    have bound := late 2039 (by omega)
    omega
  · constructor
    · intro nonneg
      by_contra before
      have bound := early 1970 (by omega)
      omega
    · intro after
      have bound := late 1970 after
      omega

/-- A century later, where the reader takes a year before 1970 to be. -/
theorem dayNumber_nextCentury {year : ℤ} (low : 1901 ≤ year) (high : year < 1970)
    (month day : ℤ) : dayNumber (year + 100) month day = dayNumber year month day + 36525 := by
  have leap : IsLeap (year + 100) ↔ IsLeap year := by
    unfold IsLeap
    omega
  simp only [dayNumber, leap]
  unfold firstOfYear
  omega

/-- The year that is read of the two last digits. -/
theorem fullYear_tmod {year : ℤ} (low : 1901 ≤ year) (high : year ≤ 2038) :
    (0 ≤ (year - 1900).tmod 100 ∧ (year - 1900).tmod 100 < 100) ∧
      fullYear ((year - 1900).tmod 100) = if year < 1970 then year + 100 else year := by
  have remainder : (year - 1900).tmod 100 = (year - 1900) % 100 :=
    Int.tmod_eq_emod_of_nonneg (by omega)
  rw [remainder, fullYear]
  refine ⟨by omega, ?_⟩
  split <;> split <;> omega

/-! ## The fields -/

theorem comma_notMem_fixed (width precision : ℕ) (q : ℚ) :
    44 ∉ formatFixed width precision q := by
  rcases le_or_gt 0 q with nonneg | negative
  · exact comma_notMem_formatFixed width precision nonneg
  · have digits (size n : ℕ) : (44 : UInt8) ∉ padZero size (decimal n) :=
      notMem_padZero (by decide)
    have whole (n : ℕ) : (44 : UInt8) ∉ decimal n := fun member =>
      absurd (isDigit_of_mem_decimal member) (by decide)
    unfold formatFixed
    rw [if_pos negative]
    simp [padZero, whole]

theorem nmeaFields_empty (rest : List UInt8) : nmeaFields (44 :: rest) = [] :: nmeaFields rest :=
  nmeaFields_append List.not_mem_nil rest

/-- A number that is printed or left out is one field. -/
theorem optionalField (present : Prop) [Decidable present] (q : ℚ) : ∃ text, 44 ∉ text ∧
    (if present then formatFixed 0 1 q ++ ascii "," else ascii ",") = text ++ [44] := by
  split
  · exact ⟨formatFixed 0 1 q, comma_notMem_fixed 0 1 q, rfl⟩
  · exact ⟨[], List.not_mem_nil, rfl⟩

/-- Latitude and longitude are four fields, also where there are none. -/
theorem nmeaFields_place (location : GpsLocation) (rest : List UInt8) :
    ∃ place : List (List UInt8), place.length = 4 ∧
      nmeaFields (latLong location ++ rest) = place ++ nmeaFields rest := by
  by_cases hasLatLong : HasFlag location.flags gpsLocationHasLatLong
  · exact ⟨[_, _, _, _], rfl, nmeaFields_latLong hasLatLong rest⟩
  · have commas : latLong location = [44, 44, 44, 44] := by
      rw [latLong, if_neg hasLatLong]
      rfl
    refine ⟨[[], [], [], []], rfl, ?_⟩
    rw [commas]
    simp only [List.cons_append, List.nil_append, nmeaFields_empty]

section Fields

variable {location : GpsLocation} {locationExtended : GpsLocationExtended} {standalone : Bool}
  {used : List ℕ} {cached : Option Dop} {sentence : List UInt8}

/-- The date as it is printed. -/
def dateText (location : GpsLocation) : List UInt8 :=
  formatDigits 2 (utcTime location).tmMday ++ formatDigits 2 ((utcTime location).tmMon + 1) ++
    formatDigits 2 ((utcTime location).tmYear.tmod 100)

/-- Time and date in `$GPRMC`. -/
theorem gprmc_time (sent : gprmc standalone location locationExtended = some sentence)
    (clean : 44 ∉ dateText location) :
    (nmeaFields sentence).getD 1 [] = clock location ∧
      (nmeaFields sentence).getD 9 [] = dateText location := by
  obtain ⟨behind, rfl⟩ := prefix_of_checkedSentence sent
  have begins : (ascii "$GPRMC," : List UInt8) = ascii "$GPRMC" ++ [44] := rfl
  have active : (ascii ",A," : List UInt8) = 44 :: (ascii "A" ++ [44]) := rfl
  have comma : ascii "," = [44] := rfl
  obtain ⟨speed, cleanSpeed, speedField⟩ :=
    optionalField (HasFlag location.flags gpsLocationHasSpeed) (location.speed * (3600 / 1852))
  obtain ⟨bearing, cleanBearing, bearingField⟩ :=
    optionalField (HasFlag location.flags gpsLocationHasBearing) location.bearing
  have date : formatDigits 2 (utcTime location).tmMday ++
      formatDigits 2 ((utcTime location).tmMon + 1) ++
        formatDigits 2 ((utcTime location).tmYear.tmod 100) ++ ascii "," =
      dateText location ++ [44] := rfl
  rw [speedField, bearingField, date, begins, active]
  simp only [List.flatten_cons, List.append_assoc, List.cons_append, List.nil_append]
  rw [nmeaFields_append (by decide), nmeaFields_append (comma_notMem_clock location),
    nmeaFields_append (by decide)]
  obtain ⟨place, four, fields⟩ := nmeaFields_place location
    (speed ++ 44 :: (bearing ++ 44 :: (dateText location ++ 44 :: _)))
  rw [fields, nmeaFields_append cleanSpeed, nmeaFields_append cleanBearing,
    nmeaFields_append clean]
  match place, four with
  | [_, _, _, _], _ => exact ⟨rfl, rfl⟩

/-- The time in `$GPGGA`. -/
theorem gpgga_time
    (sent : gpgga standalone used cached location locationExtended = some sentence) :
    (nmeaFields sentence).getD 1 [] = clock location := by
  obtain ⟨behind, rfl⟩ := prefix_of_checkedSentence sent
  have begins : (ascii "$GPGGA," : List UInt8) = ascii "$GPGGA" ++ [44] := rfl
  have comma : ascii "," = [44] := rfl
  rw [begins, comma]
  simp only [List.flatten_cons, List.append_assoc, List.cons_append, List.nil_append]
  rw [nmeaFields_append (by decide), nmeaFields_append (comma_notMem_clock location)]
  rfl

end Fields

/-! ## The second that is read -/

/-- The seconds of a report, as far as a `time_t` of 32 bits holds them. -/
def timeT (location : GpsLocation) : ℤ := (location.timestamp.tdiv 1000).bmod 4294967296

section Second

variable (location : GpsLocation)

theorem timeT_bounds : -2147483648 ≤ timeT location ∧ timeT location < 2147483648 := by
  have low := Int.le_bmod (x := location.timestamp.tdiv 1000) (m := 4294967296) (by decide)
  have high := Int.bmod_lt (x := location.timestamp.tdiv 1000) (m := 4294967296) (by decide)
  unfold timeT
  omega

/-- The second that a reader takes a printed one to be. -/
def secondRead (time : ℤ) : ℤ := if time < 0 then time + 3155760000 else time

theorem readClock_clock : readClock (clock location) = some (timeT location % 86400) := by
  obtain ⟨hour, minute, second, total⟩ := gmtime_clock (timeT location)
  obtain ⟨readHour, readMinute, readSecond⟩ := readDigits hour minute second
  have text : clock location = formatInt 2 (gmtime (timeT location)).tmHour ++
    formatInt 2 (gmtime (timeT location)).tmMin ++ formatInt 2 (gmtime (timeT location)).tmSec :=
    rfl
  rw [text]
  simp only [readClock, readHour, readMinute, readSecond, Option.bind_eq_bind, Option.bind_some,
    Option.pure_def, Option.some.injEq]
  omega

/-- The date, as numbers. -/
theorem dateText_bounds :
    (0 ≤ (utcTime location).tmMday ∧ (utcTime location).tmMday < 100) ∧
      (0 ≤ (utcTime location).tmMon + 1 ∧ (utcTime location).tmMon + 1 < 100) ∧
      (0 ≤ (utcTime location).tmYear.tmod 100 ∧ (utcTime location).tmYear.tmod 100 < 100) := by
  obtain ⟨low, high⟩ := timeT_bounds location
  obtain ⟨year, month, day⟩ := gmtime_date (timeT location)
  obtain ⟨lowMonth, highMonth, lowDay, highDay⟩ := civilFromDays_range (timeT location / 86400)
  have lowDays : -24856 ≤ timeT location / 86400 := by omega
  have highDays : timeT location / 86400 ≤ 24855 := by omega
  obtain ⟨lowYear, highYear, -⟩ := year_bounds lowDays highDays
  have tmYear : (gmtime (timeT location)).tmYear =
      (civilFromDays (timeT location / 86400)).year - 1900 := by omega
  have digits := (fullYear_tmod lowYear highYear).1
  rw [← tmYear] at digits
  refine ⟨?_, ?_, digits⟩
  · change 0 ≤ (gmtime (timeT location)).tmMday ∧ (gmtime (timeT location)).tmMday < 100
    omega
  · change 0 ≤ (gmtime (timeT location)).tmMon + 1 ∧ (gmtime (timeT location)).tmMon + 1 < 100
    omega

theorem dateText_eq : dateText location = formatInt 2 (utcTime location).tmMday ++
    formatInt 2 ((utcTime location).tmMon + 1) ++
      formatInt 2 ((utcTime location).tmYear.tmod 100) := by
  obtain ⟨day, month, year⟩ := dateText_bounds location
  rw [dateText, (twoDigits day.1 day.2).1, (twoDigits month.1 month.2).1,
    (twoDigits year.1 year.2).1]

theorem readDate_dateText :
    readDate (dateText location) = some (secondRead (timeT location) / 86400) := by
  obtain ⟨day, month, year⟩ := dateText_bounds location
  obtain ⟨readDay, readMonth, readYear⟩ := readDigits day month year
  rw [dateText_eq]
  simp only [readDate, readDay, readMonth, readYear, Option.bind_eq_bind, Option.bind_some,
    Option.pure_def, Option.some.injEq, Int.toNat_of_nonneg day.1, Int.toNat_of_nonneg month.1,
    Int.toNat_of_nonneg year.1, Int.add_sub_cancel]
  obtain ⟨low, high⟩ := timeT_bounds location
  have lowDays : -24856 ≤ timeT location / 86400 := by omega
  have highDays : timeT location / 86400 ≤ 24855 := by omega
  obtain ⟨lowYear, highYear, epoch⟩ := year_bounds lowDays highDays
  have number := dayNumber_civilFromDays (timeT location / 86400)
  obtain ⟨sameYear, sameMonth, sameDay⟩ := gmtime_date (timeT location)
  have tmYear : (utcTime location).tmYear =
      (civilFromDays (timeT location / 86400)).year - 1900 := by
    change (gmtime (timeT location)).tmYear = _
    omega
  have tmMon : (utcTime location).tmMon = (civilFromDays (timeT location / 86400)).month :=
    sameMonth
  have tmMday : (utcTime location).tmMday = (civilFromDays (timeT location / 86400)).day :=
    sameDay
  rw [tmYear, tmMon, tmMday, (fullYear_tmod lowYear highYear).2, secondRead]
  by_cases negative : timeT location < 0
  · have before : (civilFromDays (timeT location / 86400)).year < 1970 := by omega
    rw [if_pos before, if_pos negative, dayNumber_nextCentury lowYear before, number]
    omega
  · have since : ¬ (civilFromDays (timeT location / 86400)).year < 1970 := by omega
    rw [if_neg since, if_neg negative, number]

end Second

section Report

variable {cache : NmeaCache} {location : GpsLocation} {locationExtended : GpsLocationExtended}

/-- The second that is read is the one of the report, up to 32 bits and a century. -/
theorem readTime_eq (location : GpsLocation) :
    readTime (clock location) (dateText location) = some (secondRead (timeT location)) := by
  simp only [readTime, readClock_clock, readDate_dateText, Option.bind_eq_bind,
    Option.bind_some, Option.pure_def, Option.some.injEq, secondRead]
  split <;> omega

theorem secondRead_mod (time : ℤ) : time % 86400 = secondRead time % 86400 := by
  unfold secondRead
  split <;> omega

theorem secondRead_eq_iff (second : ℤ) :
    secondRead (second.bmod 4294967296) = second ↔ 0 ≤ second ∧ second < 2147483648 := by
  have same : second.bmod 4294967296 % 4294967296 = second % 4294967296 := Int.bmod_emod
  have low := Int.le_bmod (x := second) (m := 4294967296) (by decide)
  have high := Int.bmod_lt (x := second) (m := 4294967296) (by decide)
  generalize second.bmod 4294967296 = kept at same low high
  unfold secondRead
  split <;> omega

/-- **The printed time is the time of the report**, exactly from 1970 to the 19th of January
2038. -/
theorem timeDecodes_iff (standalone : Bool) (floats : AreFloats cache locationExtended location) :
    TimeDecodes ((PrintedReport.pos location).sentences standalone cache locationExtended)
        (location.timestamp.tdiv 1000) ↔
      0 ≤ location.timestamp.tdiv 1000 ∧ location.timestamp.tdiv 1000 < 2147483648 := by
  obtain ⟨-, rmc, gga, -, ⟨sentRmc, namedRmc⟩, ⟨sentGga, namedGga⟩⟩ :=
    sentenceNamed_pos standalone floats rfl
  have clean : 44 ∉ dateText location := by
    rw [dateText_eq]
    exact comma_notMem_append (comma_notMem_append (comma_notMem_formatInt _ _)
      (comma_notMem_formatInt _ _)) (comma_notMem_formatInt _ _)
  obtain ⟨clockField, dateField⟩ := gprmc_time sentRmc clean
  have read : readTime ((nmeaFields rmc).getD 1 []) ((nmeaFields rmc).getD 9 []) =
      some (secondRead (timeT location)) := by
    rw [clockField, dateField, readTime_eq]
  rw [← secondRead_eq_iff]
  constructor
  · rintro ⟨other, -, found, -, decodes, -⟩
    obtain rfl := Option.some.inj (namedRmc.symm.trans found)
    exact Option.some.inj (read.symm.trans decodes)
  · intro second
    refine ⟨rmc, gga, namedRmc, namedGga, read.trans (congrArg some second), ?_⟩
    rw [gpgga_time sentGga, readClock_clock, ← second, ← secondRead_mod]
    rfl

end Report

/-- The last second of the leap day of 2016. -/
def onLeapDay : GpsLocation := { atPole with timestamp := 1456790399999 }

theorem timeDecodes_iff_leapDay :
    TimeDecodes ((PrintedReport.pos onLeapDay).sentences true ⟨0, 0, 0, 0⟩ nothingExtended)
      1456790399 :=
  (timeDecodes_iff true (show AreFloats ⟨0, 0, 0, 0⟩ nothingExtended onLeapDay by
    constructor <;> decide)).mpr (by decide)

end Msm8660.Gps
