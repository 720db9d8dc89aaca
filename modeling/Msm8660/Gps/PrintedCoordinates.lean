import Msm8660.Gps.PositionFields

/-!
# The coordinates that are printed, read back

Degrees and minutes are printed apart: the degrees are those of the exact angle, the minutes
are what is left of it, rounded to six places. What is read of the two is next to the angle
(`abs_sub_le_of_angle`). But just below a whole degree the minutes are rounded up to 60, which
no reader has to take: so the printed coordinates are well formed exactly if both angles are
further from the next degree than half a millionth of a minute (`coordinatesDecode_iff`,
`not_coordinatesDecode`).
-/

set_option autoImplicit false

namespace Msm8660.Gps

/-! ## Reading -/

/-- The sign of a hemisphere. -/
def hemisphereSign (positive negative letter : List UInt8) : Option ℚ :=
  if letter = positive then some 1 else if letter = negative then some (-1) else none

/-- **The field is well formed and tells the coordinate.** The first digits are the degrees, at
most `limit`, and the others the minutes, less than 60; with the sign of the hemisphere they are
next to the coordinate, by half a millionth of a minute. -/
def CoordinateDecodes (width limit : ℕ) (positive negative : List UInt8) (coordinate : ℚ)
    (field letter : List UInt8) : Prop :=
  ∃ (degrees : ℕ) (minutes sign : ℚ),
    readNat (field.take width) = some degrees ∧ readFixed (field.drop width) = some minutes ∧
    hemisphereSign positive negative letter = some sign ∧
    0 ≤ minutes ∧ minutes < 60 ∧ degrees ≤ limit ∧
    |sign * (degrees + minutes / 60) - coordinate| ≤ 1 / 2 / 1000000 / 60

/-- Latitude and longitude, from these fields on. -/
def PositionDecodes (location : GpsLocation) : List (List UInt8) → Prop
  | latitude :: north :: longitude :: east :: _ =>
      CoordinateDecodes 2 90 (ascii "N") (ascii "S") location.latitude latitude north ∧
        CoordinateDecodes 3 180 (ascii "E") (ascii "W") location.longitude longitude east
  | _ => False

/-- The coordinates of the `$GPRMC` and of the `$GPGGA` sentence. -/
def CoordinatesDecode (sentences : List (List UInt8)) (location : GpsLocation) : Prop :=
  ∃ rmc gga, sentenceNamed (ascii "$GPRMC") sentences = some rmc ∧
    sentenceNamed (ascii "$GPGGA") sentences = some gga ∧
    PositionDecodes location ((nmeaFields rmc).drop 3) ∧
    PositionDecodes location ((nmeaFields gga).drop 2)

/-- The angle is further from the next degree than half a millionth of a minute. -/
def BelowNextDegree (angle : ℚ) : Prop := Int.fract angle < 1 - 1 / 2 / 1000000 / 60

instance (angle : ℚ) : Decidable (BelowNextDegree angle) := inferInstanceAs (Decidable (_ < _))

/-! ## One coordinate -/

section Angle

variable {width limit : ℕ} {angle : ℚ}

/-- The minutes that are read. -/
def readMinutes (angle : ℚ) : ℚ := roundEven (60 * Int.fract angle * 10 ^ 6) / 10 ^ 6

/-- The parts of an angle are read back. -/
theorem readAngle (nonneg : 0 ≤ angle) (within : angle ≤ limit) (small : limit < 256)
    (wide : limit < 10 ^ width) (some_ : 0 < width) :
    readNat ((angleText width angle).take width) = some ⌊angle⌋.toNat ∧
      readFixed ((angleText width angle).drop width) = some (readMinutes angle) := by
  have floorNonneg : 0 ≤ ⌊angle⌋ := Int.floor_nonneg.mpr nonneg
  have floorLe : ⌊angle⌋ ≤ (limit : ℤ) := by
    have mono : ⌊angle⌋ ≤ ⌊(limit : ℚ)⌋ := Int.floor_mono within
    rwa [Int.floor_natCast] at mono
  have degrees : floorByte angle = ⌊angle⌋ := by
    show ⌊angle⌋ % 256 = ⌊angle⌋
    exact Int.emod_eq_of_lt floorNonneg (by omega)
  have length : (formatInt width ⌊angle⌋).length = width := by
    rw [length_formatInt]
    refine intWidth_eq some_ floorNonneg (lt_of_le_of_lt floorLe ?_)
    exact_mod_cast wide
  have text : formatInt width ⌊angle⌋ = padZero width (decimal ⌊angle⌋.toNat) := by
    rw [formatInt, if_neg (not_lt.mpr floorNonneg)]
    congr 2
    omega
  have minutesNonneg : 0 ≤ 60 * Int.fract angle :=
    mul_nonneg (by norm_num) (Int.fract_nonneg angle)
  rw [angleText, degrees, fmodSixty_eq nonneg, List.take_left' length, List.drop_left' length]
  refine ⟨?_, readFixed_formatFixed 9 (by decide) minutesNonneg⟩
  rw [text, readNat_padZero]

/-- What is read is next to the angle. -/
theorem abs_sub_le_of_angle (nonneg : 0 ≤ angle) :
    |((⌊angle⌋.toNat : ℕ) : ℚ) + readMinutes angle / 60 - angle| ≤ 1 / 2 / 1000000 / 60 := by
  have floorNonneg : 0 ≤ ⌊angle⌋ := Int.floor_nonneg.mpr nonneg
  have degrees : ((⌊angle⌋.toNat : ℕ) : ℚ) = ⌊angle⌋ := by
    exact_mod_cast Int.toNat_of_nonneg floorNonneg
  have parts : (⌊angle⌋ : ℚ) + Int.fract angle = angle := Int.floor_add_fract angle
  have near := abs_le.mp (abs_roundEven_sub_le (q := 60 * Int.fract angle * 10 ^ 6)
    (by have := Int.fract_nonneg angle; positivity))
  rw [degrees, readMinutes, abs_le]
  constructor <;> linarith [near.1, near.2]

theorem readMinutes_nonneg (angle : ℚ) : 0 ≤ readMinutes angle := by
  unfold readMinutes
  positivity

/-- The minutes that are read are less than 60 except just below the next degree. -/
theorem readMinutes_lt_iff (angle : ℚ) : readMinutes angle < 60 ↔ BelowNextDegree angle := by
  have fract := Int.fract_nonneg angle
  have rounded := roundEven_lt_iff (q := 60 * Int.fract angle * 10 ^ 6) (n := 60000000)
    (by positivity) (by decide)
  have cast : ((roundEven (60 * Int.fract angle * 10 ^ 6) : ℕ) : ℚ) < 60 * 10 ^ 6 ↔
      roundEven (60 * Int.fract angle * 10 ^ 6) < 60000000 := by
    have million : (60 * 10 ^ 6 : ℚ) = (60000000 : ℕ) := by norm_num
    rw [million, Nat.cast_lt]
  rw [readMinutes, div_lt_iff₀ (by positivity), cast, rounded, BelowNextDegree]
  push_cast
  constructor <;> intro below <;> linarith

/-- **A coordinate is well formed exactly if its angle is below the next degree.** -/
theorem coordinateDecodes_iff {coordinate sign : ℚ} {positive negative letter : List UInt8}
    (within : |coordinate| ≤ limit) (small : limit < 256) (wide : limit < 10 ^ width)
    (some_ : 0 < width) (hemisphere : hemisphereSign positive negative letter = some sign)
    (unit : |sign| = 1) (signed : sign * |coordinate| = coordinate) :
    CoordinateDecodes width limit positive negative coordinate (angleText width |coordinate|)
        letter ↔ BelowNextDegree |coordinate| := by
  obtain ⟨isDegrees, isMinutes⟩ := readAngle (abs_nonneg coordinate) within small wide some_
  rw [← readMinutes_lt_iff]
  constructor
  · rintro ⟨degrees, minutes, _, -, isMinutes', -, -, below, -⟩
    rw [isMinutes, Option.some.injEq] at isMinutes'
    rwa [isMinutes']
  · intro below
    have floorLe : ⌊|coordinate|⌋.toNat ≤ limit := by
      have mono : ⌊|coordinate|⌋ ≤ ⌊(limit : ℚ)⌋ := Int.floor_mono within
      rw [Int.floor_natCast] at mono
      omega
    refine ⟨_, _, sign, isDegrees, isMinutes, hemisphere, readMinutes_nonneg _, below, floorLe, ?_⟩
    have apart : sign * ((⌊|coordinate|⌋.toNat : ℕ) + readMinutes |coordinate| / 60) - coordinate =
        sign * ((⌊|coordinate|⌋.toNat : ℕ) + readMinutes |coordinate| / 60 - |coordinate|) := by
      rw [mul_sub, signed]
    rw [apart, abs_mul, unit, one_mul]
    exact abs_sub_le_of_angle (abs_nonneg coordinate)

end Angle

/-! ## Positions -/

section Positions

variable {cache : NmeaCache} {location : GpsLocation} {locationExtended : GpsLocationExtended}

/-- The letter of a latitude tells its sign. -/
theorem hemisphereSign_latHemisphere (location : GpsLocation) : ∃ sign,
    hemisphereSign (ascii "N") (ascii "S") (latHemisphere location) = some sign ∧
      |sign| = 1 ∧ sign * |location.latitude| = location.latitude := by
  unfold latHemisphere
  split
  · next north => exact ⟨1, rfl, by norm_num, by rw [one_mul, abs_of_pos north]⟩
  · next south =>
      exact ⟨-1, rfl, by norm_num, by rw [abs_of_nonpos (not_lt.mp south), neg_one_mul, neg_neg]⟩

/-- The letter of a longitude tells its sign. -/
theorem hemisphereSign_lonHemisphere (location : GpsLocation) : ∃ sign,
    hemisphereSign (ascii "E") (ascii "W") (lonHemisphere location) = some sign ∧
      |sign| = 1 ∧ sign * |location.longitude| = location.longitude := by
  unfold lonHemisphere
  split
  · next west => exact ⟨-1, rfl, by norm_num, by rw [abs_of_neg west, neg_one_mul, neg_neg]⟩
  · next east => exact ⟨1, rfl, by norm_num, by rw [one_mul, abs_of_nonneg (not_lt.mp east)]⟩

theorem latitudeDecodes_iff (within : |location.latitude| ≤ 90) :
    CoordinateDecodes 2 90 (ascii "N") (ascii "S") location.latitude
        (angleText 2 |location.latitude|) (latHemisphere location) ↔
      BelowNextDegree |location.latitude| := by
  obtain ⟨sign, hemisphere, unit, signed⟩ := hemisphereSign_latHemisphere location
  exact coordinateDecodes_iff within (by decide) (by decide) (by decide) hemisphere unit signed

theorem longitudeDecodes_iff (within : |location.longitude| ≤ 180) :
    CoordinateDecodes 3 180 (ascii "E") (ascii "W") location.longitude
        (angleText 3 |location.longitude|) (lonHemisphere location) ↔
      BelowNextDegree |location.longitude| := by
  obtain ⟨sign, hemisphere, unit, signed⟩ := hemisphereSign_lonHemisphere location
  exact coordinateDecodes_iff within (by decide) (by decide) (by decide) hemisphere unit signed

/-- Both sentences tell the position alike. -/
theorem decode_iff_belowNextDegree (standalone : Bool)
    (floats : AreFloats cache locationExtended location)
    (hasLatLong : HasFlag location.flags gpsLocationHasLatLong)
    (latitude : |location.latitude| ≤ 90) (longitude : |location.longitude| ≤ 180) :
    CoordinatesDecode
        ((PrintedReport.pos location).sentences standalone cache locationExtended) location ↔
      BelowNextDegree |location.latitude| ∧ BelowNextDegree |location.longitude| := by
  obtain ⟨-, rmc, gga, -, ⟨sentRmc, namedRmc⟩, ⟨sentGga, namedGga⟩⟩ :=
    sentenceNamed_pos standalone floats rfl
  obtain ⟨restRmc, fieldsRmc⟩ := nmeaFields_gprmc sentRmc hasLatLong
  obtain ⟨restGga, fieldsGga⟩ := nmeaFields_gpgga sentGga hasLatLong
  have decodes (rest : List (List UInt8)) :
      PositionDecodes location (angleText 2 |location.latitude| :: latHemisphere location ::
        angleText 3 |location.longitude| :: lonHemisphere location :: rest) ↔
      BelowNextDegree |location.latitude| ∧ BelowNextDegree |location.longitude| :=
    and_congr (latitudeDecodes_iff latitude) (longitudeDecodes_iff longitude)
  constructor
  · rintro ⟨other, -, found, -, rmcDecodes, -⟩
    obtain rfl := Option.some.inj (namedRmc.symm.trans found)
    rw [fieldsRmc] at rmcDecodes
    exact (decodes restRmc).mp rmcDecodes
  · intro below
    refine ⟨rmc, gga, namedRmc, namedGga, ?_, ?_⟩
    · rw [fieldsRmc]
      exact (decodes restRmc).mpr below
    · rw [fieldsGga]
      exact (decodes restGga).mpr below

/-- **The printed coordinates are well formed and tell the position**, exactly if latitude and
longitude are further from the next degree than half a millionth of a minute. -/
theorem coordinatesDecode_iff (standalone : Bool)
    (floats : AreFloats cache locationExtended location)
    (hasLatLong : HasFlag location.flags gpsLocationHasLatLong)
    (latitude : |location.latitude| ≤ 90) (longitude : |location.longitude| ≤ 180) :
    CoordinatesDecode
        ((PrintedReport.pos location).sentences standalone cache locationExtended) location ↔
      Int.fract |location.latitude| < 1 - 1 / 2 / 1000000 / 60 ∧
        Int.fract |location.longitude| < 1 - 1 / 2 / 1000000 / 60 :=
  decode_iff_belowNextDegree standalone floats hasLatLong latitude longitude

end Positions

section Fixed

/-- The South Pole and the date line, as far as they are single places. -/
def atPole : GpsLocation where
  flags := gpsLocationHasLatLong
  positionSource := 0
  latitude := -90
  longitude := 180
  altitude := 0
  speed := 0
  bearing := 0
  accuracy := 0
  timestamp := 0

/-- A report without more. -/
def nothingExtended : GpsLocationExtended where
  flags := 0
  altitudeMeanSeaLevel := 0
  pdop := 0
  hdop := 0
  vdop := 0
  magneticDeviation := 0

theorem coordinatesDecode_iff_atPole :
    CoordinatesDecode
      ((PrintedReport.pos atPole).sentences true ⟨0, 0, 0, 0⟩ nothingExtended) atPole :=
  (coordinatesDecode_iff true (by constructor <;> decide) (by decide) (by decide +kernel)
    (by decide +kernel)).mpr (by decide +kernel)

/-- **A ten-millionth of a minute below ten degrees, sixty minutes are printed.** -/
theorem not_coordinatesDecode :
    ¬ ∀ (standalone : Bool) (cache : NmeaCache) (location : GpsLocation)
      (locationExtended : GpsLocationExtended), AreFloats cache locationExtended location →
        HasFlag location.flags gpsLocationHasLatLong → |location.latitude| ≤ 90 →
        |location.longitude| ≤ 180 →
          CoordinatesDecode
            ((PrintedReport.pos location).sentences standalone cache locationExtended)
            location := by
  intro all
  have floats : AreFloats ⟨0, 0, 0, 0⟩ nothingExtended
      { atPole with latitude := 10 - 1 / 600000000 } := by constructor <;> decide
  have decodes := all true ⟨0, 0, 0, 0⟩ { atPole with latitude := 10 - 1 / 600000000 }
    nothingExtended floats (by decide) (by decide +kernel) (by decide +kernel)
  rw [decode_iff_belowNextDegree true floats (by decide) (by decide +kernel)
    (by decide +kernel)] at decodes
  revert decodes
  decide +kernel

end Fixed

end Msm8660.Gps
