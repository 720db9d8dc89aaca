import Msm8660.Gps.PositionFields

/-!
# The magnetic track of `$GPVTG`

`loc_eng_nmea_generate_pos` subtracts the magnetic deviation from the bearing, but into a
variable of an inner block. What it prints in the magnetic field is the bearing again, so the
field is right if there is no deviation, or if the deviation is lost in the rounding
(`accountsForDeviation_iff`), and not otherwise (`not_accountsForDeviation`).
-/

set_option autoImplicit false

namespace Msm8660.Gps

/-- The bearing minus the deviation, reduced into one turn. -/
def reducedTrack (bearing deviation : ℚ) : ℚ :=
  bearing - deviation - 360 * ⌊(bearing - deviation) / 360⌋

/-- The track is within one turn. -/
theorem reducedTrack_range (bearing deviation : ℚ) :
    0 ≤ reducedTrack bearing deviation ∧ reducedTrack bearing deviation < 360 := by
  have above := Int.floor_le ((bearing - deviation) / 360)
  have under := Int.lt_floor_add_one ((bearing - deviation) / 360)
  unfold reducedTrack
  constructor <;> linarith

/-- The track that the magnetic field is to tell. -/
def magneticTrack (location : GpsLocation) (locationExtended : GpsLocationExtended) : ℚ :=
  if HasFlag locationExtended.flags gpsLocationExtendedHasMagDev then
    reducedTrack location.bearing locationExtended.magneticDeviation
  else location.bearing

/-- **The magnetic track of the `$GPVTG` sentence accounts for the deviation**: it is the
bearing minus the deviation, within one turn. So what is read of the two fields differs by the
deviation and whole turns, as far as tenths of a degree tell. -/
def AccountsForDeviation (sentences : List (List UInt8)) (location : GpsLocation)
    (locationExtended : GpsLocationExtended) : Prop :=
  ∃ vtg track magTrack rest, sentenceNamed (ascii "$GPVTG") sentences = some vtg ∧
    nmeaFields vtg = ascii "$GPVTG" :: track :: ascii "T" :: magTrack :: ascii "M" :: rest ∧
    track = formatFixed 0 1 location.bearing ∧
    magTrack = formatFixed 0 1 (magneticTrack location locationExtended) ∧
    (HasFlag locationExtended.flags gpsLocationExtendedHasMagDev →
      ∃ (read readMagnetic : ℚ) (turns : ℤ), readFixed track = some read ∧
        readFixed magTrack = some readMagnetic ∧
        |read - readMagnetic - (locationExtended.magneticDeviation + 360 * turns)| ≤ 1 / 10)

section Track

variable {cache : NmeaCache} {location : GpsLocation} {locationExtended : GpsLocationExtended}

theorem magneticTrack_nonneg (nonneg : 0 ≤ location.bearing) :
    0 ≤ magneticTrack location locationExtended := by
  unfold magneticTrack
  split
  · exact (reducedTrack_range _ _).1
  · exact nonneg

/-- A printed tenth is read back next to the number. -/
theorem readFixed_tenth {q : ℚ} (nonneg : 0 ≤ q) : ∃ read : ℚ,
    readFixed (formatFixed 0 1 q) = some read ∧ |read - q| ≤ 1 / 20 := by
  refine ⟨_, readFixed_formatFixed 0 Nat.one_pos nonneg, ?_⟩
  have near := abs_le.mp (abs_roundEven_sub_le (q := q * 10 ^ 1) (by positivity))
  rw [abs_le]
  constructor <;> linarith [near.1, near.2]

/-- The printed tracks are apart as the tracks are. -/
theorem readFixed_tracks (nonneg : 0 ≤ location.bearing)
    (hasMagDev : HasFlag locationExtended.flags gpsLocationExtendedHasMagDev) :
    ∃ (read readMagnetic : ℚ) (turns : ℤ),
      readFixed (formatFixed 0 1 location.bearing) = some read ∧
      readFixed (formatFixed 0 1 (magneticTrack location locationExtended)) = some readMagnetic ∧
      |read - readMagnetic - (locationExtended.magneticDeviation + 360 * turns)| ≤ 1 / 10 := by
  obtain ⟨read, isRead, near⟩ := readFixed_tenth nonneg
  have magneticNonneg : 0 ≤ magneticTrack location locationExtended := magneticTrack_nonneg nonneg
  obtain ⟨readMagnetic, isReadMagnetic, near'⟩ := readFixed_tenth magneticNonneg
  have track : magneticTrack location locationExtended =
      location.bearing - locationExtended.magneticDeviation -
        360 * ⌊(location.bearing - locationExtended.magneticDeviation) / 360⌋ :=
    if_pos hasMagDev
  refine ⟨read, readMagnetic, ⌊(location.bearing - locationExtended.magneticDeviation) / 360⌋,
    isRead, isReadMagnetic, ?_⟩
  rw [track] at near'
  rw [abs_le] at near near' ⊢
  constructor <;> linarith [near.1, near.2, near'.1, near'.2]

/-- **What is printed is the bearing**, whatever the deviation is. -/
theorem accounts_iff_printedAlike (standalone : Bool)
    (floats : AreFloats cache locationExtended location)
    (hasBearing : HasFlag location.flags gpsLocationHasBearing) (nonneg : 0 ≤ location.bearing) :
    AccountsForDeviation
        ((PrintedReport.pos location).sentences standalone cache locationExtended) location
        locationExtended ↔
      formatFixed 0 1 location.bearing =
        formatFixed 0 1 (magneticTrack location locationExtended) := by
  obtain ⟨vtg, -, -, ⟨sent, named⟩, -, -⟩ := sentenceNamed_pos standalone floats rfl
  obtain ⟨rest, fields⟩ := nmeaFields_gpvtg sent hasBearing nonneg
  constructor
  · rintro ⟨other, track, magTrack, more, found, split, -, magnetic, -⟩
    obtain rfl := Option.some.inj (named.symm.trans found)
    obtain ⟨-, afterName⟩ := List.cons.inj (fields.symm.trans split)
    obtain ⟨-, afterTrack⟩ := List.cons.inj afterName
    obtain ⟨-, afterLetter⟩ := List.cons.inj afterTrack
    exact (List.cons.inj afterLetter).1.trans magnetic
  · intro same
    refine ⟨vtg, _, _, rest, named, fields, rfl, same, fun hasMagDev => ?_⟩
    obtain ⟨read, readMagnetic, turns, isRead, isReadMagnetic, apart⟩ :=
      readFixed_tracks nonneg hasMagDev
    exact ⟨read, readMagnetic, turns, isRead, same ▸ isReadMagnetic, apart⟩

/-- **The magnetic track accounts for the deviation** if there is none, or if the bearing and the
reduced track are the same to a tenth of a degree. -/
theorem accountsForDeviation_iff (standalone : Bool)
    (floats : AreFloats cache locationExtended location)
    (hasBearing : HasFlag location.flags gpsLocationHasBearing) (nonneg : 0 ≤ location.bearing) :
    AccountsForDeviation
        ((PrintedReport.pos location).sentences standalone cache locationExtended) location
        locationExtended ↔
      ¬ HasFlag locationExtended.flags gpsLocationExtendedHasMagDev ∨
        roundEven (location.bearing * 10) =
          roundEven (reducedTrack location.bearing locationExtended.magneticDeviation * 10) := by
  rw [accounts_iff_printedAlike standalone floats hasBearing nonneg,
    formatFixed_eq_iff 0 Nat.one_pos nonneg (magneticTrack_nonneg nonneg), pow_one, magneticTrack]
  by_cases hasMagDev : HasFlag locationExtended.flags gpsLocationExtendedHasMagDev
  · rw [if_pos hasMagDev, or_iff_right (not_not.mpr hasMagDev)]
  · rw [if_neg hasMagDev]
    exact iff_of_true rfl (Or.inl hasMagDev)

end Track

section Fixed

/-- A car that drives to the north-east. -/
def northEast : GpsLocation where
  flags := gpsLocationHasBearing
  positionSource := 0
  latitude := 0
  longitude := 0
  altitude := 0
  speed := 0
  bearing := 45
  accuracy := 0
  timestamp := 0

/-- A magnetic deviation to the east. -/
def eastOf (deviation : ℚ) : GpsLocationExtended where
  flags := gpsLocationExtendedHasMagDev
  altitudeMeanSeaLevel := 0
  pdop := 0
  hdop := 0
  vdop := 0
  magneticDeviation := deviation

/-- A deviation of a hundredth of a degree. -/
theorem accountsForDeviation_iff_small :
    AccountsForDeviation
      ((PrintedReport.pos northEast).sentences true ⟨0, 0, 0, 0⟩ (eastOf (1 / 100))) northEast
      (eastOf (1 / 100)) :=
  (accountsForDeviation_iff true (by constructor <;> decide +kernel) (by decide) (by decide)).mpr
    (Or.inr (by decide +kernel))

/-- **A deviation of ten degrees is lost.** -/
theorem not_accountsForDeviation :
    ¬ ∀ (standalone : Bool) (cache : NmeaCache) (location : GpsLocation)
      (locationExtended : GpsLocationExtended), AreFloats cache locationExtended location →
        HasFlag location.flags gpsLocationHasBearing →
        0 ≤ location.bearing ∧ location.bearing < 360 →
        (HasFlag locationExtended.flags gpsLocationExtendedHasMagDev →
          -360 < locationExtended.magneticDeviation ∧
            locationExtended.magneticDeviation < 360) →
          AccountsForDeviation
            ((PrintedReport.pos location).sentences standalone cache locationExtended) location
            locationExtended := by
  intro all
  have floats : AreFloats ⟨0, 0, 0, 0⟩ (eastOf 10) northEast := by constructor <;> decide
  have accounts := all true ⟨0, 0, 0, 0⟩ northEast (eastOf 10) floats (by decide) (by decide)
    fun _ => by decide
  rw [accounts_iff_printedAlike true floats (by decide) (by decide)] at accounts
  revert accounts
  decide +kernel

end Fixed

end Msm8660.Gps
