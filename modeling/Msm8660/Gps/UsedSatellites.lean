import Msm8660.Gps.FreshSatellites
import Msm8660.Gps.NmeaSatellites
import Msm8660.Gps.PrintedTime

/-!
# The satellites that were used, read back

`$GPGSA` lists the satellites of the mask that the last satellite report has left, and `$GPGGA`
tells how many there are. There are twelve places in the list, so a reader gets the satellites
of the mask exactly if there are twelve of them at most (`usedDecodes_iff`). Of more it gets the
twelve with the lowest numbers, and it can tell so by the count.
-/

set_option autoImplicit false

namespace Msm8660.Gps

/-! ## Reading -/

/-- What the sentences tell of the satellites that were used. -/
structure UsedTold where
  fixType : ℤ
  satellites : List ℤ
  count : ℤ
deriving DecidableEq

/-- The numbers in the fields that are not empty. -/
def readNumbers : List (List UInt8) → Option (List ℤ)
  | [] => some []
  | field :: rest => do
      match ← readOptional field with
      | some number => return number :: (← readNumbers rest)
      | none => readNumbers rest

/-- The list is in the third to the fourteenth field of `$GPGSA`, behind the type of the fix, and
the count in the seventh of `$GPGGA`. -/
def readUsed (sentences : List (List UInt8)) : Option UsedTold := do
  let gsa ← sentenceNamed (ascii "$GPGSA") sentences
  let gga ← sentenceNamed (ascii "$GPGGA") sentences
  let fixType ← readInt ((nmeaFields gsa).getD 2 [])
  let satellites ← readNumbers (((nmeaFields gsa).drop 3).take 12)
  let count ← readInt ((nmeaFields gga).getD 7 [])
  return ⟨fixType, satellites, count⟩

/-- The type of a fix with so many satellites: none, with two coordinates, with three. -/
def fixTypeOf (count : ℕ) : ℤ := if count = 0 then 1 else if count ≤ 3 then 2 else 3

/-- **The sentences tell the mask.** -/
def UsedDecodes (sentences : List (List UInt8)) (mask : BitVec 32) : Prop :=
  ∃ told, readUsed sentences = some told ∧
    told.fixType = fixTypeOf told.satellites.length ∧ told.count = told.satellites.length ∧
    ∀ bit : ℕ, (bit + 1 : ℤ) ∈ told.satellites ↔ mask.getLsbD bit = true

/-! ## The fields -/

/-- Fields with a comma behind each. -/
theorem nmeaFields_flatMap {fields : List (List UInt8)} (clean : ∀ field ∈ fields, 44 ∉ field)
    (rest : List UInt8) :
    nmeaFields (fields.flatMap (· ++ [44]) ++ rest) = fields ++ nmeaFields rest := by
  induction fields with
  | nil => rfl
  | cons field others ih =>
      obtain ⟨here, behind⟩ := List.forall_mem_cons.mp clean
      rw [List.flatMap_cons, List.append_assoc, List.append_assoc, List.singleton_append,
        nmeaFields_append here, ih behind, List.cons_append]

/-- The field of a place in the list. -/
def usedField (used : List ℕ) (i : ℕ) : List UInt8 :=
  match used[i]? with
  | some sv => formatInt 2 sv
  | none => []

theorem comma_notMem_usedField (used : List ℕ) (i : ℕ) : 44 ∉ usedField used i := by
  unfold usedField
  split
  · exact comma_notMem_formatInt _ _
  · exact List.not_mem_nil

/-- The numbers of the first places are read back, and places that are empty are left out. -/
theorem readNumbers_usedField (used : List ℕ) (count : ℕ) :
    readNumbers ((List.range count).map (usedField used)) =
      some ((used.take count).map fun sv : ℕ => (sv : ℤ)) := by
  induction count generalizing used with
  | zero => rfl
  | succ count ih =>
      have shifted (sv : ℕ) (rest : List ℕ) :
          (List.range count).map (usedField (sv :: rest) ∘ Nat.succ) =
            (List.range count).map (usedField rest) := rfl
      rw [List.range_succ_eq_map, List.map_cons, List.map_map, readNumbers]
      cases used with
      | nil =>
          have empty : usedField [] ∘ Nat.succ = usedField [] := rfl
          rw [empty, ih [], List.take_nil, List.take_nil]
          rfl
      | cons sv rest =>
          have first : readOptional (usedField (sv :: rest) 0) = some (some (sv : ℤ)) := by
            change readOptional (formatInt 2 sv) = _
            rw [readOptional, if_neg (formatInt_ne_nil _ _), readInt_formatInt, Option.map_some]
          rw [first, shifted, ih rest]
          rfl

section Fields

variable {location : GpsLocation} {locationExtended : GpsLocationExtended} {standalone : Bool}
  {used : List ℕ} {cached : Option Dop} {sentence : List UInt8}

/-- The digit of the type of the fix. -/
def fixTypeText (count : ℕ) : List UInt8 :=
  if count = 0 then ascii "1" else if count ≤ 3 then ascii "2" else ascii "3"

theorem readInt_fixTypeText (count : ℕ) :
    readInt (fixTypeText count) = some (fixTypeOf count) ∧ 44 ∉ fixTypeText count := by
  unfold fixTypeText fixTypeOf
  split
  · decide
  · split <;> decide

/-- The fields of `$GPGSA` up to the list. -/
theorem nmeaFields_gpgsa (sent : gpgsa used cached locationExtended = some sentence) :
    ∃ rest, nmeaFields sentence = ascii "$GPGSA" :: ascii "A" :: fixTypeText used.length ::
      ((List.range 12).map (usedField used) ++ rest) := by
  obtain ⟨behind, rfl⟩ := prefix_of_checkedSentence sent
  have begins : (ascii "$GPGSA,A," : List UInt8) = ascii "$GPGSA" ++ 44 :: (ascii "A" ++ [44]) :=
    rfl
  have comma : ascii "," = [44] := rfl
  have type : (if used.length = 0 then ascii "1" else if used.length ≤ 3 then ascii "2"
      else ascii "3") = fixTypeText used.length := rfl
  have entries : ((List.range 12).map fun (i : ℕ) => match used[i]? with
      | some sv => formatInt 2 sv ++ [44]
      | none => [44]).flatten = ((List.range 12).map (usedField used)).flatMap (· ++ [44]) := by
    rw [List.flatMap_map, List.flatMap_def]
    congr 1
    refine List.map_congr_left fun i _ => ?_
    unfold usedField
    split <;> rfl
  have clean : ∀ field ∈ (List.range 12).map (usedField used), 44 ∉ field := by
    intro field listed
    obtain ⟨i, -, rfl⟩ := List.mem_map.mp listed
    exact comma_notMem_usedField used i
  refine ⟨nmeaFields behind, ?_⟩
  rw [begins, comma, type, List.flatten_cons]
  generalize listed : List.flatten _ = places
  obtain rfl := listed.symm.trans entries
  simp only [List.append_assoc, List.cons_append, List.nil_append]
  rw [nmeaFields_append (by decide), nmeaFields_append (by decide),
    nmeaFields_append (readInt_fixTypeText used.length).2, nmeaFields_flatMap clean]

/-- The count in `$GPGGA`. -/
theorem gpgga_count
    (sent : gpgga standalone used cached location locationExtended = some sentence) :
    (nmeaFields sentence).getD 7 [] = formatInt 2 used.length := by
  obtain ⟨behind, rfl⟩ := prefix_of_checkedSentence sent
  have begins : (ascii "$GPGGA," : List UInt8) = ascii "$GPGGA" ++ [44] := rfl
  have comma : ascii "," = [44] := rfl
  obtain ⟨quality, cleanQuality, qualityField⟩ : ∃ text : List UInt8, 44 ∉ text ∧
      (if ¬ HasFlag location.flags gpsLocationHasLatLong then ascii "0"
        else if standalone then ascii "1" else ascii "2") = text := by
    refine ⟨_, ?_, rfl⟩
    split
    · decide
    · split <;> decide
  rw [qualityField, begins, comma]
  simp only [List.flatten_cons, List.append_assoc, List.cons_append, List.nil_append]
  rw [nmeaFields_append (by decide), nmeaFields_append (comma_notMem_clock location)]
  obtain ⟨place, four, fields⟩ := nmeaFields_place location
    (quality ++ 44 :: (formatInt 2 used.length ++ 44 :: _))
  rw [fields, nmeaFields_append cleanQuality, nmeaFields_append (comma_notMem_formatInt _ _)]
  match place, four with
  | [_, _, _, _], _ => rfl

end Fields

/-! ## What is read -/

section Report

variable {cache : NmeaCache} {location : GpsLocation} {locationExtended : GpsLocationExtended}

/-- The sentences tell the first twelve satellites, and how many there are. -/
theorem readUsed_pos (standalone : Bool) (floats : AreFloats cache locationExtended location) :
    readUsed ((PrintedReport.pos location).sentences standalone cache locationExtended) =
      some ⟨fixTypeOf (svUsedList cache.svUsedMask).length,
        ((svUsedList cache.svUsedMask).take 12).map fun sv : ℕ => (sv : ℤ),
        (svUsedList cache.svUsedMask).length⟩ := by
  obtain ⟨gsa, vtg, rmc, gga, sentGsa, sentVtg, sentRmc, sentGga, all⟩ :=
    generatePos_sentences standalone floats
  have sentences : (PrintedReport.pos location).sentences standalone cache locationExtended =
    [gsa, vtg, rmc, gga] := all
  have namedGsa : sentenceNamed (ascii "$GPGSA") [gsa, vtg, rmc, gga] = some gsa := by
    rw [sentenceNamed, List.find?_cons, head?_gpgsa sentGsa]
    rfl
  have namedGga : sentenceNamed (ascii "$GPGGA") [gsa, vtg, rmc, gga] = some gga := by
    simp only [sentenceNamed, List.find?_cons, head?_gpgsa sentGsa, head?_gpvtg sentVtg,
      head?_gprmc sentRmc, head?_gpgga sentGga]
    rfl
  obtain ⟨rest, fields⟩ := nmeaFields_gpgsa sentGsa
  have type : (nmeaFields gsa).getD 2 [] = fixTypeText (svUsedList cache.svUsedMask).length := by
    rw [fields]
    rfl
  have list : ((nmeaFields gsa).drop 3).take 12 =
      (List.range 12).map (usedField (svUsedList cache.svUsedMask)) := by
    rw [fields]
    exact List.take_left' (by simp)
  rw [sentences]
  simp only [readUsed, namedGsa, namedGga, type, list, gpgga_count sentGga,
    (readInt_fixTypeText _).1, readNumbers_usedField, readInt_formatInt, Option.bind_eq_bind,
    Option.bind_some, Option.pure_def]

/-- **A reader gets the satellites that were used, exactly if there are twelve of them at
most.** -/
theorem usedDecodes_iff (standalone : Bool)
    (floats : AreFloats cache locationExtended location) :
    UsedDecodes ((PrintedReport.pos location).sentences standalone cache locationExtended)
        cache.svUsedMask ↔ (svUsedList cache.svUsedMask).length ≤ 12 := by
  have told := readUsed_pos standalone floats
  generalize used : svUsedList cache.svUsedMask = svs at told ⊢
  have listed (bit : ℕ) (list : List ℕ) :
      (bit + 1 : ℤ) ∈ list.map (fun sv : ℕ => (sv : ℤ)) ↔ bit + 1 ∈ list := by
    constructor
    · intro member
      obtain ⟨sv, among, same⟩ := List.mem_map.mp member
      have number : sv = bit + 1 := by exact_mod_cast same
      exact number ▸ among
    · intro among
      exact List.mem_map.mpr ⟨bit + 1, among, by push_cast; rfl⟩
  constructor
  · rintro ⟨other, read, -, count, -⟩
    obtain rfl := Option.some.inj (told.symm.trans read)
    dsimp only at count
    rw [List.length_map, List.length_take] at count
    omega
  · intro few
    have whole : svs.take 12 = svs := List.take_of_length_le few
    rw [whole] at told
    refine ⟨_, told, ?_, ?_, fun bit => ?_⟩
    · rw [List.length_map]
    · rw [List.length_map]
    · rw [listed, ← used, mem_svUsedList]

end Report

/-- Thirteen satellites are too many. -/
theorem usedDecodes_iff_thirteen :
    ¬ UsedDecodes ((PrintedReport.pos atPole).sentences true ⟨0x1FFF, 0, 0, 0⟩ nothingExtended)
      0x1FFF := fun decodes =>
  absurd ((usedDecodes_iff true (show AreFloats ⟨0x1FFF, 0, 0, 0⟩ nothingExtended atPole by
    constructor <;> decide)).mp decodes) (by decide)

end Msm8660.Gps
