import Msm8660.Lib.Checksum
import Msm8660.Gps.LocCfg
import Msm8660.Gps.NmeaLengths

/-!
# A receiver that checks the checksum

`readSentence` is a receiver of NMEA sentences: it takes the text between `$` and the last five
bytes, if these are `*`, the hexadecimal digits of the text's checksum, in either case, and the
end of the line. It accepts every sentence that is generated for a report, and when one byte of
it has been changed on the way, whichever it is, it rejects the sentence or gets the same text
(`sentences_readSafely`).
-/

set_option autoImplicit false

namespace Msm8660.Gps

/-! ## The receiver -/

/-- The number that two hexadecimal digits tell. -/
def readHex (high low : UInt8) : Option ℕ :=
  (digit 16 high).bind fun sixteens => (digit 16 low).map fun ones => 16 * sixteens + ones

/-- The exclusive or of the bytes. -/
def nmeaChecksum (text : List UInt8) : UInt8 := text.foldl (· ^^^ ·) 0

/-- The text of a sentence, if its form and its checksum are right. -/
def readSentence : List UInt8 → Option (List UInt8)
  | [] => none
  | start :: rest =>
      let text := rest.take (rest.length - 5)
      match rest.drop (rest.length - 5) with
      | [star, high, low, cr, lf] =>
          if start = 36 ∧ star = 42 ∧ readHex high low = some (nmeaChecksum text).toNat ∧
              cr = 13 ∧ lf = 10 then some text
          else none
      | _ => none

/-- What is accepted: a text in its frame, with the digits of its checksum. -/
theorem readSentence_eq_some_iff {sentence text : List UInt8} :
    readSentence sentence = some text ↔ ∃ high low,
      sentence = 36 :: text ++ [42, high, low, 13, 10] ∧
        readHex high low = some (nmeaChecksum text).toNat := by
  constructor
  · intro read
    cases sentence with
    | nil => cases read
    | cons start rest =>
        simp only [readSentence] at read
        split at read
        · next star high low cr lf ending =>
            split at read
            · next right =>
                obtain ⟨rfl, rfl, checked, rfl, rfl⟩ := right
                obtain rfl := Option.some.inj read
                refine ⟨high, low, ?_, checked⟩
                rw [← ending, List.cons_append, List.take_append_drop]
            · cases read
        · cases read
  · rintro ⟨high, low, rfl, checked⟩
    have length : (text ++ [42, high, low, 13, 10]).length - 5 = text.length := by simp
    simp only [List.cons_append, readSentence, length, List.take_left', List.drop_left', checked,
      and_self, if_true]

/-- Two digits are printed and read back. -/
theorem readHex_formatHex (byte : UInt8) :
    ∃ high low, formatHex byte = [high, low] ∧ readHex high low = some byte.toNat := by
  have all : ∀ n < 256, (digit 16 ((formatHex (UInt8.ofNat n)).getD 0 0)).bind (fun sixteens =>
      (digit 16 ((formatHex (UInt8.ofNat n)).getD 1 0)).map fun ones => 16 * sixteens + ones) =
        some n := by decide +kernel
  refine ⟨_, _, rfl, ?_⟩
  have read := all byte.toNat byte.toNat_lt
  rw [UInt8.ofNat_toNat] at read
  exact read

/-- **A sentence with its checksum is accepted.** -/
theorem readSentence_putChecksum (text : List UInt8) :
    readSentence (locEngNmeaPutChecksum (36 :: text)) = some text := by
  obtain ⟨high, low, printed, checked⟩ := readHex_formatHex (nmeaChecksum text)
  refine readSentence_eq_some_iff.mpr ⟨high, low, ?_, checked⟩
  have digits : formatHex (((36 :: text).drop 1).foldl (· ^^^ ·) 0) = [high, low] := printed
  rw [locEngNmeaPutChecksum, digits, List.append_assoc]
  rfl

/-- **No changed byte makes another text of a sentence**: a change in the text does not go with
the checksum, and a change in the frame leaves the text. -/
theorem readSentence_set {sentence text told : List UInt8}
    (read : readSentence sentence = some text) (place : ℕ) (byte : UInt8)
    (accepted : readSentence (sentence.set place byte) = some told) : told = text := by
  obtain ⟨high, low, rfl, checked⟩ := readSentence_eq_some_iff.mp read
  obtain ⟨high', low', changed, checked'⟩ := readSentence_eq_some_iff.mp accepted
  have lengths : told.length = text.length := by
    have both := congrArg List.length changed
    simp only [List.length_set, List.length_append, List.length_cons, List.length_nil] at both
    omega
  rw [List.set_append] at changed
  split at changed
  · next inside =>
      obtain ⟨texts, frames⟩ := List.append_inj changed (by simp [lengths])
      cases place with
      | zero =>
          rw [List.set_cons_zero] at texts
          exact (List.cons.inj texts).2.symm
      | succ place =>
          rw [List.set_cons_succ] at texts
          have within : place < text.length := Nat.lt_of_succ_lt_succ inside
          obtain rfl : text.set place byte = told := (List.cons.inj texts).2
          obtain ⟨rfl, rfl⟩ : high = high' ∧ low = low' := by simpa using frames
          have sums : nmeaChecksum (text.set place byte) = nmeaChecksum text :=
            UInt8.toNat_inj.mp (Option.some.inj (checked'.symm.trans checked))
          rw [(telling_xor.foldl_set_eq_iff within 0 byte).mp sums, List.set_getElem_self]
  · obtain ⟨texts, -⟩ := List.append_inj changed (by simp [lengths])
    exact (List.cons.inj texts).2.symm

/-! ## What is generated -/

/-- A body that begins with `$`, and its checksum. -/
def IsChecked (sentence : List UInt8) : Prop :=
  ∃ text, sentence = locEngNmeaPutChecksum (36 :: text)

/-- A sentence is generated from pieces of which the first begins with `$`. -/
theorem isChecked_of_checkedSentence {first last sentence : List UInt8}
    {pieces : List (List UInt8)} (start : first.head? = some 36)
    (sent : checkedSentence (first :: pieces) last = some sentence) : IsChecked sentence := by
  obtain ⟨-, rfl⟩ := checkedSentence_eq_some sent
  cases first with
  | nil => cases start
  | cons dollar text =>
      obtain rfl : dollar = 36 := Option.some.inj start
      exact ⟨_, rfl⟩

/-- A text behind a name begins as the name does. -/
theorem head?_append_name {name : List UInt8} (start : name.head? = some 36)
    (rest : List UInt8) : (name ++ rest).head? = some 36 := by
  rw [List.head?_append, start, Option.some_or]

theorem isChecked_gpgsv {svStatus : GpsSvStatus} {sentenceCount before : ℕ}
    {sentence : List UInt8} (sent : gpgsv svStatus sentenceCount before = some sentence) :
    IsChecked sentence := by
  refine isChecked_of_checkedSentence ?_ sent
  simp only [List.append_assoc]
  exact head?_append_name (by decide) _

/-- The sentences of a satellite report. -/
theorem isChecked_svSentences {svStatus : GpsSvStatus} {sentence : List UInt8}
    (listed : some sentence ∈ svSentences svStatus) : IsChecked sentence := by
  unfold svSentences at listed
  dsimp only at listed
  split at listed
  · obtain rfl := Option.some.inj (List.mem_singleton.mp listed)
    exact ⟨ascii "GPGSV,1,1,0,", by decide⟩
  · obtain ⟨before, -, sent⟩ := List.mem_map.mp listed
    exact isChecked_gpgsv sent

/-- The sentences of a position report. -/
theorem isChecked_posSentences {standalone : Bool} {used : List ℕ} {cached : Option Dop}
    {location : GpsLocation} {locationExtended : GpsLocationExtended} {sentence : List UInt8}
    (listed : some sentence ∈ posSentences standalone used cached location locationExtended) :
    IsChecked sentence := by
  simp only [posSentences, List.mem_cons, List.not_mem_nil, or_false] at listed
  have named {name middle behind last : List UInt8} {pieces : List (List UInt8)}
      (start : name.head? = some 36)
      (sent : some sentence = checkedSentence ((name ++ middle ++ behind) :: pieces) last) :
      IsChecked sentence :=
    isChecked_of_checkedSentence (head?_append_name (head?_append_name start middle) behind)
      sent.symm
  rcases listed with gsa | vtg | rmc | gga
  · exact named (by decide) gsa
  · refine isChecked_of_checkedSentence ?_ vtg.symm
    split
    · simp only [List.append_assoc]
      exact head?_append_name (by decide) _
    · decide
  · exact named (by decide) rmc
  · exact named (by decide) gga

theorem isChecked_blankSentences {sentence : List UInt8} (listed : sentence ∈ blankSentences) :
    IsChecked sentence := by
  simp only [blankSentences, List.mem_cons, List.not_mem_nil, or_false] at listed
  rcases listed with rfl | rfl | rfl | rfl
  · exact ⟨ascii "GPGSA,A,1,,,,,,,,,,,,,,,", by decide⟩
  · exact ⟨ascii "GPVTG,,T,,M,,N,,K,N", by decide⟩
  · exact ⟨ascii "GPRMC,,V,,,,,,,,,,N", by decide⟩
  · exact ⟨ascii "GPGGA,,,,,,0,,,,,,,,", by decide⟩

theorem mem_of_mem_sentUpToError {sentences : List (Option (List UInt8))}
    {sentence : List UInt8} (sent : sentence ∈ sentUpToError sentences) :
    some sentence ∈ sentences := by
  rw [sentUpToError, List.reduceOption_mem_iff] at sent
  exact List.takeWhile_subset _ sent

/-- **Every sentence that is generated begins with `$` and ends with its checksum.** -/
theorem isChecked_sentences {standalone : Bool} {cache : NmeaCache}
    {locationExtended : GpsLocationExtended} {report : PrintedReport} {sentence : List UInt8}
    (sent : sentence ∈ report.sentences standalone cache locationExtended) :
    IsChecked sentence := by
  cases report with
  | pos location => exact isChecked_posSentences (mem_of_mem_sentUpToError sent)
  | sv svStatus =>
      rw [PrintedReport.sentences] at sent
      unfold locEngNmeaGenerateSv at sent
      dsimp only at sent
      split at sent
      · split at sent
        · rcases List.mem_append.mp sent with here | blank
          · exact isChecked_svSentences (mem_of_mem_sentUpToError here)
          · exact isChecked_blankSentences blank
        · exact isChecked_svSentences (mem_of_mem_sentUpToError sent)
      · exact isChecked_svSentences (mem_of_mem_sentUpToError sent)

/-- **Every sentence of every report is read back, and none is mistaken for another when one of
its bytes has been changed.** -/
theorem sentences_readSafely (standalone : Bool) (cache : NmeaCache)
    (locationExtended : GpsLocationExtended) (report : PrintedReport) :
    ∀ sentence ∈ report.sentences standalone cache locationExtended,
      ∃ text, sentence = locEngNmeaPutChecksum (36 :: text) ∧ readSentence sentence = some text ∧
        ∀ place byte, ∀ told ∈ readSentence (sentence.set place byte), told = text := by
  intro sentence sent
  obtain ⟨text, rfl⟩ := isChecked_sentences sent
  have read := readSentence_putChecksum text
  exact ⟨text, rfl, read, fun place byte told accepted =>
    readSentence_set read place byte accepted⟩

theorem sentences_readSafely_noSatellite :
    ∃ text, ascii "$GPGSV,1,1,0,*65\r\n" = locEngNmeaPutChecksum (36 :: text) ∧
      readSentence (ascii "$GPGSV,1,1,0,*65\r\n") = some text ∧
        ∀ place byte, ∀ told ∈ readSentence ((ascii "$GPGSV,1,1,0,*65\r\n").set place byte),
          told = text :=
  sentences_readSafely true ⟨0, 0, 0, 0⟩ aboveSea (.sv { wideSatellites with numSvs := 0 }) _
    (by decide +kernel)

end Msm8660.Gps
