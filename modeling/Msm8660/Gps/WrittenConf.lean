import Msm8660.Gps.MissingValues
import Msm8660.Lib.Fields

/-!
# A configuration that is written and read back

The lines of a file that name the same parameter overwrite each other, so `loc_read_conf` leaves
in an entry what the last piece of the file that names it says, and in its flag whether there is
one (`lastPiece_decides`). A table whose entries fit the buffer of `loc_read_conf` can be written
to a file, a line for each, and is then read back, whatever the entries have been before
(`writtenConf_read`).
-/

set_option autoImplicit false

namespace Msm8660.Gps

/-! ## The last line that names a parameter -/

section LastSetting

variable {Double : Type*}

/-- Whether a parameter receives anything depends on its type alone. -/
theorem isSome_written (configValue other : LocParamV Double) (paramType : UInt8) :
    (configValue.written paramType).isSome = (other.written paramType).isSome := by
  unfold LocParamV.written
  split
  · rfl
  · split
    · rfl
    · split <;> rfl

/-- An entry that is written twice has what was written last. -/
theorem locSetConfigEntry_overwritten {configEntry : LocParamS Double}
    {earlier later : LocParamV Double} (same : earlier.paramName = later.paramName) :
    locSetConfigEntry (locSetConfigEntry configEntry earlier) later =
      locSetConfigEntry configEntry later := by
  obtain ⟨name, param, paramSet, type⟩ := configEntry
  by_cases named : name = later.paramName
  · cases param with
    | none => simp only [locSetConfigEntry_eq, Option.isSome_none, Bool.false_eq_true, and_false,
        if_false]
    | some value =>
        have kinds := isSome_written earlier later type
        rw [locSetConfigEntry_eq ⟨name, some value, paramSet, type⟩,
          locSetConfigEntry_eq ⟨name, some value, paramSet, type⟩,
          if_pos ⟨named.trans same.symm, rfl⟩, if_pos ⟨named, rfl⟩]
        cases first : earlier.written type with
        | none =>
            rw [first, Option.isSome_none, eq_comm, Option.isSome_eq_false_iff,
              Option.isNone_iff_eq_none] at kinds
            simp only [locSetConfigEntry_eq, kinds, named, Option.isSome_some, and_self, if_true]
        | some text =>
            rw [first, Option.isSome_some, eq_comm, Option.isSome_iff_exists] at kinds
            obtain ⟨last, written⟩ := kinds
            simp only [locSetConfigEntry_eq, written, named, Option.isSome_some, and_self, if_true,
              Option.map_map]
            rfl
  · rw [locSetConfigEntry_other fun first => named (first.trans same),
      locSetConfigEntry_other named]

/-- A variable of `loc_parameter_table` that is named. -/
theorem setParameter_named (configValue : LocParamV Double) (variable_ : UInt8) :
    setParameter configValue.paramName variable_ configValue =
      UInt8.ofInt configValue.paramIntValue := by
  rw [setParameter, locSetConfigEntry_eq, if_pos ⟨rfl, rfl⟩]
  rfl

variable [Zero Double] (atof : List UInt8 → Double)

/-- What the last of the lines that name a parameter says of it. -/
def lastSetting (name : List UInt8) (fileLines : List (List UInt8)) :
    Option (LocParamV Double) :=
  ((fileLines.filterMap operands).filter fun setting => setting.1 = name).getLast?.map
    fun setting => parseValue atof setting.1 setting.2

/-- An entry with what the lines say of it. -/
def LocParamS.settled (entry : LocParamS Double) (fileLines : List (List UInt8)) :
    LocParamS Double :=
  match lastSetting atof entry.paramName fileLines with
  | none => entry
  | some configValue => locSetConfigEntry entry configValue

/-- A variable of `loc_parameter_table` with what the lines say of it. -/
def settledVariable (name : List UInt8) (variable_ : UInt8) (fileLines : List (List UInt8)) :
    UInt8 :=
  match lastSetting atof name fileLines with
  | none => variable_
  | some configValue => UInt8.ofInt configValue.paramIntValue

theorem lastSetting_paramName {name : List UInt8} {fileLines : List (List UInt8)}
    {configValue : LocParamV Double}
    (last : lastSetting atof name fileLines = some configValue) :
    configValue.paramName = name := by
  obtain ⟨setting, found, rfl⟩ := Option.map_eq_some_iff.mp last
  have named := (List.mem_filter.mp (List.mem_of_getLast? found)).2
  rw [parseValue_paramName]
  exact of_decide_eq_true named

/-- A line behind the others decides if it names the parameter. -/
theorem lastSetting_concat (name : List UInt8) (fileLines : List (List UInt8))
    (line : List UInt8) :
    lastSetting atof name (fileLines ++ [line]) =
      match operands line with
      | none => lastSetting atof name fileLines
      | some (found, value) =>
          if found = name then some (parseValue atof found value)
          else lastSetting atof name fileLines := by
  unfold lastSetting
  rw [List.filterMap_append, List.filter_append]
  cases here : operands line with
  | none => simp only [List.filterMap_cons, here, List.filterMap_nil, List.filter_nil,
      List.append_nil]
  | some setting =>
      obtain ⟨found, value⟩ := setting
      simp only [List.filterMap_cons, here, List.filterMap_nil]
      by_cases named : found = name
      · rw [List.filter_cons_of_pos (by simpa using named), List.filter_nil, if_pos named,
          List.getLast?_concat, Option.map_some]
      · rw [List.filter_cons_of_neg (by simpa using named), List.filter_nil, if_neg named,
          List.append_nil]

/-- One more line writes the entry that it names. -/
theorem LocParamS.settled_concat (entry : LocParamS Double) (fileLines : List (List UInt8))
    {line : List UInt8} {found value : List UInt8} (here : operands line = some (found, value)) :
    entry.settled atof (fileLines ++ [line]) =
      locSetConfigEntry (entry.settled atof fileLines) (parseValue atof found value) := by
  have kept : (entry.settled atof fileLines).paramName = entry.paramName := by
    unfold LocParamS.settled
    split
    · rfl
    · exact locSetConfigEntry_paramName _ _
  by_cases named : found = entry.paramName
  · have last : lastSetting atof entry.paramName (fileLines ++ [line]) =
        some (parseValue atof found value) := by
      simp only [lastSetting_concat, here, if_pos named]
    simp only [LocParamS.settled, last]
    split
    · rfl
    · next earlier before =>
        rw [locSetConfigEntry_overwritten]
        rw [lastSetting_paramName atof before, parseValue_paramName, named]
  · have last : lastSetting atof entry.paramName (fileLines ++ [line]) =
        lastSetting atof entry.paramName fileLines := by
      simp only [lastSetting_concat, here, if_neg named]
    rw [locSetConfigEntry_other]
    · simp only [LocParamS.settled, last]
    · rw [kept, parseValue_paramName]
      exact fun same => named same.symm

/-- One more line writes the variable that it names. -/
theorem settledVariable_concat (name : List UInt8) (variable_ : UInt8)
    (fileLines : List (List UInt8)) {line : List UInt8} {found value : List UInt8}
    (here : operands line = some (found, value)) :
    settledVariable atof name variable_ (fileLines ++ [line]) =
      setParameter name (settledVariable atof name variable_ fileLines)
        (parseValue atof found value) := by
  by_cases named : found = name
  · have written := setParameter_named (parseValue atof found value)
      (settledVariable atof name variable_ fileLines)
    rw [parseValue_paramName, named] at written
    rw [named, written]
    simp only [settledVariable, lastSetting_concat, here, named, if_true]
  · rw [setParameter_other (by rw [parseValue_paramName]; exact fun same => named same.symm)]
    simp only [settledVariable, lastSetting_concat, here, if_neg named]

/-- **What lines leave**, one after the other, is what the last of them that names it says. -/
theorem foldl_applyLine (conf : LocConf Double) (fileLines : List (List UInt8)) :
    fileLines.foldl (applyLine atof) conf =
      { configTable := conf.configTable.map fun entry => entry.settled atof fileLines
        debugLevel := settledVariable atof debugLevelName conf.debugLevel fileLines
        timestamp := settledVariable atof timestampName conf.timestamp fileLines } := by
  induction fileLines using List.reverseRecOn with
  | nil =>
      obtain ⟨table, level, stamp⟩ := conf
      have same : table.map (fun entry => entry.settled atof []) = table := List.map_id _
      rw [same]
      rfl
  | append_singleton fileLines line ih =>
      rw [List.foldl_append, List.foldl_cons, List.foldl_nil, ih, applyLine]
      cases here : operands line with
      | none =>
          simp only [LocParamS.settled, settledVariable, lastSetting_concat, here]
      | some setting =>
          obtain ⟨found, value⟩ := setting
          simp only [List.map_map, Function.comp_def, LocParamS.settled_concat atof _ _ here,
            settledVariable_concat atof _ _ _ here]

/-- An entry with its flag cleared. -/
def LocParamS.cleared (entry : LocParamS Double) : LocParamS Double :=
  { entry with paramSet := entry.paramSet.map fun _ => false }

/-- **The last piece that names a parameter decides**, for every file and every table: an entry
that no piece names keeps its value with its flag cleared, and the two variables their
defaults. -/
theorem lastPiece_decides (conf : LocConf Double) (content : List UInt8) :
    (locReadConf atof conf (some content)).1 =
      let read := pieces locMaxParamLine content
      { configTable := conf.configTable.map fun entry => entry.cleared.settled atof read
        debugLevel := settledVariable atof debugLevelName 3 read
        timestamp := settledVariable atof timestampName 0 read } := by
  rw [locReadConf, foldl_applyLine]
  simp only [LocConf.clearValidity, LocConf.locDefaultParameters, List.map_map]
  rfl

end LastSetting

/-! ## Words -/

/-- A text that can be the name or the value of a line: it has no white space at its ends and
none of the bytes that end a token, a line or a string. -/
structure IsWord (text : List UInt8) : Prop where
  begins : ∃ byte ∈ text.head?, isspace byte = false
  ends : ∃ byte ∈ text.getLast?, isspace byte = false
  oneToken : 61 ∉ text
  oneLine : newline ∉ text
  unended : 0 ∉ text

instance (text : List UInt8) : Decidable (IsWord text) :=
  decidable_of_iff ((∃ byte ∈ text.head?, isspace byte = false) ∧
      (∃ byte ∈ text.getLast?, isspace byte = false) ∧ 61 ∉ text ∧ newline ∉ text ∧ 0 ∉ text)
    ⟨fun ⟨begins, ends, oneToken, oneLine, unended⟩ =>
        ⟨begins, ends, oneToken, oneLine, unended⟩,
      fun word => ⟨word.begins, word.ends, word.oneToken, word.oneLine, word.unended⟩⟩

/-- **Spaces around a word are trimmed.** -/
theorem IsWord.trimSpace_padded {text : List UInt8} (word : IsWord text)
    {before after : List UInt8} (left : ∀ byte ∈ before, isspace byte = true)
    (right : ∀ byte ∈ after, isspace byte = true) :
    trimSpace (before ++ text ++ after) = text := by
  obtain ⟨first, begins, visible⟩ := word.begins
  obtain ⟨last, ends, visible'⟩ := word.ends
  have notAll : ¬ (before ++ text ++ after).all isspace = true := by
    intro all
    have space := List.all_eq_true.mp all first (List.mem_append_left _
      (List.mem_append_right _ (List.mem_of_head? begins)))
    rw [visible] at space
    cases space
  have front : (before ++ text ++ after).dropWhile isspace = text ++ after := by
    rw [List.append_assoc, List.dropWhile_append_of_pos left]
    cases text with
    | nil => cases begins
    | cons byte rest =>
        obtain rfl : byte = first := Option.some.inj begins
        rw [List.cons_append, List.dropWhile_cons_of_neg (by simp [visible])]
  have back : (text ++ after).rdropWhile isspace = text := by
    obtain ⟨rest, rfl⟩ := List.getLast?_eq_some_iff.mp ends
    rw [List.rdropWhile, List.reverse_append,
      List.dropWhile_append_of_pos fun byte member => right byte (List.mem_reverse.mp member),
      List.reverse_concat, List.dropWhile_cons_of_neg (by simp [visible']), List.reverse_cons,
      List.reverse_reverse]
  rw [trimSpace, if_neg notAll, front, back]

/-- What `%d` prints is a word. -/
theorem isWord_formatInt (width : ℕ) (n : ℤ) : IsWord (formatInt width n) := by
  have some_ := formatInt_ne_nil width n
  have visible : ∀ byte ∈ formatInt width n, isspace byte = false ∧ byte ≠ 61 ∧ byte ≠ newline ∧
      byte ≠ 0 := by
    intro byte member
    have code : byte = 45 ∨ 48 ≤ byte ∧ byte ≤ 57 := isDigit_of_mem_formatInt member
    simp only [isspace, newline, decide_eq_false_iff_not]
    simp only [UInt8.le_iff_toNat_le, ← UInt8.toNat_inj, ne_eq] at code ⊢
    change byte.toNat = 45 ∨ 48 ≤ byte.toNat ∧ byte.toNat ≤ 57 at code
    change ¬ (byte.toNat = 32 ∨ 9 ≤ byte.toNat ∧ byte.toNat ≤ 13) ∧ ¬ byte.toNat = 61 ∧
      ¬ byte.toNat = 10 ∧ ¬ byte.toNat = 0
    omega
  refine ⟨⟨_, List.head?_eq_some_head some_, (visible _ (List.head_mem some_)).1⟩,
    ⟨_, List.getLast?_eq_some_getLast some_, (visible _ (List.getLast_mem some_)).1⟩, ?_, ?_, ?_⟩
  · exact fun member => (visible _ member).2.1 rfl
  · exact fun member => (visible _ member).2.2.1 rfl
  · exact fun member => (visible _ member).2.2.2 rfl

/-! ## Numbers -/

theorem digit_of_isDigit {byte : UInt8} (isDigit : IsDigit byte) :
    digit 10 byte = some (byte.toNat - 48) := by
  have range : 48 ≤ byte.toNat ∧ byte.toNat ≤ 57 :=
    ⟨UInt8.le_iff_toNat_le.mp isDigit.1, UInt8.le_iff_toNat_le.mp isDigit.2⟩
  have small : tolower byte = byte := by
    rw [tolower, if_neg]
    rintro ⟨above, -⟩
    have letter : 65 ≤ byte.toNat := UInt8.le_iff_toNat_le.mp above
    omega
  have below : byte.toNat - 48 < 10 := by omega
  have found : (48 : UInt8) ≤ byte ∧ byte ≤ 57 := isDigit
  simp only [digit, small, if_pos found, if_pos below]

/-- All the digits of a text are read. -/
theorem digits_eq_foldl (value : ℕ) {text : List UInt8} (all : ∀ byte ∈ text, IsDigit byte) :
    digits 10 value text = text.foldl (fun value byte => 10 * value + (byte.toNat - 48)) value := by
  induction text generalizing value with
  | nil => rfl
  | cons byte rest ih =>
      obtain ⟨isDigit, others⟩ := List.forall_mem_cons.mp all
      rw [digits, digit_of_isDigit isDigit, List.foldl_cons, Nat.mul_comm 10 value]
      exact ih _ others

/-- **`atoi` reads back what `%d` prints**, if it fits a `long`. -/
theorem atoi_formatInt {n : ℤ} (least : -2147483648 ≤ n) (most : n ≤ 2147483647) :
    atoi (formatInt 0 n) = n := by
  have read : digits 10 0 (padZero 0 (decimal n.natAbs)) = n.natAbs := by
    rw [digits_eq_foldl 0 fun _ member => isDigit_of_mem_padZero member, foldl_padZero]
  have kept : (formatInt 0 n).dropWhile isspace = formatInt 0 n := by
    obtain ⟨byte, begins, visible⟩ := (isWord_formatInt 0 n).begins
    cases text : formatInt 0 n with
    | nil => rfl
    | cons first rest =>
        rw [text] at begins
        obtain rfl : first = byte := Option.some.inj begins
        rw [List.dropWhile_cons_of_neg (by simp [visible])]
  have decimalBase : ¬ (10 : ℕ) = 16 := by decide
  simp only [atoi, strtol, kept, decimalBase, false_and, if_false]
  by_cases negative : n < 0
  · have text : formatInt 0 n = 45 :: padZero 0 (decimal n.natAbs) := if_pos negative
    simp only [text, List.head?_cons, true_or, if_true, List.drop_succ_cons, List.drop_zero, read]
    omega
  · have text : formatInt 0 n = padZero 0 (decimal n.natAbs) := if_neg negative
    have unsigned : ∀ sign ∈ (formatInt 0 n).head?, IsDigit sign := by
      intro sign begins
      rw [text] at begins
      exact isDigit_of_mem_padZero (List.mem_of_head? begins)
    have plus : ¬ (formatInt 0 n).head? = some 43 := fun sign =>
      absurd (unsigned 43 sign) (by decide)
    have minus : ¬ (formatInt 0 n).head? = some 45 := fun sign =>
      absurd (unsigned 45 sign) (by decide)
    simp only [plus, minus, or_self, if_false]
    rw [text, read]
    omega

/-! ## Settings and lines -/

/-- A line that gives a value to a name. -/
def settingLine (setting : List UInt8 × List UInt8) : List UInt8 :=
  setting.1 ++ [32] ++ 61 :: ([32] ++ setting.2 ++ [newline])

/-- The name and the value are words, and the line fits the buffer with its newline. -/
structure FitsLine (setting : List UInt8 × List UInt8) : Prop where
  name : IsWord setting.1
  value : IsWord setting.2
  fits : (settingLine setting).length ≤ locMaxParamLine - 1

instance (setting : List UInt8 × List UInt8) : Decidable (FitsLine setting) :=
  decidable_of_iff (IsWord setting.1 ∧ IsWord setting.2 ∧
      (settingLine setting).length ≤ locMaxParamLine - 1)
    ⟨fun ⟨name, value, fits⟩ => ⟨name, value, fits⟩,
      fun fits => ⟨fits.name, fits.value, fits.fits⟩⟩

section Settings

variable {setting : List UInt8 × List UInt8} {settings : List (List UInt8 × List UInt8)}

theorem FitsLine.length_value (fit : FitsLine setting) :
    setting.2.length ≤ locMaxParamString + 1 - 1 := by
  have fits := fit.fits
  simp only [settingLine, List.length_append, List.length_cons, List.length_nil,
    locMaxParamLine] at fits
  rw [locMaxParamString]
  omega

/-- **A line is read as its name and its value.** -/
theorem FitsLine.operands_eq (fit : FitsLine setting) :
    operands (settingLine setting) = some setting := by
  obtain ⟨name, value⟩ := setting
  have space : ∀ byte ∈ [(32 : UInt8)], isspace byte = true :=
    List.forall_mem_singleton.mpr (by decide)
  have ending : ∀ byte ∈ [newline], isspace byte = true :=
    List.forall_mem_singleton.mpr (by decide)
  have whole : (settingLine (name, value)).takeWhile (· ≠ 0) = settingLine (name, value) := by
    refine List.takeWhile_eq_self_iff.mpr (decide_ne_of_notMem ?_)
    simp [settingLine, fit.name.unended, fit.value.unended, newline]
  have left : strtok 61 (settingLine (name, value)) =
      some (name ++ [32], [32] ++ value ++ [newline]) :=
    strtok_append (by simp) (by simp [fit.name.oneToken]) _
  have right : strtok 61 ([32] ++ value ++ [newline]) = some ([32] ++ value ++ [newline], []) := by
    rw [strtok_of_notMem (by simp [fit.value.oneToken, newline]), if_neg (by simp)]
  have nameTrimmed : trimSpace (name ++ [32]) = name :=
    fit.name.trimSpace_padded (List.forall_mem_nil _) space
  have valueTrimmed : trimSpace ([32] ++ value ++ [newline]) = value :=
    fit.value.trimSpace_padded space ending
  rw [operands, whole, left, Option.bind_some]
  simp only [right, Option.map_some, nameTrimmed, valueTrimmed]

/-- The next line is read where this one ends. -/
theorem FitsLine.pieces_eq (fit : FitsLine setting) (later : List UInt8) :
    pieces locMaxParamLine (settingLine setting ++ later) =
      settingLine setting :: pieces locMaxParamLine later := by
  have inside : newline ∉ setting.1 ++ [32] ++ 61 :: ([32] ++ setting.2) := by
    have left : 10 ∉ setting.1 := fit.name.oneLine
    have right : 10 ∉ setting.2 := fit.value.oneLine
    simp [left, right, newline]
  have split : settingLine setting =
      (setting.1 ++ [32] ++ 61 :: ([32] ++ setting.2)) ++ [newline] := by
    simp [settingLine]
  have fits := fit.fits
  rw [split] at fits ⊢
  rw [List.append_assoc _ [newline], List.singleton_append]
  exact pieces_append_line (by decide) inside fits later

/-- **A file of settings is read as the settings.** -/
theorem filterMap_operands_pieces (fit : ∀ setting ∈ settings, FitsLine setting) :
    (pieces locMaxParamLine (settings.flatMap settingLine)).filterMap operands = settings := by
  induction settings with
  | nil => rfl
  | cons setting rest ih =>
      obtain ⟨here, others⟩ := List.forall_mem_cons.mp fit
      rw [List.flatMap_cons, here.pieces_eq, List.filterMap_cons_some here.operands_eq, ih others]

end Settings

/-! ## Tables -/

/-- The value of a line is read as a hexadecimal number. -/
def IsHex (value : List UInt8) : Prop :=
  value.head? = some 48 ∧ (value.drop 1).head?.map tolower = some 120

instance (value : List UInt8) : Decidable (IsHex value) := inferInstanceAs (Decidable (_ ∧ _))

/-- No decimal number is hexadecimal. -/
theorem not_isHex_formatInt (width : ℕ) (n : ℤ) : ¬ IsHex (formatInt width n) := by
  rintro ⟨-, hex⟩
  obtain ⟨byte, second, letter⟩ := Option.map_eq_some_iff.mp hex
  have code := isDigit_of_mem_formatInt
    (List.mem_of_mem_drop (List.mem_of_head? second))
  unfold tolower at letter
  rcases code with rfl | ⟨least, most⟩
  · exact absurd letter (by decide)
  · have above : byte.toNat ≤ 57 := UInt8.le_iff_toNat_le.mp most
    split at letter
    · next upper =>
        have below : 65 ≤ byte.toNat := UInt8.le_iff_toNat_le.mp upper.1
        omega
    · rw [letter] at above
      exact absurd above (by decide)

section Tables

variable {Double : Type*} (atof : List UInt8 → Double) (print : Double → List UInt8)

/-- The text of a value. `NULL` is the empty string. -/
def ParamValue.text : ParamValue Double → List UInt8
  | .string text => if text = [] then ascii "NULL" else text
  | .int value => formatInt 0 value
  | .double value => print value

/-- The type of an entry is that of its value, and the value can be told from its text. -/
def ParamValue.Told (paramType : UInt8) : ParamValue Double → Prop
  | .string text => paramType = 115 ∧ text ≠ ascii "NULL"
  | .int value => paramType = 110 ∧ -2147483648 ≤ value ∧ value ≤ 2147483647
  | .double value => paramType = 102 ∧ atof (print value) = value ∧ ¬ IsHex (print value)

/-- The name and the text of the value of an entry. -/
def LocParamS.setting (entry : LocParamS Double) : Option (List UInt8 × List UInt8) :=
  entry.param.map fun value => (entry.paramName, value.text print)

/-- A line for each entry that points to a parameter. -/
def writtenConf (table : List (LocParamS Double)) : List UInt8 :=
  (table.flatMap fun entry => (entry.setting print).toList).flatMap settingLine

/-- The entry can be written. -/
structure LocParamS.Writable (entry : LocParamS Double) : Prop where
  told : ∀ value ∈ entry.param, value.Told atof print entry.paramType
  fits : ∀ setting ∈ entry.setting print, FitsLine setting

/-- What does not change when a file is read: the name and the type of an entry, and which
pointers it has. -/
def LocParamS.slot (entry : LocParamS Double) : List UInt8 × UInt8 × Bool × Bool :=
  (entry.paramName, entry.paramType, entry.param.isSome, entry.paramSet.isSome)

instance [DecidableEq Double] (paramType : UInt8) (value : ParamValue Double) :
    Decidable (value.Told atof print paramType) :=
  match value with
  | .string _ => inferInstanceAs (Decidable (_ ∧ _))
  | .int _ => inferInstanceAs (Decidable (_ ∧ _ ∧ _))
  | .double _ => inferInstanceAs (Decidable (_ ∧ _ ∧ _))

instance [DecidableEq Double] (entry : LocParamS Double) :
    Decidable (entry.Writable atof print) :=
  decidable_of_iff ((∀ value ∈ entry.param, value.Told atof print entry.paramType) ∧
      ∀ setting ∈ entry.setting print, FitsLine setting)
    ⟨fun ⟨told, fits⟩ => ⟨told, fits⟩, fun writable => ⟨writable.told, writable.fits⟩⟩

/-- The settings of a table with this name are that of the entry. -/
theorem filter_settings {table : List (LocParamS Double)} {entry : LocParamS Double}
    (distinct : (table.map LocParamS.paramName).Nodup) (member : entry ∈ table) :
    ((table.flatMap fun entry => (entry.setting print).toList).filter
      fun setting => setting.1 = entry.paramName) = (entry.setting print).toList := by
  have named : ∀ other : LocParamS Double, ∀ setting ∈ (other.setting print).toList,
      setting.1 = other.paramName := by
    intro other setting listed
    obtain ⟨value, -, rfl⟩ := Option.map_eq_some_iff.mp (Option.mem_toList.mp listed)
    rfl
  induction table with
  | nil => cases member
  | cons first rest ih =>
      obtain ⟨apart, distinct⟩ := List.nodup_cons.mp distinct
      rw [List.flatMap_cons, List.filter_append]
      rcases List.mem_cons.mp member with rfl | later
      · have own : (entry.setting print).toList.filter (fun setting =>
            setting.1 = entry.paramName) = (entry.setting print).toList :=
          List.filter_eq_self.mpr fun setting listed => by simp [named entry setting listed]
        have others : (rest.flatMap fun entry => (entry.setting print).toList).filter
            (fun setting => setting.1 = entry.paramName) = [] := by
          refine List.filter_eq_nil_iff.mpr fun setting listed same => ?_
          obtain ⟨other, there, from_⟩ := List.mem_flatMap.mp listed
          rw [decide_eq_true_eq, named other setting from_] at same
          exact apart (List.mem_map.mpr ⟨other, there, same⟩)
        rw [own, others, List.append_nil]
      · have front : (first.setting print).toList.filter (fun setting =>
            setting.1 = entry.paramName) = [] := by
          refine List.filter_eq_nil_iff.mpr fun setting listed same => ?_
          rw [decide_eq_true_eq, named first setting listed] at same
          exact apart (List.mem_map.mpr ⟨entry, later, same.symm⟩)
        rw [front, List.nil_append, ih distinct later]

variable [Zero Double]

theorem parseValue_of_not_isHex (name : List UInt8) {value : List UInt8} (plain : ¬ IsHex value) :
    parseValue atof name value = ⟨name, value, atoi value, atof value⟩ := if_neg plain

theorem parseValue_paramStrValue (name value : List UInt8) :
    (parseValue atof name value).paramStrValue = value := by
  unfold parseValue
  split <;> rfl

/-- **The text of a value is read as the value.** -/
theorem ParamValue.Told.written {value : ParamValue Double} {paramType : UInt8}
    (told : value.Told atof print paramType) (name : List UInt8)
    (short : (value.text print).length ≤ locMaxParamString + 1 - 1) :
    (parseValue atof name (value.text print)).written paramType = some value := by
  cases value with
  | string text =>
      obtain ⟨rfl, other⟩ := told
      rw [LocParamV.written, if_pos rfl, parseValue_paramStrValue]
      by_cases nothing : text = []
      · rw [ParamValue.text, if_pos nothing, if_pos rfl, nothing]
      · rw [ParamValue.text, if_neg nothing] at short ⊢
        rw [if_neg other, strlcpy, List.take_of_length_le short]
  | int value =>
      obtain ⟨rfl, least, most⟩ := told
      rw [ParamValue.text, parseValue_of_not_isHex atof name (not_isHex_formatInt 0 value),
        atoi_formatInt least most]
      rfl
  | double value =>
      obtain ⟨rfl, same, plain⟩ := told
      rw [ParamValue.text, parseValue_of_not_isHex atof name plain, same]
      rfl

/-- What the file says last of an entry is its value. -/
theorem lastSetting_writtenConf {table : List (LocParamS Double)} {entry : LocParamS Double}
    (distinct : (table.map LocParamS.paramName).Nodup)
    (writable : ∀ entry ∈ table, entry.Writable atof print) (member : entry ∈ table) :
    lastSetting atof entry.paramName (pieces locMaxParamLine (writtenConf print table)) =
      entry.param.map fun value => parseValue atof entry.paramName (value.text print) := by
  have fit : ∀ setting ∈ table.flatMap fun entry => (entry.setting print).toList,
      FitsLine setting := by
    intro setting listed
    obtain ⟨other, there, from_⟩ := List.mem_flatMap.mp listed
    exact (writable other there).fits setting (Option.mem_toList.mp from_)
  rw [lastSetting, writtenConf, filterMap_operands_pieces fit,
    filter_settings print distinct member]
  unfold LocParamS.setting
  cases entry.param <;> rfl

/-- **A table that is written to a file is read back**, with the flags of the parameters that
are pointed to, whatever the parameters and the flags have been before. -/
theorem writtenConf_read {saved : List (LocParamS Double)} {conf : LocConf Double}
    (distinct : (saved.map LocParamS.paramName).Nodup)
    (writable : ∀ entry ∈ saved, entry.Writable atof print)
    (alike : conf.configTable.map LocParamS.slot = saved.map LocParamS.slot) :
    (locReadConf atof conf (some (writtenConf print saved))).1.configTable =
      saved.map fun entry =>
        { entry with paramSet := entry.paramSet.map fun _ => entry.param.isSome } := by
  have lengths : conf.configTable.length = saved.length := by
    simpa using congrArg List.length alike
  rw [lastPiece_decides]
  refine List.ext_getElem (by simpa using lengths) fun i here there => ?_
  rw [List.length_map] at here there
  have slots : conf.configTable[i].slot = saved[i].slot := by
    have both := congrArg (fun slots => slots[i]?) alike
    simpa [here, there] using both
  have member : saved[i] ∈ saved := List.getElem_mem there
  simp only [List.getElem_map]
  generalize conf.configTable[i] = before at slots
  generalize saved[i] = entry at slots member
  have last := lastSetting_writtenConf atof print distinct writable member
  obtain ⟨told, fits⟩ := writable entry member
  obtain ⟨name, param, paramSet, type⟩ := entry
  obtain ⟨name', param', paramSet', type'⟩ := before
  simp only [LocParamS.slot, Prod.mk.injEq] at slots
  obtain ⟨rfl, rfl, pointers, flags⟩ := slots
  have flag (value : Bool) : paramSet'.map (fun _ => value) = paramSet.map fun _ => value := by
    cases paramSet <;> cases paramSet' <;> simp_all
  cases param with
  | none =>
      rw [Option.isSome_none, Option.isSome_eq_false_iff, Option.isNone_iff_eq_none] at pointers
      simp only [LocParamS.settled, LocParamS.cleared, last, Option.map_none, pointers, flag,
        Option.isSome_none]
  | some value =>
      have written := (told value rfl).written atof print name' (fits _ rfl).length_value
      simp only [LocParamS.settled, LocParamS.cleared, last, Option.map_some,
        locSetConfigEntry_eq, parseValue_paramName, pointers, Option.isSome_some, and_self, if_true,
        written, Option.map_map, Function.comp_def, flag]

end Tables

/-- A table with a value of each type, an empty string and an entry that points nowhere. -/
def savedTable : List (LocParamS ℚ) :=
  [⟨ascii "SUPL_VER", some (.int (-65536)), none, 110⟩,
    ⟨ascii "GYRO_BIAS_RANDOM_WALK", some (.double 3), some true, 102⟩,
    ⟨ascii "NTP_SERVER", some (.string (ascii "north america")), some false, 115⟩,
    ⟨ascii "XTRA_SERVER_1", some (.string []), none, 115⟩,
    ⟨ascii "CAPABILITIES", none, some false, 110⟩]

theorem writtenConf_read_savedTable :
    (locReadConf atofInt
        ⟨[⟨ascii "SUPL_VER", some (.int 1), none, 110⟩,
          ⟨ascii "GYRO_BIAS_RANDOM_WALK", some (.double 0), some false, 102⟩,
          ⟨ascii "NTP_SERVER", some (.string []), some true, 115⟩,
          ⟨ascii "XTRA_SERVER_1", some (.string (ascii "host")), none, 115⟩,
          ⟨ascii "CAPABILITIES", none, some true, 110⟩], 5, 1⟩
        (some (writtenConf (fun value => formatInt 0 value.floor) savedTable))).1.configTable =
      [⟨ascii "SUPL_VER", some (.int (-65536)), none, 110⟩,
        ⟨ascii "GYRO_BIAS_RANDOM_WALK", some (.double 3), some true, 102⟩,
        ⟨ascii "NTP_SERVER", some (.string (ascii "north america")), some true, 115⟩,
        ⟨ascii "XTRA_SERVER_1", some (.string []), none, 115⟩,
        ⟨ascii "CAPABILITIES", none, some false, 110⟩] :=
  writtenConf_read atofInt (fun value => formatInt 0 value.floor) (by decide +kernel)
    (by decide +kernel) rfl

end Msm8660.Gps
