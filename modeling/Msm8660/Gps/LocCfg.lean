import Mathlib.Data.List.DropRight
import Msm8660.Lib.CString
import Msm8660.Lib.Lines
import Msm8660.Lib.Printf

/-!
# The configuration file

`loc_read_conf` reads a file with a buffer of `LOC_MAX_PARAM_LINE` bytes and takes each piece
that it gets for a line. Where every line of the file is `Whole`, as all those are that fit
the buffer (`whole_of_length`), this is the same as applying the lines one after the other
(`readsLines_of_whole`). The rest of a line that does not fit may set a parameter of its own,
even behind a `#` (`not_readsLines`).

What `atof` makes of a text does not matter; `long` has 32 bits. The variables that the
tables point to are apart.
-/

set_option autoImplicit false

namespace Msm8660.Gps

/-- `LOC_MAX_PARAM_LINE`. -/
def locMaxParamLine : ℕ := 80

/-- `LOC_MAX_PARAM_STRING`. -/
def locMaxParamString : ℕ := 80

/-! ## The C library -/

/-- `isspace`. -/
def isspace (byte : UInt8) : Bool := byte = 32 ∨ 9 ≤ byte ∧ byte ≤ 13

/-- `tolower`. -/
def tolower (byte : UInt8) : UInt8 := if 65 ≤ byte ∧ byte ≤ 90 then byte + 32 else byte

/-- `strtok_r` with one delimiter: the token, and what is behind it. -/
def strtok (delimiter : UInt8) (text : List UInt8) : Option (List UInt8 × List UInt8) :=
  let start := text.dropWhile (· = delimiter)
  if start = [] then none
  else some (start.takeWhile (· ≠ delimiter), (start.dropWhile (· ≠ delimiter)).drop 1)

/-- The value of a digit. -/
def digit (base : ℕ) (byte : UInt8) : Option ℕ :=
  let byte := tolower byte
  let value := if 48 ≤ byte ∧ byte ≤ 57 then byte.toNat - 48
    else if 97 ≤ byte ∧ byte ≤ 122 then byte.toNat - 87 else base
  if value < base then some value else none

/-- The digits at the beginning of a text, behind those that make up `value`. -/
def digits (base : ℕ) (value : ℕ) : List UInt8 → ℕ
  | [] => value
  | byte :: rest => match digit base byte with
    | some next => digits base (value * base + next) rest
    | none => value

/-- `strtol`. -/
def strtol (text : List UInt8) (base : ℕ) : ℤ :=
  let text := text.dropWhile isspace
  let negative := text.head? = some 45
  let text := if text.head? = some 45 ∨ text.head? = some 43 then text.drop 1 else text
  let prefixed := base = 16 ∧ text.head? = some 48 ∧ (text.drop 1).head?.map tolower = some 120 ∧
    ((text.drop 2).head?.bind (digit 16)).isSome
  let value := digits base 0 (if prefixed then text.drop 2 else text)
  if negative then max (-2147483648) (-value) else min 2147483647 value

/-- `atoi`. -/
def atoi (text : List UInt8) : ℤ := strtol text 10

/-! ## Lines of the file -/

/-- `trim_space`. A string of spaces stays as it is. -/
def trimSpace (orgString : List UInt8) : List UInt8 :=
  if orgString.all isspace then orgString
  else (orgString.dropWhile isspace).rdropWhile isspace

/-- The name and the value of a line. -/
def operands (inputBuf : List UInt8) : Option (List UInt8 × List UInt8) :=
  (strtok 61 (inputBuf.takeWhile (· ≠ 0))).bind fun (name, lasts) =>
    (strtok 61 lasts).map fun (value, _) => (trimSpace name, trimSpace value)

section Tables

variable {Double : Type*}

/-- `loc_param_v_type`. -/
structure LocParamV (Double : Type*) where
  paramName : List UInt8
  paramStrValue : List UInt8
  paramIntValue : ℤ
  paramDoubleValue : Double

/-- What a `param_ptr` points to. -/
inductive ParamValue (Double : Type*) where
  | string (text : List UInt8)
  | int (value : ℤ)
  | double (value : Double)
deriving DecidableEq

/-- `loc_param_s_type`, with what its pointers point to. -/
structure LocParamS (Double : Type*) where
  paramName : List UInt8
  param : Option (ParamValue Double)
  paramSet : Option Bool
  paramType : UInt8
deriving DecidableEq

/-- `loc_set_config_entry`. -/
def locSetConfigEntry (configEntry : LocParamS Double) (configValue : LocParamV Double) :
    LocParamS Double :=
  let paramSet := configEntry.paramSet.map fun _ => true
  if configEntry.paramName = configValue.paramName ∧ configEntry.param.isSome then
    -- `'s'`, `'n'` and `'f'`
    if configEntry.paramType = 115 then
      let text := if configValue.paramStrValue = ascii "NULL" then []
        else strlcpy configValue.paramStrValue (locMaxParamString + 1)
      { configEntry with param := some (.string text), paramSet := paramSet }
    else if configEntry.paramType = 110 then
      { configEntry with param := some (.int configValue.paramIntValue), paramSet := paramSet }
    else if configEntry.paramType = 102 then
      { configEntry with
        param := some (.double configValue.paramDoubleValue)
        paramSet := paramSet }
    else configEntry
  else configEntry

/-- The table of the caller, and the variables of `loc_parameter_table`. -/
structure LocConf (Double : Type*) where
  configTable : List (LocParamS Double)
  debugLevel : UInt8
  timestamp : UInt8
deriving DecidableEq

def debugLevelName : List UInt8 := ascii "DEBUG_LEVEL"
def timestampName : List UInt8 := ascii "TIMESTAMP"

/-- An entry of `loc_parameter_table`. Its variable is the lowest byte of what is written. -/
def setParameter (name : List UInt8) (variable_ : UInt8) (configValue : LocParamV Double) : UInt8 :=
  match (locSetConfigEntry ⟨name, some (.int variable_.toNat), none, 110⟩ configValue).param with
  | some (.int value) => UInt8.ofInt value
  | _ => variable_

variable [Zero Double] (atof : List UInt8 → Double)

/-- The value of a line, as all the types that there are. -/
def parseValue (name value : List UInt8) : LocParamV Double :=
  if value.head? = some 48 ∧ (value.drop 1).head?.map tolower = some 120 then
    ⟨name, value, strtol (value.drop 2) 16, 0⟩
  else ⟨name, value, atoi value, atof value⟩

/-- The body of the `while` loop. -/
def applyLine (conf : LocConf Double) (inputBuf : List UInt8) : LocConf Double :=
  match operands inputBuf with
  | none => conf
  | some (name, value) =>
      let configValue := parseValue atof name value
      { configTable := conf.configTable.map (locSetConfigEntry · configValue)
        debugLevel := setParameter debugLevelName conf.debugLevel configValue
        timestamp := setParameter timestampName conf.timestamp configValue }

/-- `loc_default_parameters`. -/
def LocConf.locDefaultParameters (conf : LocConf Double) : LocConf Double :=
  { conf with debugLevel := 3, timestamp := 0 }

/-- "Clear all validity bits". -/
def LocConf.clearValidity (conf : LocConf Double) : LocConf Double :=
  { conf with
    configTable := conf.configTable.map fun entry =>
      { entry with paramSet := entry.paramSet.map fun _ => false } }

/-- `loc_read_conf`, with the contents of the file if it can be opened, and the calls of
`loc_logger_init`. -/
def locReadConf (conf : LocConf Double) (gpsConfFile : Option (List UInt8)) :
    LocConf Double × List (UInt8 × UInt8) :=
  let conf := conf.locDefaultParameters
  match gpsConfFile with
  | none => (conf, [(conf.debugLevel, conf.timestamp)])
  | some content =>
      let read := (pieces locMaxParamLine content).foldl (applyLine atof) conf.clearValidity
      (read, [(conf.debugLevel, conf.timestamp), (read.debugLevel, read.timestamp)])

/-! ## Line by line -/

/-- The lines of the file, applied one after the other. -/
def readLines (conf : LocConf Double) (fileLines : List (List UInt8)) : LocConf Double :=
  fileLines.foldl (applyLine atof) conf.locDefaultParameters.clearValidity

/-- A line that begins with `#`. -/
def IsComment (line : List UInt8) : Prop := line.head? = some 35

instance : DecidablePred IsComment := fun _ => inferInstanceAs (Decidable (_ = _))

/-- The file is read line by line, and its comments do nothing. -/
def ReadsLines (conf : LocConf Double) (content : List UInt8) : Prop :=
  (locReadConf atof conf (some content)).1 = readLines atof conf (lines content) ∧
    (locReadConf atof conf (some content)).1 =
      readLines atof conf ((lines content).filter fun line => ¬ IsComment line)

/-- The names in the tables. -/
def LocConf.names (conf : LocConf Double) : List (List UInt8) :=
  debugLevelName :: timestampName :: conf.configTable.map LocParamS.paramName

end Tables

/-- The line has no operands, or its name is not there. -/
def SetsNothing (names : List (List UInt8)) (line : List UInt8) : Prop :=
  ∀ found ∈ operands line, found.1 ∉ names

instance (names : List (List UInt8)) : DecidablePred (SetsNothing names) :=
  fun _ => inferInstanceAs (Decidable (∀ _ ∈ _, _))

/-- What `fgets` gets of the line first says the same as the line, or neither says anything, and
what it gets of it later says nothing. -/
def Whole (names : List (List UInt8)) (line : List UInt8) : Prop :=
  (∀ first ∈ (pieces locMaxParamLine line).head?,
      operands first = operands line ∨ SetsNothing names first ∧ SetsNothing names line) ∧
    ∀ piece ∈ (pieces locMaxParamLine line).tail, SetsNothing names piece

instance (names : List (List UInt8)) : DecidablePred (Whole names) :=
  fun _ => inferInstanceAs (Decidable ((∀ _ ∈ _, _ ∨ _) ∧ _))

/-! ## Comments -/

/-- A string that does not begin with a space keeps its beginning. -/
theorem head?_trimSpace {byte : UInt8} (other : isspace byte = false) (rest : List UInt8) :
    (trimSpace (byte :: rest)).head? = some byte := by
  have notAll : ¬ ∀ x ∈ byte :: rest, isspace x = true := by
    intro all
    rw [all byte (List.mem_cons_self ..)] at other
    cases other
  rw [trimSpace, if_neg (fun all => notAll (List.all_eq_true.mp all)),
    List.dropWhile_cons_of_neg (by rw [other]; exact Bool.false_ne_true)]
  obtain ⟨behind, split⟩ := List.rdropWhile_prefix isspace (byte :: rest)
  cases kept : (byte :: rest).rdropWhile isspace with
  | nil => exact absurd (List.rdropWhile_eq_nil_iff.mp kept) notAll
  | cons first more =>
      rw [kept] at split
      exact congrArg some (List.cons.inj split).1

/-- A text that does not begin with the delimiter begins with a token. -/
theorem strtok_cons {delimiter byte : UInt8} (other : byte ≠ delimiter) (rest : List UInt8) :
    strtok delimiter (byte :: rest) =
      some (byte :: rest.takeWhile (· ≠ delimiter), (rest.dropWhile (· ≠ delimiter)).drop 1) := by
  rw [strtok, List.dropWhile_cons_of_neg (by simpa using other), if_neg (by simp),
    List.takeWhile_cons_of_pos (by simpa using other),
    List.dropWhile_cons_of_pos (by simpa using other)]

/-- **A comment names no parameter.** -/
theorem silent_of_isComment {names : List (List UInt8)} {line : List UInt8}
    (comment : IsComment line) (named : ∀ name ∈ names, name.head? ≠ some 35) :
    SetsNothing names line := by
  cases line with
  | nil => cases comment
  | cons byte rest =>
      obtain rfl : byte = 35 := Option.some.inj comment
      intro found member
      rw [operands, List.takeWhile_cons_of_pos (by decide), strtok_cons (by decide),
        Option.bind_some] at member
      obtain ⟨value, -, rfl⟩ := Option.map_eq_some_iff.mp member
      intro there
      exact named _ there (head?_trimSpace (show isspace 35 = false by decide) _)

/-! ## One line -/

section Lines

variable {Double : Type*} {conf : LocConf Double}

theorem locSetConfigEntry_other {configEntry : LocParamS Double} {configValue : LocParamV Double}
    (other : configEntry.paramName ≠ configValue.paramName) :
    locSetConfigEntry configEntry configValue = configEntry :=
  if_neg fun both => other both.1

theorem locSetConfigEntry_paramName (configEntry : LocParamS Double)
    (configValue : LocParamV Double) :
    (locSetConfigEntry configEntry configValue).paramName = configEntry.paramName := by
  unfold locSetConfigEntry
  dsimp only
  split
  · split
    · rfl
    · split
      · rfl
      · split <;> rfl
  · rfl

theorem setParameter_other {name : List UInt8} {configValue : LocParamV Double}
    (other : name ≠ configValue.paramName) (variable_ : UInt8) :
    setParameter name variable_ configValue = variable_ := by
  rw [setParameter, locSetConfigEntry_other other]
  have small : variable_.toNat < 2 ^ 8 := variable_.toNat_lt
  apply UInt8.toNat_inj.mp
  simp only [UInt8.ofInt, UInt8.toNat_ofNat']
  omega

variable [Zero Double] (atof : List UInt8 → Double)

@[simp] theorem parseValue_paramName (name value : List UInt8) :
    (parseValue atof name value).paramName = name := by
  unfold parseValue
  split <;> rfl

/-- **A line that names nothing does nothing.** -/
theorem applyLine_silent {line : List UInt8} (silent : SetsNothing conf.names line) :
    applyLine atof conf line = conf := by
  unfold applyLine
  cases found : operands line with
  | none => rfl
  | some pair =>
      obtain ⟨name, value⟩ := pair
      have absent : name ∉ conf.names := silent _ found
      simp only [LocConf.names, List.mem_cons, not_or] at absent
      obtain ⟨notLevel, notTimestamp, notThere⟩ := absent
      have table : conf.configTable.map (locSetConfigEntry · (parseValue atof name value)) =
          conf.configTable := by
        rw [List.map_congr_left (g := id)]
        · exact List.map_id _
        · intro entry member
          apply locSetConfigEntry_other
          rw [parseValue_paramName]
          exact fun same => notThere (List.mem_map.mpr ⟨entry, member, same⟩)
      have level : setParameter debugLevelName conf.debugLevel (parseValue atof name value) =
          conf.debugLevel := by
        apply setParameter_other
        rw [parseValue_paramName]
        exact fun same => notLevel same.symm
      have stamp : setParameter timestampName conf.timestamp (parseValue atof name value) =
          conf.timestamp := by
        apply setParameter_other
        rw [parseValue_paramName]
        exact fun same => notTimestamp same.symm
      simp only [table, level, stamp]

/-- A line does what its operands say. -/
theorem applyLine_congr {first second : List UInt8} (same : operands first = operands second) :
    applyLine atof conf first = applyLine atof conf second := by
  rw [applyLine, applyLine, same]

/-- The names stay. -/
theorem applyLine_names (line : List UInt8) : (applyLine atof conf line).names = conf.names := by
  unfold applyLine
  split
  · rfl
  · simp only [LocConf.names, List.map_map, Function.comp_def, locSetConfigEntry_paramName]

theorem foldl_applyLine_silent {silentLines : List (List UInt8)}
    (silent : ∀ line ∈ silentLines, SetsNothing conf.names line) :
    silentLines.foldl (applyLine atof) conf = conf := by
  induction silentLines with
  | nil => rfl
  | cons line rest ih =>
      obtain ⟨here, later⟩ := List.forall_mem_cons.mp silent
      rw [List.foldl_cons, applyLine_silent atof here, ih later]

/-- **A whole line is applied once.** -/
theorem foldl_pieces {line : List UInt8} (whole : Whole conf.names line) (some_ : line ≠ []) :
    (pieces locMaxParamLine line).foldl (applyLine atof) conf = applyLine atof conf line := by
  unfold Whole at whole
  cases split : pieces locMaxParamLine line with
  | nil =>
      rw [pieces_eq (by decide), fgets, if_neg some_] at split
      cases split
  | cons first later =>
      rw [split] at whole
      obtain ⟨begins, silent⟩ := whole
      have same := begins first rfl
      have applied : applyLine atof conf first = applyLine atof conf line := by
        rcases same with same | ⟨quiet, quiet'⟩
        · exact applyLine_congr atof same
        · rw [applyLine_silent atof quiet, applyLine_silent atof quiet']
      rw [List.foldl_cons, applied]
      apply foldl_applyLine_silent
      rw [applyLine_names]
      exact silent

/-! ## Files -/

/-- A line that fits the buffer is whole. -/
theorem whole_of_length {names : List (List UInt8)} {content line : List UInt8}
    (member : line ∈ lines content) (fits : line.length < locMaxParamLine) :
    Whole names line := by
  obtain ⟨some_, inside⟩ := newline_notMem_of_mem_lines member
  have short : line.length ≤ locMaxParamLine - 1 := by omega
  rw [Whole, pieces_line (by decide) some_ inside, List.take_of_length_le short,
    List.drop_of_length_le short]
  refine ⟨fun first begins => ?_, fun _ none_ => by cases none_⟩
  cases begins
  exact Or.inl rfl

/-- Pieces of whole lines are applied as the lines are. -/
theorem foldl_flatMap_pieces {fileLines : List (List UInt8)}
    (whole : ∀ line ∈ fileLines, line ≠ [] ∧ Whole conf.names line) :
    (fileLines.flatMap (pieces locMaxParamLine)).foldl (applyLine atof) conf =
      fileLines.foldl (applyLine atof) conf := by
  induction fileLines generalizing conf with
  | nil => rfl
  | cons line rest ih =>
      obtain ⟨⟨some_, here⟩, later⟩ := List.forall_mem_cons.mp whole
      rw [List.flatMap_cons, List.foldl_append, List.foldl_cons, foldl_pieces atof here some_]
      apply ih
      rw [applyLine_names]
      exact later

/-- Lines that do nothing may be left out. -/
theorem foldl_filter {fileLines : List (List UInt8)}
    (silent : ∀ line ∈ fileLines, IsComment line → SetsNothing conf.names line) :
    (fileLines.filter fun line => ¬ IsComment line).foldl (applyLine atof) conf =
      fileLines.foldl (applyLine atof) conf := by
  induction fileLines generalizing conf with
  | nil => rfl
  | cons line rest ih =>
      obtain ⟨here, later⟩ := List.forall_mem_cons.mp silent
      by_cases comment : IsComment line
      · rw [List.filter_cons_of_neg (by simpa using comment), List.foldl_cons,
          applyLine_silent atof (here comment)]
        exact ih later
      · rw [List.filter_cons_of_pos (by simpa using comment), List.foldl_cons, List.foldl_cons]
        apply ih
        rw [applyLine_names]
        exact later

/-- **A file of whole lines is read line by line.** -/
theorem readsLines_of_whole {content : List UInt8}
    (named : ∀ entry ∈ conf.configTable, entry.paramName.head? ≠ some 35)
    (whole : ∀ line ∈ lines content, Whole conf.names line) : ReadsLines atof conf content := by
  have names : conf.locDefaultParameters.clearValidity.names = conf.names := by
    simp only [LocConf.names, LocConf.clearValidity, LocConf.locDefaultParameters, List.map_map,
      Function.comp_def]
  have applied : (locReadConf atof conf (some content)).1 =
      readLines atof conf (lines content) := by
    rw [locReadConf, readLines, pieces_eq_flatMap]
    apply foldl_flatMap_pieces
    intro line member
    rw [names]
    exact ⟨(newline_notMem_of_mem_lines member).1, whole line member⟩
  refine ⟨applied, ?_⟩
  rw [applied, readLines, readLines, foldl_filter]
  intro line _ comment
  rw [names]
  apply silent_of_isComment comment
  intro name member
  simp only [LocConf.names, List.mem_cons, List.mem_map] at member
  rcases member with rfl | rfl | ⟨entry, there, rfl⟩
  · decide
  · decide
  · exact named entry there

end Lines

/-! ## Examples -/

/-- A table with one number. -/
def oneNumber : LocConf ℚ :=
  ⟨[⟨ascii "SUPL_VER", some (.int 0x10000), some true, 110⟩], 5, 1⟩

/-- `atof` of a whole number. -/
def atofInt (text : List UInt8) : ℚ := atoi text

theorem readsLines_of_whole_settings :
    ReadsLines atofInt oneNumber
      (ascii "# settings\nDEBUG_LEVEL = 2\n\n SUPL_VER=0x20000\nTIMESTAMP=1 " ++
        List.replicate 100 32) :=
  readsLines_of_whole atofInt (by decide +kernel) (by decide +kernel)

/-- **The end of a long comment sets a parameter.** -/
theorem not_readsLines :
    ¬ ReadsLines atofInt oneNumber (35 :: List.replicate 78 45 ++ ascii "SUPL_VER=7\n") := by
  rintro ⟨applied, -⟩
  revert applied
  decide +kernel

end Msm8660.Gps
