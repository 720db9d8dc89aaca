import Msm8660.Gps.LocCfg

/-!
# Lines without a value

`loc_read_conf` skips the lines that have no two operands. A name, `=` and white space are two
operands all the same: the token behind `=` is what is left of the line, with the newline at
least, and trimming leaves it as it is. So the parameters of that name become blank or zero and
count as set (`leavesParameters_iff`, `not_leavesParameters`). Only a line without a `=`
(`leavesParameters_of_notMem`), or with nothing in front of it, does nothing.
-/

set_option autoImplicit false

namespace Msm8660.Gps

/-! ## Tokens -/

section Tokens

variable {delimiter : UInt8} {text : List UInt8}

theorem decide_ne_of_notMem (absent : delimiter ∉ text) :
    ∀ byte ∈ text, decide (byte ≠ delimiter) = true := by
  intro byte member
  rw [decide_eq_true_eq]
  rintro rfl
  exact absent member

/-- A text without the delimiter is one token. -/
theorem strtok_of_notMem (absent : delimiter ∉ text) :
    strtok delimiter text = if text = [] then none else some (text, []) := by
  cases text with
  | nil => rfl
  | cons byte rest =>
      obtain ⟨other, absent⟩ := List.ne_and_not_mem_of_not_mem_cons absent
      have all := decide_ne_of_notMem absent
      rw [strtok_cons (Ne.symm other), List.takeWhile_eq_self_iff.mpr all,
        List.dropWhile_eq_nil_iff.mpr all, if_neg (List.cons_ne_nil byte rest), List.drop_nil]

/-- A token ends at the delimiter. -/
theorem strtok_append (some_ : text ≠ []) (absent : delimiter ∉ text) (rest : List UInt8) :
    strtok delimiter (text ++ delimiter :: rest) = some (text, rest) := by
  cases text with
  | nil => exact absurd rfl some_
  | cons byte more =>
      obtain ⟨other, absent⟩ := List.ne_and_not_mem_of_not_mem_cons absent
      have all := decide_ne_of_notMem absent
      rw [List.cons_append, strtok_cons (Ne.symm other), List.takeWhile_append_of_pos all,
        List.dropWhile_append_of_pos all, List.takeWhile_cons_of_neg (by simp),
        List.dropWhile_cons_of_neg (by simp), List.append_nil]
      rfl

/-- A line without a `=` has no operands. -/
theorem operands_of_notMem {inputBuf : List UInt8}
    (absent : 61 ∉ inputBuf.takeWhile (· ≠ 0)) : operands inputBuf = none := by
  rw [operands, strtok_of_notMem absent]
  split
  · rfl
  · rfl

end Tokens

/-! ## Entries -/

section Entries

variable {Double : Type*}

/-- What a parameter of this type receives. -/
def LocParamV.written (configValue : LocParamV Double) (paramType : UInt8) :
    Option (ParamValue Double) :=
  if paramType = 115 then
    some (.string (if configValue.paramStrValue = ascii "NULL" then []
      else strlcpy configValue.paramStrValue (locMaxParamString + 1)))
  else if paramType = 110 then some (.int configValue.paramIntValue)
  else if paramType = 102 then some (.double configValue.paramDoubleValue)
  else none

theorem locSetConfigEntry_eq (configEntry : LocParamS Double) (configValue : LocParamV Double) :
    locSetConfigEntry configEntry configValue =
      if configEntry.paramName = configValue.paramName ∧ configEntry.param.isSome then
        match configValue.written configEntry.paramType with
        | some value =>
            { configEntry with
              param := some value
              paramSet := configEntry.paramSet.map fun _ => true }
        | none => configEntry
      else configEntry := by
  unfold locSetConfigEntry LocParamV.written
  dsimp only
  refine if_congr Iff.rfl ?_ rfl
  by_cases string : configEntry.paramType = 115
  · rw [if_pos string, if_pos string]
  · rw [if_neg string, if_neg string]
    by_cases number : configEntry.paramType = 110
    · rw [if_pos number, if_pos number]
    · rw [if_neg number, if_neg number]
      by_cases double : configEntry.paramType = 102
      · rw [if_pos double, if_pos double]
      · rw [if_neg double, if_neg double]

/-- An entry stays as it is unless it is named, and then if it has the value and
counts as set. -/
theorem locSetConfigEntry_eq_self_iff {configEntry : LocParamS Double}
    {configValue : LocParamV Double} :
    locSetConfigEntry configEntry configValue = configEntry ↔
      (configEntry.paramName = configValue.paramName → configEntry.param.isSome = true →
        ∀ value ∈ configValue.written configEntry.paramType,
          configEntry.param = some value ∧ configEntry.paramSet ≠ some false) := by
  obtain ⟨name, param, paramSet, type⟩ := configEntry
  rw [locSetConfigEntry_eq]
  by_cases selected : name = configValue.paramName ∧ param.isSome = true
  · rw [if_pos selected]
    cases written : configValue.written type with
    | none => simp
    | some value =>
        simp only [LocParamS.mk.injEq, true_and, and_true, Option.mem_def, Option.some.injEq,
          forall_eq', selected.1, selected.2, forall_const]
        refine and_congr eq_comm ?_
        cases paramSet with
        | none => simp
        | some flag => cases flag <;> simp
  · rw [if_neg selected]
    simp only [true_iff]
    exact fun named pointed => absurd ⟨named, pointed⟩ selected

/-- A variable of `loc_parameter_table` stays as it is unless it is named, and
then if it is zero. -/
theorem setParameter_zero_eq_self_iff {name : List UInt8} {variable_ : UInt8}
    {configValue : LocParamV Double} (zero : configValue.paramIntValue = 0) :
    setParameter name variable_ configValue = variable_ ↔
      (name = configValue.paramName → variable_ = 0) := by
  by_cases named : name = configValue.paramName
  · have set : setParameter name variable_ configValue = 0 := by
      rw [setParameter, locSetConfigEntry_eq, if_pos ⟨named, rfl⟩]
      simp only [LocParamV.written, zero]
      rfl
    rw [set, eq_comm]
    exact ⟨fun same _ => same, fun same => same named⟩
  · rw [setParameter_other named]
    exact ⟨fun _ same => absurd same named, fun _ => rfl⟩

end Entries

/-! ## Lines -/

/-- The spaces of a line and its newline. -/
def blankText (spaces : List UInt8) : List UInt8 := spaces ++ [newline]

/-- A line that is `left`, `=` and these spaces. -/
def valuelessLine (left spaces : List UInt8) : List UInt8 := left ++ 61 :: blankText spaces

/-- The line fits the buffer with its newline, it has one `=` and only white space
behind it. What is in front of `=` may be blank as well. -/
structure Valueless (left spaces : List UInt8) : Prop where
  separator : 61 ∉ left
  oneLine : newline ∉ left
  blank : ∀ byte ∈ spaces, isspace byte = true ∧ byte ≠ newline
  fits : (valuelessLine left spaces).length ≤ locMaxParamLine - 1

section Lines

variable {Double : Type*} {left spaces : List UInt8}

theorem Valueless.blankText_isspace (valueless : Valueless left spaces) :
    ∀ byte ∈ blankText spaces, isspace byte = true := by
  intro byte member
  rcases List.mem_append.mp member with space | last
  · exact (valueless.blank byte space).1
  · rw [List.mem_singleton.mp last]
    decide

theorem notMem_blank {byte : UInt8} {text : List UInt8}
    (blank : ∀ c ∈ text, isspace c = true) (other : isspace byte = false) : byte ∉ text := by
  intro member
  rw [blank byte member] at other
  cases other

/-- The white space behind `=` is a token, newline and all. -/
theorem Valueless.strtok_blank (valueless : Valueless left spaces) :
    strtok 61 (blankText spaces) = some (blankText spaces, []) := by
  have noSeparator : 61 ∉ blankText spaces := notMem_blank valueless.blankText_isspace (by decide)
  have some_ : blankText spaces ≠ [] := List.append_ne_nil_of_right_ne_nil _ (by simp)
  rw [strtok_of_notMem noSeparator, if_neg some_]

/-- A line without a NUL is looked at as a whole. -/
theorem Valueless.whole (valueless : Valueless left spaces) (unended : 0 ∉ left) :
    (valuelessLine left spaces).takeWhile (· ≠ 0) = valuelessLine left spaces := by
  refine List.takeWhile_eq_self_iff.mpr (decide_ne_of_notMem ?_)
  intro member
  rcases List.mem_append.mp member with front | behind
  · exact unended front
  · rcases List.mem_cons.mp behind with same | space
    · cases same
    · exact notMem_blank valueless.blankText_isspace (by decide) space

/-- **The white space is an operand**, unless nothing is in front of `=`. -/
theorem Valueless.operands_eq (valueless : Valueless left spaces) :
    operands (valuelessLine left spaces) =
      if left = [] ∨ 0 ∈ left then none else some (trimSpace left, blankText spaces) := by
  by_cases ended : 0 ∈ left
  · rw [if_pos (Or.inr ended), operands_of_notMem]
    rw [valuelessLine, takeWhile_append_of_zero_mem ended]
    exact fun member => valueless.separator (List.takeWhile_subset _ member)
  · rw [operands, valueless.whole ended, valuelessLine]
    by_cases nothing : left = []
    · have skipped : strtok 61 (61 :: blankText spaces) = some (blankText spaces, []) := by
        rw [strtok, List.dropWhile_cons_of_pos (by simp)]
        exact valueless.strtok_blank
      rw [if_pos (Or.inl nothing), nothing, List.nil_append, skipped]
      rfl
    · have kept : trimSpace (blankText spaces) = blankText spaces := by
        rw [trimSpace, if_pos (List.all_eq_true.mpr valueless.blankText_isspace)]
      rw [if_neg (not_or.mpr ⟨nothing, ended⟩), strtok_append nothing valueless.separator,
        Option.bind_some]
      simp only [valueless.strtok_blank, Option.map_some, kept]

/-- The next line is read where this one ends. -/
theorem Valueless.pieces_eq (valueless : Valueless left spaces) (later : List UInt8) :
    pieces locMaxParamLine (valuelessLine left spaces ++ later) =
      valuelessLine left spaces :: pieces locMaxParamLine later := by
  have inside : newline ∉ left ++ 61 :: spaces := by
    intro member
    rcases List.mem_append.mp member with front | behind
    · exact valueless.oneLine front
    · rcases List.mem_cons.mp behind with same | space
      · cases same
      · exact (valueless.blank newline space).2 rfl
  have split : valuelessLine left spaces = (left ++ 61 :: spaces) ++ [newline] := by
    simp [valuelessLine, blankText]
  have fits := valueless.fits
  rw [split] at fits ⊢
  rw [List.append_assoc, List.singleton_append]
  exact pieces_append_line (by decide) inside fits later

variable (atof : List UInt8 → Double)

/-- What a parameter of this type becomes for a blank text. -/
def blankValue (text : List UInt8) (paramType : UInt8) : Option (ParamValue Double) :=
  if paramType = 115 then some (.string text)
  else if paramType = 110 then some (.int 0)
  else if paramType = 102 then some (.double (atof text))
  else none

theorem Valueless.written_eq (valueless : Valueless left spaces) (name : List UInt8)
    (paramType : UInt8) :
    (⟨name, blankText spaces, 0, atof (blankText spaces)⟩ : LocParamV Double).written paramType =
      blankValue atof (blankText spaces) paramType := by
  have blank := valueless.blankText_isspace
  have other : blankText spaces ≠ ascii "NULL" := by
    intro same
    exact notMem_blank blank (show isspace 78 = false by decide) (by rw [same]; decide)
  have length := valueless.fits
  rw [valuelessLine, List.length_append, List.length_cons, locMaxParamLine] at length
  have short : (blankText spaces).length ≤ locMaxParamString + 1 - 1 := by
    rw [locMaxParamString]
    omega
  rw [LocParamV.written, blankValue, if_neg other, strlcpy, List.take_of_length_le short]

/-- The table stays as it is if the parameters of that name do. -/
theorem Valueless.map_locSetConfigEntry_eq_iff (valueless : Valueless left spaces)
    (name : List UInt8) (table : List (LocParamS Double)) :
    table.map (locSetConfigEntry · ⟨name, blankText spaces, 0, atof (blankText spaces)⟩) = table ↔
      ∀ entry ∈ table, entry.paramName = name → entry.param.isSome = true →
        ∀ value ∈ blankValue atof (blankText spaces) entry.paramType,
          entry.param = some value ∧ entry.paramSet ≠ some false := by
  have same : table.map (locSetConfigEntry ·
      ⟨name, blankText spaces, 0, atof (blankText spaces)⟩) = table.map id ↔ _ := List.map_inj_left
  rw [List.map_id] at same
  rw [same]
  refine forall₂_congr fun entry _ => ?_
  rw [id, locSetConfigEntry_eq_self_iff, valueless.written_eq]

variable [Zero Double]

/-- A blank text is no number. -/
theorem parseValue_blank (name : List UInt8) {text : List UInt8}
    (blank : ∀ byte ∈ text, isspace byte = true) :
    parseValue atof name text = ⟨name, text, 0, atof text⟩ := by
  have notHex : ¬ (text.head? = some 48 ∧ (text.drop 1).head?.map tolower = some 120) := by
    rintro ⟨zero, -⟩
    exact notMem_blank blank (show isspace 48 = false by decide) (List.mem_of_mem_head? zero)
  have number : atoi text = 0 := by
    rw [atoi, strtol, List.dropWhile_eq_nil_iff.mpr blank]
    decide
  rw [parseValue, if_neg notHex, number]

/-- What the name selects is blank or zero already, and counts as set. -/
structure AlreadyBlank (conf : LocConf Double) (name text : List UInt8) : Prop where
  table : ∀ entry ∈ conf.configTable, entry.paramName = name → entry.param.isSome = true →
    ∀ value ∈ blankValue atof text entry.paramType,
      entry.param = some value ∧ entry.paramSet ≠ some false
  debugLevel : name = debugLevelName → conf.debugLevel = 0
  timestamp : name = timestampName → conf.timestamp = 0

/-- The parameters and the validity flags stay as they are, and the file is read
on behind the line. -/
def LeavesParameters (conf : LocConf Double) (line : List UInt8) : Prop :=
  ∀ later, (pieces locMaxParamLine (line ++ later)).foldl (applyLine atof) conf =
    (pieces locMaxParamLine later).foldl (applyLine atof) conf

variable {conf : LocConf Double}

/-- The line does what its name selects. -/
theorem Valueless.applyLine_eq_self_iff (valueless : Valueless left spaces) :
    applyLine atof conf (valuelessLine left spaces) = conf ↔
      left = [] ∨ 0 ∈ left ∨ AlreadyBlank atof conf (trimSpace left) (blankText spaces) := by
  rw [applyLine, valueless.operands_eq, ← or_assoc]
  by_cases silent : left = [] ∨ 0 ∈ left
  · rw [if_pos silent]
    exact ⟨fun _ => Or.inl silent, fun _ => rfl⟩
  · rw [if_neg silent, or_iff_right silent]
    simp only [parseValue_blank atof _ valueless.blankText_isspace]
    have table := valueless.map_locSetConfigEntry_eq_iff atof (trimSpace left) conf.configTable
    have unnamed (name : List UInt8) (variable_ : UInt8) :
        setParameter name variable_
          ⟨trimSpace left, blankText spaces, 0, atof (blankText spaces)⟩ = variable_ ↔
            (name = trimSpace left → variable_ = 0) := setParameter_zero_eq_self_iff rfl
    constructor
    · intro unchanged
      refine ⟨table.mp (congrArg LocConf.configTable unchanged), fun named => ?_, fun named => ?_⟩
      · exact (unnamed _ _).mp (congrArg LocConf.debugLevel unchanged) named.symm
      · exact (unnamed _ _).mp (congrArg LocConf.timestamp unchanged) named.symm
    · rintro ⟨entries, debugLevel, timestamp⟩
      rw [table.mpr entries, (unnamed _ _).mpr fun named => debugLevel named.symm,
        (unnamed _ _).mpr fun named => timestamp named.symm]

/-- A line without a `=` does nothing. -/
theorem leavesParameters_of_notMem {body : List UInt8} (absent : 61 ∉ body)
    (oneLine : newline ∉ body) (fits : (body ++ [newline]).length ≤ locMaxParamLine - 1) :
    LeavesParameters atof conf (body ++ [newline]) := by
  intro later
  have noOperands : operands (body ++ [newline]) = none := by
    apply operands_of_notMem
    intro member
    rcases List.mem_append.mp (List.takeWhile_subset _ member) with front | last
    · exact absent front
    · exact absurd (List.mem_singleton.mp last) (by decide)
  rw [List.append_assoc, List.singleton_append, pieces_append_line (by decide) oneLine fits,
    List.foldl_cons, applyLine, noOperands]

/-- **A line without a value changes nothing**, if nothing is in front of its
`=`, or else if everything that its name selects is blank or zero already. -/
theorem leavesParameters_iff (valueless : Valueless left spaces) :
    LeavesParameters atof conf (valuelessLine left spaces) ↔
      left = [] ∨ 0 ∈ left ∨ AlreadyBlank atof conf (trimSpace left) (blankText spaces) := by
  rw [← valueless.applyLine_eq_self_iff]
  constructor
  · intro leaves
    have alone := leaves []
    rwa [valueless.pieces_eq, List.foldl_cons] at alone
  · intro same later
    rw [valueless.pieces_eq, List.foldl_cons, same]

end Lines

/-- A table with a number and a random walk that has not been set. -/
def notSet : LocConf ℚ :=
  ⟨[⟨ascii "SUPL_VER", some (.int 0x10000), none, 110⟩,
    ⟨ascii "GYRO_BIAS_RANDOM_WALK", some (.double 1), some false, 102⟩], 3, 0⟩

/-- A name that is not in the table. -/
theorem leavesParameters_iff_unknown :
    LeavesParameters atofInt notSet (valuelessLine (ascii " XTRA_SERVER_1 ") (ascii " ")) :=
  (leavesParameters_iff atofInt ⟨by decide, by decide,
    List.forall_mem_singleton.mpr (by decide), by decide⟩).mpr
      (Or.inr (Or.inr ⟨by decide, by decide, by decide⟩))

/-- **The random walk becomes zero and counts as set.** -/
theorem not_leavesParameters :
    ¬ ∀ (conf : LocConf ℚ) (left spaces : List UInt8), Valueless left spaces →
      LeavesParameters atofInt conf (valuelessLine left spaces) := by
  intro all
  have leaves := all notSet (ascii "GYRO_BIAS_RANDOM_WALK") []
    ⟨by decide, by decide, List.forall_mem_nil _, by decide⟩ []
  revert leaves
  decide +kernel

end Msm8660.Gps
