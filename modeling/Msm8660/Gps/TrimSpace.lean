import Msm8660.Gps.LocCfg
import Msm8660.Lib.Bytes

/-!
# `trim_space` in its buffer

`trim_space` copies a string over itself: the write pointer follows the scan
pointer from the first character that is no space on, and the place behind the
last such character is remembered for the terminator.

Scanning keeps `TrimState.Scanned`, and from it the buffer afterwards is known
(`trimSpaceAt_eq`); as a string it is what `trimSpace` makes of the text
(`trimSpaceAt_trimSpace`). The surrounding spaces are gone, unless there is
nothing else: no place is remembered then and the string keeps all its spaces
(`trimsExactly_iff`, `not_trimsExactly`). What `isspace` says of characters
beyond 7 bits does not matter.
-/

set_option autoImplicit false

namespace Msm8660.Gps

/-- The variables of `trim_space`, and the memory. -/
structure TrimState where
  scanPtr : ℕ
  writePtr : ℕ
  firstNonspace : Option ℕ
  lastNonspace : Option ℕ
  memory : ℕ → UInt8

/-- The body of the loop. -/
def TrimState.body (s : TrimState) : TrimState :=
  let s := if !isspace (s.memory s.scanPtr) && s.firstNonspace.isNone then
      { s with firstNonspace := some s.scanPtr } else s
  let s := if s.firstNonspace.isSome then
      let s := { s with
        memory := overwrite s.memory s.writePtr [s.memory s.scanPtr]
        writePtr := s.writePtr + 1 }
      if !isspace (s.memory s.scanPtr) then { s with lastNonspace := some s.writePtr } else s
    else s
  { s with scanPtr := s.scanPtr + 1 }

/-- `while (*scan_ptr)`, given a bound on the number of characters scanned;
`none` when the bound is reached. -/
def TrimState.scan : ℕ → TrimState → Option TrimState
  | 0, _ => none
  | bound + 1, s => if s.memory s.scanPtr ≠ 0 then s.body.scan bound else some s

/-- `trim_space` on the string at an address: the memory afterwards. -/
def trimSpaceAt (bound : ℕ) (memory : ℕ → UInt8) (orgString : ℕ) : Option (ℕ → UInt8) :=
  (TrimState.scan bound ⟨orgString, orgString, none, none, memory⟩).map fun s =>
    match s.lastNonspace with
    | some place => overwrite s.memory place [0]
    | none => s.memory

/-! ## Strings in memory -/

/-- There is this string at the address. -/
def StringAt (memory : ℕ → UInt8) (address : ℕ) (text : List UInt8) : Prop :=
  readAt memory address (text.length + 1) = text ++ [0] ∧ 0 ∉ text

section Strings

variable {memory : ℕ → UInt8} {address : ℕ} {text before after : List UInt8} {byte : UInt8}

theorem StringAt.next (there : StringAt memory address (before ++ byte :: after)) :
    memory (address + before.length) = byte := by
  have whole := there.1
  rw [List.length_append, List.length_cons, Nat.add_assoc, readAt_add, List.append_assoc] at whole
  have tails := List.append_inj_right whole (length_readAt _ _ _)
  rw [Nat.add_comm (after.length + 1) 1, readAt_add, List.cons_append] at tails
  exact (List.cons.inj tails).1

theorem StringAt.end_eq (there : StringAt memory address text) :
    memory (address + text.length) = 0 := by
  have whole := there.1
  rw [readAt_add] at whole
  exact (List.cons.inj (List.append_inj_right whole (length_readAt _ _ _))).1

end Strings

/-! ## The text without its surrounding spaces -/

/-- A text without its leading and trailing spaces. -/
def trimmed (text : List UInt8) : List UInt8 := (text.dropWhile isspace).rdropWhile isspace

theorem dropWhile_of_blank {text : List UInt8} (blank : text.all isspace = true) :
    text.dropWhile isspace = [] :=
  List.dropWhile_eq_nil_iff.mpr (List.all_eq_true.mp blank)

theorem trimmed_eq_nil {text : List UInt8} (blank : text.all isspace = true) :
    trimmed text = [] := by
  rw [trimmed, dropWhile_of_blank blank, List.rdropWhile_nil]

/-- A character that is no leading space stays. -/
theorem dropWhile_concat {before : List UInt8} {byte : UInt8}
    (kept : ¬ (before.all isspace = true ∧ isspace byte = true)) :
    (before ++ [byte]).dropWhile isspace = before.dropWhile isspace ++ [byte] := by
  cases blank : before.all isspace with
  | true =>
      have other : isspace byte = false := by simpa [blank] using kept
      rw [List.dropWhile_append, dropWhile_of_blank blank]
      exact List.dropWhile_cons_of_neg (by simp [other])
  | false =>
      have something : (before.dropWhile isspace).isEmpty = false := by
        rw [List.isEmpty_eq_false_iff]
        intro nothing
        rw [List.all_eq_true.mpr (List.dropWhile_eq_nil_iff.mp nothing)] at blank
        cases blank
      rw [List.dropWhile_append, something, if_neg Bool.false_ne_true]

theorem trimmed_begins (text : List UInt8) : trimmed text <+: text.dropWhile isspace :=
  List.rdropWhile_prefix _ _

theorem length_trimmed_le (text : List UInt8) : (trimmed text).length ≤ text.length :=
  (trimmed_begins text).length_le.trans (List.dropWhile_suffix _).length_le

/-- Nothing is left to trim. -/
theorem dropWhile_trimmed (text : List UInt8) :
    (trimmed text).dropWhile isspace = trimmed text := by
  cases left : trimmed text with
  | nil => rfl
  | cons first rest =>
      obtain ⟨behind, split⟩ := trimmed_begins text
      have head : (text.dropWhile isspace).head? = some first := by
        rw [← split, left]
        rfl
      have other : isspace first = false := by
        have stops := List.head?_dropWhile_not isspace text
        rw [head] at stops
        simpa using stops
      rw [List.dropWhile_cons_of_neg (by simp [other])]

/-- A space at the end is trimmed, another character keeps the spaces in front of it. -/
theorem trimmed_concat {before : List UInt8} {byte : UInt8}
    (kept : ¬ (before.all isspace = true ∧ isspace byte = true)) :
    trimmed (before ++ [byte]) =
      if isspace byte then trimmed before else before.dropWhile isspace ++ [byte] := by
  rw [trimmed, dropWhile_concat kept, List.rdropWhile_concat, trimmed]

theorem trimmed_trimmed (text : List UInt8) : trimmed (trimmed text) = trimmed text := by
  rw [trimmed, dropWhile_trimmed, trimmed, List.rdropWhile_idempotent]

/-! ## Scanning -/

/-- One turn of the loop, for the character it is at. -/
theorem TrimState.body_eq (s : TrimState) :
    s.body =
      if s.firstNonspace = none ∧ isspace (s.memory s.scanPtr) = true then
        { s with scanPtr := s.scanPtr + 1 }
      else
        { scanPtr := s.scanPtr + 1
          writePtr := s.writePtr + 1
          firstNonspace := some (s.firstNonspace.getD s.scanPtr)
          lastNonspace :=
            if isspace (s.memory s.scanPtr) then s.lastNonspace else some (s.writePtr + 1)
          memory := overwrite s.memory s.writePtr [s.memory s.scanPtr] } := by
  obtain ⟨scanPtr, writePtr, firstNonspace, lastNonspace, memory⟩ := s
  cases firstNonspace <;> cases space : isspace (memory scanPtr) <;>
    simp [TrimState.body, overwrite_copied, space]

/-- The characters scanned are copied from the first that is no space on. -/
structure TrimState.Scanned (before : ℕ → UInt8) (orgString : ℕ) (done : List UInt8)
    (s : TrimState) : Prop where
  scanPtr : s.scanPtr = orgString + done.length
  writePtr : s.writePtr = orgString + (done.dropWhile isspace).length
  firstNonspace : s.firstNonspace = none ↔ done.all isspace = true
  lastNonspace : s.lastNonspace =
    if done.all isspace then none else some (orgString + (trimmed done).length)
  memory : s.memory = overwrite before orgString (done.dropWhile isspace)

section Scanning

variable {before : ℕ → UInt8} {orgString : ℕ} {done rest : List UInt8} {byte : UInt8}
  {s : TrimState}

theorem TrimState.Scanned.start (before : ℕ → UInt8) (orgString : ℕ) :
    Scanned before orgString [] ⟨orgString, orgString, none, none, before⟩ where
  scanPtr := rfl
  writePtr := rfl
  firstNonspace := by simp
  lastNonspace := rfl
  memory := (overwrite_readAt before orgString 0).symm

/-- The write pointer is not ahead of the scan pointer. -/
theorem TrimState.Scanned.read (scanned : Scanned before orgString done s) :
    s.memory s.scanPtr = before (orgString + done.length) := by
  have behind : (done.dropWhile isspace).length ≤ done.length :=
    (List.dropWhile_suffix _).length_le
  rw [scanned.memory, scanned.scanPtr, overwrite_outside (by omega)]

/-- A leading space is skipped. -/
theorem TrimState.Scanned.skip (scanned : Scanned before orgString done s)
    (blank : done.all isspace = true) (space : isspace byte = true) :
    Scanned before orgString (done ++ [byte]) { s with scanPtr := s.scanPtr + 1 } := by
  have still : (done ++ [byte]).all isspace = true := by simp [blank, space]
  have nothing : done.dropWhile isspace = [] := dropWhile_of_blank blank
  have nothing' : (done ++ [byte]).dropWhile isspace = [] := dropWhile_of_blank still
  refine ⟨?_, ?_, ?_, ?_, ?_⟩
  · show s.scanPtr + 1 = _
    rw [scanned.scanPtr, List.length_append, List.length_singleton, Nat.add_assoc]
  · show s.writePtr = _
    rw [scanned.writePtr, nothing, nothing']
  · simp only [scanned.firstNonspace.mpr blank, still]
  · show s.lastNonspace = _
    rw [scanned.lastNonspace, blank, still]
    rfl
  · show s.memory = _
    rw [scanned.memory, nothing, nothing']

/-- Every other character is copied; the place behind it is remembered unless it is a space. -/
theorem TrimState.Scanned.copy (scanned : Scanned before orgString done s)
    (kept : ¬ (done.all isspace = true ∧ isspace byte = true)) :
    Scanned before orgString (done ++ [byte])
      { scanPtr := s.scanPtr + 1
        writePtr := s.writePtr + 1
        firstNonspace := some (s.firstNonspace.getD s.scanPtr)
        lastNonspace := if isspace byte then s.lastNonspace else some (s.writePtr + 1)
        memory := overwrite s.memory s.writePtr [byte] } := by
  have other : (done ++ [byte]).all isspace = false := by
    rw [List.all_append, List.all_cons, List.all_nil, Bool.and_true, ← Bool.not_eq_true,
      Bool.and_eq_true]
    exact kept
  have longer := dropWhile_concat kept
  refine ⟨?_, ?_, ?_, ?_, ?_⟩
  · show s.scanPtr + 1 = _
    rw [scanned.scanPtr, List.length_append, List.length_singleton, Nat.add_assoc]
  · show s.writePtr + 1 = _
    rw [scanned.writePtr, longer, List.length_append, List.length_singleton, Nat.add_assoc]
  · simp only [other, reduceCtorEq, Bool.false_eq_true]
  · show (if isspace byte then s.lastNonspace else some (s.writePtr + 1)) = _
    rw [other, if_neg Bool.false_ne_true, trimmed_concat kept]
    cases space : isspace byte with
    | true =>
        have notBlank : done.all isspace = false := by simpa [space] using kept
        simp only [if_true, scanned.lastNonspace, notBlank, Bool.false_eq_true, if_false]
    | false =>
        simp only [Bool.false_eq_true, if_false, scanned.writePtr, List.length_append,
          List.length_singleton, Nat.add_assoc]
  · show overwrite s.memory s.writePtr [byte] = _
    rw [longer, overwrite_append, scanned.memory, scanned.writePtr]

/-- One turn of the loop scans one character more. -/
theorem TrimState.Scanned.body (scanned : Scanned before orgString done s)
    (next : before (orgString + done.length) = byte) :
    Scanned before orgString (done ++ [byte]) s.body := by
  have read : s.memory s.scanPtr = byte := scanned.read.trans next
  rw [TrimState.body_eq, read]
  by_cases skip : s.firstNonspace = none ∧ isspace byte = true
  · rw [if_pos skip]
    exact scanned.skip (scanned.firstNonspace.mp skip.1) skip.2
  · rw [if_neg skip]
    exact scanned.copy fun both => skip ⟨scanned.firstNonspace.mpr both.1, both.2⟩

/-- The loop ends at the terminator. -/
theorem TrimState.Scanned.scan (scanned : Scanned before orgString done s)
    (there : StringAt before orgString (done ++ rest)) {bound : ℕ}
    (enough : rest.length < bound) :
    ∃ final, TrimState.scan bound s = some final ∧
      Scanned before orgString (done ++ rest) final := by
  induction rest generalizing done s bound with
  | nil =>
      obtain ⟨bound, rfl⟩ := Nat.exists_eq_add_of_lt enough
      have ended := there.end_eq
      rw [List.append_nil] at ended ⊢
      refine ⟨s, ?_, scanned⟩
      rw [TrimState.scan, scanned.read, ended, if_neg fun other => other rfl]
  | cons byte rest ih =>
      obtain ⟨bound, rfl⟩ := Nat.exists_eq_add_of_lt enough
      have next := there.next
      have notEnd : byte ≠ 0 := by
        rintro rfl
        exact there.2 (List.mem_append_right _ (List.mem_cons_self ..))
      rw [List.append_cons] at there ⊢
      rw [TrimState.scan, scanned.read, next, if_pos notEnd]
      exact ih (scanned.body next) there (by rw [List.length_cons]; omega)

end Scanning

/-! ## The buffer afterwards -/

section Buffer

variable {before : ℕ → UInt8} {orgString : ℕ} {text : List UInt8}

/-- Blank strings are left alone; in others the end of the copy is marked. -/
theorem trimSpaceAt_eq (there : StringAt before orgString text) {bound : ℕ}
    (enough : text.length < bound) :
    trimSpaceAt bound before orgString =
      some (if text.all isspace then before else
        overwrite (overwrite before orgString (text.dropWhile isspace))
          (orgString + (trimmed text).length) [0]) := by
  have whole : StringAt before orgString ([] ++ text) := there
  obtain ⟨final, run, scanned⟩ := (TrimState.Scanned.start before orgString).scan whole enough
  rw [List.nil_append] at scanned
  rw [trimSpaceAt, run, Option.map_some, scanned.lastNonspace, scanned.memory]
  cases blank : text.all isspace with
  | true =>
      rw [if_pos rfl, if_pos rfl, dropWhile_of_blank blank]
      exact congrArg some (overwrite_readAt before orgString 0)
  | false => rw [if_neg Bool.false_ne_true, if_neg Bool.false_ne_true]

/-- The end of the copy cuts the trailing spaces off. -/
theorem stringAt_trimmed (there : StringAt before orgString text) :
    StringAt (overwrite (overwrite before orgString (text.dropWhile isspace))
      (orgString + (trimmed text).length) [0]) orgString (trimmed text) := by
  obtain ⟨spaces, split⟩ := trimmed_begins text
  have copied : readAt (overwrite before orgString (text.dropWhile isspace)) orgString
      (trimmed text).length = trimmed text := by
    rw [← split, ← take_readAt _ _ (Nat.le_add_right _ spaces.length), ← List.length_append,
      readAt_overwrite, List.take_left]
  refine ⟨?_, fun nul =>
    there.2 ((List.dropWhile_suffix _).subset ((trimmed_begins text).subset nul))⟩
  have ended := readAt_overwrite (overwrite before orgString (text.dropWhile isspace))
    (orgString + (trimmed text).length) [0]
  rw [List.length_singleton] at ended
  rw [readAt_add, readAt_overwrite_behind _ _ (Nat.le_refl _), copied, ended]

/-- Only characters of the string are written. -/
theorem trimmed_outside (there : StringAt before orgString text) {address : ℕ}
    (outside : address < orgString ∨ orgString + text.length ≤ address) :
    overwrite (overwrite before orgString (text.dropWhile isspace))
      (orgString + (trimmed text).length) [0] address = before address := by
  have kept : (text.dropWhile isspace).length ≤ text.length :=
    (List.dropWhile_suffix _).length_le
  have short := length_trimmed_le text
  by_cases here : address = orgString + (trimmed text).length
  · have whole : (trimmed text).length = text.length := by omega
    have marked : overwrite (overwrite before orgString (text.dropWhile isspace))
        (orgString + (trimmed text).length) [0] (orgString + (trimmed text).length) = 0 :=
      (List.cons.inj (readAt_overwrite _ _ [0])).1
    rw [here, marked, whole, there.end_eq]
  · rw [overwrite_outside (by rw [List.length_singleton]; omega), overwrite_outside (by omega)]

/-- Trimming what has been trimmed changes nothing. -/
theorem trimSpaceAt_trimmed {after : ℕ → UInt8} (there : StringAt after orgString (trimmed text))
    {bound : ℕ} (enough : text.length < bound) :
    trimSpaceAt bound after orgString = some after := by
  rw [trimSpaceAt_eq there (Nat.lt_of_le_of_lt (length_trimmed_le text) enough),
    trimmed_trimmed, dropWhile_trimmed, ← overwrite_append, ← there.1, overwrite_readAt, ite_self]

end Buffer

/-- What `trim_space` shall do to the string at an address: the string there is
the text without its surrounding spaces, nothing else has changed, and trimming
again changes nothing. -/
def TrimsExactly (before : ℕ → UInt8) (orgString : ℕ) (text : List UInt8) : Prop :=
  ∀ bound, text.length < bound →
    ∃ after, trimSpaceAt bound before orgString = some after ∧
      StringAt after orgString (trimmed text) ∧
      (∀ address, address < orgString ∨ orgString + text.length ≤ address →
        after address = before address) ∧
      trimSpaceAt bound after orgString = some after

/-- The buffer afterwards holds what `trimSpace` makes of the text. -/
theorem trimSpaceAt_trimSpace {before : ℕ → UInt8} {orgString : ℕ} {text : List UInt8}
    (there : StringAt before orgString text) {bound : ℕ} (enough : text.length < bound) :
    ∃ after, trimSpaceAt bound before orgString = some after ∧
      StringAt after orgString (trimSpace text) := by
  refine ⟨_, trimSpaceAt_eq there enough, ?_⟩
  cases blank : text.all isspace with
  | true => rwa [trimSpace, blank, if_pos rfl, if_pos rfl]
  | false =>
      rw [trimSpace, blank, if_neg Bool.false_ne_true, if_neg Bool.false_ne_true]
      exact stringAt_trimmed there

/-- **Exactly the surrounding spaces are removed**, if the string is empty or has
a character that is no space. -/
theorem trimsExactly_iff {before : ℕ → UInt8} {orgString : ℕ} {text : List UInt8}
    (there : StringAt before orgString text) :
    TrimsExactly before orgString text ↔ text = [] ∨ ∃ byte ∈ text, isspace byte = false := by
  constructor
  · intro trims
    obtain ⟨after, run, string, -, -⟩ := trims _ (Nat.lt_succ_self _)
    rw [trimSpaceAt_eq there (Nat.lt_succ_self _)] at run
    cases text with
    | nil => exact Or.inl rfl
    | cons first rest =>
        refine Or.inr ?_
        by_contra! blank
        have spaces : (first :: rest).all isspace = true :=
          List.all_eq_true.mpr fun byte member => by simpa using blank byte member
        rw [spaces, if_pos rfl] at run
        obtain rfl := Option.some.inj run
        rw [trimmed_eq_nil spaces] at string
        have whole : StringAt before orgString ([] ++ first :: rest) := there
        have start : before orgString = first := whole.next
        have ended : before orgString = 0 := string.end_eq
        exact there.2 (by rw [← ended, start]; exact List.mem_cons_self ..)
  · intro other bound enough
    refine ⟨_, trimSpaceAt_eq there enough, ?_⟩
    rcases other with rfl | ⟨byte, member, other⟩
    · have still : StringAt before orgString (trimmed []) := there
      exact ⟨there, fun _ _ => rfl, trimSpaceAt_trimmed still enough⟩
    · have notBlank : ¬ text.all isspace = true := fun blank => by
        rw [List.all_eq_true.mp blank byte member] at other
        cases other
      rw [if_neg notBlank]
      exact ⟨stringAt_trimmed there, fun _ outside => trimmed_outside there outside,
        trimSpaceAt_trimmed (stringAt_trimmed there) enough⟩

/-- `" a b "` becomes `"a b"`. -/
theorem trimsExactly_iff_inner :
    TrimsExactly (fun address => [32, 97, 32, 98, 32].getD address 0) 0 [32, 97, 32, 98, 32] :=
  (trimsExactly_iff ⟨by decide, by decide⟩).mpr (Or.inr ⟨97, by decide, by decide⟩)

/-- A string of one space keeps it. -/
theorem not_trimsExactly :
    ¬ ∀ before orgString text, (∀ byte ∈ text, byte < 128) → StringAt before orgString text →
      TrimsExactly before orgString text := by
  intro all
  have space : StringAt (fun address => [32].getD address 0) 0 [32] := ⟨by decide, by decide⟩
  obtain ⟨after, run, string, -, -⟩ :=
    all (fun address => [32].getD address 0) 0 [32] (List.forall_mem_singleton.mpr (by decide))
      space 2 (by decide)
  rw [trimSpaceAt_eq space (by decide), if_pos (by decide)] at run
  obtain rfl := Option.some.inj run
  exact absurd string.1 (by decide)

end Msm8660.Gps
