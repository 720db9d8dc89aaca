import Mathlib.Data.Int.Notation
import Mathlib.Data.Nat.Notation
import Mathlib.Logic.Function.Basic

/-!
# The names of operators

`operatorReplace` turns the numeric code of an operator into a name. It remembers the last
code that it was asked for and the name that it gave, in two static fields that it sets at
different points. `unOptimizedOperatorReplace` remembers the map instead, in a field of an
instance.

Both are compared with `operatorName`, which remembers nothing. As long as `initList` gives
the same map on every call, the fields that are kept agree with it (`Statics.Agrees`,
`Operators.Agrees`), and so do the answers (`operatorReplace_spec`,
`unOptimizedOperatorReplace_spec`).

The parser is known by the start tags that `XmlUtils.nextElement` stops at, up to the end of
the document or the first exception; what `initList` has put by then is what it returns in
both cases.
-/

set_option autoImplicit false

namespace Msm8660.Ril

/-! ## Strings, numbers and maps of Java -/

/-- The UTF-16 units of a string. -/
abbrev JString := List UInt16

/-- A string of characters that are one unit each. -/
def java (text : String) : JString := text.toList.map fun char => UInt16.ofNat char.toNat

/-- The zeros among the decimal digits that are one unit. -/
def digitZeros : List ℕ :=
  [0x30, 0x660, 0x6F0, 0x7C0, 0x966, 0x9E6, 0xA66, 0xAE6, 0xB66, 0xBE6, 0xC66, 0xCE6, 0xD66,
    0xE50, 0xED0, 0xF20, 0x1040, 0x1090, 0x17E0, 0x1810, 0x1946, 0x19D0, 0x1A80, 0x1A90,
    0x1B50, 0x1BB0, 0x1C40, 0x1C50, 0xA620, 0xA8D0, 0xA900, 0xA9D0, 0xAA50, 0xABF0, 0xFF10]

/-- `Character.digit` with radix ten. -/
def characterDigit (unit : UInt16) : Option ℕ :=
  (digitZeros.find? fun first => first ≤ unit.toNat ∧ unit.toNat < first + 10).map
    (unit.toNat - ·)

/-- `Integer.parseInt`; `none` is a `NumberFormatException`. -/
def parseInt (text : JString) : Option ℤ :=
  let negative := text.head? = some 45
  let digits := if negative ∨ text.head? = some 43 then text.tail else text
  if digits = [] then none
  else (digits.mapM characterDigit).bind fun values =>
    let magnitude : ℕ := values.foldl (fun value next => value * 10 + next) 0
    let value : ℤ := if negative then -magnitude else magnitude
    if -2147483648 ≤ value ∧ value ≤ 2147483647 then some value else none

example : parseInt (java "+2620") = some 2620 := by decide

example : parseInt (java "2620O") = none := by decide

/-- What a `HashMap<String, String>` holds. Both a key and a value may be null. -/
abbrev OperatorMap := Option JString → Option (Option JString)

/-- `put`. -/
def OperatorMap.put (map : OperatorMap) (key value : Option JString) : OperatorMap :=
  Function.update map key (some value)

/-- `containsKey`. -/
def OperatorMap.containsKey (map : OperatorMap) (key : Option JString) : Bool := (map key).isSome

/-- `get`, which is null for what the map does not hold. -/
def OperatorMap.get (map : OperatorMap) (key : Option JString) : Option JString := (map key).join

/-! ## The list of operators -/

/-- A start tag, with the attributes that are read. -/
structure SpnElement where
  name : JString
  numeric : Option JString
  spn : Option JString

/-- `etc/selective-spn-conf.xml`: its start tags, or none when it cannot be opened. -/
abbrev SpnFile := Option (List SpnElement)

/-- The loop of `initList`. -/
def putOverrides (init : OperatorMap) : List SpnElement → OperatorMap
  | [] => init
  | element :: rest =>
      if element.name ≠ java "spnOverride" then init
      else putOverrides (init.put element.numeric element.spn) rest

/-- `initList`. `XmlUtils.beginDocument` throws where the first tag is not the one that it
is given. -/
def initList : SpnFile → OperatorMap
  | none => fun _ => none
  | some [] => fun _ => none
  | some (first :: rest) =>
      if first.name ≠ java "spnOverrides" then fun _ => none
      else putOverrides (fun _ => none) rest

/-! ## The two lookups -/

/-- The static fields. -/
structure Statics where
  stored : Option JString
  storedOperators : Option JString

/-- The static fields of a class that has just been loaded. -/
def Statics.initial : Statics := ⟨none, none⟩

/-- `operatorReplace`: the static fields afterwards, and what it returns. -/
def operatorReplace (spnFile : SpnFile) (statics : Statics) (response : Option JString) :
    Statics × Option JString :=
  match response with
  | none => (statics, response)
  | some text =>
      if 5 ≠ text.length ∧ text.length ≠ 6 then (statics, response)
      else if statics.storedOperators ≠ none ∧ statics.stored = some text then
        (statics, statics.storedOperators)
      else match parseInt text with
        | none => (⟨response, response⟩, response)
        | some _ =>
            let operators := initList spnFile
            let storedOperators :=
              if operators.containsKey response then operators.get response else response
            (⟨response, storedOperators⟩, storedOperators)

/-- The field of an instance. -/
structure Operators where
  unOptOperators : Option OperatorMap

/-- `new Operators()`. -/
def Operators.new : Operators := ⟨none⟩

/-- `unOptimizedOperatorReplace`: the instance afterwards, and what it returns. -/
def unOptimizedOperatorReplace (spnFile : SpnFile) (this : Operators)
    (response : Option JString) : Operators × Option JString :=
  match response with
  | none => (this, response)
  | some text =>
      if 5 ≠ text.length ∧ text.length ≠ 6 then (this, response)
      else match parseInt text with
        | none => (this, response)
        | some _ =>
            let unOptOperators := this.unOptOperators.getD (initList spnFile)
            (⟨some unOptOperators⟩,
              if unOptOperators.containsKey response then unOptOperators.get response
              else response)

/-! ## What is remembered -/

/-- The name of an operator, from the code and the map alone. -/
def operatorName (operators : OperatorMap) (response : Option JString) : Option JString :=
  match response with
  | none => none
  | some text =>
      if text.length = 5 ∨ text.length = 6 then
        if parseInt text ≠ none then (operators response).getD response else response
      else response

/-- A name that is remembered is the name of the code that is remembered. -/
def Statics.Agrees (operators : OperatorMap) (statics : Statics) : Prop :=
  ∀ name, statics.storedOperators = some name →
    operatorName operators statics.stored = some name

/-- A map that is remembered is the map. -/
def Operators.Agrees (operators : OperatorMap) (this : Operators) : Prop :=
  ∀ map, this.unOptOperators = some map → map = operators

theorem Statics.initial_agrees (operators : OperatorMap) : Statics.initial.Agrees operators := by
  intro name remembered
  cases remembered

theorem Operators.new_agrees (operators : OperatorMap) : Operators.new.Agrees operators := by
  intro map remembered
  cases remembered

/-- Asking the map first whether it holds a key. -/
theorem OperatorMap.get_of_containsKey (operators : OperatorMap) (response : Option JString) :
    (if operators.containsKey response then operators.get response else response) =
      (operators response).getD response := by
  rw [OperatorMap.containsKey, OperatorMap.get]
  cases operators response with
  | none => rfl
  | some name => rfl

theorem operatorName_of_length {operators : OperatorMap} {text : JString}
    (length : 5 ≠ text.length ∧ text.length ≠ 6) :
    operatorName operators (some text) = some text := by
  rw [operatorName, if_neg (by omega)]

theorem operatorName_of_word {operators : OperatorMap} {text : JString}
    (word : parseInt text = none) : operatorName operators (some text) = some text := by
  rw [operatorName]
  split
  · rw [if_neg (not_not_intro word)]
  · rfl

theorem operatorName_of_number {operators : OperatorMap} {text : JString} {value : ℤ}
    (length : ¬(5 ≠ text.length ∧ text.length ≠ 6)) (number : parseInt text = some value) :
    operatorName operators (some text) = (operators (some text)).getD (some text) := by
  rw [operatorName, if_pos (by omega), if_pos (by simp [number])]

/-- **One call of `operatorReplace`**: it answers as if it remembered nothing, and what it
remembers afterwards agrees. -/
theorem operatorReplace_spec {operators : OperatorMap} {statics : Statics} {spnFile : SpnFile}
    (agrees : statics.Agrees operators) (sameMap : initList spnFile = operators)
    (response : Option JString) :
    (operatorReplace spnFile statics response).1.Agrees operators ∧
      (operatorReplace spnFile statics response).2 = operatorName operators response := by
  cases response with
  | none => exact ⟨agrees, rfl⟩
  | some text =>
      simp only [operatorReplace]
      by_cases length : 5 ≠ text.length ∧ text.length ≠ 6
      · rw [if_pos length]
        exact ⟨agrees, (operatorName_of_length length).symm⟩
      rw [if_neg length]
      by_cases known : statics.storedOperators ≠ none ∧ statics.stored = some text
      · rw [if_pos known]
        obtain ⟨name, remembered⟩ := Option.ne_none_iff_exists'.mp known.1
        have named := agrees name remembered
        rw [known.2] at named
        exact ⟨agrees, remembered.trans named.symm⟩
      rw [if_neg known]
      cases parsed : parseInt text with
      | none =>
          have word := @operatorName_of_word operators text parsed
          exact ⟨fun name remembered => word.trans remembered, word.symm⟩
      | some value =>
          have number := @operatorName_of_number operators text value length parsed
          simp only [sameMap, OperatorMap.get_of_containsKey]
          exact ⟨fun name remembered => number.trans remembered, number.symm⟩

/-- **One call of `unOptimizedOperatorReplace`.** -/
theorem unOptimizedOperatorReplace_spec {operators : OperatorMap} {this : Operators}
    {spnFile : SpnFile} (agrees : this.Agrees operators)
    (sameMap : initList spnFile = operators) (response : Option JString) :
    (unOptimizedOperatorReplace spnFile this response).1.Agrees operators ∧
      (unOptimizedOperatorReplace spnFile this response).2 = operatorName operators response := by
  cases response with
  | none => exact ⟨agrees, rfl⟩
  | some text =>
      simp only [unOptimizedOperatorReplace]
      by_cases length : 5 ≠ text.length ∧ text.length ≠ 6
      · rw [if_pos length]
        exact ⟨agrees, (operatorName_of_length length).symm⟩
      rw [if_neg length]
      cases parsed : parseInt text with
      | none => exact ⟨agrees, (operatorName_of_word parsed).symm⟩
      | some value =>
          have map : this.unOptOperators.getD (initList spnFile) = operators := by
            cases held : this.unOptOperators with
            | none => exact sameMap
            | some map => exact agrees map held
          simp only [map, OperatorMap.get_of_containsKey]
          refine ⟨?_, (operatorName_of_number length parsed).symm⟩
          intro map remembered
          cases remembered
          rfl

end Msm8660.Ril
