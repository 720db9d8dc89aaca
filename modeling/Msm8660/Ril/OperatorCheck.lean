import Mathlib.Data.List.Forall2
import Mathlib.Data.List.Range
import Msm8660.Lib.Machine
import Msm8660.Ril.Operators

/-!
# The names that are shown

`operatorCheck` replaces the first two strings of a response by the names of the operators,
through the static fields. `responseOperatorInfos` names the operators of a search for
networks, through an instance of its own.

After every history of requests the two lookups answer alike, and the two responses show the
same name for the same code (`operatorReplace_eq_unOptimized`).
-/

set_option autoImplicit false

namespace Msm8660.Ril

/-- What the code throws. -/
inductive Thrown where
  | nullPointer
  | arrayIndexOutOfBounds
  | arithmetic
  | illegalArgument
  | runtime (message : String)

/-- The values of `i` in `for (i = 0; i < length; i += step)`. -/
def forIndices (length step : ℕ) : List ℕ := List.range' 0 ((length + step - 1) / step) step

theorem mem_forIndices {length step i : ℕ} (positive : 0 < step) :
    i ∈ forIndices length step ↔ i < length ∧ step ∣ i := by
  have below : ∀ pass, pass < (length + step - 1) / step ↔ step * pass < length := by
    intro pass
    rw [Nat.lt_div_iff_mul_lt positive, Nat.mul_comm]
    omega
  simp only [forIndices, List.mem_range', Nat.zero_add, below]
  constructor
  · rintro ⟨pass, inside, rfl⟩
    exact ⟨inside, Nat.dvd_mul_right ..⟩
  · rintro ⟨inside, pass, rfl⟩
    exact ⟨pass, inside, rfl⟩

/-! ## The current operator -/

/-- The loop of `operatorCheck`. Pass `i` finds the file as `spnFiles i`. -/
def operatorCheckFrom (spnFiles : ℕ → SpnFile) (statics : Statics)
    (response : List (Option JString)) :
    List ℕ → Statics × Except Thrown (List (Option JString))
  | [] => (statics, .ok response)
  | i :: later => match response[i]? with
    | none => (statics, .error .arrayIndexOutOfBounds)
    | some none => operatorCheckFrom spnFiles statics response later
    | some (some text) =>
        let replaced := operatorReplace (spnFiles i) statics (some text)
        operatorCheckFrom spnFiles replaced.1 (response.set i replaced.2) later

/-- `operatorCheck`, on what `responseStrings` has read from the parcel. -/
def operatorCheck (spnFiles : ℕ → SpnFile) (statics : Statics)
    (strings : Option (List (Option JString))) :
    Statics × Except Thrown (List (Option JString)) :=
  match strings with
  | none => (statics, .error .nullPointer)
  | some response => operatorCheckFrom spnFiles statics response (forIndices 2 1)

/-! ## The operators that a search finds -/

/-- The arguments of the constructor `OperatorInfo`. -/
structure OperatorInfo where
  operatorAlphaLong : Option JString
  operatorAlphaShort : Option JString
  operatorNumeric : Option JString
  state : Option JString

/-- The loop of `responseOperatorInfos`. -/
def operatorInfosFrom (spnFile : SpnFile) (strings : List (Option JString)) (init : Operators) :
    List ℕ → Except Thrown (List OperatorInfo)
  | [] => .ok []
  | i :: later => match strings[i]?, strings[i + 2]?, strings[i + 3]? with
    | some response, some numeric, some state =>
        let replaced := unOptimizedOperatorReplace spnFile init response
        (operatorInfosFrom spnFile strings replaced.1 later).map
          (⟨replaced.2, replaced.2, numeric, state⟩ :: ·)
    | _, _, _ => .error .arrayIndexOutOfBounds

/-- `responseOperatorInfos`, on what `responseStrings` has read from the parcel. -/
def responseOperatorInfos (spnFile : SpnFile) (mQANElements : ℤ)
    (strings : Option (List (Option JString))) : Except Thrown (List OperatorInfo) :=
  match strings with
  | none => .error .nullPointer
  | some strings =>
      if mQANElements = 0 then .error .arithmetic
      else if (strings.length : ℤ).tmod mQANElements ≠ 0 then
        .error (.runtime ("RIL_REQUEST_QUERY_AVAILABLE_NETWORKS: invalid response. Got " ++
          toString strings.length ++ " strings, expected multiple of " ++ toString mQANElements))
      else if (strings.length : ℤ).tdiv mQANElements < 0 then .error .illegalArgument
      else operatorInfosFrom spnFile strings Operators.new
        (forIndices strings.length mQANElements.toNat)

/-! ## Requests -/

/-- What is asked of the static fields: a call of `operatorReplace`, or a response that
`operatorCheck` reads. -/
inductive Request where
  | operatorReplace (spnFile : SpnFile) (response : Option JString)
  | operatorCheck (spnFiles : ℕ → SpnFile) (strings : Option (List (Option JString)))

/-- What comes back. -/
inductive Reply where
  | name (name : Option JString)
  | strings (result : Except Thrown (List (Option JString)))

/-- The static fields over the requests of one thread. -/
def ril : Machine Statics Request Reply where
  step statics
    | .operatorReplace spnFile response =>
        let replaced := operatorReplace spnFile statics response
        (replaced.1, [.name replaced.2])
    | .operatorCheck spnFiles strings =>
        let checked := operatorCheck spnFiles statics strings
        (checked.1, [.strings checked.2])

/-- `initList` gives this map on every call that a request can make. -/
def Request.SeesMap (operators : OperatorMap) : Request → Prop
  | .operatorReplace spnFile _ => initList spnFile = operators
  | .operatorCheck spnFiles _ => ∀ i, initList (spnFiles i) = operators

/-! ## The names of one map -/

section

variable {operators : OperatorMap}

/-- The passes of `operatorCheck` name the strings at their indices and leave the others. -/
theorem operatorCheckFrom_spec {spnFiles : ℕ → SpnFile}
    (sameMap : ∀ i, initList (spnFiles i) = operators) {statics : Statics}
    (agrees : statics.Agrees operators) {indices : List ℕ} (distinct : indices.Nodup)
    (response : List (Option JString)) :
    (operatorCheckFrom spnFiles statics response indices).1.Agrees operators ∧
      ∀ shown, (operatorCheckFrom spnFiles statics response indices).2 = .ok shown →
        ∀ j, shown[j]? =
          if j ∈ indices then (response[j]?).map (operatorName operators) else response[j]? := by
  induction indices generalizing statics response with
  | nil =>
      refine ⟨agrees, ?_⟩
      intro shown returned j
      cases returned
      simp
  | cons i later ih =>
      obtain ⟨fresh, distinct⟩ := List.nodup_cons.mp distinct
      simp only [operatorCheckFrom]
      split
      next =>
        exact ⟨agrees, fun shown returned => by cases returned⟩
      next null =>
        obtain ⟨kept, named⟩ := ih agrees distinct response
        refine ⟨kept, ?_⟩
        intro shown returned j
        rw [named shown returned j]
        by_cases here : j = i
        · subst here
          simp [fresh, null, operatorName]
        · simp [here]
      next text present =>
        obtain ⟨agrees', name⟩ := operatorReplace_spec agrees (sameMap i) (some text)
        obtain ⟨kept, named⟩ := ih agrees' distinct
          (response.set i (operatorReplace (spnFiles i) statics (some text)).2)
        refine ⟨kept, ?_⟩
        intro shown returned j
        rw [named shown returned j, name]
        by_cases here : j = i
        · subst here
          have inside : j < response.length := (List.getElem?_eq_some_iff.mp present).1
          rw [if_neg fresh, List.getElem?_set_self inside, if_pos (List.mem_cons_self ..), present]
          rfl
        · simp [here, List.getElem?_set_ne (Ne.symm here)]

/-- A request leaves what is remembered in agreement with the map. -/
theorem ril_step_agrees (statics : Statics) (request : Request)
    (agrees : statics.Agrees operators) (sameMap : request.SeesMap operators) :
    (ril.step statics request).1.Agrees operators := by
  cases request with
  | operatorReplace spnFile response => exact (operatorReplace_spec agrees sameMap response).1
  | operatorCheck spnFiles strings =>
      cases strings with
      | none => exact agrees
      | some response => exact (operatorCheckFrom_spec sameMap agrees (by decide) response).1

/-- **What is remembered agrees with the map after every history.** -/
theorem ril_run_agrees {history : List Request}
    (sameMap : ∀ request ∈ history, request.SeesMap operators) :
    (ril.run Statics.initial history).Agrees operators :=
  Machine.run_induction ril_step_agrees (Statics.initial_agrees operators) sameMap

/-- The passes of `responseOperatorInfos` name the strings at their indices. -/
theorem operatorInfosFrom_spec {spnFile : SpnFile} (sameMap : initList spnFile = operators)
    (strings : List (Option JString)) {init : Operators} (agrees : init.Agrees operators)
    {indices : List ℕ} {infos : List OperatorInfo}
    (returned : operatorInfosFrom spnFile strings init indices = .ok infos) :
    List.Forall₂ (fun i info =>
      (strings[i]?).map (operatorName operators) = some info.operatorAlphaLong ∧
        info.operatorAlphaShort = info.operatorAlphaLong) indices infos := by
  induction indices generalizing init infos with
  | nil =>
      cases returned
      exact List.Forall₂.nil
  | cons i later ih =>
      simp only [operatorInfosFrom] at returned
      split at returned
      next response numeric state here _ _ =>
        obtain ⟨agrees', name⟩ := unOptimizedOperatorReplace_spec agrees sameMap response
        cases rest : operatorInfosFrom spnFile strings
            (unOptimizedOperatorReplace spnFile init response).1 later with
        | error thrown =>
            rw [rest] at returned
            cases returned
        | ok others =>
            rw [rest] at returned
            cases returned
            refine List.Forall₂.cons ⟨?_, rfl⟩ (ih agrees' rest)
            rw [here, name]
            rfl
      next => cases returned

/-- Operator `k` of a search is named after the string that its group begins with. -/
theorem responseOperatorInfos_spec {spnFile : SpnFile} (sameMap : initList spnFile = operators)
    {mQANElements : ℤ} {strings : List (Option JString)} {infos : List OperatorInfo}
    (returned : responseOperatorInfos spnFile mQANElements (some strings) = .ok infos)
    {k : ℕ} {info : OperatorInfo} (found : infos[k]? = some info) :
    (strings[k * mQANElements.toNat]?).map (operatorName operators) =
        some info.operatorAlphaLong ∧
      info.operatorAlphaShort = info.operatorAlphaLong := by
  simp only [responseOperatorInfos] at returned
  split at returned
  next => cases returned
  split at returned
  next => cases returned
  split at returned
  next => cases returned
  have named := operatorInfosFrom_spec sameMap strings (Operators.new_agrees operators) returned
  obtain ⟨within, rfl⟩ := List.getElem?_eq_some_iff.mp found
  have inRange : k < (forIndices strings.length mQANElements.toNat).length := by
    rw [named.length_eq]
    exact within
  have here := named.get inRange within
  simp only [List.get_eq_getElem, forIndices, List.getElem_range', Nat.zero_add] at here
  rwa [Nat.mul_comm]

end

/-! ## The same name for the same code -/

/-- A string of the current operator and the code of an operator that was found, where they
are the same, are shown under the same name. -/
def ShownAlike (mQANElements : ℤ) (checked queried shown : List (Option JString))
    (infos : List OperatorInfo) : Prop :=
  ∀ i < 2, ∀ (k : ℕ) (info : OperatorInfo), infos[k]? = some info →
    checked[i]? = queried[k * mQANElements.toNat]? →
      shown[i]? = some info.operatorAlphaLong ∧ shown[i]? = some info.operatorAlphaShort

theorem shownAlike {operators : OperatorMap} {statics : Statics}
    (agrees : statics.Agrees operators) {spnFiles : ℕ → SpnFile} {spnFile : SpnFile}
    (sameMap : ∀ i, initList (spnFiles i) = operators) (plainMap : initList spnFile = operators)
    {mQANElements : ℤ} {checked queried shown : List (Option JString)}
    {infos : List OperatorInfo}
    (current : (operatorCheck spnFiles statics (some checked)).2 = .ok shown)
    (search : responseOperatorInfos spnFile mQANElements (some queried) = .ok infos) :
    ShownAlike mQANElements checked queried shown infos := by
  intro i below k info found sameCode
  obtain ⟨long, short⟩ := responseOperatorInfos_spec plainMap search found
  have named := (operatorCheckFrom_spec sameMap agrees (by decide) checked).2 shown current i
  have index : i ∈ forIndices 2 1 := (mem_forIndices Nat.one_pos).mpr ⟨below, Nat.one_dvd i⟩
  rw [if_pos index, sameCode, long] at named
  exact ⟨named, by rw [named, short]⟩

/-- **The lookup that remembers agrees with the plain one.** As long as `initList` gives the
same map on every call, `operatorReplace` returns after every history of requests what
`unOptimizedOperatorReplace` of a new instance returns, for every argument; and a code in a
response that `operatorCheck` reads is shown under the name that `responseOperatorInfos`
shows for it. -/
theorem operatorReplace_eq_unOptimized (operators : OperatorMap) (history : List Request)
    (sameMap : ∀ request ∈ history, request.SeesMap operators) :
    (∀ (spnFile plainFile : SpnFile) (response : Option JString),
      initList spnFile = operators → initList plainFile = operators →
        (operatorReplace spnFile (ril.run Statics.initial history) response).2 =
          (unOptimizedOperatorReplace plainFile Operators.new response).2) ∧
      ∀ (spnFiles : ℕ → SpnFile) (plainFile : SpnFile) (mQANElements : ℤ)
        (checked queried shown : List (Option JString)) (infos : List OperatorInfo),
        (∀ i, initList (spnFiles i) = operators) → initList plainFile = operators →
          (operatorCheck spnFiles (ril.run Statics.initial history) (some checked)).2 =
            .ok shown →
          responseOperatorInfos plainFile mQANElements (some queried) = .ok infos →
            ShownAlike mQANElements checked queried shown infos := by
  have agrees := ril_run_agrees sameMap
  constructor
  · intro spnFile plainFile response cachedMap plainMap
    rw [(operatorReplace_spec agrees cachedMap response).2,
      (unOptimizedOperatorReplace_spec (Operators.new_agrees operators) plainMap response).2]
  · intro spnFiles plainFile mQANElements checked queried shown infos cachedMap plainMap
      current search
    exact shownAlike agrees cachedMap plainMap current search

/-- A file that names one operator and binds another to null. -/
def twoOperators : SpnFile :=
  some [⟨java "spnOverrides", none, none⟩,
    ⟨java "spnOverride", some (java "26201"), some (java "Telekom")⟩,
    ⟨java "spnOverride", some (java "26202"), none⟩]

/-- Two codes are asked for, the second one twice; then both are shown. -/
theorem operatorReplace_eq_unOptimized_twoOperators :
    (operatorReplace twoOperators
        (ril.run Statics.initial
          [.operatorReplace twoOperators (some (java "26201")),
            .operatorReplace twoOperators (some (java "26202"))])
        (some (java "26202"))).2 =
      (unOptimizedOperatorReplace twoOperators Operators.new (some (java "26202"))).2 ∧
    ShownAlike 4 [some (java "26201"), some (java "26202")]
      [some (java "26201"), none, some (java "26201"), some (java "current"),
        some (java "26202"), none, some (java "26202"), some (java "available")]
      [some (java "Telekom"), none]
      [⟨some (java "Telekom"), some (java "Telekom"), some (java "26201"), some (java "current")⟩,
        ⟨none, none, some (java "26202"), some (java "available")⟩] := by
  have both := operatorReplace_eq_unOptimized (initList twoOperators)
    [.operatorReplace twoOperators (some (java "26201")),
      .operatorReplace twoOperators (some (java "26202"))]
    (by
      intro request member
      simp only [List.mem_cons, List.not_mem_nil, or_false] at member
      obtain rfl | rfl := member
      · rfl
      · rfl)
  exact ⟨both.1 twoOperators twoOperators _ rfl rfl,
    both.2 (fun _ => twoOperators) twoOperators 4 _ _ _ _ (fun _ => rfl) rfl rfl rfl⟩

end Msm8660.Ril
