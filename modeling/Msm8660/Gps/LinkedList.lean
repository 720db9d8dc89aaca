import Mathlib.Data.List.Basic

/-!
# `linked_list_search`

The list of `gps/utils/linked_list.c` as the sequence of the data pointers from
its head. A comparison callback may do something besides answering, so it
returns its answer together with what it emitted; `linkedListSearch` calls it on
one element after the other until it answers `true`.

A search that deletes what it finds ends at the first hit. Repeating it until it
finds nothing deletes every hit, once each and in order
(`removeUntilNone_eq`), provided the callback stays silent where it answers
`false`: an element that is not hit is visited again by every later pass.
-/

set_option autoImplicit false

namespace Msm8660.Gps

variable {α ε : Type*}

/-- What a search leaves behind: the pointer it stored in `*data_p`, as the
place in the list with the data found there, the list, and what the callback
emitted. -/
structure SearchResult (α : Type*) (ε : Type*) where
  dataP : Option (ℕ × α)
  list : List α
  emitted : List ε

/-- `linked_list_search`, with `equal` partially applied to `data_0`. -/
def linkedListSearch (equal : α → Bool × List ε) (rmIfFound : Bool) :
    List α → SearchResult α ε
  | [] => ⟨none, [], []⟩
  | data :: rest =>
      if (equal data).1 then
        ⟨some (0, data), if rmIfFound then rest else data :: rest, (equal data).2⟩
      else
        let later := linkedListSearch equal rmIfFound rest
        ⟨later.dataP.map fun found => (found.1 + 1, found.2), data :: later.list,
          (equal data).2 ++ later.emitted⟩

/-- `linked_list_add` puts the new element at the head. -/
def linkedListAdd (list : List α) (data : α) : List α := data :: list

/-- `linked_list_remove` takes the element at the tail. -/
def linkedListRemove (list : List α) : Option α × List α := (list.getLast?, list.dropLast)

/-- `linked_list_flush`. -/
def linkedListFlush (_list : List α) : List α := []

/-- `linked_list_empty`. -/
def linkedListEmpty (list : List α) : Bool := list.isEmpty

/-! ## One search -/

/-- A callback that only answers. -/
def pureCallback (hit : α → Bool) : α → Bool × List ε := fun data => (hit data, [])

/-- A search that finds nothing visits the whole list. -/
theorem search_none {equal : α → Bool × List ε} {rmIfFound : Bool} {list : List α}
    (noHit : ∀ data ∈ list, (equal data).1 = false) :
    linkedListSearch equal rmIfFound list =
      ⟨none, list, list.flatMap fun data => (equal data).2⟩ := by
  induction list with
  | nil => rfl
  | cons data rest ih =>
      have miss := noHit data (List.mem_cons_self ..)
      have tail := ih fun other member => noHit other (List.mem_cons_of_mem _ member)
      simp [linkedListSearch, miss, tail]

/-- A search stops at the first hit. -/
theorem search_first {equal : α → Bool × List ε} {rmIfFound : Bool} {before after : List α}
    {data : α} (noHit : ∀ other ∈ before, (equal other).1 = false)
    (hit : (equal data).1 = true) :
    linkedListSearch equal rmIfFound (before ++ data :: after) =
      ⟨some (before.length, data),
        if rmIfFound then before ++ after else before ++ data :: after,
        (before.flatMap fun other => (equal other).2) ++ (equal data).2⟩ := by
  induction before with
  | nil => simp [linkedListSearch, hit]
  | cons other rest ih =>
      have miss := noHit other (List.mem_cons_self ..)
      have tail := ih fun next member => noHit next (List.mem_cons_of_mem _ member)
      simp only [List.cons_append, linkedListSearch, miss, Bool.false_eq_true, if_false, tail,
        Option.map_some, List.length_cons, List.flatMap_cons, List.append_assoc]
      cases rmIfFound <;> rfl

/-- A search stores the first hit. -/
theorem search_dataP (equal : α → Bool × List ε) (rmIfFound : Bool) (list : List α) :
    (linkedListSearch equal rmIfFound list).dataP.map Prod.snd =
      list.find? fun data => (equal data).1 := by
  induction list with
  | nil => rfl
  | cons data rest ih =>
      cases hit : (equal data).1 with
      | true => simp [linkedListSearch, hit]
      | false =>
          rw [List.find?_cons_of_neg (by simp [hit]), ← ih]
          simp [linkedListSearch, hit, Function.comp_def]

/-- A search deletes the first hit, if it is to delete anything. -/
theorem search_list (equal : α → Bool × List ε) (rmIfFound : Bool) (list : List α) :
    (linkedListSearch equal rmIfFound list).list =
      if rmIfFound then list.eraseP fun data => (equal data).1 else list := by
  induction list with
  | nil => cases rmIfFound <;> rfl
  | cons data rest ih =>
      cases hit : (equal data).1 with
      | true => cases rmIfFound <;> simp [linkedListSearch, hit]
      | false => cases rmIfFound <;> simp_all [linkedListSearch]

/-- A list has no hit, or it splits at its first hit. -/
theorem noHit_or_firstHit (hit : α → Bool) (list : List α) :
    (∀ data ∈ list, hit data = false) ∨
      ∃ before data after, list = before ++ data :: after ∧
        (∀ other ∈ before, hit other = false) ∧ hit data = true := by
  induction list with
  | nil => exact Or.inl fun _ member => by cases member
  | cons data rest ih =>
      by_cases here : hit data = true
      · exact Or.inr ⟨[], data, rest, rfl, by simp, here⟩
      · have miss : hit data = false := by simpa using here
        rcases ih with none | ⟨before, found, after, rfl, noneBefore, found_hit⟩
        · exact Or.inl (List.forall_mem_cons.mpr ⟨miss, none⟩)
        · exact Or.inr ⟨data :: before, found, after, rfl,
            List.forall_mem_cons.mpr ⟨miss, noneBefore⟩, found_hit⟩

/-- A search with a callback that only answers points at an element that the
callback accepts, and at the first one. -/
theorem search_pure_some {hit : α → Bool} {list : List α} {place : ℕ} {data : α}
    (found : (linkedListSearch (pureCallback hit (ε := ε)) false list).dataP =
      some (place, data)) :
    ∃ before after, list = before ++ data :: after ∧ place = before.length ∧
      (∀ other ∈ before, hit other = false) ∧ hit data = true := by
  rcases noHit_or_firstHit hit list with none | ⟨before, first, after, rfl, noneBefore, isHit⟩
  · rw [search_none (by simpa [pureCallback] using none)] at found
    cases found
  · rw [search_first (by simpa [pureCallback] using noneBefore)
      (by simpa [pureCallback] using isHit)] at found
    cases found
    exact ⟨before, after, rfl, rfl, noneBefore, isHit⟩

theorem search_pure_isSome {hit : α → Bool} {list : List α} :
    (linkedListSearch (pureCallback hit (ε := ε)) false list).dataP.isSome = list.any hit := by
  rcases noHit_or_firstHit hit list with none | ⟨before, first, after, rfl, noneBefore, isHit⟩
  · rw [search_none (by simpa [pureCallback] using none)]
    simpa using none
  · rw [search_first (by simpa [pureCallback] using noneBefore)
      (by simpa [pureCallback] using isHit)]
    simp [isHit]

/-! ## Searching until nothing is found -/

/-- `while (NULL != s) { s = NULL; linked_list_search(.., &s, .., true); }`,
given a bound on the number of passes; `none` when the bound is reached. -/
def removeUntilNone (equal : α → Bool × List ε) : ℕ → List α → Option (List α × List ε)
  | 0, _ => none
  | passes + 1, list =>
      let result := linkedListSearch equal true list
      match result.dataP with
      | none => some (result.list, result.emitted)
      | some _ =>
          (removeUntilNone equal passes result.list).map fun rest =>
            (rest.1, result.emitted ++ rest.2)

/-- The loop ends for every callback: each pass but the last shortens the list. -/
theorem removeUntilNone_isSome {equal : α → Bool × List ε} {passes : ℕ} {list : List α}
    (enough : list.length < passes) : (removeUntilNone equal passes list).isSome = true := by
  induction passes generalizing list with
  | zero => omega
  | succ passes ih =>
      rcases noHit_or_firstHit (fun data => (equal data).1) list with
        none | ⟨before, data, after, rfl, noneBefore, isHit⟩
      · simp only [removeUntilNone, search_none none, Option.isSome_some]
      · have shorter : (before ++ after).length < passes := by
          simp only [List.length_append, List.length_cons] at enough ⊢
          omega
        simp only [removeUntilNone, search_first noneBefore isHit, if_true, Option.isSome_map,
          ih shorter]

/-- **The loop ends, and it deletes exactly the hits**: every hit is visited
successfully once, in the order of the list, and the other elements stay in
their order. One pass more than the length of the list is enough. -/
theorem removeUntilNone_eq {equal : α → Bool × List ε}
    (quiet : ∀ data, (equal data).1 = false → (equal data).2 = []) {passes : ℕ} {list : List α}
    (enough : list.length < passes) :
    removeUntilNone equal passes list =
      some (list.filter fun data => !(equal data).1,
        (list.filter fun data => (equal data).1).flatMap fun data => (equal data).2) := by
  induction passes generalizing list with
  | zero => omega
  | succ passes ih =>
      rcases noHit_or_firstHit (fun data => (equal data).1) list with
        none | ⟨before, data, after, rfl, noneBefore, isHit⟩
      · have all : (list.filter fun data => !(equal data).1) = list :=
          List.filter_eq_self.mpr fun data member => by simp [none data member]
        have nothing : (list.filter fun data => (equal data).1) = [] :=
          List.filter_eq_nil_iff.mpr fun data member => by simp [none data member]
        have silent : (list.flatMap fun data => (equal data).2) = [] :=
          List.flatMap_eq_nil_iff.mpr fun data member => quiet data (none data member)
        simp only [removeUntilNone, search_none none, all, nothing, silent, List.flatMap_nil]
      · have shorter : (before ++ after).length < passes := by
          simp only [List.length_append, List.length_cons] at enough ⊢
          omega
        have nothing : (before.filter fun data => (equal data).1) = [] :=
          List.filter_eq_nil_iff.mpr fun other member => by simp [noneBefore other member]
        have silent : (before.flatMap fun other => (equal other).2) = [] :=
          List.flatMap_eq_nil_iff.mpr fun other member => quiet other (noneBefore other member)
        simp only [removeUntilNone, search_first noneBefore isHit, if_true, ih shorter,
          Option.map_some, List.filter_append, List.filter_cons, isHit, nothing, silent,
          List.nil_append, Bool.not_true, Bool.false_eq_true, if_false, List.flatMap_cons]

end Msm8660.Gps
