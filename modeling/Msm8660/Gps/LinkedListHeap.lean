import Msm8660.Lib.DoublyLinked
import Msm8660.Lib.Machine
import Msm8660.Gps.LinkedList

/-!
# The linked list in memory

The functions of `gps/utils/linked_list.c` on a heap of `list_element`s: what they
read, which pointers they change, and what they free. A function that follows a
dangling pointer has no result here.

The memory represents the list of its elements from the head (`Shape`, `Represents`).
Each function keeps this and does what the functional list does (`linkedListAdd_spec`,
`linkedListRemove_spec`, `linkedListSearch_spec`, `linkedListFlush_spec`), so that every
sequence of calls does (`linkedList_refines`).
-/

set_option autoImplicit false

namespace Msm8660.Gps

/-- `linked_list_err_type`. -/
inductive LinkedListErrType where
  | success
  | failureGeneral
  | invalidParameter
  | invalidHandle
  | unavailableResource
  | insufficientBuffer
deriving DecidableEq, Repr

/-- What a `list_element` holds beside its links. -/
structure ListElement (α : Type*) (δ : Type*) where
  dataPtr : α
  deallocFunc : Option δ
deriving DecidableEq

/-- `list_state`. -/
structure ListState (κ : Type*) where
  pHead : Option κ
  pTail : Option κ
deriving DecidableEq

/-- The elements in memory, and `list_data`. -/
structure ListMemory (κ : Type*) (α : Type*) (δ : Type*) where
  heap : NodeHeap κ (ListElement α δ)
  listData : Option (ListState κ)

/-- What a function returns: the error, what it has stored behind its pointer to a data
pointer, the calls of dealloc functions, and what the comparison has emitted. -/
structure ListReply (α : Type*) (δ : Type*) (ε : Type*) where
  err : LinkedListErrType
  dataP : Option (Option α)
  deallocs : List (δ × α)
  emitted : List ε
deriving DecidableEq

variable {κ α δ ε : Type*}

/-- A function that calls nothing. -/
def ListReply.plain (err : LinkedListErrType) (dataP : Option (Option α)) : ListReply α δ ε :=
  ⟨err, dataP, [], []⟩

/-- Calling the dealloc function of an element, if it has one. -/
def ListElement.dealloc (element : ListElement α δ) : List (δ × α) :=
  element.deallocFunc.toList.map fun func => (func, element.dataPtr)

namespace ListMemory

variable [DecidableEq κ] (memory : ListMemory κ α δ)

/-- `linked_list_init`, where `calloc` succeeds. -/
def linkedListInit : ListMemory κ α δ :=
  { memory with listData := some ⟨none, none⟩ }

/-- `linked_list_add`, with what `malloc` returns. It does not return what is in use. -/
def linkedListAdd (malloc : Option κ) (dataObj : Option α) (dealloc : Option δ) :
    Option (ListMemory κ α δ × ListReply α δ ε) :=
  match memory.listData, dataObj, malloc with
  | none, _, _ => some (memory, .plain .invalidHandle none)
  | some _, none, _ => some (memory, .plain .invalidParameter none)
  | some _, some _, none => some (memory, .plain .failureGeneral none)
  | some pList, some data, some elem =>
      if memory.heap elem ≠ none then none
      else
        let heap := memory.heap.store elem ⟨none, none, ⟨data, dealloc⟩⟩
        let tmp := pList.pHead
        (heap.setNext elem tmp).bind fun heap =>
        -- the old head points back, or the element is the tail as well
        (heap.linkBackward pList.pTail (some elem) tmp).map fun (heap, pTail) =>
        (⟨heap, some ⟨some elem, pTail⟩⟩, .plain .success none)

/-- `linked_list_remove`. -/
def linkedListRemove (dataObj : Option (Option α)) :
    Option (ListMemory κ α δ × ListReply α δ ε) :=
  match memory.listData, dataObj with
  | none, _ => some (memory, .plain .invalidHandle dataObj)
  | some _, none => some (memory, .plain .invalidParameter dataObj)
  | some pList, some _ =>
      match pList.pTail with
      | none => some (memory, .plain .unavailableResource dataObj)
      | some tmp =>
          (memory.heap tmp).bind fun node =>
          let pTail := node.prev
          -- the new tail has no successor, or there is no head any more
          (memory.heap.linkForward pList.pHead pTail none).bind fun (heap, pHead) =>
          (heap tmp).map fun node =>
          (⟨heap.free tmp, some ⟨pHead, pTail⟩⟩, .plain .success (some (some node.data.dataPtr)))

/-- `linked_list_empty`. -/
def linkedListEmpty : ℤ :=
  match memory.listData with
  | none => -3
  | some pList => if pList.pHead = none then 1 else 0

/-- The loop of `linked_list_flush`, for at most so many elements. -/
def flushLoop : ℕ → NodeHeap κ (ListElement α δ) → Option κ →
    Option (NodeHeap κ (ListElement α δ) × List (δ × α))
  | _, heap, none => some (heap, [])
  | 0, _, some _ => none
  | fuel + 1, heap, some elem =>
      (heap elem).bind fun node =>
      let tmp := node.next
      (flushLoop fuel (heap.free elem) tmp).map fun (heap, deallocs) =>
      (heap, node.data.dealloc ++ deallocs)

/-- `linked_list_flush`. -/
def linkedListFlush (fuel : ℕ) : Option (ListMemory κ α δ × ListReply α δ ε) :=
  match memory.listData with
  | none => some (memory, .plain .invalidHandle none)
  | some pList =>
      (flushLoop fuel memory.heap pList.pHead).map fun (heap, deallocs) =>
      (⟨heap, some ⟨none, none⟩⟩, ⟨.success, none, deallocs, []⟩)

/-- What `linked_list_search` does with the element `tmp` that it has found. -/
def searchHit (pList : ListState κ) (dataP : Option (Option α)) (rmIfFound : Bool) (tmp : κ)
    (node : LinkedNode κ (ListElement α δ)) (emitted : List ε) :
    Option (ListMemory κ α δ × ListReply α δ ε) :=
  let dataP' := dataP.map fun _ => some node.data.dataPtr
  if rmIfFound then
    -- the predecessor, or the head, goes on with the successor
    (memory.heap.linkForward pList.pHead node.prev node.next).bind fun (heap, pHead) =>
    (heap tmp).bind fun node =>
    -- the successor, or the tail, goes back to the predecessor
    (heap.linkBackward pList.pTail node.prev node.next).bind fun (heap, pTail) =>
    (heap tmp).map fun node =>
    let heap := heap.store tmp { node with prev := none, next := none }
    let deallocs := if dataP = none then node.data.dealloc else []
    (⟨heap.free tmp, some ⟨pHead, pTail⟩⟩, ⟨.success, dataP', deallocs, emitted⟩)
  else some (memory, ⟨.success, dataP', [], emitted⟩)

/-- The loop of `linked_list_search` from `tmp` on, for at most so many elements. -/
def searchLoop (equal : α → Bool × List ε) (rmIfFound : Bool) (pList : ListState κ)
    (dataP : Option (Option α)) : ℕ → Option κ → Option (ListMemory κ α δ × ListReply α δ ε)
  | _, none => some (memory, .plain .success dataP)
  | 0, some _ => none
  | fuel + 1, some tmp =>
      (memory.heap tmp).bind fun node =>
      let answer := equal node.data.dataPtr
      if answer.1 then searchHit memory pList dataP rmIfFound tmp node answer.2
      else
        (searchLoop equal rmIfFound pList dataP fuel node.next).map fun (memory, reply) =>
        (memory, { reply with emitted := answer.2 ++ reply.emitted })

/-- `linked_list_search`, with `equal` partially applied to `data_0`. -/
def linkedListSearch (fuel : ℕ) (dataP : Option (Option α)) (equal : Option (α → Bool × List ε))
    (rmIfFound : Bool) : Option (ListMemory κ α δ × ListReply α δ ε) :=
  match memory.listData, equal with
  | none, _ => some (memory, .plain .invalidHandle dataP)
  | some _, none => some (memory, .plain .invalidHandle dataP)
  | some pList, some equal =>
      if pList.pTail = none then some (memory, .plain .unavailableResource dataP)
      else
        memory.searchLoop equal rmIfFound pList (dataP.map fun _ => none) fuel pList.pHead

end ListMemory

/-! ## The functional list -/

/-- A call of one of the functions on an initialised list. -/
inductive ListCall (κ : Type*) (α : Type*) (δ : Type*) (ε : Type*) where
  | add (malloc : Option κ) (dataObj : Option α) (dealloc : Option δ)
  | remove (dataObj : Option (Option α))
  | search (dataP : Option (Option α)) (equal : Option (α → Bool × List ε)) (rmIfFound : Bool)
  | flush

/-- A search of the list as a sequence of its elements. An element that is deleted is
deallocated where its data is not handed out. -/
def functionalSearch (dataP : Option (Option α)) (equal : α → Bool × List ε) (rmIfFound : Bool)
    (elements : List (ListElement α δ)) : List (ListElement α δ) × ListReply α δ ε :=
  let result := linkedListSearch (fun element => equal element.dataPtr) rmIfFound elements
  let found := result.dataP.map Prod.snd
  (result.list, ⟨.success, dataP.map fun _ => found.map ListElement.dataPtr,
    if rmIfFound && dataP.isNone then found.toList.flatMap ListElement.dealloc else [],
    result.emitted⟩)

/-- A call on the list as a sequence of its elements from the head. -/
def functionalCall (elements : List (ListElement α δ)) :
    ListCall κ α δ ε → List (ListElement α δ) × List (ListReply α δ ε)
  | .add _ none _ => (elements, [.plain .invalidParameter none])
  | .add none (some _) _ => (elements, [.plain .failureGeneral none])
  | .add (some _) (some data) dealloc =>
      (linkedListAdd elements ⟨data, dealloc⟩, [.plain .success none])
  | .remove none => (elements, [.plain .invalidParameter none])
  | .remove (some old) =>
      match linkedListRemove elements with
      | (none, _) => (elements, [.plain .unavailableResource (some old)])
      | (some last, rest) => (rest, [.plain .success (some (some last.dataPtr))])
  | .search dataP none _ => (elements, [.plain .invalidHandle dataP])
  | .search dataP (some equal) rmIfFound =>
      if linkedListEmpty elements then (elements, [.plain .unavailableResource dataP])
      else
        let (elements, reply) := functionalSearch dataP equal rmIfFound elements
        (elements, [reply])
  | .flush =>
      (linkedListFlush elements, [⟨.success, none, elements.flatMap ListElement.dealloc, []⟩])

/-- A call in memory, the loops being given a bound. There is no memory any more once a
call has had no result. -/
def memoryCall [DecidableEq κ] (fuel : ℕ) (memory : Option (ListMemory κ α δ))
    (call : ListCall κ α δ ε) : Option (ListMemory κ α δ) × List (ListReply α δ ε) :=
  let result := memory.bind fun memory =>
    match call with
    | .add malloc dataObj dealloc => memory.linkedListAdd malloc dataObj dealloc
    | .remove dataObj => memory.linkedListRemove dataObj
    | .search dataP equal rmIfFound => memory.linkedListSearch fuel dataP equal rmIfFound
    | .flush => memory.linkedListFlush fuel
  (result.map Prod.fst, result.toList.map Prod.snd)

/-- The list in memory as a machine. -/
def listMachine [DecidableEq κ] (fuel : ℕ) :
    Machine (Option (ListMemory κ α δ)) (ListCall κ α δ ε) (ListReply α δ ε) where
  step := memoryCall fuel

/-- The functional list as a machine. -/
def functionalList : Machine (List (ListElement α δ)) (ListCall κ α δ ε) (ListReply α δ ε) where
  step := functionalCall

/-! ## The refinement -/

/-- The memory holds a list of these nodes, and its ends are where `list_data` points. -/
structure ListMemory.Shape (memory : ListMemory κ α δ) (pList : ListState κ)
    (nodes : List (κ × ListElement α δ)) : Prop where
  listData : memory.listData = some pList
  holds : Holds memory.heap pList.pHead pList.pTail nodes

/-- The memory holds these elements. -/
def ListMemory.Represents (memory : ListMemory κ α δ) (elements : List (ListElement α δ)) : Prop :=
  ∃ pList nodes, memory.Shape pList nodes ∧ elements = nodes.map Prod.snd

namespace ListMemory

variable {memory : ListMemory κ α δ} {elements : List (ListElement α δ)}

theorem represents_init (memory : ListMemory κ α δ) (empty : memory.heap = fun _ => none) :
    memory.linkedListInit.Represents [] :=
  ⟨⟨none, none⟩, [], ⟨rfl, empty ▸ Holds.empty⟩, rfl⟩

/-- `linked_list_empty` tells whether there are elements. -/
theorem linkedListEmpty_eq (represents : memory.Represents elements) :
    memory.linkedListEmpty = if elements = [] then 1 else 0 := by
  obtain ⟨pList, nodes, shape, rfl⟩ := represents
  have ends := shape.holds.head_eq_none_iff
  simp only [linkedListEmpty, shape.listData, ends, List.map_eq_nil_iff]

variable [DecidableEq κ]

/-- `linked_list_add` puts the element at the head. -/
theorem linkedListAdd_spec (represents : memory.Represents elements) {elem : κ}
    (unused : memory.heap elem = none) (data : α) (dealloc : Option δ) :
    ∃ memory', memory.linkedListAdd (some elem) (some data) dealloc =
        some (memory', (.plain .success none : ListReply α δ ε)) ∧
      memory'.Represents (⟨data, dealloc⟩ :: elements) := by
  obtain ⟨pList, nodes, shape, rfl⟩ := represents
  obtain ⟨heap, pTail, linked, holds⟩ := shape.holds.pushFront unused ⟨data, dealloc⟩
  refine ⟨⟨heap, some ⟨some elem, pTail⟩⟩, ?_, ⟨some elem, pTail⟩, _, ⟨rfl, holds⟩, rfl⟩
  simp only [linkedListAdd, shape.listData, unused, ne_eq, not_true_eq_false, if_false,
    NodeHeap.setNext_store, Option.bind_some, linked, Option.map_some]

/-- `linked_list_remove` takes the element at the tail. -/
theorem linkedListRemove_spec {last : ListElement α δ}
    (represents : memory.Represents (elements ++ [last])) (old : Option α) :
    ∃ memory', memory.linkedListRemove (some old) =
        some (memory', (.plain .success (some (some last.dataPtr)) : ListReply α δ ε)) ∧
      memory'.Represents elements := by
  obtain ⟨pList, nodes, shape, same⟩ := represents
  rcases List.eq_nil_or_concat nodes with rfl | ⟨front, ⟨tmp, element⟩, rfl⟩
  · simp at same
  · rw [List.concat_eq_append, List.map_append, List.map_singleton] at same
    obtain ⟨rfl, one⟩ := List.append_inj' same rfl
    cases one
    rw [List.concat_eq_append] at shape
    obtain ⟨heap, heap₂, forward, kept, backward, -, holds⟩ := shape.holds.remove
    rw [List.append_nil] at forward backward holds
    cases backward
    obtain ⟨-, here, -⟩ := segment_append.mp shape.holds.linked
    have tail : pList.pTail = some tmp := by rw [shape.holds.tail_eq, lastLink_concat]
    rw [here] at kept
    refine ⟨⟨heap.free tmp, some ⟨firstLink front none, lastLink none front⟩⟩, ?_,
      _, front, ⟨rfl, holds⟩, rfl⟩
    simp only [linkedListRemove, shape.listData, tail, here, Option.bind_some]
    rw [firstLink_nil] at forward
    simp only [firstLink_nil, forward, Option.bind_some, kept, Option.map_some]

theorem linkedListRemove_empty (represents : memory.Represents []) (old : Option α) :
    memory.linkedListRemove (some old) =
      some (memory, (.plain .unavailableResource (some old) : ListReply α δ ε)) := by
  obtain ⟨pList, nodes, shape, same⟩ := represents
  have none : pList.pTail = none :=
    shape.holds.tail_eq_none_iff.mpr (List.map_eq_nil_iff.mp same.symm)
  simp only [linkedListRemove, shape.listData, none]

/-- The loop of `linked_list_flush` frees every element and calls its dealloc function. -/
theorem flushLoop_spec {heap : NodeHeap κ (ListElement α δ)}
    {nodes : List (κ × ListElement α δ)} {before : Option κ} {fuel : ℕ}
    (linked : Segment heap before nodes none) (once : (addresses nodes).Nodup)
    (enough : nodes.length ≤ fuel) :
    ∃ heap', flushLoop fuel heap (firstLink nodes none) =
        some (heap', (nodes.map Prod.snd).flatMap ListElement.dealloc) ∧
      ∀ address, heap' address = if address ∈ addresses nodes then none else heap address := by
  induction nodes generalizing heap before fuel with
  | nil => exact ⟨heap, by cases fuel <;> rfl, fun address => by simp⟩
  | cons node rest ih =>
      obtain ⟨elem, element⟩ := node
      obtain ⟨here, there⟩ := linked
      rw [addresses_cons, List.nodup_cons] at once
      cases fuel with
      | zero => exact absurd enough (Nat.not_succ_le_zero _)
      | succ fuel =>
          obtain ⟨heap', looped, freed⟩ :=
            ih (there.free_elsewhere once.1) once.2 (Nat.le_of_succ_le_succ enough)
          refine ⟨heap', ?_, ?_⟩
          · simp only [firstLink_cons, flushLoop, here, Option.bind_some, looped, Option.map_some,
              List.map_cons, List.flatMap_cons]
          · intro address
            rw [freed address]
            by_cases same : address = elem
            · simp [same]
            · simp [same, NodeHeap.free_other]

/-- `linked_list_flush` leaves no element. -/
theorem linkedListFlush_spec (represents : memory.Represents elements) {fuel : ℕ}
    (enough : elements.length ≤ fuel) :
    ∃ memory', memory.linkedListFlush fuel = some (memory',
        (⟨.success, none, elements.flatMap ListElement.dealloc, []⟩ : ListReply α δ ε)) ∧
      memory'.Represents [] := by
  obtain ⟨pList, nodes, shape, rfl⟩ := represents
  have holds := shape.holds
  rw [List.length_map] at enough
  obtain ⟨heap, looped, freed⟩ := flushLoop_spec holds.linked holds.once enough
  have empty : heap = fun _ => none := by
    funext address
    rw [freed address]
    split
    · rfl
    · next absent => exact Classical.byContradiction fun live => absent (holds.whole address live)
  refine ⟨⟨heap, some ⟨none, none⟩⟩, ?_, ⟨none, none⟩, [], ⟨rfl, empty ▸ Holds.empty⟩, rfl⟩
  simp only [linkedListFlush, shape.listData, holds.head_eq, looped, Option.map_some]

/-- What is found is unlinked wherever it stands. -/
theorem searchHit_spec {pList : ListState κ} {front rest : List (κ × ListElement α δ)} {tmp : κ}
    {element : ListElement α δ} (shape : memory.Shape pList (front ++ (tmp, element) :: rest))
    (dataP : Option (Option α)) (rmIfFound : Bool) (emitted : List ε) :
    ∃ memory', memory.searchHit pList dataP rmIfFound tmp
        ⟨firstLink rest none, lastLink none front, element⟩ emitted =
          some (memory', ⟨.success, dataP.map fun _ => some element.dataPtr,
            if rmIfFound && dataP.isNone then element.dealloc else [], emitted⟩) ∧
      memory'.Represents (front.map Prod.snd ++
        if rmIfFound then rest.map Prod.snd else element :: rest.map Prod.snd) := by
  cases rmIfFound with
  | false =>
      refine ⟨memory, rfl, pList, _, shape, ?_⟩
      rw [List.map_append]
      rfl
  | true =>
      obtain ⟨heap₁, heap₂, forward, kept₁, backward, kept₂, holds⟩ := shape.holds.remove
      obtain ⟨-, here, -⟩ := segment_append.mp shape.holds.linked
      rw [here] at kept₁ kept₂
      refine ⟨⟨heap₂.free tmp, some ⟨_, _⟩⟩, ?_, _, front ++ rest, ⟨rfl, holds⟩, ?_⟩
      · simp only [searchHit, if_true, forward, Option.bind_some, kept₁, backward, kept₂,
          Option.map_some, NodeHeap.free_store]
        cases dataP <;> rfl
      · rw [List.map_append]
        rfl

/-- The loop of `linked_list_search`, with `front` behind it. -/
theorem searchLoop_spec {pList : ListState κ} (equal : α → Bool × List ε) (rmIfFound : Bool)
    (dataP : Option (Option α)) {front rest : List (κ × ListElement α δ)}
    (shape : memory.Shape pList (front ++ rest)) {fuel : ℕ} (enough : rest.length ≤ fuel) :
    let searched := functionalSearch dataP equal rmIfFound (rest.map Prod.snd)
    ∃ memory', memory.searchLoop equal rmIfFound pList (dataP.map fun _ => none) fuel
        (firstLink rest none) = some (memory', searched.2) ∧
      memory'.Represents (front.map Prod.snd ++ searched.1) := by
  induction rest generalizing front fuel with
  | nil =>
      refine ⟨memory, ?_, pList, _, shape, by rw [List.map_append]; rfl⟩
      cases fuel <;> simp [searchLoop, functionalSearch, Gps.linkedListSearch, ListReply.plain]
  | cons node rest ih =>
      obtain ⟨tmp, element⟩ := node
      obtain ⟨-, here, -⟩ := segment_append.mp shape.holds.linked
      cases fuel with
      | zero => exact absurd enough (Nat.not_succ_le_zero _)
      | succ fuel =>
          simp only [firstLink_cons, searchLoop, here, Option.bind_some, List.map_cons,
            functionalSearch, Gps.linkedListSearch]
          cases hit : (equal element.dataPtr).1 with
          | true =>
              obtain ⟨memory', found, represents⟩ := searchHit_spec shape (dataP.map fun _ => none)
                rmIfFound (equal element.dataPtr).2
              refine ⟨memory', ?_, represents⟩
              simp only [if_true, found, Option.isNone_map, Option.map_map, Option.map_some,
                Option.toList_some, List.flatMap_cons, List.flatMap_nil, List.append_nil]
              rfl
          | false =>
              have moved : memory.Shape pList ((front ++ [(tmp, element)]) ++ rest) := by
                rwa [List.append_assoc]
              obtain ⟨memory', looped, represents⟩ := ih moved (Nat.le_of_succ_le_succ enough)
              refine ⟨memory', ?_, ?_⟩
              · simp only [Bool.false_eq_true, if_false, looped, Option.map_some, functionalSearch,
                  Option.map_map]
                rfl
              · simp only [Bool.false_eq_true, if_false]
                rw [List.map_append, List.append_assoc] at represents
                exact represents

/-- `linked_list_search` of a list that is not empty. -/
theorem linkedListSearch_spec (represents : memory.Represents elements) (some_ : elements ≠ [])
    (dataP : Option (Option α)) (equal : α → Bool × List ε) (rmIfFound : Bool) {fuel : ℕ}
    (enough : elements.length ≤ fuel) :
    ∃ memory', memory.linkedListSearch fuel dataP (some equal) rmIfFound =
        some (memory', (functionalSearch dataP equal rmIfFound elements).2) ∧
      memory'.Represents (functionalSearch dataP equal rmIfFound elements).1 := by
  obtain ⟨pList, nodes, shape, rfl⟩ := represents
  have tail : pList.pTail ≠ none := fun none =>
    some_ (List.map_eq_nil_iff.mpr (shape.holds.tail_eq_none_iff.mp none))
  rw [List.length_map] at enough
  have whole : memory.Shape pList ([] ++ nodes) := shape
  obtain ⟨memory', looped, represents⟩ := searchLoop_spec equal rmIfFound dataP whole enough
  refine ⟨memory', ?_, represents⟩
  simp only [linkedListSearch, shape.listData, tail, if_false, shape.holds.head_eq]
  exact looped

theorem linkedListSearch_empty (represents : memory.Represents []) (fuel : ℕ)
    (dataP : Option (Option α)) (equal : α → Bool × List ε) (rmIfFound : Bool) :
    memory.linkedListSearch fuel dataP (some equal) rmIfFound =
      some (memory, .plain .unavailableResource dataP) := by
  obtain ⟨pList, nodes, shape, same⟩ := represents
  have none : pList.pTail = none :=
    shape.holds.tail_eq_none_iff.mpr (List.map_eq_nil_iff.mp same.symm)
  simp only [linkedListSearch, shape.listData, none, if_true]

end ListMemory

/-- A call whose allocation, if it makes one and `malloc` does not fail, is of an unused
address. -/
def AllocatesUnused (memory : Option (ListMemory κ α δ)) : ListCall κ α δ ε → Prop
  | .add (some elem) _ _ => ∀ memory' ∈ memory, memory'.heap elem = none
  | _ => True

section Simulation

variable [DecidableEq κ] {memory : ListMemory κ α δ} {elements : List (ListElement α δ)}

/-- **A call in memory does what the functional list does**, and it has a result. -/
theorem memoryCall_refines (represents : memory.Represents elements) {fuel : ℕ}
    (enough : elements.length ≤ fuel) {call : ListCall κ α δ ε}
    (unused : AllocatesUnused (some memory) call) :
    ∃ memory', memoryCall fuel (some memory) call =
        (some memory', (functionalCall elements call).2) ∧
      memory'.Represents (functionalCall elements call).1 := by
  obtain ⟨pList, nodes, shape, same⟩ := represents
  have listData := shape.listData
  have represents : memory.Represents elements := ⟨pList, nodes, shape, same⟩
  cases call with
  | add malloc dataObj dealloc =>
      cases dataObj with
      | none =>
          refine ⟨memory, ?_, represents⟩
          simp [memoryCall, ListMemory.linkedListAdd, listData, functionalCall]
      | some data =>
          cases malloc with
          | none =>
              refine ⟨memory, ?_, represents⟩
              simp [memoryCall, ListMemory.linkedListAdd, listData, functionalCall]
          | some elem =>
              obtain ⟨memory', added, represents'⟩ :=
                ListMemory.linkedListAdd_spec (ε := ε) represents (unused memory rfl) data dealloc
              refine ⟨memory', ?_, represents'⟩
              simp only [memoryCall, Option.bind_some, added]
              rfl
  | remove dataObj =>
      cases dataObj with
      | none =>
          refine ⟨memory, ?_, represents⟩
          simp [memoryCall, ListMemory.linkedListRemove, listData, functionalCall]
      | some old =>
          rcases List.eq_nil_or_concat elements with rfl | ⟨rest, last, rfl⟩
          · refine ⟨memory, ?_, represents⟩
            simp only [memoryCall, Option.bind_some,
              ListMemory.linkedListRemove_empty (ε := ε) represents old]
            rfl
          · rw [List.concat_eq_append] at represents ⊢
            obtain ⟨memory', removed, represents'⟩ :=
              ListMemory.linkedListRemove_spec (ε := ε) represents old
            have both : linkedListRemove (rest ++ [last]) = (some last, rest) := by
              simp [linkedListRemove]
            refine ⟨memory', ?_, ?_⟩
            · simp only [memoryCall, Option.bind_some, removed, functionalCall, both]
              rfl
            · simp only [functionalCall, both]
              exact represents'
  | search dataP equal rmIfFound =>
      cases equal with
      | none =>
          refine ⟨memory, ?_, represents⟩
          simp [memoryCall, ListMemory.linkedListSearch, listData, functionalCall]
      | some equal =>
          by_cases empty : elements = []
          · subst empty
            refine ⟨memory, ?_, represents⟩
            simp only [memoryCall, Option.bind_some, ListMemory.linkedListSearch_empty represents]
            rfl
          · have some_ : linkedListEmpty elements = false := by
              simpa [linkedListEmpty] using empty
            obtain ⟨memory', searched, represents'⟩ :=
              ListMemory.linkedListSearch_spec represents empty dataP equal rmIfFound enough
            refine ⟨memory', ?_, ?_⟩
            · simp only [memoryCall, Option.bind_some, searched, functionalCall, some_]
              rfl
            · simp only [functionalCall, some_]
              exact represents'
  | flush =>
      obtain ⟨memory', flushed, represents'⟩ :=
        ListMemory.linkedListFlush_spec (ε := ε) represents enough
      refine ⟨memory', ?_, represents'⟩
      simp only [memoryCall, Option.bind_some, flushed]
      rfl

omit [DecidableEq κ] in
/-- A call adds one element at most. -/
theorem length_functionalCall (elements : List (ListElement α δ)) (call : ListCall κ α δ ε) :
    (functionalCall elements call).1.length ≤ elements.length + 1 := by
  cases call with
  | add malloc dataObj dealloc =>
      cases dataObj with
      | none => exact Nat.le_succ _
      | some data => cases malloc <;> simp [functionalCall, linkedListAdd]
  | remove dataObj =>
      cases dataObj with
      | none => exact Nat.le_succ _
      | some old =>
          simp only [functionalCall]
          split
          · exact Nat.le_succ _
          · next same =>
              simp only [linkedListRemove, Prod.mk.injEq] at same
              rw [← same.2, List.length_dropLast]
              omega
  | search dataP equal rmIfFound =>
      cases equal with
      | none => exact Nat.le_succ _
      | some equal =>
          simp only [functionalCall]
          split
          · exact Nat.le_succ _
          · simp only [functionalSearch, search_list]
            split
            · exact Nat.le_succ_of_le List.length_eraseP_le
            · exact Nat.le_succ _
  | flush => exact Nat.zero_le _

/-- The elements that a call deallocates: all that are flushed, and the one that is
deleted without being handed out. -/
def released (elements : List (ListElement α δ)) : ListCall κ α δ ε → List (ListElement α δ)
  | .flush => elements
  | .search none (some equal) true => (elements.find? fun e => (equal e.dataPtr).1).toList
  | _ => []

omit [DecidableEq κ] in
/-- The dealloc functions are called for these elements, and for no others. -/
theorem functionalCall_deallocs (elements : List (ListElement α δ)) (call : ListCall κ α δ ε) :
    (functionalCall elements call).2.flatMap ListReply.deallocs =
      (released elements call).flatMap ListElement.dealloc := by
  cases call with
  | add malloc dataObj dealloc =>
      cases dataObj with
      | none => rfl
      | some data => cases malloc <;> rfl
  | remove dataObj =>
      cases dataObj with
      | none => rfl
      | some old =>
          simp only [functionalCall]
          split <;> rfl
  | search dataP equal rmIfFound =>
      cases equal with
      | none => cases dataP <;> rfl
      | some equal =>
          by_cases empty : elements = []
          · subst empty
            cases dataP <;> cases rmIfFound <;> rfl
          · have some_ : linkedListEmpty elements = false := by
              simpa [linkedListEmpty] using empty
            simp only [functionalCall, some_, functionalSearch, search_dataP]
            cases dataP <;> cases rmIfFound <;> simp [released]
  | flush => simp [functionalCall, released]

/-- The memory and the functional list, with as many elements at most as the loops can visit
in the calls to come. -/
def Tracks (fuel : ℕ) (rest : List (ListCall κ α δ ε)) (reached : Option (ListMemory κ α δ))
    (elements : List (ListElement α δ)) : Prop :=
  ∃ memory, reached = some memory ∧ memory.Represents elements ∧
    elements.length + rest.length ≤ fuel ∧
    ∀ taken ∈ (listMachine fuel).steps reached rest, AllocatesUnused taken.before taken.input

/-- One call. -/
theorem Tracks.step {fuel : ℕ} {call : ListCall κ α δ ε} {rest : List (ListCall κ α δ ε)}
    {reached : Option (ListMemory κ α δ)} {elements : List (ListElement α δ)}
    (tracks : Tracks fuel (call :: rest) reached elements) :
    Tracks fuel rest ((listMachine fuel).step reached call).1
        (functionalList.step elements call).1 ∧
      ((listMachine fuel).step reached call).2 = (functionalList.step elements call).2 := by
  obtain ⟨memory, rfl, represents, room, unused⟩ := tracks
  rw [Machine.steps_cons, List.forall_mem_cons] at unused
  rw [List.length_cons] at room
  have enough : elements.length ≤ fuel := by omega
  obtain ⟨memory', called, represents'⟩ := memoryCall_refines represents enough unused.1
  have grown := length_functionalCall elements call
  have stepped : (listMachine fuel).step (some memory) call =
      (some memory', (functionalCall elements call).2) := called
  refine ⟨⟨memory', ?_, represents', ?_, unused.2⟩, ?_⟩
  · rw [stepped]
  · change (functionalCall elements call).1.length + rest.length ≤ fuel
    omega
  · rw [stepped]
    rfl

/-- **The linked list refines the functional list.** -/
theorem linkedList_refines (memory : ListMemory κ α δ) (empty : memory.heap = fun _ => none)
    (calls : List (ListCall κ α δ ε)) {fuel : ℕ} (enough : calls.length ≤ fuel)
    (unused : ∀ taken ∈ (listMachine fuel).steps (some memory.linkedListInit) calls,
      AllocatesUnused taken.before taken.input) :
    ((listMachine fuel).outputs (some memory.linkedListInit) calls =
      functionalList.outputs [] calls) ∧
    (∃ memory' pList nodes,
      (listMachine fuel).run (some memory.linkedListInit) calls = some memory' ∧
      memory'.Shape pList nodes ∧ nodes.map Prod.snd = functionalList.run [] calls ∧
      (pList.pHead = none ↔ pList.pTail = none) ∧
      Visits memory'.heap LinkedNode.next pList.pHead (addresses nodes) ∧
      Visits memory'.heap LinkedNode.prev pList.pTail (addresses nodes).reverse) ∧
    ((listMachine fuel).outputs (some memory.linkedListInit) calls).flatMap ListReply.deallocs =
      (functionalList.steps [] calls).flatMap fun taken =>
        (released taken.before taken.input).flatMap ListElement.dealloc := by
  have start : Tracks fuel calls (some memory.linkedListInit) [] :=
    ⟨_, rfl, ListMemory.represents_init memory empty, by simpa using enough, unused⟩
  have simulated := @Machine.run_simulation_ahead _ _ _ _ (listMachine fuel) functionalList
    (Tracks fuel) (fun _ _ _ _ tracks => tracks.step) _ [] calls start
  obtain ⟨⟨memory', reached, ⟨pList, nodes, shape, same⟩, -, -⟩, outputs⟩ := simulated
  refine ⟨outputs, ⟨memory', pList, nodes, reached, shape, same.symm, ?_, shape.holds.forwards,
    shape.holds.backwards⟩, ?_⟩
  · rw [shape.holds.head_eq_none_iff, shape.holds.tail_eq_none_iff]
  · rw [outputs]
    exact Machine.flatMap_outputs ListReply.deallocs
      (fun elements call => functionalCall_deallocs elements call) [] calls

end Simulation

/-- The tail is deleted by a search that hands it out, its address is used again, and
what is left is flushed. -/
theorem linkedList_refines_reused :
    let equal : ℕ → Bool × List Unit := fun data => (data == 7, [])
    let calls : List (ListCall ℕ ℕ Bool Unit) :=
      [.add (some 0) (some 7) (some true), .add (some 1) (some 8) none,
        .search (some none) (some equal) true, .add (some 0) (some 9) (some false), .flush]
    let memory : ListMemory ℕ ℕ Bool := ⟨fun _ => none, none⟩
    (listMachine 5).outputs (some memory.linkedListInit) calls =
      [.plain .success none, .plain .success none, .plain .success (some (some 7)),
        .plain .success none, ⟨.success, none, [(false, 9)], []⟩] := by
  intro equal calls memory
  exact (linkedList_refines memory rfl calls (Nat.le_refl 5)
    (List.forall_mem_cons.mpr ⟨fun _ same => by cases same; rfl,
      List.forall_mem_cons.mpr ⟨fun _ same => by cases same; rfl,
        List.forall_mem_cons.mpr ⟨trivial,
          List.forall_mem_cons.mpr ⟨fun _ same => by cases same; rfl,
            List.forall_mem_cons.mpr ⟨trivial, fun _ member => by cases member⟩⟩⟩⟩⟩)).1

end Msm8660.Gps
