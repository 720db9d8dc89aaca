import Mathlib.Data.List.Basic
import Mathlib.Data.List.Induction
import Mathlib.Data.List.Nodup

/-!
# Doubly linked nodes on a heap

A heap maps an address to the node that lives there; a freed address, like one that
was never allocated, maps to nothing, so that following a dangling link has no result.

* `Segment` says that nodes are linked with each other in both directions, between two
  links to the outside. Segments are put together with `segment_append`, and
  `Segment.setNext` and `Segment.setPrev` move the links at their ends.
* `Visits` follows one kind of link to its end. A segment between two null links is
  visited in both directions, in opposite orders (`Holds.forwards`, `Holds.backwards`).
* `Holds` is a whole list: its two ends, and no live node beside its own. Pushing a
  node in front, and unlinking and freeing one, wherever it stands, keep it
  (`Holds.pushFront`, `Holds.remove`).
-/

set_option autoImplicit false

namespace Msm8660

variable {κ α : Type*}

/-- A node with its two links, of which any may be null. -/
structure LinkedNode (κ : Type*) (α : Type*) where
  next : Option κ
  prev : Option κ
  data : α
deriving DecidableEq

/-- The nodes that are live. -/
abbrev NodeHeap (κ : Type*) (α : Type*) := κ → Option (LinkedNode κ α)

namespace NodeHeap

variable [DecidableEq κ] (heap : NodeHeap κ α)

/-- Writing a node at an address. -/
def store (address : κ) (node : LinkedNode κ α) : NodeHeap κ α :=
  fun other => if other = address then some node else heap other

/-- Freeing an address. -/
def free (address : κ) : NodeHeap κ α :=
  fun other => if other = address then none else heap other

/-- Changing the forward link of a node, if it is live. -/
def setNext (address : κ) (link : Option κ) : Option (NodeHeap κ α) :=
  (heap address).map fun node => heap.store address { node with next := link }

/-- Changing the backward link of a node, if it is live. -/
def setPrev (address : κ) (link : Option κ) : Option (NodeHeap κ α) :=
  (heap address).map fun node => heap.store address { node with prev := link }

/-- Linking a node forward, where the head is what precedes the first one. It returns the
head. -/
def linkForward (head prev next : Option κ) : Option (NodeHeap κ α × Option κ) :=
  match prev with
  | none => some (heap, next)
  | some address => (heap.setNext address next).map fun heap => (heap, head)

/-- Linking a node backward, where the tail is what follows the last one. It returns the
tail. -/
def linkBackward (tail prev next : Option κ) : Option (NodeHeap κ α × Option κ) :=
  match next with
  | none => some (heap, prev)
  | some address => (heap.setPrev address prev).map fun heap => (heap, tail)

@[simp] theorem store_same (address : κ) (node : LinkedNode κ α) :
    heap.store address node address = some node :=
  if_pos rfl

theorem store_other {address other : κ} (node : LinkedNode κ α) (differ : other ≠ address) :
    heap.store address node other = heap other :=
  if_neg differ

@[simp] theorem free_same (address : κ) : heap.free address address = none :=
  if_pos rfl

/-- The forward link of a node that has just been written. -/
theorem setNext_store (address : κ) (node : LinkedNode κ α) (link : Option κ) :
    (heap.store address node).setNext address link =
      some (heap.store address { node with next := link }) := by
  rw [setNext, store_same, Option.map_some, Option.some.injEq]
  funext other
  by_cases same : other = address <;> simp [store, same]

/-- What is freed does not matter. -/
theorem free_store (address : κ) (node : LinkedNode κ α) :
    (heap.store address node).free address = heap.free address := by
  funext other
  by_cases same : other = address
  · simp [free, same]
  · simp [free, store, same]

theorem free_other {address other : κ} (differ : other ≠ address) :
    heap.free address other = heap other :=
  if_neg differ

end NodeHeap

/-! ## Segments -/

/-- The addresses of nodes. -/
def addresses (nodes : List (κ × α)) : List κ := nodes.map Prod.fst

/-- The link to the first of some nodes, or to what follows them. -/
def firstLink : List (κ × α) → Option κ → Option κ
  | [], after => after
  | (address, _) :: _, _ => some address

/-- The link to the last of some nodes, or to what precedes them. -/
def lastLink : Option κ → List (κ × α) → Option κ
  | before, [] => before
  | _, (address, _) :: rest => lastLink (some address) rest

/-- The nodes are live and linked with each other in both directions, from `before` to
`after`. -/
def Segment (heap : NodeHeap κ α) : Option κ → List (κ × α) → Option κ → Prop
  | _, [], _ => True
  | before, (address, data) :: rest, after =>
      heap address = some ⟨firstLink rest after, before, data⟩ ∧
        Segment heap (some address) rest after

@[simp] theorem addresses_nil : addresses ([] : List (κ × α)) = [] := rfl

@[simp] theorem addresses_cons (address : κ) (data : α) (rest : List (κ × α)) :
    addresses ((address, data) :: rest) = address :: addresses rest := rfl

@[simp] theorem addresses_append (nodes more : List (κ × α)) :
    addresses (nodes ++ more) = addresses nodes ++ addresses more :=
  List.map_append

@[simp] theorem firstLink_nil (after : Option κ) : firstLink ([] : List (κ × α)) after = after :=
  rfl

@[simp] theorem firstLink_cons (address : κ) (data : α) (rest : List (κ × α)) (after : Option κ) :
    firstLink ((address, data) :: rest) after = some address := rfl

theorem firstLink_append (nodes more : List (κ × α)) (after : Option κ) :
    firstLink (nodes ++ more) after = firstLink nodes (firstLink more after) := by
  cases nodes <;> rfl

theorem lastLink_append (before : Option κ) (nodes more : List (κ × α)) :
    lastLink before (nodes ++ more) = lastLink (lastLink before nodes) more := by
  induction nodes generalizing before with
  | nil => rfl
  | cons node rest ih => exact ih _

theorem lastLink_concat (before : Option κ) (nodes : List (κ × α)) (address : κ) (data : α) :
    lastLink before (nodes ++ [(address, data)]) = some address := by
  rw [lastLink_append]
  rfl

theorem firstLink_eq_none_iff {nodes : List (κ × α)} :
    firstLink nodes none = none ↔ nodes = [] := by
  cases nodes <;> simp [firstLink]

theorem lastLink_eq_none_iff {nodes : List (κ × α)} : lastLink none nodes = none ↔ nodes = [] := by
  rcases List.eq_nil_or_concat nodes with rfl | ⟨rest, ⟨address, data⟩, rfl⟩
  · simp [lastLink]
  · simp [List.concat_eq_append, lastLink_concat]

/-- Two segments make one if the links between them agree. -/
theorem segment_append {heap : NodeHeap κ α} {before after : Option κ}
    {nodes more : List (κ × α)} :
    Segment heap before (nodes ++ more) after ↔
      Segment heap before nodes (firstLink more after) ∧
        Segment heap (lastLink before nodes) more after := by
  induction nodes generalizing before with
  | nil => simp [Segment, lastLink]
  | cons node rest ih =>
      simp only [List.cons_append, Segment, ih, firstLink_append, and_assoc, lastLink]

namespace Segment

variable {heap heap' : NodeHeap κ α} {before after : Option κ} {nodes : List (κ × α)}

/-- A segment depends on its own nodes only. -/
theorem congr (linked : Segment heap before nodes after)
    (same : ∀ address ∈ addresses nodes, heap' address = heap address) :
    Segment heap' before nodes after := by
  induction nodes generalizing before with
  | nil => trivial
  | cons node rest ih =>
      obtain ⟨address, data⟩ := node
      obtain ⟨here, there⟩ := linked
      rw [addresses_cons, List.forall_mem_cons] at same
      exact ⟨same.1.trans here, ih there same.2⟩

/-- Every node of a segment is live. -/
theorem live (linked : Segment heap before nodes after) :
    ∀ address ∈ addresses nodes, heap address ≠ none := by
  induction nodes generalizing before with
  | nil => exact fun _ member => absurd member List.not_mem_nil
  | cons node rest ih =>
      obtain ⟨address, data⟩ := node
      obtain ⟨here, there⟩ := linked
      rw [addresses_cons, List.forall_mem_cons]
      exact ⟨by rw [here]; exact Option.some_ne_none _, ih there⟩

variable [DecidableEq κ]

/-- Writing elsewhere. -/
theorem store_elsewhere (linked : Segment heap before nodes after) {address : κ}
    (elsewhere : address ∉ addresses nodes) (node : LinkedNode κ α) :
    Segment (heap.store address node) before nodes after := by
  apply linked.congr
  intro other member
  exact heap.store_other node fun same => elsewhere (same ▸ member)

/-- Freeing elsewhere. -/
theorem free_elsewhere (linked : Segment heap before nodes after) {address : κ}
    (elsewhere : address ∉ addresses nodes) : Segment (heap.free address) before nodes after := by
  apply linked.congr
  intro other member
  exact heap.free_other fun same => elsewhere (same ▸ member)

/-- Moving the forward link of the last node. -/
theorem setNext {address : κ} {data : α}
    (linked : Segment heap before (nodes ++ [(address, data)]) after)
    (once : address ∉ addresses nodes) (link : Option κ) :
    ∃ heap', heap.setNext address link = some heap' ∧
      Segment heap' before (nodes ++ [(address, data)]) link ∧
      ∀ other, other ≠ address → heap' other = heap other := by
  obtain ⟨front, here, -⟩ := segment_append.mp linked
  refine ⟨_, by rw [NodeHeap.setNext, here, Option.map_some], ?_, fun other differ =>
    heap.store_other _ differ⟩
  exact segment_append.mpr ⟨front.store_elsewhere once _, heap.store_same _ _, trivial⟩

/-- Moving the backward link of the first node. -/
theorem setPrev {address : κ} {data : α}
    (linked : Segment heap before ((address, data) :: nodes) after)
    (once : address ∉ addresses nodes) (link : Option κ) :
    ∃ heap', heap.setPrev address link = some heap' ∧
      Segment heap' link ((address, data) :: nodes) after ∧
      ∀ other, other ≠ address → heap' other = heap other := by
  obtain ⟨here, rest⟩ := linked
  refine ⟨_, by rw [NodeHeap.setPrev, here, Option.map_some], ?_, fun other differ =>
    heap.store_other _ differ⟩
  exact ⟨heap.store_same _ _, rest.store_elsewhere once _⟩

/-- Linking what precedes some nodes to something else. -/
theorem linkForward {head : Option κ} (linked : Segment heap none nodes after)
    (once : (addresses nodes).Nodup) (head_eq : head = firstLink nodes after)
    (next : Option κ) :
    ∃ heap', heap.linkForward head (lastLink none nodes) next =
        some (heap', firstLink nodes next) ∧
      Segment heap' none nodes next ∧
      ∀ other, other ∉ addresses nodes → heap' other = heap other := by
  rcases List.eq_nil_or_concat nodes with rfl | ⟨front, ⟨address, data⟩, rfl⟩
  · exact ⟨heap, rfl, trivial, fun _ _ => rfl⟩
  · rw [List.concat_eq_append] at *
    rw [addresses_append, List.nodup_append] at once
    have apart : address ∉ addresses front := fun member =>
      once.2.2 address member address (List.mem_singleton_self _) rfl
    obtain ⟨heap', moved, linked', same⟩ := linked.setNext apart next
    refine ⟨heap', ?_, linked', fun other outside => same other ?_⟩
    · rw [lastLink_concat, NodeHeap.linkForward, moved, Option.map_some, head_eq,
        firstLink_append, firstLink_append]
      rfl
    · rintro rfl
      exact outside (by simp)

/-- Linking what follows some nodes back to something else. -/
theorem linkBackward {tail : Option κ} (linked : Segment heap before nodes none)
    (once : (addresses nodes).Nodup) (tail_eq : tail = lastLink before nodes)
    (prev : Option κ) :
    ∃ heap', heap.linkBackward tail prev (firstLink nodes none) =
        some (heap', lastLink prev nodes) ∧
      Segment heap' prev nodes none ∧
      ∀ other, other ∉ addresses nodes → heap' other = heap other := by
  cases nodes with
  | nil => exact ⟨heap, rfl, trivial, fun _ _ => rfl⟩
  | cons node rest =>
      obtain ⟨address, data⟩ := node
      rw [addresses_cons, List.nodup_cons] at once
      obtain ⟨heap', moved, linked', same⟩ := linked.setPrev once.1 prev
      refine ⟨heap', ?_, linked', fun other outside => same other ?_⟩
      · rw [firstLink, NodeHeap.linkBackward, moved, Option.map_some, tail_eq]
        rfl
      · rintro rfl
        exact outside (List.mem_cons_self ..)

end Segment

/-! ## Following the links -/

/-- Following one kind of link from a start visits live nodes at these addresses, and
ends. -/
def Visits (heap : NodeHeap κ α) (link : LinkedNode κ α → Option κ) :
    Option κ → List κ → Prop
  | start, [] => start = none
  | start, address :: rest =>
      start = some address ∧ ∃ node, heap address = some node ∧ Visits heap link (link node) rest

/-- The addresses that are visited are determined by the start. -/
theorem Visits.unique {heap : NodeHeap κ α} {link : LinkedNode κ α → Option κ}
    {start : Option κ} {first second : List κ} (one : Visits heap link start first)
    (other : Visits heap link start second) : first = second := by
  induction first generalizing start second with
  | nil =>
      cases one
      cases second with
      | nil => rfl
      | cons address rest => cases other.1
  | cons address rest ih =>
      obtain ⟨rfl, node, live, later⟩ := one
      cases second with
      | nil => cases other
      | cons address' rest' =>
          obtain ⟨same, node', live', later'⟩ := other
          cases same
          rw [live] at live'
          cases live'
          rw [ih later later']

namespace Segment

variable {heap : NodeHeap κ α} {nodes : List (κ × α)}

theorem forwards {before : Option κ} (linked : Segment heap before nodes none) :
    Visits heap LinkedNode.next (firstLink nodes none) (addresses nodes) := by
  induction nodes generalizing before with
  | nil => rfl
  | cons node rest ih =>
      obtain ⟨address, data⟩ := node
      obtain ⟨here, there⟩ := linked
      exact ⟨rfl, _, here, ih there⟩

theorem backwards {after : Option κ} (linked : Segment heap none nodes after) :
    Visits heap LinkedNode.prev (lastLink none nodes) (addresses nodes).reverse := by
  induction nodes using List.reverseRecOn generalizing after with
  | nil => rfl
  | append_singleton rest node ih =>
      obtain ⟨address, data⟩ := node
      obtain ⟨front, here, -⟩ := segment_append.mp linked
      rw [lastLink_concat, addresses_append, List.reverse_append]
      exact ⟨rfl, _, here, ih front⟩

end Segment

/-! ## Whole lists -/

/-- The heap holds one list, and nothing else. -/
structure Holds (heap : NodeHeap κ α) (head tail : Option κ) (nodes : List (κ × α)) : Prop where
  linked : Segment heap none nodes none
  head_eq : head = firstLink nodes none
  tail_eq : tail = lastLink none nodes
  once : (addresses nodes).Nodup
  whole : ∀ address, heap address ≠ none → address ∈ addresses nodes

namespace Holds

variable {heap : NodeHeap κ α} {head tail : Option κ} {nodes : List (κ × α)}

theorem empty : Holds (fun _ => none : NodeHeap κ α) none none [] :=
  ⟨trivial, rfl, rfl, List.nodup_nil, fun _ live => absurd rfl live⟩

theorem forwards (held : Holds heap head tail nodes) :
    Visits heap LinkedNode.next head (addresses nodes) :=
  held.head_eq ▸ held.linked.forwards

theorem backwards (held : Holds heap head tail nodes) :
    Visits heap LinkedNode.prev tail (addresses nodes).reverse :=
  held.tail_eq ▸ held.linked.backwards

theorem head_eq_none_iff (held : Holds heap head tail nodes) : head = none ↔ nodes = [] := by
  rw [held.head_eq, firstLink_eq_none_iff]

theorem tail_eq_none_iff (held : Holds heap head tail nodes) : tail = none ↔ nodes = [] := by
  rw [held.tail_eq, lastLink_eq_none_iff]

variable [DecidableEq κ]

/-- **Pushing in front.** The new node points to the old head, which points back. -/
theorem pushFront (held : Holds heap head tail nodes) {address : κ} (unused : heap address = none)
    (data : α) :
    ∃ heap' tail', (heap.store address ⟨head, none, data⟩).linkBackward tail (some address) head =
        some (heap', tail') ∧
      Holds heap' (some address) tail' ((address, data) :: nodes) := by
  obtain ⟨linked, rfl, tail_eq, once, whole⟩ := held
  have apart : address ∉ addresses nodes := fun member => linked.live address member unused
  have stored := linked.store_elsewhere apart ⟨firstLink nodes none, none, data⟩
  obtain ⟨heap', moved, rest, same⟩ := stored.linkBackward once tail_eq (some address)
  have here : heap' address = some ⟨firstLink nodes none, none, data⟩ := by
    rw [same address apart, heap.store_same]
  refine ⟨heap', _, moved, ⟨⟨here, rest⟩, rfl, rfl, List.nodup_cons.mpr ⟨apart, once⟩, ?_⟩⟩
  intro other live
  by_cases new : other = address
  · exact new ▸ List.mem_cons_self ..
  · by_contra absent
    have outside : other ∉ addresses nodes := fun member => absent (List.mem_cons_of_mem _ member)
    rw [same other outside, heap.store_other _ new] at live
    exact outside (whole other live)

/-- **Unlinking and freeing a node**, wherever it stands. -/
theorem remove {front rest : List (κ × α)} {address : κ} {data : α}
    (held : Holds heap head tail (front ++ (address, data) :: rest)) :
    ∃ heap₁ heap₂,
      heap.linkForward head (lastLink none front) (firstLink rest none) =
        some (heap₁, firstLink (front ++ rest) none) ∧
      heap₁ address = heap address ∧
      heap₁.linkBackward tail (lastLink none front) (firstLink rest none) =
        some (heap₂, lastLink none (front ++ rest)) ∧
      heap₂ address = heap address ∧
      Holds (heap₂.free address) (firstLink (front ++ rest) none) (lastLink none (front ++ rest))
        (front ++ rest) := by
  obtain ⟨linked, head_eq, tail_eq, once, whole⟩ := held
  obtain ⟨linkedFront, here, linkedRest⟩ := segment_append.mp linked
  rw [addresses_append, addresses_cons, List.nodup_append, List.nodup_cons] at once
  obtain ⟨onceFront, ⟨notInRest, onceRest⟩, disjoint⟩ := once
  have notInFront : address ∉ addresses front := fun member =>
    disjoint address member address (List.mem_cons_self ..) rfl
  have apart : ∀ other ∈ addresses front, other ∉ addresses rest := fun other early late =>
    disjoint other early other (List.mem_cons_of_mem _ late) rfl
  -- the front goes on with the rest
  rw [firstLink_append] at head_eq
  obtain ⟨heap₁, forward, linkedFront₁, same₁⟩ :=
    linkedFront.linkForward onceFront head_eq (firstLink rest none)
  have linkedRest₁ : Segment heap₁ (some address) rest none :=
    linkedRest.congr fun other member => same₁ other fun early => apart other early member
  -- the rest goes back to the front
  rw [lastLink_append] at tail_eq
  obtain ⟨heap₂, backward, linkedRest₂, same₂⟩ :=
    linkedRest₁.linkBackward onceRest tail_eq (lastLink none front)
  have linkedFront₂ : Segment heap₂ none front (firstLink rest none) :=
    linkedFront₁.congr fun other member => same₂ other (apart other member)
  rw [← firstLink_append] at forward
  rw [← lastLink_append] at backward
  refine ⟨heap₁, heap₂, forward, same₁ address notInFront, backward,
    (same₂ address notInRest).trans (same₁ address notInFront), ?_⟩
  refine ⟨segment_append.mpr ⟨linkedFront₂.free_elsewhere notInFront,
    linkedRest₂.free_elsewhere notInRest⟩, rfl, rfl, ?_, ?_⟩
  · rw [addresses_append, List.nodup_append]
    exact ⟨onceFront, onceRest, fun one early other late same =>
      apart one early (same ▸ late)⟩
  · intro other live
    by_contra absent
    rw [addresses_append, List.mem_append, not_or] at absent
    by_cases removed : other = address
    · exact live (removed ▸ heap₂.free_same other)
    · rw [heap₂.free_other removed, same₂ other absent.2, same₁ other absent.1] at live
      have member := whole other live
      rw [addresses_append, addresses_cons, List.mem_append, List.mem_cons] at member
      rcases member with early | here | late
      · exact absent.1 early
      · exact removed here
      · exact absent.2 late

end Holds

end Msm8660
