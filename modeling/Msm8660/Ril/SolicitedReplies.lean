import Mathlib.Algebra.Order.Group.Multiset
import Msm8660.Ril.OperatorCheck

/-!
# Replies to requests

`processSolicited` reads the replies to two requests itself and hands the others to the class
above it. It takes the request from the list before it reads the reply, and unlike the class
above it does not catch what the reading throws. So every message of a request is sent once or
its request is in the list, except for requests whose reply cannot be read (`answered_iff`).

Of the class above it is assumed that it removes the request that a reply is for, that it sends
one message then if the request has any, and that it does nothing for a serial number that is
not in the list (`SuperRil.Lawful`).
-/

set_option autoImplicit false

namespace Msm8660.Ril

/-- The requests whose replies are read here, and others by their number. -/
inductive RilRequestType where
  | dataRegistrationState
  | operator
  | other (request : ℤ)
deriving DecidableEq, Repr

/-- `RILRequest`, with messages of a type `μ`. -/
structure RILRequest (μ : Type*) where
  mSerial : ℤ
  mRequest : RilRequestType
  mResult : Option μ

/-- A reply: what is in front of its data, how much data there is, and what `responseStrings`
makes of it. -/
structure ReplyParcel where
  serial : ℤ
  error : ℤ
  dataAvail : ℤ
  strings : Except Thrown (Option (List (Option JString)))

/-! ## The data of a registration -/

/-- `equals`, of what may be null. -/
def jEquals (text : Option JString) (other : String) : Except Thrown Bool :=
  match text with
  | none => .error .nullPointer
  | some text => .ok (text = java other)

/-- One `if` of `responseDataRegistrationState`. -/
def replaceTechnology (technology instead : String) (response : List (Option JString)) :
    Except Thrown (List (Option JString)) :=
  if 4 < response.length then
    (jEquals (response[0]?).join "1").bind fun registered =>
      if registered then
        (jEquals (response[3]?).join technology).bind fun same =>
          .ok (if same then response.set 3 (some (java instead)) else response)
      else .ok response
  else .ok response

/-- `responseDataRegistrationState`, on what `responseStrings` has read. -/
def responseDataRegistrationState (strings : Option (List (Option JString))) :
    Except Thrown (List (Option JString)) :=
  match strings with
  | none => .error .nullPointer
  | some response =>
      (replaceTechnology "30" "15" response).bind (replaceTechnology "102" "2")

/-! ## The list of requests -/

section Requests

variable {μ ρ : Type*}

/-- The methods of the class above that `processSolicited` calls, on the list of requests. What
the first one sends are messages with results of a type `ρ`. -/
structure SuperRil (μ ρ : Type*) where
  processSolicited : List (RILRequest μ) → ReplyParcel → List (RILRequest μ) × List (μ × ρ)
  findAndRemoveRequestFromList : List (RILRequest μ) → ℤ →
    List (RILRequest μ) × Option (RILRequest μ)

/-- `mRequestList.get`. -/
def getRequest (requests : List (RILRequest μ)) (serial : ℤ) : Option (RILRequest μ) :=
  requests.find? (·.mSerial = serial)

/-- The list without what `get` finds. -/
def removeRequest (requests : List (RILRequest μ)) (serial : ℤ) : List (RILRequest μ) :=
  requests.eraseP (·.mSerial = serial)

/-- What is relied on. -/
structure SuperRil.Lawful (superRil : SuperRil μ ρ) : Prop where
  removes : ∀ requests serial, superRil.findAndRemoveRequestFromList requests serial =
    (removeRequest requests serial, getRequest requests serial)
  unknown : ∀ requests parcel, getRequest requests parcel.serial = none →
    superRil.processSolicited requests parcel = (requests, [])
  known : ∀ requests parcel request, getRequest requests parcel.serial = some request →
    ∃ result, superRil.processSolicited requests parcel =
      (removeRequest requests parcel.serial, request.mResult.toList.map fun sent => (sent, result))

/-- What comes of a reply: a message with a result of the class above or with strings, or an
exception while the reply to a request is read. -/
inductive RilEvent (μ ρ : Type*) where
  | forwarded (sent : μ) (result : ρ)
  | answered (sent : μ) (strings : List (Option JString))
  | thrown (request : RILRequest μ) (thrown : Thrown)

/-- The list of requests, and the static fields of `Operators`. -/
structure RilState (μ : Type*) where
  mRequestList : List (RILRequest μ)
  statics : Statics

/-- The strings that are sent for a request, and the static fields afterwards. -/
def readReply (spnFiles : ℕ → SpnFile) (statics : Statics) (request : RilRequestType)
    (strings : Except Thrown (Option (List (Option JString)))) :
    Statics × Except Thrown (List (Option JString)) :=
  match request, strings with
  | .other code, _ =>
      (statics, .error (.runtime ("Unrecognized solicited response: " ++ toString code)))
  | _, .error thrown => (statics, .error thrown)
  | .dataRegistrationState, .ok strings => (statics, responseDataRegistrationState strings)
  | .operator, .ok strings => operatorCheck spnFiles statics strings

/-- The reply is for a request that is looked at here, and has something to read. -/
def isReadHere (request : RILRequest μ) (parcel : ReplyParcel) : Bool :=
  (parcel.error = 0 ∨ parcel.dataAvail > 0) ∧
    (request.mRequest = .dataRegistrationState ∨ request.mRequest = .operator)

/-- `processSolicited`. -/
def processSolicited (superRil : SuperRil μ ρ) (state : RilState μ) (spnFiles : ℕ → SpnFile)
    (parcel : ReplyParcel) : RilState μ × List (RilEvent μ ρ) :=
  let rr := (getRequest state.mRequestList parcel.serial).filter (isReadHere · parcel)
  match rr with
  | none =>
      let (requests, sent) := superRil.processSolicited state.mRequestList parcel
      ({ state with mRequestList := requests },
        sent.map fun (message, result) => .forwarded message result)
  | some _ =>
      let (requests, rr) :=
        superRil.findAndRemoveRequestFromList state.mRequestList parcel.serial
      let state := { state with mRequestList := requests }
      match rr with
      | none => (state, [])
      | some rr =>
          let (statics, ret) := readReply spnFiles state.statics rr.mRequest parcel.strings
          let state := { state with statics := statics }
          match ret with
          | .error thrown => (state, [.thrown rr thrown])
          | .ok strings => (state, rr.mResult.toList.map fun message => .answered message strings)

/-- A request is sent, or a reply is read. -/
inductive RilInput (μ : Type*) where
  | send (request : RILRequest μ)
  | reply (spnFiles : ℕ → SpnFile) (parcel : ReplyParcel)

/-- Requests and replies. -/
def solicited (superRil : SuperRil μ ρ) : Machine (RilState μ) (RilInput μ) (RilEvent μ ρ) where
  step state
    | .send request =>
        ({ state with mRequestList := state.mRequestList ++ [request] }, [])
    | .reply spnFiles parcel => processSolicited superRil state spnFiles parcel

/-- Before the first request. -/
def RilState.initial : RilState μ := ⟨[], Statics.initial⟩

/-! ## What becomes of a message -/

/-- The messages of the requests that are sent. -/
def RilInput.message : RilInput μ → Multiset μ
  | .send request => request.mResult.toList
  | .reply _ _ => 0

/-- The messages of the requests in the list. -/
def RilState.waiting (state : RilState μ) : Multiset μ :=
  state.mRequestList.filterMap RILRequest.mResult

/-- The message that comes back. -/
def RilEvent.message : RilEvent μ ρ → Multiset μ
  | .forwarded sent _ | .answered sent _ => {sent}
  | .thrown _ _ => 0

/-- The message that never comes back. -/
def RilEvent.lost : RilEvent μ ρ → Multiset μ
  | .thrown request _ => request.mResult.toList
  | _ => 0

/-- The strings of a reply cannot be read. -/
def Unreadable (request : RilRequestType)
    (strings : Except Thrown (Option (List (Option JString)))) : Prop :=
  match strings with
  | .error _ | .ok none => True
  | .ok (some response) => match request with
    | .operator => response.length < 2
    | .dataRegistrationState => 4 < response.length ∧ (response[0]? = some none ∨
        response[0]? = some (some (java "1")) ∧ response[3]? = some none)
    | .other _ => False

/-- The reply is for a request with a message, is read here, and cannot be read. -/
def LosesMessage (taken : Machine.Step (RilState μ) (RilInput μ) (RilEvent μ ρ)) : Prop :=
  match taken.input with
  | .send _ => False
  | .reply _ parcel => ∃ request,
      getRequest taken.before.mRequestList parcel.serial = some request ∧
        request.mResult ≠ none ∧ isReadHere request parcel = true ∧
        Unreadable request.mRequest parcel.strings

/-! ## What cannot be read -/

/-- An `if` throws where it compares with null. -/
theorem replaceTechnology_spec (technology instead : String) (response : List (Option JString)) :
    match replaceTechnology technology instead response with
    | .error _ => Unreadable .dataRegistrationState (.ok (some response))
    | .ok replaced => ¬ Unreadable .dataRegistrationState (.ok (some response)) ∧
        ¬ Unreadable .dataRegistrationState (.ok (some replaced)) := by
  by_cases long : 4 < response.length
  · obtain ⟨first, firstThere⟩ : ∃ first, response[0]? = some first :=
      ⟨_, List.getElem?_eq_getElem (by omega)⟩
    obtain ⟨fourth, fourthThere⟩ : ∃ fourth, response[3]? = some fourth :=
      ⟨_, List.getElem?_eq_getElem (by omega)⟩
    have inside : 3 < response.length := by omega
    simp only [replaceTechnology, if_pos long, firstThere, fourthThere, Option.join_some]
    cases first with
    | none => simp [jEquals, Except.bind, Unreadable, long, firstThere]
    | some first =>
        by_cases registered : first = java "1"
        · cases fourth with
          | none =>
              simp [jEquals, Except.bind, Unreadable, long, firstThere, fourthThere, registered]
          | some fourth =>
              by_cases replaced : fourth = java technology
              · simp [jEquals, Except.bind, Unreadable, firstThere, fourthThere, registered,
                  replaced, List.getElem?_set_self inside]
              · simp [jEquals, Except.bind, Unreadable, firstThere, fourthThere, registered,
                  replaced]
        · simp [jEquals, Except.bind, Unreadable, firstThere, registered]
  · simp [replaceTechnology, long, Unreadable]

theorem responseDataRegistrationState_error_iff (strings : Option (List (Option JString))) :
    (∃ thrown, responseDataRegistrationState strings = .error thrown) ↔
      Unreadable .dataRegistrationState (.ok strings) := by
  cases strings with
  | none => exact iff_of_true ⟨_, rfl⟩ trivial
  | some response =>
      have first := replaceTechnology_spec "30" "15" response
      simp only [responseDataRegistrationState]
      cases read : replaceTechnology "30" "15" response with
      | error thrown =>
          rw [read] at first
          exact iff_of_true ⟨thrown, rfl⟩ first
      | ok replaced =>
          rw [read] at first
          have second := replaceTechnology_spec "102" "2" replaced
          rw [Except.bind]
          cases again : replaceTechnology "102" "2" replaced with
          | error thrown =>
              rw [again] at second
              exact absurd second first.2
          | ok shown => exact iff_of_false (fun ⟨_, error⟩ => by cases error) first.1

theorem operatorCheck_error_iff (spnFiles : ℕ → SpnFile) (statics : Statics)
    (strings : Option (List (Option JString))) :
    (∃ thrown, (operatorCheck spnFiles statics strings).2 = .error thrown) ↔
      Unreadable .operator (.ok strings) := by
  have passes : forIndices 2 1 = [0, 1] := rfl
  cases strings with
  | none => exact iff_of_true ⟨_, rfl⟩ trivial
  | some response =>
      rw [operatorCheck, passes]
      match response with
      | [] => simp [operatorCheckFrom, Unreadable]
      | [none] => simp [operatorCheckFrom, Unreadable]
      | [some text] => simp [operatorCheckFrom, Unreadable]
      | none :: none :: rest => simp [operatorCheckFrom, Unreadable]
      | none :: some text :: rest => simp [operatorCheckFrom, Unreadable]
      | some text :: none :: rest => simp [operatorCheckFrom, Unreadable]
      | some text :: some text' :: rest => simp [operatorCheckFrom, Unreadable]

/-- **Reading a reply throws exactly if it cannot be read.** -/
theorem readReply_error_iff (spnFiles : ℕ → SpnFile) (statics : Statics)
    {request : RilRequestType} (here : request = .dataRegistrationState ∨ request = .operator)
    (strings : Except Thrown (Option (List (Option JString)))) :
    (∃ thrown, (readReply spnFiles statics request strings).2 = .error thrown) ↔
      Unreadable request strings := by
  cases strings with
  | error thrown =>
      refine iff_of_true ⟨thrown, ?_⟩ trivial
      rcases here with rfl | rfl <;> rfl
  | ok strings =>
      rcases here with rfl | rfl
      · exact responseDataRegistrationState_error_iff strings
      · exact operatorCheck_error_iff spnFiles statics strings

/-! ## One step -/

variable {superRil : SuperRil μ ρ}

/-- A request that is found takes its message out of the list with it. -/
theorem waiting_remove {requests : List (RILRequest μ)} {serial : ℤ} {request : RILRequest μ}
    (found : getRequest requests serial = some request) :
    ((requests.filterMap RILRequest.mResult : List μ) : Multiset μ) =
      (request.mResult.toList : Multiset μ) +
        ((removeRequest requests serial).filterMap RILRequest.mResult : List μ) := by
  induction requests with
  | nil => cases found
  | cons first rest ih =>
      by_cases here : first.mSerial = serial
      · have same : first = request := by
          rw [getRequest, List.find?_cons_of_pos (by simpa using here)] at found
          exact Option.some.inj found
        subst same
        rw [removeRequest, List.eraseP_cons_of_pos (by simpa using here)]
        cases message : first.mResult <;> simp [message]
      · rw [getRequest, List.find?_cons_of_neg (by simpa using here)] at found
        have behind := ih found
        have kept : removeRequest (first :: rest) serial = first :: removeRequest rest serial :=
          List.eraseP_cons_of_neg (by simpa using here)
        rw [kept]
        cases message : first.mResult with
        | none => simpa [message] using behind
        | some sent =>
            rw [List.filterMap_cons_some message, List.filterMap_cons_some message,
              ← Multiset.cons_coe, ← Multiset.cons_coe, behind, Multiset.add_cons]

/-- What comes of a reply that is for a request in the list. -/
theorem processSolicited_found (lawful : superRil.Lawful) {state : RilState μ}
    {parcel : ReplyParcel} {request : RILRequest μ}
    (found : getRequest state.mRequestList parcel.serial = some request)
    (spnFiles : ℕ → SpnFile) :
    let done := processSolicited superRil state spnFiles parcel
    done.1.mRequestList = removeRequest state.mRequestList parcel.serial ∧
      ((isReadHere request parcel = true ∧ Unreadable request.mRequest parcel.strings) ∧
          (∃ thrown, done.2 = [.thrown request thrown]) ∨
        ¬ (isReadHere request parcel = true ∧ Unreadable request.mRequest parcel.strings) ∧
          (done.2.map RilEvent.message).sum = (request.mResult.toList : Multiset μ) ∧
          (done.2.map RilEvent.lost).sum = 0) := by
  have returned (make : μ → RilEvent μ ρ) (message : ∀ sent, (make sent).message = {sent})
      (kept : ∀ sent, (make sent).lost = 0) :
      ((request.mResult.toList.map make).map RilEvent.message).sum =
          (request.mResult.toList : Multiset μ) ∧
        ((request.mResult.toList.map make).map RilEvent.lost).sum = 0 := by
    cases request.mResult with
    | none => exact ⟨rfl, rfl⟩
    | some sent => exact ⟨by simp [message], by simp [kept]⟩
  by_cases here : isReadHere request parcel = true
  · simp only [processSolicited, found, Option.filter_some, here, if_true, lawful.removes]
    have kind : request.mRequest = .dataRegistrationState ∨ request.mRequest = .operator :=
      (of_decide_eq_true here).2
    have throws := readReply_error_iff spnFiles state.statics kind parcel.strings
    cases read : (readReply spnFiles state.statics request.mRequest parcel.strings).2 with
    | error thrown =>
        exact ⟨rfl, Or.inl ⟨⟨trivial, throws.mp ⟨thrown, read⟩⟩, thrown, rfl⟩⟩
    | ok strings =>
        have readable : ¬ Unreadable request.mRequest parcel.strings := fun unreadable => by
          obtain ⟨thrown, error⟩ := throws.mpr unreadable
          cases read.symm.trans error
        exact ⟨rfl, Or.inr ⟨fun both => readable both.2, returned _ (fun _ => rfl) fun _ => rfl⟩⟩
  · obtain ⟨result, handed⟩ := lawful.known state.mRequestList parcel request found
    simp only [processSolicited, found, Option.filter_some, here, handed, if_false,
      Bool.false_eq_true, List.map_map]
    have forwarded := returned (fun sent => .forwarded sent result) (fun _ => rfl) fun _ => rfl
    rw [List.map_map, List.map_map] at forwarded
    exact ⟨trivial, Or.inr ⟨fun both => both.1, forwarded⟩⟩

/-- A reply for no request in the list does nothing. -/
theorem processSolicited_unknown (lawful : superRil.Lawful) {state : RilState μ}
    {parcel : ReplyParcel} (unknown : getRequest state.mRequestList parcel.serial = none)
    (spnFiles : ℕ → SpnFile) :
    processSolicited superRil state spnFiles parcel = (state, []) := by
  simp only [processSolicited, unknown, Option.filter_none, lawful.unknown _ _ unknown,
    List.map_nil]

/-- A message that goes into a step comes back, is lost, or waits. -/
theorem solicited_balanced (lawful : superRil.Lawful) (state : RilState μ) (input : RilInput μ) :
    state.waiting + input.message =
      (((solicited superRil).step state input).2.map fun event =>
        event.message + event.lost).sum + ((solicited superRil).step state input).1.waiting := by
  cases input with
  | send request =>
      simp only [solicited, List.map_nil, List.sum_nil, zero_add, RilState.waiting,
        RilInput.message, Multiset.coe_add, List.filterMap_append]
      cases message : request.mResult <;> simp [message]
  | reply spnFiles parcel =>
      simp only [solicited, RilInput.message, add_zero]
      cases found : getRequest state.mRequestList parcel.serial with
      | none =>
          rw [processSolicited_unknown lawful found]
          simp
      | some request =>
          obtain ⟨removed, outcome⟩ := processSolicited_found lawful found spnFiles
          rw [RilState.waiting, waiting_remove found, RilState.waiting, removed, List.sum_map_add]
          rcases outcome with ⟨-, thrown, events⟩ | ⟨-, returned, kept⟩
          · rw [events]
            simp [RilEvent.message, RilEvent.lost]
          · rw [returned, kept, add_zero]

theorem multiset_sum_eq_zero_iff (parts : List (Multiset μ)) :
    parts.sum = 0 ↔ ∀ part ∈ parts, part = 0 := by
  induction parts with
  | nil => simp
  | cons part rest ih =>
      rw [List.sum_cons, List.forall_mem_cons, ← ih, ← Multiset.card_eq_zero, Multiset.card_add,
        Nat.add_eq_zero_iff, Multiset.card_eq_zero, Multiset.card_eq_zero]

/-- A step loses a message exactly if it reads a reply that it cannot read. -/
theorem solicited_lost_iff (lawful : superRil.Lawful) (state : RilState μ) (input : RilInput μ) :
    (∀ event ∈ ((solicited superRil).step state input).2, event.lost = 0) ↔
      ¬ LosesMessage ((solicited superRil).stepOn state input) := by
  cases input with
  | send request => exact iff_of_true (fun _ none => absurd none List.not_mem_nil) id
  | reply spnFiles parcel =>
      simp only [LosesMessage, Machine.stepOn, solicited]
      cases found : getRequest state.mRequestList parcel.serial with
      | none =>
          rw [processSolicited_unknown lawful found]
          exact iff_of_true (fun _ none => absurd none List.not_mem_nil)
            fun ⟨request, there, _⟩ => by cases there
      | some request =>
          obtain ⟨-, outcome⟩ := processSolicited_found lawful found spnFiles
          simp only [Option.some.injEq, exists_eq_left']
          rcases outcome with ⟨⟨here, unreadable⟩, thrown, events⟩ | ⟨spared, -, kept⟩
          · rw [events]
            cases message : request.mResult <;> simp [RilEvent.lost, message, here, unreadable]
          · refine iff_of_true (fun event emitted => ?_) fun loses =>
              spared ⟨loses.2.1, loses.2.2⟩
            exact (multiset_sum_eq_zero_iff _).mp kept _ (List.mem_map_of_mem emitted)

/-- **Every message comes back once, is lost or waits, and none is lost exactly if no reply is
read that cannot be read.** The requests of the messages that are lost are those whose replies
cannot be read, and they are no longer in the list. -/
theorem answered_iff (lawful : superRil.Lawful) (inputs : List (RilInput μ)) :
    (inputs.map RilInput.message).sum =
        (((solicited superRil).outputs RilState.initial inputs).map RilEvent.message).sum +
          (((solicited superRil).outputs RilState.initial inputs).map RilEvent.lost).sum +
            ((solicited superRil).run RilState.initial inputs).waiting ∧
      ((inputs.map RilInput.message).sum =
          (((solicited superRil).outputs RilState.initial inputs).map RilEvent.message).sum +
            ((solicited superRil).run RilState.initial inputs).waiting ↔
        ∀ taken ∈ (solicited superRil).steps RilState.initial inputs, ¬ LosesMessage taken) := by
  have total := Machine.run_balance (solicited_balanced lawful) RilState.initial inputs
  have start : (RilState.initial : RilState μ).waiting = 0 := rfl
  rw [start, zero_add, List.sum_map_add] at total
  refine ⟨total, ?_⟩
  rw [total, add_right_cancel_iff, add_eq_left, multiset_sum_eq_zero_iff]
  have steps : (∀ taken ∈ (solicited superRil).steps RilState.initial inputs,
      ¬ LosesMessage taken) ↔ ∀ taken ∈ (solicited superRil).steps RilState.initial inputs,
        ∀ event ∈ taken.outputs, event.lost = 0 := by
    refine forall₂_congr fun taken member => ?_
    obtain ⟨earlier, input, later, -, rfl⟩ := Machine.mem_steps.mp member
    exact (solicited_lost_iff lawful _ input).symm
  rw [steps, List.forall_mem_map]
  constructor
  · intro all taken member event emitted
    exact all event (Machine.mem_outputs.mpr ⟨taken, member, emitted⟩)
  · intro all event emitted
    obtain ⟨taken, member, here⟩ := Machine.mem_outputs.mp emitted
    exact all taken member event here

end Requests

/-- A class above that answers with the number of the request. -/
def plainSuper : SuperRil String ℤ where
  processSolicited requests parcel :=
    match getRequest requests parcel.serial with
    | none => (requests, [])
    | some request => (removeRequest requests parcel.serial,
        request.mResult.toList.map fun sent => (sent, request.mSerial))
  findAndRemoveRequestFromList requests serial :=
    (removeRequest requests serial, getRequest requests serial)

theorem plainSuper_lawful : plainSuper.Lawful where
  removes := fun _ _ => rfl
  unknown := fun _ _ unknown => by simp only [plainSuper, unknown]
  known := fun _ _ request known => ⟨request.mSerial, by simp only [plainSuper, known]⟩

/-- A reply with one string only to a request for the operator. -/
def oneString : List (RilInput String) :=
  [.send ⟨1, .operator, some "who answers?"⟩,
    .reply (fun _ => none) ⟨1, 0, 16, .ok (some [some (java "26201")])⟩]

/-- The message is lost. -/
theorem answered_iff_oneString :
    (oneString.map RilInput.message).sum ≠
      (((solicited plainSuper).outputs RilState.initial oneString).map RilEvent.message).sum +
        ((solicited plainSuper).run RilState.initial oneString).waiting := fun same =>
  (answered_iff plainSuper_lawful oneString).2.mp same _
    (List.mem_cons_of_mem _ (List.mem_cons_self ..))
    ⟨⟨1, .operator, some "who answers?"⟩, rfl, nofun, rfl, (by decide : 1 < 2)⟩

end Msm8660.Ril
