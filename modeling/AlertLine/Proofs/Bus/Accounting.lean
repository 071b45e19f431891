import AlertLine.Proofs.Bus.RoundTrip
import AlertLine.Proofs.Json.Length
import Mathlib.Data.List.Forall2

/-!
# What the worker answers for

The orders and the questions come in one row, each stream in its own order (`Interleaving`). What
one message leads to does not depend on the others, so what the whole row leads to is an
interleaving of what the two streams lead to (`Interleaving.flatMap`). An order that can be read is
carried out once and reported once, a question with a subject for its answer is answered once, and
nothing else is asked of the sender or published (`Worker.answers_for_each`). The bus drops what is
too long for it, such as a report that tells a failure at length (`Worker.long_report_dropped`).
-/

namespace AlertLine

/-! ## Two streams in one -/

/-- A row of two streams, each in its own order. -/
inductive Interleaving {α : Type} : List α → List α → List α → Prop
  /-- Nothing comes. -/
  | nil : Interleaving [] [] []
  /-- The next one is of the first stream. -/
  | left {a : α} {as bs cs : List α} (h : Interleaving as bs cs) :
    Interleaving (a :: as) bs (a :: cs)
  /-- The next one is of the second stream. -/
  | right {b : α} {as bs cs : List α} (h : Interleaving as bs cs) :
    Interleaving as (b :: bs) (b :: cs)

namespace Interleaving

variable {α β : Type} {as bs cs : List α}

theorem append_left (front : List α) (h : Interleaving as bs cs) :
    Interleaving (front ++ as) bs (front ++ cs) := by
  induction front with
  | nil => exact h
  | cons a front ih => exact ih.left

theorem append_right (front : List α) (h : Interleaving as bs cs) :
    Interleaving as (front ++ bs) (front ++ cs) := by
  induction front with
  | nil => exact h
  | cons b front ih => exact ih.right

/-- What each one leads to comes in the same way. -/
theorem flatMap (f : α → List β) (h : Interleaving as bs cs) :
    Interleaving (as.flatMap f) (bs.flatMap f) (cs.flatMap f) := by
  induction h with
  | nil => exact nil
  | @left a as bs cs _ ih =>
    simp only [List.flatMap_cons]
    exact ih.append_left (f a)
  | @right b as bs cs _ ih =>
    simp only [List.flatMap_cons]
    exact ih.append_right (f b)

end Interleaving

/-- Where each one leads to what its reading calls for, the whole row leads to what its readings
call for. -/
theorem forall₂_flatMap {α β γ : Type} {R : β → γ → Prop} {read? : α → Option β} {f : α → List γ}
    {as : List α} (h : ∀ a ∈ as, List.Forall₂ R (read? a).toList (f a)) :
    List.Forall₂ R (as.filterMap read?) (as.flatMap f) := by
  induction as with
  | nil => exact .nil
  | cons a as ih =>
    have hfirst := h a List.mem_cons_self
    have hrest := ih fun b hb => h b (List.mem_cons_of_mem a hb)
    rw [List.filterMap_cons, List.flatMap_cons]
    cases hread : read? a with
    | none =>
      rw [hread, Option.toList_none, List.forall₂_nil_left_iff] at hfirst
      rw [hfirst]
      exact hrest
    | some b =>
      rw [hread, Option.toList_some] at hfirst
      exact List.rel_append hfirst hrest

/-! ## Outcomes -/

/-- Of a success and a failure there is the one that a result gives, and not the other. -/
inductive Settles {α : Type} : Except DispatchError α → Option α → Option Failure → Prop
  /-- It succeeded. -/
  | success (a : α) : Settles (.ok a) (some a) none
  /-- It failed. -/
  | failure (e : DispatchError) : Settles (.error e) none (some (.ofError e))

/-- What the report on an order says: what the order says, and what the sender answered. -/
structure Reports (sender : Sender) (o : SendOrder) (report : SendReport) : Prop where
  requestId : report.requestId = o.requestId
  destination : report.destination = o.destination
  channel : report.channel = o.channel
  settles : Settles (sender.send o.destination o.channel o.notification).result report.result
    report.error
  exclusive : report.result.isSome ≠ report.error.isSome

/-- What the reply to a question says: what the sender answered, or that the question cannot be
read. -/
inductive Replies (sender : Sender) (payload : Bytes) : CarrierReply → Prop
  /-- The sender was asked. -/
  | asked {q : CarrierQuery} {reply : CarrierReply}
      (hread : Json.read CarrierQuery payload = some q)
      (hsettles : Settles (sender.lookupCarrier q.number).result reply.carrier reply.error)
      (hexclusive : reply.carrier.isSome ≠ reply.error.isSome) : Replies sender payload reply
  /-- The question cannot be read, and the failure says what its reader says. -/
  | malformed (hread : Json.read CarrierQuery payload = none) :
      Replies sender payload
        ⟨none, some ⟨"bad carrier lookup request: " ++ sender.unread payload, false⟩⟩

theorem Settles.exclusive {α : Type} {result : Except DispatchError α} {success : Option α}
    {failure : Option Failure} (h : Settles result success failure) :
    success.isSome ≠ failure.isSome := by
  cases h <;> simp

theorem settles_report (o : SendOrder) (result : Except DispatchError Receipt) :
    Settles result (o.report result).result (o.report result).error := by
  cases result with
  | ok receipt => exact .success receipt
  | error e => exact .failure e

theorem settles_ofResult (result : Except DispatchError Carrier) :
    Settles result (CarrierReply.ofResult result).carrier (CarrierReply.ofResult result).error := by
  cases result with
  | ok carrier => exact .success carrier
  | error e => exact .failure e

theorem reports_report (sender : Sender) (o : SendOrder) :
    Reports sender o (o.report (sender.send o.destination o.channel o.notification).result) := by
  have hsettles := settles_report o (sender.send o.destination o.channel o.notification).result
  refine ⟨?_, ?_, ?_, hsettles, hsettles.exclusive⟩ <;>
    cases (sender.send o.destination o.channel o.notification).result <;> rfl

theorem replies_answerCarrierQuery (sender : Sender) (payload : Bytes) :
    Replies sender payload (Worker.answerCarrierQuery sender payload).value := by
  unfold Worker.answerCarrierQuery
  cases hread : Json.read CarrierQuery payload with
  | none => exact .malformed hread
  | some q =>
    have hsettles := settles_ofResult (sender.lookupCarrier q.number).result
    exact .asked hread hsettles hsettles.exclusive

/-! ## Long reports -/

/-- The document of a report is no shorter than the message of the failure in it. -/
theorem length_message_le_write (o : SendOrder) (e : DispatchError) :
    e.message.length ≤ (Json.write (o.report (.error e))).length := by
  let failure := Failure.ofError e
  have herror : ("error", Wire.encode failure) ∈ optionalEntry "request_id" o.requestId ++
      [("destination", .ofString o.destination), ("kind", Wire.encode o.channel)] ++
      optionalEntry "result" (none : Option Receipt) ++ optionalEntry "error" (some failure) :=
    List.mem_append_right _ List.mem_cons_self
  have hmessage : ("message", Json.ofString e.message) ∈
      [("message", Json.ofString e.message), ("retryable", .bool e.isRetryable)] :=
    List.mem_cons_self
  calc e.message.length
      ≤ (Json.chars (.ofString e.message)).length := Json.length_le_chars_ofString e.message
    _ ≤ (Json.chars (Wire.encode failure)).length := Json.length_chars_le_obj hmessage
    _ ≤ (Json.chars (Wire.encode (o.report (.error e)))).length := Json.length_chars_le_obj herror
    _ ≤ (Json.write (o.report (.error e))).length := Json.length_chars_le_bytes _

/-- The message of a refusal is longer than what the provider says in detail. -/
theorem lt_length_message (status : HttpStatus) (code title detail : String) :
    detail.length < (DispatchError.provider status ⟨[⟨code, title, detail⟩]⟩).message.length := by
  let said := if detail.isEmpty then title else detail
  have hsaid : detail.length ≤ said.length := by
    by_cases hempty : detail.isEmpty = true
    · rw [String.isEmpty_iff.1 hempty]
      exact Nat.zero_le _
    · exact le_of_eq (congrArg String.length (if_neg hempty).symm)
  have hmessage : (DispatchError.provider status ⟨[⟨code, title, detail⟩]⟩).message =
      "telnyx: " ++ ", ".intercalate [code ++ ": " ++ said] ++ " (status " ++ status.text ++ ")" :=
    rfl
  have hopening : "telnyx: ".length = 8 := rfl
  rw [hmessage]
  simp only [String.intercalate_singleton, String.length_append, hopening]
  omega

namespace Worker

/-! ## One message -/

/-- The order that a message gives, if it can be read, and who is to carry it out. -/
def order? (m : Sender × Bus.Message) : Option (Sender × SendOrder) :=
  (Json.read SendOrder m.2.payload).map fun o => (m.1, o)

/-- The question that a message puts, if it has a subject for the answer: who is asked, that
subject, and what it says. -/
def question? (m : Sender × Bus.Message) : Option (Sender × String × Bytes) :=
  m.2.replyTo.map fun replyTo => (m.1, replyTo, m.2.payload)

/-- The lookup that a message asks for, if it can be read and has a subject for the answer. -/
def lookup? (m : Sender × Bus.Message) : Option SenderCall :=
  m.2.replyTo.bind fun _ => (Json.read CarrierQuery m.2.payload).map fun q => .lookup q.number

/-- A publication is the report on an order. -/
def IsOutcome (order : Sender × SendOrder) (p : Bus.Publication) : Prop :=
  ∃ report, Reports order.1 order.2 report ∧ p = .ofValue Subject.outcome report

/-- A call of the sender sends what an order says. -/
def IsSend (order : Sender × SendOrder) (call : SenderCall) : Prop :=
  call = .send order.2.destination order.2.channel order.2.notification

/-- A publication is the reply to a question, under the subject for it. -/
def IsReply (question : Sender × String × Bytes) (p : Bus.Publication) : Prop :=
  ∃ reply, Replies question.1 question.2.2 reply ∧ p = .ofValue question.2.1 reply

section Messages

variable {m : Sender × Bus.Message}

/-- A message with an order leads to the report on it and one send; with none, to nothing. -/
theorem handle_order (hsubject : Subject.isOutbound m.2.subject = true) :
    List.Forall₂ IsOutcome (order? m).toList (handle m.1 m.2).value ∧
      List.Forall₂ IsSend (order? m).toList (handle m.1 m.2).calls := by
  rw [handle, if_pos hsubject, order?, process]
  cases hread : Json.read SendOrder m.2.payload with
  | none => exact ⟨.nil, .nil⟩
  | some o =>
    constructor
    · exact .cons ⟨_, reports_report m.1 o, rfl⟩ .nil
    · exact .cons rfl .nil

theorem handle_carrierLookup (hsubject : m.2.subject = Subject.carrierLookup) :
    handle m.1 m.2 = match m.2.replyTo with
      | none => .idle []
      | some replyTo => (answerCarrierQuery m.1 m.2.payload).map fun reply =>
          [.ofValue replyTo reply] := by
  have hother : Subject.isOutbound m.2.subject ≠ true := by
    rw [hsubject]
    decide
  exact (if_neg hother).trans (if_pos hsubject)

/-- A question with a subject for the answer leads to one reply, and to a lookup if it can be read;
without one, to nothing. -/
theorem handle_question (hsubject : m.2.subject = Subject.carrierLookup) :
    List.Forall₂ IsReply (question? m).toList (handle m.1 m.2).value ∧
      List.Forall₂ Eq (lookup? m).toList (handle m.1 m.2).calls := by
  rw [handle_carrierLookup hsubject, question?, lookup?]
  cases m.2.replyTo with
  | none => exact ⟨.nil, .nil⟩
  | some replyTo =>
    constructor
    · exact .cons ⟨_, replies_answerCarrierQuery m.1 m.2.payload, rfl⟩ .nil
    · show List.Forall₂ Eq ((Json.read CarrierQuery m.2.payload).map _).toList
        (answerCarrierQuery m.1 m.2.payload).calls
      unfold answerCarrierQuery
      cases Json.read CarrierQuery m.2.payload with
      | none => exact .nil
      | some q => exact .cons rfl .nil

end Messages

/-! ## Rows of messages -/

/-- Everything that the sender is asked for, in order. -/
def calls (messages : List (Sender × Bus.Message)) : List SenderCall :=
  (run messages).flatMap Work.calls

theorem published_eq (messages : List (Sender × Bus.Message)) :
    published messages = messages.flatMap fun m => (handle m.1 m.2).value := by
  rw [published, run, List.flatMap_map]

theorem calls_eq (messages : List (Sender × Bus.Message)) :
    calls messages = messages.flatMap fun m => (handle m.1 m.2).calls := by
  rw [calls, run, List.flatMap_map]

/-- The bus takes all that is not too long for it. -/
theorem delivered_eq (limit : ℕ) (messages : List (Sender × Bus.Message)) :
    delivered limit messages = (published messages).filter fun p => p.fits limit := by
  rw [delivered, published, List.filter_flatMap]
  rfl

/-- A message has its own part in what is published and asked for, and none in that of others. -/
structure HasOwnPart (limit : ℕ) (before : List (Sender × Bus.Message)) (m : Sender × Bus.Message)
    (after : List (Sender × Bus.Message)) : Prop where
  publications : published (before ++ m :: after) =
    published before ++ (handle m.1 m.2).value ++ published after
  requests : calls (before ++ m :: after) = calls before ++ (handle m.1 m.2).calls ++ calls after
  deliveries : delivered limit (before ++ m :: after) =
    delivered limit before ++ taken limit (handle m.1 m.2) ++ delivered limit after

theorem hasOwnPart (limit : ℕ) (before : List (Sender × Bus.Message)) (m : Sender × Bus.Message)
    (after : List (Sender × Bus.Message)) : HasOwnPart limit before m after := by
  constructor
  · simp only [published_eq, List.flatMap_append, List.flatMap_cons, List.append_assoc]
  · simp only [calls_eq, List.flatMap_append, List.flatMap_cons, List.append_assoc]
  · simp only [delivered, run, List.map_append, List.map_cons, List.flatMap_append,
      List.flatMap_cons, List.append_assoc]

/-- The report on a failure that is told at length does not get through. -/
theorem delivered_of_long_failure {limit : ℕ} {sender : Sender} {o : SendOrder} {e : DispatchError}
    {subject : String} (hsubject : Subject.isOutbound subject = true) (replyTo : Option String)
    (hfailed : (sender.send o.destination o.channel o.notification).result = .error e)
    (hlong : limit < e.message.length) :
    delivered limit [(sender, ⟨subject, replyTo, Json.write o⟩)] = [] := by
  have hpublished : published [(sender, ⟨subject, replyTo, Json.write o⟩)] =
      [.ofValue Subject.outcome (o.report (.error e))] := by
    rw [published_eq, List.flatMap_singleton, handle, if_pos hsubject, process_write, carryOut,
      Work.ofDispatch, hfailed]
    rfl
  have hlength := length_message_le_write o e
  have hdropped :
      (Bus.Publication.ofValue Subject.outcome (o.report (.error e))).fits limit = false := by
    apply decide_eq_false
    show ¬ (Json.write (o.report (.error e))).length ≤ limit
    omega
  rw [delivered_eq, hpublished, List.filter_cons_of_neg (by simp [hdropped]), List.filter_nil]

/-- **What the worker answers for.** However orders and questions come together, and whatever the
sender answers: each order that can be read is reported once, in the order of arrival, and each
question with a subject for its answer is answered once; the sender is asked once for each order
that can be read and for each such question that can be read. Nothing else is published or asked
for, and no message changes what another one leads to. Of all that, the bus drops what is too long
for it. -/
theorem answers_for_each (limit : ℕ) {orders questions messages : List (Sender × Bus.Message)}
    (horders : ∀ m ∈ orders, Subject.isOutbound m.2.subject = true)
    (hquestions : ∀ m ∈ questions, m.2.subject = Subject.carrierLookup)
    (hmessages : Interleaving orders questions messages) :
    (List.Forall₂ IsOutcome (orders.filterMap order?) (published orders) ∧
      List.Forall₂ IsReply (questions.filterMap question?) (published questions) ∧
      Interleaving (published orders) (published questions) (published messages)) ∧
    (List.Forall₂ IsSend (orders.filterMap order?) (calls orders) ∧
      calls questions = questions.filterMap lookup? ∧
      Interleaving (calls orders) (calls questions) (calls messages)) ∧
    delivered limit messages = (published messages).filter (fun p => p.fits limit) ∧
    ∀ before m after, HasOwnPart limit before m after := by
  refine ⟨⟨?outcomes, ?replies, ?published⟩, ⟨?sends, ?lookups, ?calls⟩,
    delivered_eq limit messages, hasOwnPart limit⟩
  case outcomes =>
    rw [published_eq]
    exact forall₂_flatMap fun m hm => (handle_order (horders m hm)).1
  case replies =>
    rw [published_eq]
    exact forall₂_flatMap fun m hm => (handle_question (hquestions m hm)).1
  case published =>
    simp only [published_eq]
    exact hmessages.flatMap _
  case sends =>
    rw [calls_eq]
    exact forall₂_flatMap fun m hm => (handle_order (horders m hm)).2
  case lookups =>
    rw [calls_eq]
    have heach := forall₂_flatMap fun m hm => (handle_question (hquestions m hm)).2
    rw [List.forall₂_eq_eq_eq] at heach
    exact heach.symm
  case calls =>
    simp only [calls_eq]
    exact hmessages.flatMap _

/-! ## An order and a question -/

/-- A refusal that is told at length. -/
def wordyRefusal : DispatchError :=
  .provider 422 ⟨[⟨"40300", "Blocked", String.ofList (List.replicate 4096 'x')⟩]⟩

/-- A provider that refuses every send, at length, and knows one carrier. -/
def wordySender : Sender where
  send _ _ _ := .settled (.error wordyRefusal)
  lookupCarrier _ := .settled (.ok ⟨"T-Mobile", "mobile"⟩)
  unread _ := "expected value at line 1 column 1"

/-- An order for a test. -/
def testOrder : SendOrder := ⟨"+15550000001", .sms, .test, some "r1"⟩

/-- The message with the order. -/
def orderMessage : Sender × Bus.Message :=
  (wordySender, ⟨"telnyx.out.sms.15550000001", none, Json.write testOrder⟩)

/-- A question. -/
def testQuery : CarrierQuery := ⟨"+15550000001"⟩

/-- The message with the question, and a subject for the answer. -/
def questionMessage : Sender × Bus.Message :=
  (wordySender, ⟨Subject.carrierLookup, some "_INBOX.1", Json.write testQuery⟩)

theorem isOutbound_orderMessage : Subject.isOutbound orderMessage.2.subject = true := by decide

theorem order?_orderMessage : order? orderMessage = some (wordySender, testOrder) := by
  have hread : Json.read SendOrder (Json.write testOrder) = some testOrder :=
    Json.read_write (by decide) testOrder
  show (Json.read SendOrder (Json.write testOrder)).map _ = _
  rw [hread, Option.map_some]
  rfl

theorem lookup?_questionMessage : lookup? questionMessage = some (.lookup "+15550000001") := by
  have hread : Json.read CarrierQuery (Json.write testQuery) = some testQuery :=
    Json.read_write (by decide) testQuery
  show (Json.read CarrierQuery (Json.write testQuery)).map _ = _
  rw [hread, Option.map_some]
  rfl

/-- A question in front of an order: the order is reported, and the sender is asked for both. -/
theorem answers_for_each_testOrder :
    Interleaving [orderMessage] [questionMessage] [questionMessage, orderMessage] ∧
      List.Forall₂ IsOutcome [(wordySender, testOrder)] (published [orderMessage]) ∧
      List.Forall₂ IsSend [(wordySender, testOrder)] (calls [orderMessage]) ∧
      calls [questionMessage] = [.lookup "+15550000001"] ∧
      Interleaving (published [orderMessage]) (published [questionMessage])
        (published [questionMessage, orderMessage]) := by
  have hrow : Interleaving [orderMessage] [questionMessage] [questionMessage, orderMessage] :=
    .right (.left .nil)
  have horder : [orderMessage].filterMap order? = [(wordySender, testOrder)] := by
    rw [List.filterMap_cons_some order?_orderMessage, List.filterMap_nil]
  have hlookup : [questionMessage].filterMap lookup? = [.lookup "+15550000001"] := by
    rw [List.filterMap_cons_some lookup?_questionMessage, List.filterMap_nil]
  obtain ⟨⟨houtcomes, -, hpublished⟩, ⟨hsends, hlookups, -⟩, -⟩ :=
    answers_for_each 4096 (List.forall_mem_singleton.2 isOutbound_orderMessage)
      (List.forall_mem_singleton.2 rfl) hrow
  rw [horder] at houtcomes hsends
  rw [hlookup] at hlookups
  exact ⟨hrow, houtcomes, hsends, hlookups, hpublished⟩

/-- **A report that is too long does not get through.** The order can be read, and nothing that the
bus takes comes of it. -/
theorem long_report_dropped :
    Subject.isOutbound orderMessage.2.subject = true ∧ orderMessage.2.payload.length ≤ 4096 ∧
      order? orderMessage = some (wordySender, testOrder) ∧ delivered 4096 [orderMessage] = [] := by
  have hlength : (String.ofList (List.replicate 4096 'x')).length = 4096 := by
    rw [String.length_ofList, List.length_replicate]
  have hlong := lt_length_message 422 "40300" "Blocked" (String.ofList (List.replicate 4096 'x'))
  rw [hlength] at hlong
  refine ⟨isOutbound_orderMessage, by decide +kernel, order?_orderMessage, ?_⟩
  exact delivered_of_long_failure isOutbound_orderMessage none rfl hlong

end Worker
end AlertLine
