import AlertLine.Bus.Worker
import AlertLine.Proofs.Json.Fields
import AlertLine.Proofs.Provider.Outcomes
import AlertLine.Proofs.Provider.Sends

/-!
# Refusals are told in full

The provider refuses with a status that is no success, and with a body. The errors that count are
those that the body lists, or, for every other body, one error that keeps the front of the text
(`ApiErrors.tells_ofBody`). Whatever was asked for comes to that status and those errors, and the
report of the worker names every one of them (`Provider.refusal_told`).
-/

namespace AlertLine

open Json (Gives Says)

/-! ## Errors in a body -/

/-- A document is one error: of code, title and detail it gives texts, and what it does not give is
empty. -/
def ApiError.IsWritten (v : Json) (e : ApiError) : Prop :=
  ∃ code title detail, Gives ["code", "title", "detail"] v [code, title, detail] ∧
    Says "" code e.code ∧ Says "" title e.title ∧ Says "" detail e.detail

/-- A document lists errors: it gives them as an array. -/
def ApiErrors.AreListed (v : Json) (errors : List ApiError) : Prop :=
  ∃ items, Gives ["errors"] v [some (.array items)] ∧
    List.Forall₂ ApiError.IsWritten items errors

/-- What the text of a body tells: the errors that it lists, if it lists any, or else one error with
the first 512 characters of the text. -/
inductive ApiErrors.Tells (text : String) : List ApiError → Prop
  /-- Errors are listed. -/
  | listed {v : Json} {e : ApiError} {errors : List ApiError}
      (hparse : Json.parseText text = some v) (hlisted : AreListed v (e :: errors)) :
    Tells text (e :: errors)
  /-- None is. -/
  | unlisted
      (hnone : ∀ v e errors, Json.parseText text = some v → ¬ AreListed v (e :: errors)) :
    Tells text [⟨"unknown", "", String.ofList (text.toList.take 512)⟩]

theorem ApiError.decode_iff {room : ℕ} {v : Json} {e : ApiError} :
    (Reads.decode (room + 1) v : Option ApiError) = some e ↔ IsWritten v e := by
  have hdecode : (Reads.decode (room + 1) v : Option ApiError) =
      (Json.record? ["code", "title", "detail"] (room + 1) v).bind fun r =>
        (r.defaulted 0 "").bind fun code => (r.defaulted 1 "").bind fun title =>
          (r.defaulted 2 "").bind fun detail => some ⟨code, title, detail⟩ := rfl
  obtain ⟨code, title, detail⟩ := e
  simp only [hdecode, Option.bind_eq_some_iff, Option.some_inj, Json.record?_eq_some_iff,
    Json.defaulted_text_iff, ApiError.mk.injEq]
  constructor
  · rintro ⟨r, ⟨hgives, -, -⟩, _, hcode, _, htitle, _, hdetail, rfl, rfl, rfl⟩
    obtain ⟨positional, inside, fields⟩ := r
    obtain ⟨code?, title?, detail?, rfl⟩ := List.length_eq_three.1 hgives.length_eq
    exact ⟨code?, title?, detail?, hgives, hcode, htitle, hdetail⟩
  · rintro ⟨code?, title?, detail?, hgives, hcode, htitle, hdetail⟩
    exact ⟨⟨_, room, _⟩, ⟨hgives, rfl, rfl⟩, _, hcode, _, htitle, _, hdetail, rfl, rfl, rfl⟩

theorem ApiErrors.decode_iff (room : ℕ) {v : Json} {e : ApiError} {errors : List ApiError} :
    (Reads.decode (room + 3) v : Option ApiErrors) = some ⟨e :: errors⟩ ↔
      AreListed v (e :: errors) := by
  have hdecode : (Reads.decode (room + 3) v : Option ApiErrors) =
      (Json.record? ["errors"] (room + 3) v).bind fun r =>
        (r.defaulted 0 []).bind fun errors => some ⟨errors⟩ := rfl
  -- the nesting that is allowed inside does not matter to an error, which holds texts only
  have hlist {items : List Json} : List.Forall₂ (fun item a =>
      (Reads.decode (room + 1) item : Option ApiError) = some a) items (e :: errors) ↔
        List.Forall₂ ApiError.IsWritten items (e :: errors) := by
    simp only [ApiError.decode_iff]
  simp only [hdecode, Option.bind_eq_some_iff, Option.some_inj, Json.record?_eq_some_iff,
    ApiErrors.mk.injEq]
  constructor
  · rintro ⟨r, ⟨hgives, hroom, -⟩, _, herrors, rfl⟩
    obtain ⟨positional, inside, fields⟩ := r
    obtain ⟨field?, rfl⟩ := List.length_eq_one_iff.1 hgives.length_eq
    cases hroom
    cases field? with
    | none => cases herrors
    | some v =>
      obtain ⟨items, rfl, hitems⟩ := Json.decode_list_iff.1 herrors
      exact ⟨items, hgives, hlist.1 hitems⟩
  · rintro ⟨items, hgives, hitems⟩
    exact ⟨⟨_, room + 2, _⟩, ⟨hgives, rfl, rfl⟩, _,
      Json.decode_list_iff.2 ⟨items, rfl, hlist.2 hitems⟩, rfl⟩

/-- **The errors that count are those that the body tells.** -/
theorem ApiErrors.tells_ofBody (text : String) : Tells text (ofBody text).errors := by
  have hlisted {v : Json} {e : ApiError} {errors : List ApiError} :
      Reads.decode Json.maxDepth v = some (⟨e :: errors⟩ : ApiErrors) ↔
        AreListed v (e :: errors) := decode_iff 124
  rw [ofBody]
  split
  case _ e errors hbody =>
    obtain ⟨v, hparse, hdecode⟩ := Option.bind_eq_some_iff.1 hbody
    exact .listed hparse (hlisted.1 hdecode)
  case _ hnone =>
    refine .unlisted fun v e errors hparse herrors => hnone e errors ?_
    rw [hparse]
    exact hlisted.2 herrors

/-! ## Answers that refuse -/

/-- An answer refuses with a status that is no success and with a text. A body that breaks off has
no text. -/
inductive HttpAnswer.Refuses (status : HttpStatus) : String → HttpAnswer → Prop
  /-- The body came in whole. -/
  | whole (hstatus : ¬ (200 ≤ status ∧ status ≤ 299)) (body : Bytes) :
    Refuses status (Utf8.decodeLossy body) (.whole status body)
  /-- The body broke off. -/
  | brokenOff (hstatus : ¬ (200 ≤ status ∧ status ≤ 299)) (cause : String) :
    Refuses status "" (.brokenOff status cause)

theorem HttpStatus.isSuccess_iff {status : HttpStatus} :
    status.isSuccess = true ↔ 200 ≤ status ∧ status ≤ 299 := by
  rw [isSuccess, Bool.and_eq_true, decide_eq_true_eq, decide_eq_true_eq]
  exact and_congr_right fun _ => Nat.lt_succ_iff

/-- Nothing is made of a refusal but its status and the errors that its body tells. -/
theorem HttpAnswer.Refuses.readThen_eq {α β : Type} [Reads β] {status : HttpStatus} {text : String}
    {answer : HttpAnswer} (h : answer.Refuses status text) (unread : Bytes → String)
    (f : β → Except DispatchError α) :
    (answer.readThen unread f).2 = .error (.provider status (.ofBody text)) := by
  cases h with
  | whole hstatus body =>
    rw [readThen, read, if_neg (HttpStatus.isSuccess_iff.not.2 hstatus)]
    rfl
  | brokenOff hstatus cause =>
    rw [readThen, read, if_neg (HttpStatus.isSuccess_iff.not.2 hstatus)]
    rfl

/-! ## What is reported -/

/-- A failure tells a refusal: it is worth another try if the provider is asked too often or the
fault is its own, and its message names every error in order, by its code and its detail, or by its
title where it has no detail, with the status behind them. -/
structure Failure.TellsRefusal (failure : Failure) (status : HttpStatus) (errors : List ApiError) :
    Prop where
  retryable : failure.retryable = true ↔ status = 429 ∨ (500 ≤ status ∧ status ≤ 599)
  message : failure.message =
    "telnyx: " ++ ", ".intercalate (errors.map fun e =>
      e.code ++ ": " ++ if e.detail = "" then e.title else e.detail) ++
      " (status " ++ status.text ++ ")"

theorem Failure.tellsRefusal (status : HttpStatus) (errors : ApiErrors) :
    (Failure.ofError (.provider status errors)).TellsRefusal status errors.errors := by
  refine ⟨?_, ?_⟩
  · show (status.isServerError || status == HttpStatus.tooManyRequests) = true ↔ _
    rw [Bool.or_eq_true, HttpStatus.isServerError, Bool.and_eq_true, decide_eq_true_eq,
      decide_eq_true_eq, beq_iff_eq, HttpStatus.tooManyRequests, or_comm, Nat.lt_succ_iff]
  · show errors.message ++ " (status " ++ status.text ++ ")" = _
    have hmessage : ApiError.message = fun e : ApiError =>
        e.code ++ ": " ++ if e.detail = "" then e.title else e.detail := by
      funext e
      simp only [ApiError.message, String.isEmpty_iff]
    rw [ApiErrors.message, hmessage]

/-- What is published for a message on the bus is one report of a failure: on the outcome of an
order, or to whoever asked for a carrier. -/
inductive Worker.TellsFailure (m : Bus.Message) (failure : Failure) : List Bus.Publication → Prop
  /-- The report on an order. -/
  | order {o : SendOrder} (hread : Json.read SendOrder m.payload = some o) :
    TellsFailure m failure [.ofValue Subject.outcome
      (⟨o.requestId, o.destination, o.channel, none, some failure⟩ : SendReport)]
  /-- The reply to a question. -/
  | question {replyTo : String} (hreply : m.replyTo = some replyTo) :
    TellsFailure m failure [.ofValue replyTo (⟨none, some failure⟩ : CarrierReply)]

namespace Provider

variable {p : Provider} {s : Settings} {r : HttpRequest} {status : HttpStatus} {text : String}
  {unread : Bytes → String}

section Refused

variable (hrefused : (p.answer r).Refuses status text)

include hrefused

/-- A send that is refused comes to the refusal. -/
theorem result_of_refused {channel : Channel} {d : Dispatch String} (h : Sends p s channel d)
    (hmade : r ∈ d.requests) : d.result = .error (.provider status (.ofBody text)) := by
  cases h.posts with
  | refused fault => cases hmade
  | message origin destination body =>
    rw [Dispatch.byId, Dispatch.andThen, result_postMessage hmade, hrefused.readThen_eq]
    rfl
  | call origin destination callback =>
    rw [result_postCall hmade, hrefused.readThen_eq]

theorem result_lookupCarrier_of_refused {number : String}
    (hmade : r ∈ (p.lookupCarrier s number).requests) :
    (p.lookupCarrier s number).result = .error (.provider status (.ofBody text)) := by
  rw [result_lookupCarrier hmade, hrefused.readThen_eq]

/-- An order whose request is refused can be read, and the report on it is one of the refusal. -/
theorem exists_order_of_refused {payload : Bytes}
    (hmade : r ∈ (Worker.process (p.sender s unread) payload).requests) :
    ∃ o, Json.read SendOrder payload = some o ∧
      (Worker.process (p.sender s unread) payload).value =
        some (o.report (.error (.provider status (.ofBody text)))) := by
  rw [Worker.process] at hmade ⊢
  cases hread : Json.read SendOrder payload with
  | none =>
    rw [hread] at hmade
    cases hmade
  | some o =>
    rw [hread] at hmade
    have hresult := Dispatch.byId_eq_error_iff.1 (result_of_refused hrefused
      (.notification o.destination o.channel o.notification) hmade)
    exact ⟨o, rfl, congrArg (fun result => some (o.report result)) hresult⟩

/-- The reply to a question whose request is refused is one of the refusal. -/
theorem answerCarrierQuery_of_refused {payload : Bytes}
    (hmade : r ∈ (Worker.answerCarrierQuery (p.sender s unread) payload).requests) :
    (Worker.answerCarrierQuery (p.sender s unread) payload).value =
      .ofResult (.error (.provider status (.ofBody text))) := by
  rw [Worker.answerCarrierQuery] at hmade ⊢
  cases hread : Json.read CarrierQuery payload with
  | none =>
    rw [hread] at hmade
    cases hmade
  | some q =>
    rw [hread] at hmade
    exact congrArg CarrierReply.ofResult (result_lookupCarrier_of_refused hrefused hmade)

/-- The worker reports the refusal of whatever it asked for. -/
theorem tellsFailure_of_refused {m : Bus.Message}
    (hmade : r ∈ (Worker.handle (p.sender s unread) m).requests) :
    Worker.TellsFailure m (.ofError (.provider status (.ofBody text)))
      (Worker.handle (p.sender s unread) m).value := by
  rw [Worker.handle] at hmade ⊢
  split_ifs at hmade ⊢
  · obtain ⟨o, hread, hreport⟩ := exists_order_of_refused hrefused hmade
    dsimp only [Work.map]
    rw [hreport]
    exact .order hread
  · cases hreply : m.replyTo with
    | none =>
      rw [hreply] at hmade
      cases hmade
    | some replyTo =>
      rw [hreply] at hmade
      dsimp only [Work.map]
      rw [answerCarrierQuery_of_refused hrefused hmade]
      exact .question hreply
  · cases hmade

end Refused

/-- **Refusals are told in full.** A request that is answered with a status that is no success and
with some text makes a failure of whatever it was made for, a message, a call or a lookup: one with
that status and with the errors that the text tells, of which there is at least one. If the worker
made the request for a message on the bus, it publishes one report of that failure, and the failure
that it reports tells every error. -/
theorem refusal_told (hrefused : (p.answer r).Refuses status text) :
    ApiErrors.Tells text (ApiErrors.ofBody text).errors ∧
    (∀ channel d, Sends p s channel d → r ∈ d.requests →
      d.result = .error (.provider status (.ofBody text))) ∧
    (∀ number, r ∈ (p.lookupCarrier s number).requests →
      (p.lookupCarrier s number).result = .error (.provider status (.ofBody text))) ∧
    ∃ failure : Failure, failure.TellsRefusal status (ApiErrors.ofBody text).errors ∧
      ∀ unread m, r ∈ (Worker.handle (p.sender s unread) m).requests →
        Worker.TellsFailure m failure (Worker.handle (p.sender s unread) m).value :=
  ⟨ApiErrors.tells_ofBody text, fun _ _ => result_of_refused hrefused,
    fun _ => result_lookupCarrier_of_refused hrefused, _, Failure.tellsRefusal status _,
    fun _ _ => tellsFailure_of_refused hrefused⟩

/-- A body that lists two errors, one without a detail and one as an array. -/
def busyBody : Bytes :=
  Utf8.encode ("\x7b\"errors\":[\x7b\"code\":\"10011\",\"title\":\"Busy\",\"meta\":null\x7d," ++
    "[\"40300\",\"Blocked\",\"Später\"]]\x7d")

/-- The errors that the body lists. -/
def busyErrors : ApiErrors := ⟨[⟨"10011", "Busy", ""⟩, ⟨"40300", "Blocked", "Später"⟩]⟩

theorem ofBody_busyBody : ApiErrors.ofBody (Utf8.decodeLossy busyBody) = busyErrors := by
  decide +kernel

/-- A provider that is asked too often. -/
def busy : Provider := .replying fun _ => .whole 429 busyBody

/-- A question for a carrier on the bus. -/
def carrierQuestion : Bus.Message :=
  ⟨Subject.carrierLookup, some "_INBOX.1", Json.write (⟨"+15550000001"⟩ : CarrierQuery)⟩

/-- The sender that the question is handled with. -/
def busySender : Sender := busy.sender callLine fun _ => "expected value at line 1 column 1"

/-- A message and a call that are refused fail with both errors. So does the lookup for a question,
and the reply to it names them, and that another try may go better. -/
theorem refusal_told_carrierQuestion :
    (busy.sendText callLine "+15550000001" "hello").byId.result =
        .error (.provider 429 busyErrors) ∧
      (busy.makeCall callLine "+15550000001" "https://hook.test/telnyx/voice").result =
        .error (.provider 429 busyErrors) ∧
      (busy.lookupCarrier callLine "+15550000001").result = .error (.provider 429 busyErrors) ∧
      (Worker.handle busySender carrierQuestion).value =
        [.ofValue "_INBOX.1" (⟨none, some ⟨"telnyx: 10011: Busy, 40300: Später" ++
          " (status 429 Too Many Requests)", true⟩⟩ : CarrierReply)] := by
  have hrefused (r : HttpRequest) : (busy.answer r).Refuses 429 (Utf8.decodeLossy busyBody) :=
    .whole (by decide) busyBody
  have hmade {α : Type} (op : Operation α) {r : HttpRequest} (hready : op.prepare callLine = .ok r)
      (hsendable : r.isSendable = true) : r ∈ (busy.perform callLine op).requests := by
    rw [perform_eq (by decide), hready, requests_carryOut, List.mem_filter]
    exact ⟨List.mem_singleton_self r, hsendable⟩
  have htext := hmade (.sendText "+15550000001" "hello") rfl (by decide +kernel)
  have hcall := hmade (.makeCall "+15550000001" "https://hook.test/telnyx/voice") rfl
    (by decide +kernel)
  have hlookup := hmade (.lookupCarrier "+15550000001") rfl (by decide +kernel)
  have hread : Json.read CarrierQuery carrierQuestion.payload = some ⟨"+15550000001"⟩ := by
    decide +kernel
  have horder : Json.read SendOrder carrierQuestion.payload = none := by decide +kernel
  have hasked : callLine.lookupRequest "+15550000001" ∈
      (Worker.handle busySender carrierQuestion).requests := by
    have hsubject : carrierQuestion.subject = Subject.carrierLookup := rfl
    rw [Worker.handle, if_neg (by decide), if_pos hsubject]
    show _ ∈ (Worker.answerCarrierQuery busySender carrierQuestion.payload).requests
    rw [Worker.answerCarrierQuery, hread]
    exact hlookup
  refine ⟨?text, ?call, ?lookup, ?question⟩
  case text =>
    obtain ⟨-, hsends, -⟩ := refusal_told (s := callLine) (hrefused (callLine.messageRequest ..))
    rw [← ofBody_busyBody]
    exact hsends _ _ (.text "+15550000001" "hello") htext
  case call =>
    obtain ⟨-, hsends, -⟩ := refusal_told (s := callLine) (hrefused (callLine.callRequest ..))
    rw [← ofBody_busyBody]
    exact hsends _ _ (.call "+15550000001" "https://hook.test/telnyx/voice") hcall
  case lookup =>
    obtain ⟨-, -, hlookups, -⟩ := refusal_told (s := callLine) (hrefused (callLine.lookupRequest _))
    rw [← ofBody_busyBody]
    exact hlookups _ hlookup
  case question =>
    obtain ⟨-, -, -, ⟨message, retryable⟩, htells, hpublished⟩ :=
      refusal_told (s := callLine) (hrefused (callLine.lookupRequest "+15550000001"))
    have hmessage := htells.message
    have hretryable : retryable = true := htells.retryable.2 (.inl rfl)
    rw [ofBody_busyBody] at hmessage
    have hreport := hpublished _ carrierQuestion hasked
    show (Worker.handle (busy.sender callLine _) carrierQuestion).value = _
    generalize (Worker.handle (busy.sender callLine _) carrierQuestion).value = published
      at hreport ⊢
    cases hreport with
    | order hsend =>
      rw [horder] at hsend
      cases hsend
    | question hreply =>
      cases hreply
      rw [hretryable, show message = _ from hmessage]
      rfl

end Provider
end AlertLine
