import AlertLine.Proofs.Provider.Operations

/-!
# Operations are counted as they went

An answer is counted as what it is read as (`HttpAnswer.name_read`). What an operation makes of it
can fail in one way only, where a call is taken on without an id, and that failure is counted as a
success (`Operation.name_read_iff`). Every other operation is counted once, under its kind and as it
went, and each answer is sampled under its status (`Provider.counted_as_it_went`).
-/

namespace AlertLine
namespace Provider

/-- The label of a result: the kind of the failure, if it is one. -/
def resultLabel {α : Type} : Except DispatchError α → String
  | .ok _ => "ok"
  | .error e => e.kindName

end Provider

/-! ## Answers -/

namespace HttpAnswer

open Provider

variable {α β : Type} [Reads β] {answer : HttpAnswer} {unread : Bytes → String}

/-- An answer is counted as what it is read as. -/
theorem name_read :
    (answer.read unread (α := β)).1.name = resultLabel (answer.read unread (α := β)).2 := by
  cases answer with
  | nothing cause => rfl
  | brokenOff status cause =>
    rw [read]
    split_ifs <;> rfl
  | whole status body =>
    rw [read]
    split_ifs
    · cases Json.read β body <;> rfl
    · rfl

/-- What is read off an answer stands in the body of a success. -/
theorem exists_of_read {b : β} (h : (answer.read unread (α := β)).2 = .ok b) :
    ∃ status body, answer = .whole status body ∧ status.isSuccess = true ∧
      Json.read β body = some b := by
  cases answer with
  | nothing cause => cases h
  | brokenOff status cause =>
    rw [read] at h
    split_ifs at h
  | whole status body =>
    rw [read] at h
    split_ifs at h with hsuccess
    cases hread : Json.read β body with
    | none =>
      rw [hread] at h
      cases h
    | some c =>
      rw [hread] at h
      cases h
      exact ⟨status, body, rfl, hsuccess, hread⟩

end HttpAnswer

/-! ## Operations -/

/-- An answer to a call takes it on without an id. -/
def Operation.LacksId {α : Type} (op : Operation α) (answer : HttpAnswer) : Prop :=
  op.kind = .voice ∧ ∃ status body envelope, answer = .whole status body ∧
    status.isSuccess = true ∧ Json.read (Envelope CallAnswer) body = some envelope ∧
    envelope.data.callId? = none

namespace HttpAnswer

open Provider

variable {α β : Type} [Reads β] {answer : HttpAnswer} {unread : Bytes → String}
  {f : β → Except DispatchError α}

/-- What is made of an answer is counted as it went, if nothing fails any more. -/
theorem name_readThen
    (h : ∀ b, (answer.read unread (α := β)).2 = .ok b → ∃ a, f b = .ok a) :
    (answer.readThen unread f).1.name = resultLabel (answer.readThen unread f).2 := by
  rw [readThen, name_read (β := β)]
  cases hread : (answer.read unread (α := β)).2 with
  | error e => rfl
  | ok b =>
    obtain ⟨a, ha⟩ := h b hread
    show "ok" = resultLabel (f b)
    rw [ha]
    rfl

theorem readThen_of_read {status : HttpStatus} {body : Bytes} {b : β}
    (hsuccess : status.isSuccess = true) (hread : Json.read β body = some b) :
    (whole status body).readThen unread f = (.ok, f b) := by
  rw [readThen, read, if_pos hsuccess, hread]
  rfl

end HttpAnswer

namespace Operation

open Provider

variable {α : Type} {s : Settings} {op : Operation α} {answer : HttpAnswer}
  {unread : Bytes → String}

/-- A call that is taken on without an id is counted as a success and fails. -/
theorem read_of_lacksId (h : op.LacksId answer) :
    op.read s unread answer = (.ok, .error (.decode .noCallId)) := by
  obtain ⟨hkind, status, body, envelope, rfl, hsuccess, hread, hid⟩ := h
  have hcall : callIdOf envelope = .error (.decode .noCallId) := by rw [callIdOf, hid]
  cases op with
  | send destination channel n =>
    cases channel with
    | sms => cases hkind
    | voice =>
      refine (HttpAnswer.readThen_of_read hsuccess hread).trans ?_
      rw [hcall]
      rfl
  | sendText destination text => cases hkind
  | makeCall destination callback =>
    refine (HttpAnswer.readThen_of_read hsuccess hread).trans ?_
    rw [hcall]
  | lookupCarrier number => cases hkind

/-- An answer to a call that does not lack the id gives one. -/
theorem exists_callIdOf (hkind : op.kind = .voice) (h : ¬ op.LacksId answer)
    {envelope : Envelope CallAnswer}
    (hread : (answer.read unread (α := Envelope CallAnswer)).2 = .ok envelope) :
    ∃ id, callIdOf envelope = .ok id := by
  obtain ⟨status, body, rfl, hsuccess, hbody⟩ := HttpAnswer.exists_of_read hread
  rw [callIdOf]
  cases hid : envelope.data.callId? with
  | some id => exact ⟨id, rfl⟩
  | none => exact absurd ⟨hkind, status, body, envelope, rfl, hsuccess, hbody, hid⟩ h

theorem name_read_of_not_lacksId (h : ¬ op.LacksId answer) :
    (op.read s unread answer).1.name = resultLabel (op.read s unread answer).2 := by
  cases op with
  | send destination channel n =>
    cases channel with
    | sms => exact HttpAnswer.name_readThen fun envelope _ => ⟨_, rfl⟩
    | voice =>
      refine HttpAnswer.name_readThen fun envelope hread => ?_
      obtain ⟨id, hid⟩ := exists_callIdOf rfl h hread
      exact ⟨⟨id, .sending, destination⟩, by rw [hid]; rfl⟩
  | sendText destination text => exact HttpAnswer.name_readThen fun envelope _ => ⟨_, rfl⟩
  | makeCall destination callback =>
    exact HttpAnswer.name_readThen fun envelope hread => exists_callIdOf rfl h hread
  | lookupCarrier number => exact HttpAnswer.name_readThen fun envelope _ => ⟨_, rfl⟩

/-- **When an answer is counted as the operation went**: unless it lacks the id of a call. -/
theorem name_read_iff :
    (op.read s unread answer).1.name = resultLabel (op.read s unread answer).2 ↔
      ¬ op.LacksId answer := by
  refine ⟨fun hname hlacks => ?_, name_read_of_not_lacksId⟩
  rw [read_of_lacksId hlacks] at hname
  have hdiffer : "ok" ≠ "decode" := by decide
  exact hdiffer hname

end Operation

namespace Provider

variable {α : Type} {p : Provider} {s : Settings}

/-- **Operations are counted as they went.** Unless sends are only pretended, an operation that
everything is set up for makes its request if that can be made, and is counted once, under its kind.
An answer that comes is sampled once, under its status, and nothing else is. The outcome that is
counted is that of the operation exactly if the answer does not lack the id of a call; one that does
is counted as a success, and the operation fails. -/
theorem counted_as_it_went (hmock : s.isMock = false) (op : Operation α) {r : HttpRequest}
    (hready : op.prepare s = .ok r) :
    (p.perform s op).requests = (if r.isSendable then [r] else []) ∧
    ∃ outcome, (p.perform s op).metrics =
        ((p.perform s op).requests.filterMap fun r => (p.answer r).status?).map
          (Metric.answered op.kind) ++ [.requested op.kind outcome] ∧
      (outcome.name = resultLabel (p.perform s op).result ↔
        ∀ r ∈ (p.perform s op).requests, ¬ op.LacksId (p.answer r)) ∧
      ((∃ r ∈ (p.perform s op).requests, op.LacksId (p.answer r)) →
        outcome = .ok ∧ (p.perform s op).result = .error (.decode .noCallId)) := by
  rw [perform_eq hmock, hready, carryOut, attempt]
  split_ifs
  · refine ⟨rfl, (op.read s (p.unread op.kind) (p.answer r)).1, ?_, ?_, ?_⟩
    · cases hstatus : (p.answer r).status? <;> simp [hstatus]
    · simp only [List.mem_singleton, forall_eq]
      exact Operation.name_read_iff
    · rintro ⟨_, hr, hlacks⟩
      cases List.mem_singleton.1 hr
      rw [Operation.read_of_lacksId hlacks]
      exact ⟨rfl, rfl⟩
  · refine ⟨rfl, .transport, rfl, iff_of_true rfl ?_, ?_⟩
    · intro r hr
      cases hr
    · rintro ⟨r, hr, -⟩
      cases hr

/-- Settings with which calls can be made. -/
def callLine : Settings := { textLine with connectionId := "conn-1" }

/-- What a call is answered with that is taken on under an id. -/
def takenOn : Bytes := Utf8.encode "\x7b\"data\":\x7b\"sid\":\"CA42\"\x7d\x7d"

/-- What a call is answered with that is taken on without an id. -/
def takenOnIdless : Bytes := Utf8.encode "\x7b\"data\":\x7b\x7d\x7d"

/-- A provider that answers every request with one document. -/
def answering (document : Bytes) : Provider := .replying fun _ => .whole 200 document

/-- A call. -/
def someCall : Operation String := .makeCall "+15550000001" "https://hook.test/telnyx/voice"

/-- A call that is taken on under an id is sampled and counted as a success, which it is. -/
theorem counted_as_it_went_someCall :
    ∃ outcome, ((answering takenOn).perform callLine someCall).metrics =
        [.answered .voice 200, .requested .voice outcome] ∧
      outcome.name = resultLabel ((answering takenOn).perform callLine someCall).result := by
  have hread : (Json.read (Envelope CallAnswer) takenOn).map Envelope.data =
      some ⟨some "CA42", none⟩ := by decide +kernel
  obtain ⟨hrequests, outcome, hmetrics, hname, -⟩ :=
    counted_as_it_went (p := answering takenOn) (s := callLine) (by decide) someCall rfl
  rw [if_pos (by decide +kernel)] at hrequests
  refine ⟨outcome, ?_, hname.2 ?_⟩
  · rw [hmetrics, hrequests]
    rfl
  · rintro r - ⟨-, status, body, envelope, hanswer, -, hbody, hid⟩
    cases hanswer
    rw [hbody] at hread
    have hdata : envelope.data = ⟨some "CA42", none⟩ := Option.some.inj hread
    rw [hdata] at hid
    cases hid

/-- A call that is taken on without an id fails, and is counted as a success. -/
theorem idless_call_counted :
    callLine.isMock = false ∧
      ((answering takenOnIdless).perform callLine someCall).result = .error (.decode .noCallId) ∧
      (DispatchError.decode .noCallId).kindName = "decode" ∧
      ((answering takenOnIdless).perform callLine someCall).metrics =
        [.answered .voice 200, .requested .voice .ok] := by
  refine ⟨?_, ?_, rfl, ?_⟩ <;> decide +kernel

end Provider
end AlertLine
