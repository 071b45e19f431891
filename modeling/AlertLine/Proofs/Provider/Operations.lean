import AlertLine.Proofs.Provider.Dispatch
import AlertLine.Proofs.Text.Utf8
import AlertLine.Settings.Environment

/-!
# What is asked of the provider

Notifications, texts, calls and lookups reach the provider by checks of their own, but they go the
same way: an operation is refused for a setting, or its request cannot be made, or it is made once
and its answer is read (`Provider.perform_eq`). So there is one request or a refusal for the
settings, unless the request cannot be made (`Provider.request_or_refusal`).
-/

namespace AlertLine

/-- What can be asked of the provider, by what comes of it. -/
inductive Operation : Type → Type where
  /-- To send a notification. -/
  | send (destination : String) (channel : Channel) (n : Notification) : Operation Receipt
  /-- To send a text. -/
  | sendText (destination text : String) : Operation Receipt
  /-- To start a call that fetches its instructions from an address. -/
  | makeCall (destination callback : String) : Operation String
  /-- To look up the carrier behind a number. -/
  | lookupCarrier (number : String) : Operation Carrier

/-- Carries out an operation. -/
def Provider.perform {α : Type} (p : Provider) (s : Settings) : Operation α → Dispatch α
  | .send destination channel n => p.send s destination channel n
  | .sendText destination text => p.sendText s destination text
  | .makeCall destination callback => p.makeCall s destination callback
  | .lookupCarrier number => p.lookupCarrier s number

/-! ## The request of an operation -/

namespace Settings

variable (s : Settings)

/-- The request that sends a text. -/
def messageRequest (destination text : String) : HttpRequest where
  method := .post
  address := s.apiUrl "messages"
  apiKey := s.apiKey
  body := some (.obj [("from", .ofString s.fromNumber), ("to", .ofString destination),
    ("text", .ofString (cutToSms text))])

/-- The request that starts a call. -/
def callRequest (destination callback : String) : HttpRequest where
  method := .post
  address := s.apiUrl ("texml/calls/" ++ Percent.encodeSegment s.connectionId)
  apiKey := s.apiKey
  body := some (.obj [("to", .ofString destination), ("from", .ofString s.fromNumber),
    ("url", .ofString callback), ("url_method", .ofString "POST")])

/-- The request that looks up a number. -/
def lookupRequest (number : String) : HttpRequest where
  method := .get
  address := s.apiUrl ("number_lookup/" ++ Percent.encodeSegment (Text.trim number))
  apiKey := s.apiKey
  body := none

/-- The requests that are made for one that is ready: none without a secret, and none if it cannot
be made. -/
def made (r : HttpRequest) : List HttpRequest :=
  if Text.isBlankText s.apiKey then [] else [r].filter HttpRequest.isSendable

variable {s}

theorem mem_made {r : HttpRequest} (hkey : Text.isBlankText s.apiKey = false)
    (hsendable : r.isSendable = true) : r ∈ s.made r := by
  rw [made, hkey, if_neg Bool.false_ne_true, List.mem_filter]
  exact ⟨List.mem_cons_self, hsendable⟩

end Settings

namespace Operation

/-- The kind of request that an operation makes. -/
def kind {α : Type} : Operation α → RequestKind
  | .send _ .sms _ => .sms
  | .send _ .voice _ => .voice
  | .sendText .. => .sms
  | .makeCall .. => .voice
  | .lookupCarrier _ => .lookup

/-- The request that an operation makes, unless something is not set up for it. -/
def prepare {α : Type} (s : Settings) : Operation α → Except SetupFault HttpRequest
  | .send destination .sms n => do
    let _ ← Settings.require "from_number" s.fromNumber
    let _ ← Settings.require "api_key" s.apiKey
    .ok (s.messageRequest destination n.smsText)
  | .send destination .voice n => do
    let _ ← Settings.require "from_number" s.fromNumber
    let callback ← s.callbackUrl n
    let _ ← Settings.require "connection_id" s.connectionId
    let _ ← Settings.require "api_key" s.apiKey
    .ok (s.callRequest destination callback)
  | .sendText destination text => do
    let _ ← Settings.require "from_number" s.fromNumber
    let _ ← Settings.require "api_key" s.apiKey
    .ok (s.messageRequest destination text)
  | .makeCall destination callback => do
    let _ ← Settings.require "from_number" s.fromNumber
    let _ ← Settings.require "connection_id" s.connectionId
    let _ ← Settings.require "api_key" s.apiKey
    .ok (s.callRequest destination callback)
  | .lookupCarrier number =>
    if Text.isBlankText number then .error .noNumber
    else do
      let _ ← Settings.require "api_key" s.apiKey
      .ok (s.lookupRequest number)

end Operation

/-! ## The answer to an operation -/

/-- How an answer is counted, and what comes of what it says. -/
def HttpAnswer.readThen {α β : Type} [Reads β] (answer : HttpAnswer) (unread : Bytes → String)
    (f : β → Except DispatchError α) : RequestOutcome × Except DispatchError α :=
  ((answer.read unread (α := β)).1, (answer.read unread (α := β)).2.bind f)

theorem HttpAnswer.readThen_bind {α β γ : Type} [Reads γ] (answer : HttpAnswer)
    (unread : Bytes → String) (f : γ → Except DispatchError β) (g : β → Except DispatchError α) :
    ((answer.readThen unread f).1, (answer.readThen unread f).2.bind g) =
      answer.readThen unread fun c => (f c).bind g := by
  rw [readThen, readThen]
  cases (answer.read unread (α := γ)).2 <;> rfl

/-- The id that the answer to a call gives. -/
def callIdOf (answer : Envelope CallAnswer) : Except DispatchError String :=
  match answer.data.callId? with
  | some id => .ok id
  | none => .error (.decode .noCallId)

/-- How the answer to an operation is counted, and what comes of the operation; `unread` is what its
reader says of a body that is not the document that is expected. -/
def Operation.read {α : Type} (s : Settings) (unread : Bytes → String) :
    Operation α → HttpAnswer → RequestOutcome × Except DispatchError α
  | .send _ .sms _, answer | .sendText .., answer =>
    answer.readThen unread fun envelope : Envelope MessagePayload =>
      .ok (Provider.messageReceipt s.fromNumber envelope.data)
  | .send destination .voice _, answer =>
    answer.readThen unread fun envelope => (callIdOf envelope).bind fun id =>
      .ok ⟨id, .sending, destination⟩
  | .makeCall .., answer => answer.readThen unread callIdOf
  | .lookupCarrier _, answer =>
    answer.readThen unread fun envelope : Envelope Provider.NumberAnswer =>
      .ok envelope.data.carrier

namespace Provider

variable {α : Type} (p : Provider) (s : Settings)

/-- A request that is made if it can be. -/
def attempt (kind : RequestKind) (r : HttpRequest)
    (read : HttpAnswer → RequestOutcome × Except DispatchError α) : Dispatch α :=
  if r.isSendable then
    ⟨(read (p.answer r)).2, [r],
      ((p.answer r).status?.map fun status => Metric.answered kind status).toList ++
        [.requested kind (read (p.answer r)).1]⟩
  else p.unmade kind r

/-- What comes of an operation whose request is known. -/
def carryOut (op : Operation α) : Except SetupFault HttpRequest → Dispatch α
  | .error fault => .refused fault
  | .ok r => p.attempt op.kind r (op.read s (p.unread op.kind))

theorem exchange_andThen {β : Type} [Reads β] (kind : RequestKind) (method : HttpMethod)
    (path : String) (body : Option Json) (f : β → Except DispatchError α) :
    (p.exchange s kind method path body).andThen f =
      match Settings.require "api_key" s.apiKey with
      | .error fault => .refused fault
      | .ok _ => p.attempt kind (requestOf s method path body) fun answer =>
        answer.readThen (p.unread kind) f := by
  rw [Settings.require]
  rcases p.exchange_cases (α := β) s kind method path body with
    ⟨hblank, heq⟩ | ⟨hkey, hno, heq⟩ | ⟨hkey, hyes, heq⟩
  · rw [heq, hblank]
    rfl
  · rw [heq, hkey, attempt, hno]
    rfl
  · rw [heq, hkey, attempt, hyes]
    rfl

variable {p s}

/-- What comes of a request is looked at further with its answer. -/
theorem attempt_andThen {β : Type} {kind : RequestKind} {r : HttpRequest}
    {read : HttpAnswer → RequestOutcome × Except DispatchError β} {f : β → Except DispatchError α} :
    (p.attempt kind r read).andThen f =
      p.attempt kind r fun answer => ((read answer).1, (read answer).2.bind f) := by
  rw [attempt, attempt]
  split_ifs <;> rfl

/-- What is required is handed on. -/
theorem eq_of_require {setting value given : String}
    (h : Settings.require setting value = .ok given) : given = value := by
  rw [Settings.require] at h
  split_ifs at h
  cases h
  rfl

section Posts

variable (hmock : s.isMock = false)

include hmock

theorem postMessage_eq (destination text : String) :
    p.postMessage s s.fromNumber destination text =
      match Settings.require "api_key" s.apiKey with
      | .error fault => .refused fault
      | .ok _ => p.attempt .sms (s.messageRequest destination text) fun answer =>
        answer.readThen (p.unread .sms) fun envelope : Envelope MessagePayload =>
          .ok (messageReceipt s.fromNumber envelope.data) := by
  rw [postMessage, hmock, if_neg Bool.false_ne_true]
  exact exchange_andThen ..

theorem postCall_eq (destination callback : String) :
    p.postCall s s.fromNumber destination callback =
      match Settings.require "connection_id" s.connectionId with
      | .error fault => .refused fault
      | .ok _ =>
        match Settings.require "api_key" s.apiKey with
        | .error fault => .refused fault
        | .ok _ => p.attempt .voice (s.callRequest destination callback) fun answer =>
          answer.readThen (p.unread .voice) callIdOf := by
  rw [postCall]
  cases hconnection : Settings.require "connection_id" s.connectionId with
  | error fault => rfl
  | ok connectionId =>
    cases eq_of_require hconnection
    dsimp only
    rw [hmock, if_neg Bool.false_ne_true]
    exact exchange_andThen ..

end Posts

/-- **How an operation goes**: for the request that it makes, or for what stands against it. -/
theorem perform_eq (hmock : s.isMock = false) (op : Operation α) :
    p.perform s op = p.carryOut s op (op.prepare s) := by
  cases op with
  | sendText destination text =>
    rw [perform, sendText, Operation.prepare]
    cases hfrom : Settings.require "from_number" s.fromNumber with
    | error fault => rfl
    | ok origin =>
      cases eq_of_require hfrom
      dsimp only
      rw [postMessage_eq hmock]
      cases Settings.require "api_key" s.apiKey <;> rfl
  | makeCall destination callback =>
    rw [perform, makeCall, Operation.prepare]
    cases hfrom : Settings.require "from_number" s.fromNumber with
    | error fault => rfl
    | ok origin =>
      cases eq_of_require hfrom
      dsimp only
      rw [postCall_eq hmock]
      cases Settings.require "connection_id" s.connectionId with
      | error fault => rfl
      | ok connectionId => cases Settings.require "api_key" s.apiKey <;> rfl
  | lookupCarrier number =>
    rw [perform, lookupCarrier, Operation.prepare, hmock]
    cases hblank : Text.isBlankText number with
    | true => rfl
    | false =>
      rw [if_neg Bool.false_ne_true, if_neg Bool.false_ne_true, if_neg Bool.false_ne_true]
      refine (exchange_andThen ..).trans ?_
      cases Settings.require "api_key" s.apiKey <;> rfl
  | send destination channel n =>
    rw [perform, send, Settings.buildRequest]
    cases hfrom : Settings.require "from_number" s.fromNumber with
    | error fault => cases channel <;> rw [Operation.prepare, hfrom] <;> rfl
    | ok origin =>
      cases eq_of_require hfrom
      cases channel with
      | sms =>
        rw [Operation.prepare, hfrom]
        refine (postMessage_eq hmock ..).trans ?_
        cases Settings.require "api_key" s.apiKey <;> rfl
      | voice =>
        rw [Operation.prepare, hfrom]
        cases hcallback : s.callbackUrl n with
        | error fault => rfl
        | ok callback =>
          show (p.postCall s s.fromNumber destination callback).andThen _ = _
          rw [postCall_eq hmock]
          cases Settings.require "connection_id" s.connectionId with
          | error fault => rfl
          | ok connectionId =>
            cases Settings.require "api_key" s.apiKey with
            | error fault => rfl
            | ok key =>
              refine attempt_andThen.trans (congrArg _ ?_)
              funext answer
              exact answer.readThen_bind ..

/-! ## The requests that are made -/

theorem requests_carryOut (op : Operation α) (r : HttpRequest) :
    (p.carryOut s op (.ok r)).requests = [r].filter HttpRequest.isSendable := by
  rw [carryOut, attempt, List.filter_cons, List.filter_nil]
  split_ifs <;> rfl

theorem requests_lookupCarrier (hmock : s.isMock = false) {number : String}
    (hnumber : Text.isBlankText number = false) :
    (p.lookupCarrier s number).requests = s.made (s.lookupRequest number) := by
  show (p.perform s (.lookupCarrier number)).requests = _
  rw [perform_eq hmock, Operation.prepare, hnumber, if_neg Bool.false_ne_true, Settings.require,
    Settings.made]
  cases Text.isBlankText s.apiKey with
  | true => rfl
  | false => exact requests_carryOut ..

theorem requests_makeCall (hmock : s.isMock = false) {destination callback : String}
    (hconnection : Text.isBlankText s.connectionId = false) :
    (p.makeCall s destination callback).requests =
      if Text.isBlankText s.fromNumber then []
      else s.made (s.callRequest destination callback) := by
  show (p.perform s (.makeCall destination callback)).requests = _
  rw [perform_eq hmock, Operation.prepare, Settings.require, Settings.require, Settings.require,
    hconnection, Settings.made]
  cases Text.isBlankText s.fromNumber with
  | true => rfl
  | false =>
    cases Text.isBlankText s.apiKey with
    | true => rfl
    | false => exact requests_carryOut ..

/-! ## One request or a refusal -/

/-- Requests can go to an address: it is one of the web, and it can be written as a target. -/
def IsWebAddress (address : String) : Prop :=
  ∃ u, Url.parse address = .ok u ∧ (u.scheme = "http" ∨ u.scheme = "https") ∧
    (Target.parse u.text).isOk = true

/-- A text can stand in a header field. -/
def IsFieldText (text : String) : Prop :=
  ∀ b ∈ Utf8.encode text, HttpRequest.isFieldByte b = true

/-- **Which requests can be made**: those to an address of the web, with a secret that can stand in
a header field. -/
theorem isSendable_iff {r : HttpRequest} :
    r.isSendable = true ↔ IsWebAddress r.address ∧ IsFieldText r.apiKey := by
  have hurl : r.url?.isSome = true ↔ IsWebAddress r.address := by
    simp only [HttpRequest.url?, Option.isSome_filter, Option.any_eq_true, toOption_eq_some,
      Bool.and_eq_true, Bool.or_eq_true, beq_iff_eq, IsWebAddress]
  have hbearer : (Utf8.encode "Bearer ").all HttpRequest.isFieldByte = true := by decide
  have hkey : (Utf8.encode r.authorization).all HttpRequest.isFieldByte = true ↔
      IsFieldText r.apiKey := by
    rw [HttpRequest.authorization, Utf8.encode_append, List.all_append, hbearer, Bool.true_and,
      List.all_eq_true, IsFieldText]
  rw [HttpRequest.isSendable, Bool.and_eq_true, hurl, hkey]

/-- One request was made, or there was a refusal for the settings, which is not worth another try
and is not counted. -/
def OneOrRefused (d : Dispatch α) : Prop :=
  d.requests.length = 1 ∨
    (d.requests = [] ∧ d.metrics = [] ∧
      ∃ e, d.result = .error e ∧ e.kindName = "config" ∧ e.isRetryable = false)

/-- **One request, or a refusal.** Unless sends are only pretended, an operation that something is
not set up for is refused, and one whose request can be made makes that request and no other. For a
request that cannot be made there is none, but the failure and the count of one that got no answer.
So there is one request or a refusal for the settings exactly if the address of the request is one
of the web and the secret can stand in a header field. -/
theorem request_or_refusal (hmock : s.isMock = false) (op : Operation α) :
    (∀ fault, op.prepare s = .error fault → p.perform s op = .refused fault) ∧
    (∀ r, op.prepare s = .ok r → IsWebAddress r.address ∧ IsFieldText r.apiKey →
      (p.perform s op).requests = [r]) ∧
    (∀ r, op.prepare s = .ok r → ¬ (IsWebAddress r.address ∧ IsFieldText r.apiKey) →
      (p.perform s op).requests = [] ∧
        (p.perform s op).result = .error (.transport (.unsendable (p.unsent r))) ∧
        (p.perform s op).metrics = [.requested op.kind .transport]) ∧
    (OneOrRefused (p.perform s op) ↔
      ∀ r, op.prepare s = .ok r → IsWebAddress r.address ∧ IsFieldText r.apiKey) := by
  rw [perform_eq hmock]
  cases op.prepare s with
  | error fault =>
    refine ⟨?_, nofun, nofun, iff_of_true (.inr ⟨rfl, rfl, _, rfl, rfl, rfl⟩) nofun⟩
    rintro _ ⟨⟩
    rfl
  | ok r =>
    have hone (hr : IsWebAddress r.address ∧ IsFieldText r.apiKey) :
        (p.carryOut s op (.ok r)).requests = [r] := by
      rw [carryOut, attempt, if_pos (isSendable_iff.2 hr)]
    have hnone (hr : ¬ (IsWebAddress r.address ∧ IsFieldText r.apiKey)) :
        p.carryOut s op (.ok r) = p.unmade op.kind r := by
      rw [carryOut, attempt, if_neg (isSendable_iff.not.2 hr)]
    refine ⟨nofun, ?_, ?_, ?_⟩
    · rintro _ ⟨⟩ hr
      exact hone hr
    · rintro _ ⟨⟩ hr
      rw [hnone hr]
      exact ⟨rfl, rfl, rfl⟩
    · constructor
      · rintro hcourse _ ⟨⟩
        by_contra hr
        rw [hnone hr] at hcourse
        obtain hlength | ⟨-, hmetrics, -⟩ := hcourse
        · exact absurd hlength Nat.zero_ne_one
        · cases hmetrics
      · intro hr
        rw [OneOrRefused, hone (hr r rfl)]
        exact .inl rfl

/-- Settings with which texts can be sent. -/
def textLine : Settings :=
  { Settings.standard with apiKey := "KEY", fromNumber := "+15550009999" }

/-- A provider that never answers. -/
def silent : Provider := .replying HttpRequest.unanswered

/-- A text makes its request, although nobody answers it. -/
theorem request_or_refusal_textLine :
    textLine.isMock = false ∧
      (silent.perform textLine (.sendText "+15550000001" "hello")).requests =
        [textLine.messageRequest "+15550000001" "hello"] := by
  have hmock : textLine.isMock = false := by decide
  refine ⟨hmock, ?_⟩
  obtain ⟨-, hone, -, -⟩ :=
    request_or_refusal (p := silent) hmock (.sendText "+15550000001" "hello")
  exact hone _ rfl (isSendable_iff.1 (by decide +kernel))

/-- Settings whose base address for the provider is no address. -/
def nowhereLine : Settings := { textLine with apiBase := "nowhere" }

/-- Such settings are loaded, and with them a text fails as if nobody had answered it: worth another
try and counted as a request, although none was made. -/
theorem nowhereLine_counted :
    Settings.ofEnvironment
        [("TELNYX_API_BASE", Utf8.encode "nowhere"), ("TELNYX_API_KEY", Utf8.encode "KEY"),
          ("TELNYX_FROM_NUMBER", Utf8.encode "+15550009999")] = .ok nowhereLine ∧
      nowhereLine.isMock = false ∧
      (silent.perform nowhereLine (.sendText "+15550000001" "hello")).requests.length = 0 ∧
      (silent.perform nowhereLine (.sendText "+15550000001" "hello")).result =
        .error (.transport (.unsendable "builder error")) ∧
      (DispatchError.transport (.unsendable "builder error")).isRetryable = true ∧
      (silent.perform nowhereLine (.sendText "+15550000001" "hello")).metrics =
        [.requested .sms .transport] := by
  refine ⟨?_, ?_, ?_, ?_, rfl, ?_⟩ <;> decide +kernel

end Provider
end AlertLine
