import AlertLine.Proofs.Attempt
import AlertLine.Provider.Sender

/-!
# What a send does

An exchange with the provider is refused for want of a secret, or cannot be made, or is made once
(`Provider.exchange_cases`). Nothing but requests and their answers is counted for it
(`Provider.isRequest_of_mem_sendText`). No text goes out while the provider takes nothing on,
whether it refuses or stays silent (`Provider.isOk_sendText`).
-/

namespace AlertLine

/-- Whether a metric is about a request to the provider. -/
def Metric.isRequest : Metric → Bool
  | .requested .. | .answered .. => true
  | _ => false

namespace Provider

variable {α : Type} [Reads α] (p : Provider) (s : Settings) (kind : RequestKind)

/-! ## Exchanges -/

/-- What becomes of a request that is made. -/
def sent (r : HttpRequest) : Dispatch α :=
  let answer := p.answer r
  ⟨(answer.read (p.unread kind) (α := α)).2, [r],
    (answer.status?.map fun status => Metric.answered kind status).toList ++
      [.requested kind (answer.read (p.unread kind) (α := α)).1]⟩

/-- What becomes of a request that cannot be made. -/
def unmade (r : HttpRequest) : Dispatch α :=
  ⟨.error (.transport (.unsendable (p.unsent r))), [], [.requested kind .transport]⟩

section Exchange

variable (method : HttpMethod) (path : String) (body : Option Json)

/-- The request of an exchange. -/
def requestOf : HttpRequest := ⟨method, s.apiUrl path, s.apiKey, body⟩

/-- **How an exchange goes.** -/
theorem exchange_cases :
    (Text.isBlankText s.apiKey = true ∧
        p.exchange (α := α) s kind method path body = .refused (.missing "api_key")) ∨
      (Text.isBlankText s.apiKey = false ∧ (requestOf s method path body).isSendable = false ∧
        p.exchange (α := α) s kind method path body =
          p.unmade kind (requestOf s method path body)) ∨
      (Text.isBlankText s.apiKey = false ∧ (requestOf s method path body).isSendable = true ∧
        p.exchange (α := α) s kind method path body =
          p.sent kind (requestOf s method path body)) := by
  rw [exchange, Settings.require]
  cases hblank : Text.isBlankText s.apiKey with
  | true => exact .inl ⟨rfl, rfl⟩
  | false =>
    simp only [Bool.false_eq_true, if_false, true_and]
    cases hsendable : (requestOf s method path body).isSendable with
    | false => exact .inr (.inl ⟨rfl, if_neg (by rw [← requestOf, hsendable]; decide)⟩)
    | true => exact .inr (.inr ⟨rfl, if_pos hsendable⟩)

variable {p s kind method path body}

theorem exchange_of_unsendable (hkey : Text.isBlankText s.apiKey = false)
    (hno : (requestOf s method path body).isSendable = false) :
    p.exchange (α := α) s kind method path body =
      p.unmade kind (requestOf s method path body) := by
  rcases p.exchange_cases (α := α) s kind method path body with
    ⟨hblank, -⟩ | ⟨-, -, heq⟩ | ⟨-, hyes, -⟩
  · rw [hkey] at hblank
    cases hblank
  · exact heq
  · rw [hno] at hyes
    cases hyes

theorem exchange_of_sendable (hkey : Text.isBlankText s.apiKey = false)
    (hyes : (requestOf s method path body).isSendable = true) :
    p.exchange (α := α) s kind method path body = p.sent kind (requestOf s method path body) := by
  rcases p.exchange_cases (α := α) s kind method path body with
    ⟨hblank, -⟩ | ⟨-, hno, -⟩ | ⟨-, -, heq⟩
  · rw [hkey] at hblank
    cases hblank
  · rw [hyes] at hno
    cases hno
  · exact heq

/-! ## What is counted -/

theorem isRequest_of_mem_exchange {m : Metric}
    (hm : m ∈ (p.exchange (α := α) s kind method path body).metrics) : m.isRequest = true := by
  rcases p.exchange_cases (α := α) s kind method path body with
    ⟨-, heq⟩ | ⟨-, -, heq⟩ | ⟨-, -, heq⟩ <;> rw [heq] at hm
  · exact absurd hm List.not_mem_nil
  · rw [List.mem_singleton.1 hm]
    rfl
  · rcases List.mem_append.1 hm with hanswered | hrequested
    · obtain ⟨status, -, rfl⟩ := Option.map_eq_some_iff.1 (Option.mem_toList.1 hanswered)
      rfl
    · rw [List.mem_singleton.1 hrequested]
      rfl

end Exchange

/-- **Sending a text counts nothing but its request.** -/
theorem isRequest_of_mem_sendText {destination text : String} {m : Metric}
    (hm : m ∈ (p.sendText s destination text).metrics) : m.isRequest = true := by
  rw [sendText] at hm
  split at hm
  · exact absurd hm List.not_mem_nil
  · rw [postMessage] at hm
    split at hm
    · exact absurd hm List.not_mem_nil
    · exact isRequest_of_mem_exchange (α := Envelope MessagePayload) hm

end Provider

/-! ## Providers for examples -/

/-- What comes back where nothing does, with the words that tell of it. -/
def HttpRequest.unanswered (r : HttpRequest) : HttpAnswer :=
  .nothing ("error sending request for url (" ++ r.address ++ ")")

/-- What an HTTP client says of a request that cannot be made: the address is named, if it is one.
-/
def HttpRequest.builderError (r : HttpRequest) : String :=
  match Url.parse r.address with
  | .ok u => "builder error for url (" ++ u.text ++ ")"
  | .error _ => "builder error"

/-- A provider that answers so, with the words of an HTTP client, and those of a reader for a body
that is no document. -/
def Provider.replying (answer : HttpRequest → HttpAnswer) : Provider where
  answer := answer
  freshId := "1"
  unsent := HttpRequest.builderError
  unread _ _ := "expected value at line 1 column 1"

/-! ## A provider that takes nothing on -/

/-- Whether an answer is none in time, breaks off, or is a refusal. -/
def HttpAnswer.fails : HttpAnswer → Bool
  | .nothing _ => true
  | .brokenOff .. => true
  | .whole status _ => !status.isSuccess

theorem HttpAnswer.isOk_read {α : Type} [Reads α] {answer : HttpAnswer}
    (h : answer.fails = true) (unread : Bytes → String) :
    (answer.read unread (α := α)).2.isOk = false := by
  cases answer with
  | nothing cause => rfl
  | brokenOff status cause =>
    rw [read]
    split <;> rfl
  | whole status body =>
    have hrefused : ¬status.isSuccess = true := by simpa [fails] using h
    rw [read, if_neg hrefused]
    rfl

namespace Provider

section Failing

variable {p : Provider} (hfails : ∀ r, (p.answer r).fails = true)

include hfails

theorem isOk_exchange {α : Type} [Reads α] (s : Settings) (kind : RequestKind)
    (method : HttpMethod) (path : String) (body : Option Json) :
    (p.exchange (α := α) s kind method path body).result.isOk = false := by
  rcases p.exchange_cases (α := α) s kind method path body with
    ⟨-, heq⟩ | ⟨-, -, heq⟩ | ⟨-, -, heq⟩ <;> rw [heq]
  · rfl
  · rfl
  · exact HttpAnswer.isOk_read (hfails _) _

/-- **No text goes out** to a provider that takes nothing on, unless it is only pretended. -/
theorem isOk_sendText (s : Settings) (destination text : String) :
    (p.sendText s destination text).result.isOk =
      (!Text.isBlankText s.fromNumber && s.isMock) := by
  rw [sendText, Settings.require]
  cases Text.isBlankText s.fromNumber with
  | true => rfl
  | false =>
    rw [if_neg Bool.false_ne_true]
    dsimp only
    rw [postMessage]
    cases s.isMock with
    | true => rfl
    | false =>
      rw [if_neg Bool.false_ne_true]
      exact isOk_bind_eq_false (isOk_exchange hfails (α := Envelope MessagePayload) ..) _

end Failing

end Provider
end AlertLine
