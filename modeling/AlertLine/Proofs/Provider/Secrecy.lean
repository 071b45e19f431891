import AlertLine.Proofs.Provider.Dispatch

/-!
# Sends keep the secret

Two sends under settings that differ in the secret only, to providers that answer alike to each its
own, are compared step by step (`SentAlike`). An exchange comes to the same result and makes the
same request up to the secret (`Provider.exchange_alike`), and every send is made of exchanges and
of settings that are the same in both (`Provider.send_alike` and its companions). Ids are the same
too, unless they are made up for sends that are only pretended.
-/

namespace AlertLine

/-! ## Two runs -/

/-- The settings with another secret. -/
def Settings.withKey (s : Settings) (key : String) : Settings := { s with apiKey := key }

/-- The request with another secret. -/
def HttpRequest.withKey (r : HttpRequest) (key : String) : HttpRequest := { r with apiKey := key }

/-- A secret that requests can be made with: it is not blank and can stand in a header field. -/
structure IsUsableKey (key : String) : Prop where
  notBlank : Text.isBlankText key = false
  legal : (Utf8.encode ("Bearer " ++ key)).all HttpRequest.isFieldByte = true

/-- What is the same in two results: the failure, or values that are alike. -/
inductive ResultsAlike {α : Type} (R : α → α → Prop) :
    Except DispatchError α → Except DispatchError α → Prop
  /-- Both succeed. -/
  | ok {a a' : α} (h : R a a') : ResultsAlike R (.ok a) (.ok a')
  /-- Both fail, in the same way. -/
  | error (e : DispatchError) : ResultsAlike R (.error e) (.error e)

/-- Two sends that differ in the secret of their requests only; `R` says which values are alike. -/
structure SentAlike {α : Type} (key' : String) (R : α → α → Prop) (d d' : Dispatch α) : Prop where
  result : ResultsAlike R d.result d'.result
  requests : d'.requests = d.requests.map fun r => r.withKey key'
  metrics : d'.metrics = d.metrics

section Sends

variable {α β : Type} {key' : String} {R : α → α → Prop} {S : β → β → Prop}

theorem ResultsAlike.of_eq (result : Except DispatchError α) : ResultsAlike Eq result result := by
  cases result with
  | ok a => exact .ok rfl
  | error e => exact .error e

theorem ResultsAlike.eq {result result' : Except DispatchError α}
    (h : ResultsAlike Eq result result') : result = result' := by
  cases h with
  | ok ha => rw [ha]
  | error e => rfl

theorem sentAlike_settled {result result' : Except DispatchError α}
    (h : ResultsAlike R result result') :
    SentAlike key' R (.settled result) (.settled result') := ⟨h, rfl, rfl⟩

theorem sentAlike_refused (fault : SetupFault) :
    SentAlike key' R (.refused fault) (.refused fault) := sentAlike_settled (.error _)

/-- Results that are alike are looked at alike. -/
theorem ResultsAlike.bind {result result' : Except DispatchError α}
    {f f' : α → Except DispatchError β} (h : ResultsAlike R result result')
    (hf : ∀ a a', R a a' → ResultsAlike S (f a) (f' a')) :
    ResultsAlike S (result.bind f) (result'.bind f') := by
  cases h with
  | ok ha => exact hf _ _ ha
  | error e => exact .error e

theorem SentAlike.andThen {d d' : Dispatch α} {f f' : α → Except DispatchError β}
    (h : SentAlike key' R d d') (hf : ∀ a a', R a a' → ResultsAlike S (f a) (f' a')) :
    SentAlike key' S (d.andThen f) (d'.andThen f') :=
  ⟨h.result.bind hf, h.requests, h.metrics⟩

end Sends

namespace Provider

/-- Two providers answer alike, each to its own secret. The reader of their answers does not see
the secret, and of a request whose secret can stand in its field the HTTP client speaks by the
address. -/
structure AnswersAlike (p p' : Provider) (key key' : String) : Prop where
  answer : ∀ r : HttpRequest, r.apiKey = key → p'.answer (r.withKey key') = p.answer r
  unread : p'.unread = p.unread
  unsent : ∀ r r' : HttpRequest, r'.address = r.address → IsUsableKey r.apiKey →
    IsUsableKey r'.apiKey → p'.unsent r' = p.unsent r

variable {p p' : Provider} {s : Settings} {key' : String}

/-! ## Exchanges -/

/-- A request that can be made with one secret can be made with the other. -/
theorem isSendable_withKey {r : HttpRequest} (hkey : IsUsableKey r.apiKey)
    (hkey' : IsUsableKey key') : (r.withKey key').isSendable = r.isSendable := by
  -- the secret is looked at in its own field only, and both can stand there
  have hlegal : (Utf8.encode r.authorization).all HttpRequest.isFieldByte = true := hkey.legal
  have hlegal' : (Utf8.encode (r.withKey key').authorization).all HttpRequest.isFieldByte = true :=
    hkey'.legal
  rw [HttpRequest.isSendable, HttpRequest.isSendable, hlegal, hlegal']
  rfl

theorem sent_alike {α : Type} [Reads α] {r : HttpRequest}
    (halike : p.AnswersAlike p' r.apiKey key') (kind : RequestKind) :
    SentAlike key' Eq (p.sent (α := α) kind r) (p'.sent kind (r.withKey key')) := by
  refine ⟨?_, rfl, ?_⟩
  · rw [sent, sent, halike.answer r rfl, halike.unread]
    exact .of_eq _
  · rw [sent, sent, halike.answer r rfl, halike.unread]

theorem unmade_alike {α : Type} {r : HttpRequest} (hkey : IsUsableKey r.apiKey)
    (hkey' : IsUsableKey key') (halike : p.AnswersAlike p' r.apiKey key') (kind : RequestKind) :
    SentAlike key' Eq (p.unmade (α := α) kind r) (p'.unmade kind (r.withKey key')) := by
  refine ⟨?_, rfl, rfl⟩
  rw [unmade, unmade, halike.unsent r (r.withKey key') rfl hkey hkey']
  exact .error _

/-- **An exchange keeps the secret**: it has the same result, counts the same, and makes the same
request with the other secret. -/
theorem exchange_alike {α : Type} [Reads α] (hkey : IsUsableKey s.apiKey) (hkey' : IsUsableKey key')
    (halike : p.AnswersAlike p' s.apiKey key') (kind : RequestKind) (method : HttpMethod)
    (path : String) (body : Option Json) :
    SentAlike key' Eq (p.exchange (α := α) s kind method path body)
      (p'.exchange (s.withKey key') kind method path body) := by
  have hsendable : (requestOf (s.withKey key') method path body).isSendable =
      (requestOf s method path body).isSendable :=
    isSendable_withKey (r := requestOf s method path body) hkey hkey'
  rcases p.exchange_cases (α := α) s kind method path body with
    ⟨hblank, -⟩ | ⟨-, hno, heq⟩ | ⟨-, hyes, heq⟩
  · -- neither is refused for want of a secret
    rw [hkey.notBlank] at hblank
    cases hblank
  · rw [heq, p'.exchange_of_unsendable hkey'.notBlank (hsendable.trans hno)]
    exact unmade_alike (r := requestOf s method path body) hkey hkey' halike kind
  · rw [heq, p'.exchange_of_sendable hkey'.notBlank (hsendable.trans hyes)]
    exact sent_alike (r := requestOf s method path body) halike kind

/-! ## Sends -/

/-- Ids that are alike: the same, or generated for two sends that are only pretended. -/
def IdsAlike (s : Settings) (p p' : Provider) (id id' : String) : Prop :=
  id = id' ∨ s.isMock = true ∧ id = p.mockId ∧ id' = p'.mockId

/-- Receipts that are alike but for generated ids. -/
structure ReceiptsAlike (s : Settings) (p p' : Provider) (r r' : Receipt) : Prop where
  externalId : IdsAlike s p p' r.externalId r'.externalId
  state : r.state = r'.state
  source : r.source = r'.source

theorem receiptsAlike_refl (r : Receipt) : ReceiptsAlike s p p' r r := ⟨.inl rfl, rfl, rfl⟩

section Sends

variable (hkey : IsUsableKey s.apiKey) (hkey' : IsUsableKey key')
  (halike : p.AnswersAlike p' s.apiKey key') (origin destination : String)

include hkey hkey' halike

theorem postMessage_alike (text : String) :
    SentAlike key' (ReceiptsAlike s p p') (p.postMessage s origin destination text)
      (p'.postMessage (s.withKey key') origin destination text) := by
  have hmock' : (s.withKey key').isMock = s.isMock := rfl
  rw [postMessage, postMessage, hmock']
  split
  · next hmock => exact sentAlike_settled (.ok ⟨.inr ⟨hmock, rfl, rfl⟩, rfl, rfl⟩)
  · refine (exchange_alike hkey hkey' halike ..).andThen ?_
    rintro answer _ rfl
    exact .ok (receiptsAlike_refl _)

theorem postCall_alike (callback : String) :
    SentAlike key' (IdsAlike s p p') (p.postCall s origin destination callback)
      (p'.postCall (s.withKey key') origin destination callback) := by
  have hconnection : (s.withKey key').connectionId = s.connectionId := rfl
  have hmock' : (s.withKey key').isMock = s.isMock := rfl
  rw [postCall, postCall, hconnection, hmock']
  cases Settings.require "connection_id" s.connectionId with
  | error fault => exact sentAlike_refused fault
  | ok connectionId =>
    dsimp only
    split
    · next hmock => exact sentAlike_settled (.ok (.inr ⟨hmock, rfl, rfl⟩))
    · refine (exchange_alike hkey hkey' halike ..).andThen ?_
      rintro answer _ rfl
      cases answer.data.callId? with
      | none => exact .error _
      | some id => exact .ok (.inl rfl)

theorem dispatch_alike (o : Outbound) :
    SentAlike key' (ReceiptsAlike s p p') (p.dispatch s o) (p'.dispatch (s.withKey key') o) := by
  rw [dispatch, dispatch]
  cases o.content with
  | body text => exact postMessage_alike hkey hkey' halike ..
  | callback url =>
    exact (postCall_alike hkey hkey' halike ..).andThen fun _ _ hid => .ok ⟨hid, rfl, rfl⟩

theorem send_alike (channel : Channel) (n : Notification) :
    SentAlike key' (ReceiptsAlike s p p') (p.send s destination channel n)
      (p'.send (s.withKey key') destination channel n) := by
  have hbuild : (s.withKey key').buildRequest destination channel n =
      s.buildRequest destination channel n := rfl
  rw [send, send, hbuild]
  cases s.buildRequest destination channel n with
  | error fault => exact sentAlike_refused fault
  | ok o => exact dispatch_alike hkey hkey' halike o

theorem sendText_alike (text : String) :
    SentAlike key' (ReceiptsAlike s p p') (p.sendText s destination text)
      (p'.sendText (s.withKey key') destination text) := by
  have hfrom : (s.withKey key').fromNumber = s.fromNumber := rfl
  rw [sendText, sendText, hfrom]
  cases Settings.require "from_number" s.fromNumber with
  | error fault => exact sentAlike_refused fault
  | ok origin => exact postMessage_alike hkey hkey' halike ..

theorem makeCall_alike (callback : String) :
    SentAlike key' (IdsAlike s p p') (p.makeCall s destination callback)
      (p'.makeCall (s.withKey key') destination callback) := by
  have hfrom : (s.withKey key').fromNumber = s.fromNumber := rfl
  rw [makeCall, makeCall, hfrom]
  cases Settings.require "from_number" s.fromNumber with
  | error fault => exact sentAlike_refused fault
  | ok origin => exact postCall_alike hkey hkey' halike ..

theorem lookupCarrier_alike (number : String) :
    SentAlike key' Eq (p.lookupCarrier s number) (p'.lookupCarrier (s.withKey key') number) := by
  have hmock' : (s.withKey key').isMock = s.isMock := rfl
  rw [lookupCarrier, lookupCarrier, hmock']
  split
  · exact sentAlike_refused _
  · split
    · exact sentAlike_settled (.of_eq _)
    · refine (exchange_alike hkey hkey' halike ..).andThen ?_
      rintro answer _ rfl
      exact .ok rfl

end Sends

end Provider

end AlertLine
