import AlertLine.Proofs.Provider.Operations

/-!
# What a send does

Something can be sent in four ways: as it is put together already, as a notification, as a text, as
a call. Whatever the way, the send is refused, or it posts one message, or it posts one call
(`Provider.Sends.posts`). Once a request is made, a post comes to what is made of the answer to that
request (`Provider.result_postMessage`, `Provider.result_postCall`), and so does a lookup
(`Provider.result_lookupCarrier`).
-/

namespace AlertLine

/-- The channel that something is delivered over. -/
def Content.channel : Content → Channel
  | .body _ => .sms
  | .callback _ => .voice

namespace Dispatch

/-- A send by the id that it comes to. -/
def byId (d : Dispatch Receipt) : Dispatch String := d.andThen fun receipt => .ok receipt.externalId

/-- A receipt that is made out for an id tells that id. -/
theorem byId_andThen (d : Dispatch String) (state : DeliveryState) (source : String) :
    (d.andThen fun id => .ok ⟨id, state, source⟩).byId = d := by
  obtain ⟨result, requests, metrics⟩ := d
  cases result <;> rfl

theorem byId_eq_error_iff {d : Dispatch Receipt} {e : DispatchError} :
    d.byId.result = .error e ↔ d.result = .error e := by
  obtain ⟨result, requests, metrics⟩ := d
  cases result with
  | ok receipt => exact iff_of_false nofun nofun
  | error fault =>
    show Except.error fault = .error e ↔ Except.error fault = .error e
    rw [Except.error.injEq, Except.error.injEq]

end Dispatch

namespace Provider

/-! ## Sends -/

/-- A send over a channel, by the id that it comes to: of what is put together already, of a
notification, of a text, or of a call. -/
inductive Sends (p : Provider) (s : Settings) : Channel → Dispatch String → Prop
  /-- What is put together is carried out. -/
  | outbound (o : Outbound) : Sends p s o.content.channel (p.dispatch s o).byId
  /-- A notification is sent. -/
  | notification (destination : String) (channel : Channel) (n : Notification) :
    Sends p s channel (p.send s destination channel n).byId
  /-- A text is sent. -/
  | text (destination text : String) : Sends p s .sms (p.sendText s destination text).byId
  /-- A call is started. -/
  | call (destination callback : String) : Sends p s .voice (p.makeCall s destination callback)

variable {p : Provider} {s : Settings} {channel : Channel} {d : Dispatch String}

/-- **What a send does**: it is refused, or it posts a message or a call. -/
inductive Posts (p : Provider) (s : Settings) : Channel → Dispatch String → Prop
  /-- Something is not set up for it. -/
  | refused (channel : Channel) (fault : SetupFault) : Posts p s channel (.refused fault)
  /-- A message is posted. -/
  | message (origin destination text : String) :
    Posts p s .sms (p.postMessage s origin destination text).byId
  /-- A call is posted. -/
  | call (origin destination callback : String) :
    Posts p s .voice (p.postCall s origin destination callback)

theorem posts_dispatch (o : Outbound) : Posts p s o.content.channel (p.dispatch s o).byId := by
  obtain ⟨destination, origin, channel, content⟩ := o
  cases content with
  | body text => exact .message origin destination text
  | callback url =>
    have hid : (p.dispatch s ⟨destination, origin, channel, .callback url⟩).byId =
        p.postCall s origin destination url := Dispatch.byId_andThen ..
    rw [hid]
    exact .call origin destination url

/-- What is put together for a channel is delivered over that channel. -/
theorem channel_of_buildRequest {destination : String} {n : Notification} {o : Outbound}
    (h : s.buildRequest destination channel n = .ok o) : o.content.channel = channel := by
  obtain ⟨origin, -, h⟩ := bind_eq_ok.1 h
  cases channel with
  | sms =>
    cases h
    rfl
  | voice =>
    obtain ⟨callback, -, h⟩ := bind_eq_ok.1 h
    cases h
    rfl

theorem Sends.posts (h : Sends p s channel d) : Posts p s channel d := by
  cases h with
  | outbound o => exact posts_dispatch o
  | notification destination channel n =>
    rw [send]
    cases hrequest : s.buildRequest destination channel n with
    | error fault => exact .refused channel fault
    | ok o =>
      -- the channel that was asked for is that of the content
      rw [← channel_of_buildRequest hrequest]
      exact posts_dispatch o
  | text destination text =>
    rw [sendText]
    cases Settings.require "from_number" s.fromNumber with
    | error fault => exact .refused .sms fault
    | ok origin => exact .message origin destination text
  | call destination callback =>
    rw [makeCall]
    cases Settings.require "from_number" s.fromNumber with
    | error fault => exact .refused .voice fault
    | ok origin => exact .call origin destination callback

/-! ## What comes of a request -/

section Requests

variable {r : HttpRequest}

/-- An exchange in which a request is made comes to what is made of the answer. -/
theorem result_exchange {α β : Type} [Reads α] {kind : RequestKind} {method : HttpMethod}
    {path : String} {body : Option Json} {f : α → Except DispatchError β}
    (h : r ∈ ((p.exchange s kind method path body).andThen f).requests) :
    ((p.exchange s kind method path body).andThen f).result =
      ((p.answer r).readThen (p.unread kind) f).2 := by
  rcases p.exchange_cases (α := α) s kind method path body with
    ⟨-, heq⟩ | ⟨-, -, heq⟩ | ⟨-, -, heq⟩ <;> rw [heq] at h ⊢
  · cases h
  · cases h
  · rw [List.mem_singleton.1 h]
    rfl

theorem result_postMessage {origin destination text : String}
    (h : r ∈ (p.postMessage s origin destination text).requests) :
    (p.postMessage s origin destination text).result =
      ((p.answer r).readThen (p.unread .sms) fun envelope : Envelope MessagePayload =>
        .ok (messageReceipt origin envelope.data)).2 := by
  rw [postMessage] at h ⊢
  split_ifs at h ⊢
  · cases h
  · exact result_exchange h

theorem result_postCall {origin destination callback : String}
    (h : r ∈ (p.postCall s origin destination callback).requests) :
    (p.postCall s origin destination callback).result =
      ((p.answer r).readThen (p.unread .voice) callIdOf).2 := by
  rw [postCall] at h ⊢
  cases hconnection : Settings.require "connection_id" s.connectionId with
  | error fault =>
    rw [hconnection] at h
    cases h
  | ok connectionId =>
    rw [hconnection] at h
    dsimp only at h ⊢
    split_ifs at h ⊢
    · cases h
    · exact result_exchange h

theorem result_lookupCarrier {number : String} (h : r ∈ (p.lookupCarrier s number).requests) :
    (p.lookupCarrier s number).result =
      ((p.answer r).readThen (p.unread .lookup) fun envelope : Envelope NumberAnswer =>
        .ok envelope.data.carrier).2 := by
  rw [lookupCarrier] at h ⊢
  split_ifs at h ⊢
  · cases h
  · cases h
  · exact result_exchange h

end Requests

end Provider
end AlertLine
