import AlertLine.Bus.Worker
import AlertLine.Proofs.Provider.Secrecy
import Mathlib.Data.List.Forall2

/-!
# The secret stays in the requests

What the worker publishes is made of what it was asked and of the results of sends, and those do not
depend on the secret. So a message is handled alike with either secret (`Worker.handle_alike`), and
so is every row of messages (`Worker.run_alike`). Together with the sends themselves and with the
summary of the settings, this is all that anyone sees of a run
(`Provider.secret_stays_in_requests`).
-/

namespace AlertLine

/-! ## The worker -/

/-- Reports that are alike but for generated ids. -/
structure ReportsAlike (s : Settings) (p p' : Provider) (r r' : SendReport) : Prop where
  requestId : r.requestId = r'.requestId
  destination : r.destination = r'.destination
  channel : r.channel = r'.channel
  result : Option.Rel (Provider.ReceiptsAlike s p p') r.result r'.result
  error : r.error = r'.error

/-- Publications that are alike: the same, or reports that are alike but for generated ids. -/
def PublicationsAlike (s : Settings) (p p' : Provider) (q q' : Bus.Publication) : Prop :=
  q = q' ∨ ∃ r r', ReportsAlike s p p' r r' ∧ q = .ofValue Subject.outcome r ∧
    q' = .ofValue Subject.outcome r'

/-- Pieces of work that differ in the secret of their requests only, and in generated ids. -/
structure WorkAlike (s : Settings) (key' : String) (p p' : Provider)
    (w w' : Work (List Bus.Publication)) : Prop where
  value : List.Forall₂ (PublicationsAlike s p p') w.value w'.value
  calls : w'.calls = w.calls
  requests : w'.requests = w.requests.map fun r => r.withKey key'
  metrics : w'.metrics = w.metrics

namespace Worker

variable {p p' : Provider} {s : Settings} {key' : String}

theorem workAlike_idle (value : List Bus.Publication) :
    WorkAlike s key' p p' (.idle value) (.idle value) :=
  ⟨List.forall₂_same.2 fun _ _ => .inl rfl, rfl, rfl, rfl⟩

/-- Reports on results that are alike are alike. -/
theorem reportsAlike_report (o : SendOrder) {result result' : Except DispatchError Receipt}
    (h : ResultsAlike (Provider.ReceiptsAlike s p p') result result') :
    ReportsAlike s p p' (o.report result) (o.report result') := by
  cases h with
  | ok hreceipt => exact ⟨rfl, rfl, rfl, .some hreceipt, rfl⟩
  | error e => exact ⟨rfl, rfl, rfl, .none, rfl⟩

/-- **A message is handled without the secret.** -/
theorem handle_alike (hkey : IsUsableKey s.apiKey) (hkey' : IsUsableKey key')
    (halike : p.AnswersAlike p' s.apiKey key') (unread : Bytes → String) (m : Bus.Message) :
    WorkAlike s key' p p' (handle (p.sender s unread) m)
      (handle (p'.sender (s.withKey key') unread) m) := by
  rw [handle, handle]
  split
  · -- an order: its report is made of the result alone
    rw [process, process]
    cases Json.read SendOrder m.payload with
    | none => exact workAlike_idle []
    | some o =>
      have hsend := Provider.send_alike hkey hkey' halike o.destination o.channel o.notification
      refine ⟨.cons (.inr ⟨_, _, reportsAlike_report o hsend.result, rfl, rfl⟩) .nil, rfl,
        hsend.requests, hsend.metrics⟩
  · split
    · -- a query: one that asks for no reply starts no lookup
      cases m.replyTo with
      | none => exact workAlike_idle []
      | some replyTo =>
        dsimp only
        rw [answerCarrierQuery, answerCarrierQuery]
        cases Json.read CarrierQuery m.payload with
        | none =>
          exact workAlike_idle [.ofValue replyTo (CarrierReply.malformed (unread m.payload))]
        | some q =>
          have hlookup := Provider.lookupCarrier_alike hkey hkey' halike q.number
          have hreply : CarrierReply.ofResult (p.lookupCarrier s q.number).result =
              CarrierReply.ofResult (p'.lookupCarrier (s.withKey key') q.number).result := by
            rw [hlookup.result.eq]
          exact ⟨.cons (.inl (congrArg (Bus.Publication.ofValue replyTo) hreply)) .nil, rfl,
            hlookup.requests, hlookup.metrics⟩
    · exact workAlike_idle []

end Worker

/-! ### Sends that are not pretended -/

section Real

variable {s : Settings} {p p' : Provider} (hmock : s.isMock = false)

include hmock

theorem Provider.IdsAlike.eq {id id' : String} (h : Provider.IdsAlike s p p' id id') :
    id = id' := by
  rcases h with heq | ⟨hmock', -⟩
  · exact heq
  · rw [hmock] at hmock'
    cases hmock'

theorem Provider.ReceiptsAlike.eq {r r' : Receipt} (h : Provider.ReceiptsAlike s p p' r r') :
    r = r' := by
  rw [Receipt.mk.injEq]
  exact ⟨h.externalId.eq hmock, h.state, h.source⟩

theorem ReportsAlike.eq {r r' : SendReport} (h : ReportsAlike s p p' r r') : r = r' := by
  have hresult : r.result = r'.result := by
    rcases r with ⟨requestId, destination, channel, result, error⟩
    rcases r' with ⟨requestId', destination', channel', result', error'⟩
    cases h.result with
    | none => rfl
    | some hreceipts => exact congrArg some (hreceipts.eq hmock)
  rw [SendReport.mk.injEq]
  exact ⟨h.requestId, h.destination, h.channel, hresult, h.error⟩

theorem PublicationsAlike.eq {q q' : Bus.Publication} (h : PublicationsAlike s p p' q q') :
    q = q' := by
  rcases h with heq | ⟨r, r', hreports, rfl, rfl⟩
  · exact heq
  · rw [hreports.eq hmock]

theorem WorkAlike.value_eq {key' : String} {w w' : Work (List Bus.Publication)}
    (h : WorkAlike s key' p p' w w') : w.value = w'.value := by
  have hvalue : List.Forall₂ Eq w.value w'.value := h.value.imp fun _ _ hq => hq.eq hmock
  rwa [List.forall₂_eq_eq_eq] at hvalue

end Real

/-! ## All runs -/

/-- A message that is handled in two runs, with the provider as it answers in each and with the
reader of questions, which is the same in both. -/
structure Turn where
  /-- The provider in the one run. -/
  one : Provider
  /-- The provider in the other run. -/
  other : Provider
  /-- What the reader says of a question that cannot be read. -/
  unread : Bytes → String
  /-- The message. -/
  message : Bus.Message

namespace Turn

/-- The message with its sender, in the one run. -/
def inOne (s : Settings) (t : Turn) : Sender × Bus.Message := (t.one.sender s t.unread, t.message)

/-- The message with its sender, in the other run. -/
def inOther (s : Settings) (t : Turn) : Sender × Bus.Message :=
  (t.other.sender s t.unread, t.message)

end Turn

section Runs

variable {s : Settings} {key' : String} (hkey : IsUsableKey s.apiKey) (hkey' : IsUsableKey key')
  {turns : List Turn} (halike : ∀ t ∈ turns, t.one.AnswersAlike t.other s.apiKey key')

include hkey hkey' halike

/-- Each message of a run is handled without the secret. -/
theorem Worker.run_alike :
    List.Forall₂ (fun t w => WorkAlike s key' t.one t.other w.1 w.2) turns
      ((Worker.run (turns.map (Turn.inOne s))).zip
        (Worker.run (turns.map (Turn.inOther (s.withKey key'))))) := by
  induction turns with
  | nil => exact .nil
  | cons t turns ih =>
    obtain ⟨ht, hturns⟩ := List.forall_mem_cons.1 halike
    exact .cons (handle_alike hkey hkey' ht t.unread t.message) (ih hturns)

theorem Worker.published_alike (hmock : s.isMock = false) :
    Worker.published (turns.map (Turn.inOne s)) =
      Worker.published (turns.map (Turn.inOther (s.withKey key'))) := by
  induction turns with
  | nil => rfl
  | cons t turns ih =>
    obtain ⟨ht, hturns⟩ := List.forall_mem_cons.1 halike
    have hvalue := (handle_alike hkey hkey' ht t.unread t.message).value_eq hmock
    have hcons (m : Sender × Bus.Message) (ms : List (Sender × Bus.Message)) :
        published (m :: ms) = (handle m.1 m.2).value ++ published ms := rfl
    rw [List.map_cons, List.map_cons, hcons, hcons, ih hturns]
    exact congrArg (· ++ _) hvalue

end Runs

/-! ## The summary -/

theorem IsUsableKey.redacted_eq {key : String} (h : IsUsableKey key) :
    Settings.redacted key = "<redacted>" := by
  refine if_neg fun hempty => ?_
  rw [String.isEmpty_iff] at hempty
  have hblank := h.notBlank
  rw [hempty] at hblank
  cases hblank

/-- The summary shows two secrets alike. -/
theorem Settings.summary_withKey {s : Settings} {key' : String} (hkey : IsUsableKey s.apiKey)
    (hkey' : IsUsableKey key') : s.summary = (s.withKey key').summary := by
  have hredacted : redacted (s.withKey key').apiKey = "<redacted>" := hkey'.redacted_eq
  rw [summary, summary, hkey.redacted_eq, hredacted]
  rfl

/-- **The secret stays in the requests.** Let the secret be exchanged for another one that requests
can be made with, and let the provider answer alike to both; what the HTTP client and the readers of
documents say of a failure may be any text that they can say without the secret. Then every
notification, text, call and number lookup makes the same requests but for the secret in them, comes
to the same result or the same failure, with the same words, and counts the same. The worker asks
for the same sends, publishes the same reports and replies, and counts the same, message by message,
however long it runs. And the two settings are summed up alike. Only the ids of pretended sends
differ, which are made up afresh for each. -/
theorem Provider.secret_stays_in_requests {s : Settings} {key' : String}
    (hkey : IsUsableKey s.apiKey) (hkey' : IsUsableKey key') :
    (∀ p p' : Provider, p.AnswersAlike p' s.apiKey key' →
      (∀ destination channel n,
        SentAlike key' (ReceiptsAlike s p p') (p.send s destination channel n)
          (p'.send (s.withKey key') destination channel n)) ∧
      (∀ destination text,
        SentAlike key' (ReceiptsAlike s p p') (p.sendText s destination text)
          (p'.sendText (s.withKey key') destination text)) ∧
      (∀ destination callback,
        SentAlike key' (IdsAlike s p p') (p.makeCall s destination callback)
          (p'.makeCall (s.withKey key') destination callback)) ∧
      (∀ number,
        SentAlike key' Eq (p.lookupCarrier s number)
          (p'.lookupCarrier (s.withKey key') number))) ∧
    (∀ turns : List Turn, (∀ t ∈ turns, t.one.AnswersAlike t.other s.apiKey key') →
      List.Forall₂ (fun t w => WorkAlike s key' t.one t.other w.1 w.2) turns
        ((Worker.run (turns.map (Turn.inOne s))).zip
          (Worker.run (turns.map (Turn.inOther (s.withKey key'))))) ∧
      (s.isMock = false → Worker.published (turns.map (Turn.inOne s)) =
        Worker.published (turns.map (Turn.inOther (s.withKey key'))))) ∧
    s.summary = (s.withKey key').summary := by
  refine ⟨fun p p' halike => ⟨?_, ?_, ?_, ?_⟩, fun turns halike => ⟨?_, ?_⟩, ?_⟩
  · exact fun destination channel n => send_alike hkey hkey' halike destination channel n
  · exact fun destination text => sendText_alike hkey hkey' halike destination text
  · exact fun destination callback => makeCall_alike hkey hkey' halike destination callback
  · exact fun number => lookupCarrier_alike hkey hkey' halike number
  · exact Worker.run_alike hkey hkey' halike
  · exact fun hmock => Worker.published_alike hkey hkey' halike hmock
  · exact Settings.summary_withKey hkey hkey'

/-! ## Two secrets -/

/-- Settings with a secret and a number. -/
def keyedSettings : Settings := { Settings.standard with
  apiKey := "KEY1"
  fromNumber := "+15550009999" }

/-- A provider that answers all requests with one document. -/
def documentProvider (document freshId : String) : Provider :=
  { Provider.replying fun _ => .whole 200 (Utf8.encode document) with freshId := freshId }

/-- An order from the bus, handled with each of two secrets. -/
def turnAnswered (document : String) : Turn where
  one := documentProvider document "1"
  other := documentProvider document "2"
  unread _ := "expected value at line 1 column 1"
  message := ⟨"telnyx.out.sms.15550000001", none,
    Json.write (SendOrder.mk "+15550000001" .sms .test none)⟩

/-- The order as it is taken on. -/
def orderTurn : Turn := turnAnswered "\x7b\"data\":\x7b\"id\":\"m1\"\x7d\x7d"

/-- The order, answered with what is no document. -/
def garbledTurn : Turn := turnAnswered "gone"

/-- A text is sent to one address with either secret, orders from the bus are reported alike, also
where the answer cannot be read, and the settings are summed up alike. -/
theorem Provider.secret_stays_in_requests_exchanged :
    ((orderTurn.one.sendText keyedSettings "+15550000001" "Hello").requests.map
        fun r => (r.address, r.apiKey)) = [("https://api.telnyx.com/v2/messages", "KEY1")] ∧
      ((orderTurn.other.sendText (keyedSettings.withKey "KEY2") "+15550000001"
        "Hello").requests.map fun r => (r.address, r.apiKey)) =
          [("https://api.telnyx.com/v2/messages", "KEY2")] ∧
      Worker.published ([orderTurn, garbledTurn].map (Turn.inOne keyedSettings)) =
        Worker.published ([orderTurn, garbledTurn].map
          (Turn.inOther (keyedSettings.withKey "KEY2"))) ∧
      keyedSettings.summary = (keyedSettings.withKey "KEY2").summary := by
  have hone : ((orderTurn.one.sendText keyedSettings "+15550000001" "Hello").requests.map
      fun r => (r.address, r.apiKey)) = [("https://api.telnyx.com/v2/messages", "KEY1")] := by
    decide +kernel
  have halike (document : String) : (turnAnswered document).one.AnswersAlike
      (turnAnswered document).other keyedSettings.apiKey "KEY2" := by
    refine ⟨fun _ _ => rfl, rfl, fun r r' haddress _ _ => ?_⟩
    show r'.builderError = r.builderError
    rw [HttpRequest.builderError, HttpRequest.builderError, haddress]
  have hkey : IsUsableKey keyedSettings.apiKey := ⟨by decide, by decide⟩
  have hkey' : IsUsableKey "KEY2" := ⟨by decide, by decide⟩
  obtain ⟨hsends, hruns, hsummary⟩ := secret_stays_in_requests hkey hkey'
  obtain ⟨-, htexts, -⟩ := hsends orderTurn.one orderTurn.other (halike _)
  obtain ⟨-, hpublished⟩ := hruns [orderTurn, garbledTurn]
    (List.forall_mem_cons.2 ⟨halike _, List.forall_mem_singleton.2 (halike _)⟩)
  refine ⟨hone, ?_, hpublished (by decide), hsummary⟩
  rw [(htexts "+15550000001" "Hello").requests, List.map_map]
  calc (orderTurn.one.sendText keyedSettings "+15550000001" "Hello").requests.map
        ((fun r => (r.address, r.apiKey)) ∘ fun r => r.withKey "KEY2")
      = ((orderTurn.one.sendText keyedSettings "+15550000001" "Hello").requests.map
          fun r => (r.address, r.apiKey)).map fun sent => (sent.1, "KEY2") := by
        rw [List.map_map]
        rfl
    _ = [("https://api.telnyx.com/v2/messages", "KEY2")] := by rw [hone]; rfl

end AlertLine
