import AlertLine.Proofs.Bus.Documents

/-!
# What is sent over the bus arrives

With the documents of all values read back, so are the messages that are made of them. An order is
carried out as it was given, an alert is the answer that it was sent as, a list of errors survives
its body, and an action or a status update is read from its publication. The subject of such a
publication ends in a word of the payload: the kind of the action, the state of the update.
-/

namespace AlertLine

open Json

/-- Every value of a type is read back from the document that is written for it. -/
def RoundTrips (α : Type) [Wire α] : Prop := ∀ a : α, Json.read α (Json.write a) = some a

theorem RoundTrips.of_depth {α : Type} [Wire α] {depth : ℕ} [ReadsBack α depth]
    (hdepth : depth ≤ maxDepth) : RoundTrips α := by
  intro a
  exact read_write hdepth a

/-! ## Orders and errors -/

/-- An order is carried out as it was given. -/
theorem Worker.process_write (sender : Sender) (o : SendOrder) :
    process sender (Json.write o) = (carryOut sender o).map some := by
  rw [process, read_write (by decide) o]

/-- The errors of a body are those that were written into it. -/
theorem ApiErrors.ofBody_print (e : ApiError) (es : List ApiError) :
    ofBody (Wire.encode (⟨e :: es⟩ : ApiErrors)).print = ⟨e :: es⟩ := by
  rw [ofBody, decode_parseText_print (by decide)]

namespace Bus

/-! ## Answers to questions for alerts -/

/-- An alert can be taken in whole, as is asked of an answer that may be an alert or a failure. -/
theorem isSound_alert (room : ℕ) (alert : Alert) :
    (Wire.encode alert).isSound (room + 1) = true := by
  apply isSound_obj
  apply AreSound.cons (isSound_ofInt64 room alert.id)
  apply AreSound.cons (isSound_ofString room alert.summary)
  exact AreSound.cons (isSound_ofString room alert.details) AreSound.nil

theorem read_lookupReply_write (alert : Alert) :
    Json.read LookupReply (Json.write alert) = some (.found alert) := by
  have hsound : (Wire.encode alert).isSound maxDepth = true := isSound_alert 126 alert
  have halert : Reads.decode maxDepth (Wire.encode alert) = some alert :=
    ReadsBack.decode_encode (by decide) alert
  rw [Json.read, Json.write, parse_bytes (ReadsBack.isPlain alert), Option.bind_some]
  simp only [Reads.decode] at halert ⊢
  simp only [hsound, if_true, halert]

/-- The answer to a question is the alert that it was sent as. -/
theorem readLookupReply_write (unread : Bytes → String) (alertId : Int64) (alert : Alert) :
    readLookupReply unread alertId (Json.write alert) = .ok alert := by
  rw [readLookupReply, read_lookupReply_write]

/-! ## Publications -/

@[simp] theorem Publication.payload_ofValue {α : Type} [Wire α] (subject : String) (a : α) :
    (ofValue subject a).payload = Json.write a := rfl

/-- The last token of the subject is what stands, once, under a name of the payload. -/
def Publication.IsFiledBy (p : Publication) (name : String) : Prop :=
  ∃ front word entries, Subject.tokens p.subject = front ++ [word] ∧
    Json.parse p.payload = some (.object entries) ∧ occurrences name entries = 1 ∧
    lookup? name entries = some (.ofString word)

/-- The publication of a value whose form is an object that holds the last token. -/
theorem Publication.isFiledBy_ofValue {α : Type} [Wire α] {depth : ℕ} [ReadsBack α depth]
    {subject word name : String} {front : List String} {a : α} {entries : List (Reading × Json)}
    (htokens : Subject.tokens subject = front ++ [word])
    (hform : Wire.encode a = .object entries) (honce : occurrences name entries = 1)
    (hword : lookup? name entries = some (.ofString word)) :
    (Publication.ofValue subject a).IsFiledBy name := by
  refine ⟨front, word, entries, htokens, ?_, honce, hword⟩
  rw [payload_ofValue, Json.write, parse_bytes (ReadsBack.isPlain a), hform]

theorem tokens_action (kind : ActionKind) :
    Subject.tokens (Subject.action kind) = ["telnyx", "action"] ++ [kind.name] := by
  cases kind <;> rfl

theorem tokens_status (state : DeliveryState) :
    Subject.tokens (Subject.status state) = ["telnyx", "status"] ++ [state.name] := by
  cases state <;> rfl

theorem isFiledBy_publishAction (a : AlertAction) : (publishAction a).IsFiledBy "kind" :=
  Publication.isFiledBy_ofValue (tokens_action a.kind) rfl rfl rfl

theorem isFiledBy_publishStatus (u : StatusUpdate) : (publishStatus u).IsFiledBy "state" :=
  Publication.isFiledBy_ofValue (tokens_status u.state) rfl rfl rfl

/-- **What is sent over the bus arrives.** Every document reads back; an order is carried out as it
was given, with one call of the sender; an alert is the answer to the question for it; a list of
errors is what its body says; and what the line signals is read from its publication, whose subject
ends in a word of the payload. -/
theorem documents_read_back :
    (RoundTrips SendOrder ∧ RoundTrips SendReport ∧ RoundTrips CarrierQuery ∧
      RoundTrips CarrierReply ∧ RoundTrips AlertAction ∧ RoundTrips StatusUpdate ∧
      RoundTrips Alert ∧ RoundTrips Notification ∧ RoundTrips Outbound ∧ RoundTrips Receipt ∧
      RoundTrips Reply ∧ RoundTrips CallContext ∧ RoundTrips ApiErrors) ∧
    (∀ (sender : Sender) (o : SendOrder),
      let w := Worker.process sender (Json.write o)
      w = (Worker.carryOut sender o).map some ∧
        w.calls = [.send o.destination o.channel o.notification]) ∧
    (∀ (unread : Bytes → String) (alertId : Int64) (alert : Alert),
      readLookupReply unread alertId (Json.write alert) = .ok alert) ∧
    (∀ (e : ApiError) (es : List ApiError),
      ApiErrors.ofBody (Wire.encode (⟨e :: es⟩ : ApiErrors)).print = ⟨e :: es⟩) ∧
    (∀ a : AlertAction, Json.read AlertAction (publishAction a).payload = some a ∧
      (publishAction a).IsFiledBy "kind") ∧
    ∀ u : StatusUpdate, Json.read StatusUpdate (publishStatus u).payload = some u ∧
      (publishStatus u).IsFiledBy "state" := by
  refine ⟨?documents, ?orders, readLookupReply_write, ApiErrors.ofBody_print, ?actions, ?updates⟩
  case documents =>
    refine ⟨?_, ?_, ?_, ?_, ?_, ?_, ?_, ?_, ?_, ?_, ?_, ?_, ?_⟩
    all_goals exact .of_depth (by decide)
  case orders =>
    intro sender o
    have hprocess := Worker.process_write sender o
    exact ⟨hprocess, by rw [hprocess]; rfl⟩
  case actions =>
    intro a
    refine ⟨?_, isFiledBy_publishAction a⟩
    rw [publishAction, Publication.payload_ofValue]
    exact read_write (by decide) a
  case updates =>
    intro u
    refine ⟨?_, isFiledBy_publishStatus u⟩
    rw [publishStatus, Publication.payload_ofValue]
    exact read_write (by decide) u

end Bus
end AlertLine
