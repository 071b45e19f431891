import AlertLine.Proofs.Bus.Accounting
import AlertLine.Proofs.Subject

/-!
# How orders find their way

What is published under the subject for a destination is an order for the worker
(`Worker.order_subjects_routable`). Its reports go out under a subject that it does not listen to. A
reply goes out under the subject that the asker names, which may be any, so the worker may hear it
(`Worker.own_reply_heard`); but nothing that it has published makes it do anything when it comes
back (`Worker.handle_arrival`), at any later place of a row (`Worker.Echoes`).
-/

namespace AlertLine

/-- A publication as it comes to whoever listens to its subject, with no subject for an answer. -/
def Bus.Publication.arrival (p : Publication) : Message := ⟨p.subject, none, p.payload⟩

namespace Worker

/-! ## Orders under their subjects -/

/-- An order that is published under the subject for a destination is carried out and reported. -/
theorem handle_outbound (sender : Sender) (channel : Channel) (destination : String)
    (replyTo : Option String) (o : SendOrder) :
    handle sender ⟨Subject.outbound channel destination, replyTo, Json.write o⟩ =
      (carryOut sender o).map fun report => [.ofValue Subject.outcome report] := by
  rw [handle, if_pos (Subject.isOutbound_outbound channel destination), process_write]
  rfl

/-! ## What comes back -/

/-- What the worker publishes on a message: a report, or a reply under the subject that a question
names for it. -/
inductive Publishes (m : Bus.Message) : Bus.Publication → Prop
  /-- The report on an order. -/
  | report (report : SendReport) : Publishes m (.ofValue Subject.outcome report)
  /-- The reply to a question. -/
  | reply {replyTo : String} (hsubject : m.subject = Subject.carrierLookup)
      (hreplyTo : m.replyTo = some replyTo) (reply : CarrierReply) :
      Publishes m (.ofValue replyTo reply)

variable {sender : Sender} {m : Bus.Message} {p : Bus.Publication}

/-- The worker does not listen to reports. -/
theorem listensTo_outcome : listensTo Subject.outcome = false := by decide

/-- What the worker does not listen to leaves it idle. -/
theorem handle_of_not_listensTo (h : listensTo m.subject = false) : handle sender m = .idle [] := by
  obtain ⟨horder, hquestion⟩ := Bool.or_eq_false_iff.1 h
  rw [handle, if_neg (ne_true_of_eq_false horder), if_neg (beq_eq_false_iff_ne.1 hquestion)]

theorem publishes_of_mem (hp : p ∈ (handle sender m).value) : Publishes m p := by
  by_cases horder : Subject.isOutbound m.subject = true
  · rw [handle, if_pos horder] at hp
    obtain ⟨report, -, rfl⟩ := Option.map_eq_some_iff.1 (Option.mem_toList.1 hp)
    exact .report report
  · by_cases hsubject : m.subject = Subject.carrierLookup
    · rw [handle, if_neg horder, if_pos hsubject] at hp
      cases hreplyTo : m.replyTo with
      | none =>
        rw [hreplyTo] at hp
        cases hp
      | some replyTo =>
        rw [hreplyTo] at hp
        rw [List.mem_singleton.1 hp]
        exact .reply hsubject hreplyTo _
    · rw [handle, if_neg horder, if_neg hsubject] at hp
      cases hp

/-- The worker listens to the subject of what it publishes only where an asker named it. -/
theorem Publishes.named_by_asker (h : Publishes m p) (hheard : listensTo p.subject = true) :
    m.subject = Subject.carrierLookup ∧ m.replyTo = some p.subject := by
  cases h with
  | report report => exact absurd hheard (ne_true_of_eq_false listensTo_outcome)
  | reply hsubject hreplyTo reply => exact ⟨hsubject, hreplyTo⟩

/-- A reply is no order: it has no destination. -/
theorem read_order_reply (reply : CarrierReply) :
    Json.read SendOrder (Json.write reply) = none := by
  rw [Json.read, Json.write, Json.parse_bytes (Json.ReadsBack.isPlain reply), Option.bind_some]
  obtain ⟨_ | _, _ | _⟩ := reply <;> rfl

/-- **What the worker has published makes it do nothing when it comes back.** -/
theorem handle_arrival (hp : p ∈ (handle sender m).value) (sender' : Sender) :
    handle sender' p.arrival = .idle [] := by
  cases publishes_of_mem hp with
  | report report => exact handle_of_not_listensTo listensTo_outcome
  | @reply replyTo _ _ reply =>
    by_cases horder : Subject.isOutbound replyTo = true
    · refine (if_pos horder).trans ?_
      show (process sender' (Json.write reply)).map _ = _
      rw [process, read_order_reply]
      rfl
    · by_cases hquestion : replyTo = Subject.carrierLookup
      · -- a question without a subject for the answer
        exact (if_neg horder).trans (if_pos hquestion)
      · exact (if_neg horder).trans (if_neg hquestion)

/-! ## Rows in which it comes back -/

/-- A row of messages as the worker sees it where, at any later places and any number of times, what
it has published comes back to it. -/
inductive Echoes : List (Sender × Bus.Message) → List (Sender × Bus.Message) → Prop
  /-- Nothing comes. -/
  | nil : Echoes [] []
  /-- The next message is of the row. -/
  | message {given seen : List (Sender × Bus.Message)} (m : Sender × Bus.Message)
    (h : Echoes given seen) : Echoes (given ++ [m]) (seen ++ [m])
  /-- The next message is a publication that comes back. -/
  | echo {given seen : List (Sender × Bus.Message)} {p : Bus.Publication} (sender : Sender)
      (hp : p ∈ published seen) (h : Echoes given seen) :
    Echoes given (seen ++ [(sender, p.arrival)])

variable {given seen : List (Sender × Bus.Message)}

theorem exists_handle_of_mem_published (hp : p ∈ published seen) :
    ∃ m ∈ seen, p ∈ (handle m.1 m.2).value := by
  rwa [published_eq, List.mem_flatMap] at hp

/-- What comes back adds nothing to any part of the work that idling does not add to. -/
theorem flatMap_run_of_echoes {α : Type} {part : Work (List Bus.Publication) → List α}
    (hidle : part (.idle []) = []) (h : Echoes given seen) :
    (run seen).flatMap part = (run given).flatMap part := by
  induction h with
  | nil => rfl
  | message m _ ih =>
    simp only [run, List.map_append, List.flatMap_append] at ih ⊢
    rw [ih]
  | @echo given seen p sender hp _ ih =>
    -- the last message is left out on the other side, so it must add nothing
    obtain ⟨m, -, hm⟩ := exists_handle_of_mem_published hp
    have hlast : (run [(sender, p.arrival)]).flatMap part = [] := by
      rw [run, List.map_singleton, List.flatMap_singleton, handle_arrival hm, hidle]
    rw [run, List.map_append, List.flatMap_append]
    exact (congrArg₂ (· ++ ·) ih hlast).trans (List.append_nil _)

/-- One row of messages leads to just what another one leads to. -/
structure SameWork (messages others : List (Sender × Bus.Message)) : Prop where
  publications : published messages = published others
  deliveries : ∀ limit, delivered limit messages = delivered limit others
  calls : Worker.calls messages = Worker.calls others
  requests : (run messages).flatMap Work.requests = (run others).flatMap Work.requests
  metrics : (run messages).flatMap Work.metrics = (run others).flatMap Work.metrics

theorem sameWork_of_echoes (h : Echoes given seen) : SameWork seen given where
  publications := flatMap_run_of_echoes rfl h
  deliveries _ := flatMap_run_of_echoes rfl h
  calls := flatMap_run_of_echoes rfl h
  requests := flatMap_run_of_echoes rfl h
  metrics := flatMap_run_of_echoes rfl h

/-- **Subjects for orders lead to the worker, and its own output leads it nowhere.** Whatever the
destination, its subject has four tokens that are not empty, with the channel for the third and a
plain text for the last; the subject for that last token is the same. It falls under the pattern for
orders, is no subject for anything else, and an order under it is carried out. The worker listens to
the subject of a publication of its own only where an asker has named that subject for the answer,
and whatever of its output comes back to it, it does the work that it would have done without. -/
theorem order_subjects_routable (channel : Channel) (destination : String)
    (hechoes : Echoes given seen) :
    (∃ last, Subject.IsOrderSubject channel (Subject.outbound channel destination) last ∧
      ∀ other, Subject.outbound other last = Subject.outbound other destination) ∧
    Subject.takesIn Subject.orderPattern (Subject.outbound channel destination) = true ∧
    Subject.IsApart (Subject.outbound channel destination) ∧
    (∀ sender replyTo o,
      handle sender ⟨Subject.outbound channel destination, replyTo, Json.write o⟩ =
        (carryOut sender o).map fun report => [.ofValue Subject.outcome report]) ∧
    (∀ p ∈ published seen, listensTo p.subject = true →
      ∃ m ∈ seen, m.2.subject = Subject.carrierLookup ∧ m.2.replyTo = some p.subject) ∧
    SameWork seen given := by
  refine ⟨⟨Subject.token destination, ?subject, ?again⟩, ?heard, ?apart, ?carriedOut, ?listens,
    sameWork_of_echoes hechoes⟩
  case subject => exact Subject.isOrderSubject_outbound channel destination
  case again => exact fun other => Subject.outbound_token other destination
  case heard =>
    rw [← Subject.isOutbound_eq_takesIn]
    exact Subject.isOutbound_outbound channel destination
  case apart => exact Subject.isApart_outbound channel destination
  case carriedOut =>
    exact fun sender replyTo o => handle_outbound sender channel destination replyTo o
  case listens =>
    intro p hp hheard
    obtain ⟨m, hm, hpublished⟩ := exists_handle_of_mem_published hp
    exact ⟨m, hm, (publishes_of_mem hpublished).named_by_asker hheard⟩

/-- A question whose asker wants the answer where orders go. -/
def strayQuestion : Sender × Bus.Message :=
  (wordySender, ⟨Subject.carrierLookup, some "telnyx.out.voice.unknown", Json.write testQuery⟩)

/-- The reply to it. -/
def strayReply : Bus.Publication :=
  .ofValue "telnyx.out.voice.unknown" (⟨some ⟨"T-Mobile", "mobile"⟩, none⟩ : CarrierReply)

theorem published_strayQuestion : published [strayQuestion] = [strayReply] := by
  have hread : Json.read CarrierQuery (Json.write testQuery) = some testQuery :=
    Json.read_write (by decide) testQuery
  rw [published_eq, List.flatMap_singleton, handle_carrierLookup rfl]
  show ((answerCarrierQuery wordySender (Json.write testQuery)).map _).value = _
  rw [answerCarrierQuery, hread]
  rfl

/-- **The worker may hear its own output.** It publishes the reply under the subject for orders
without a destination, and listens to that. -/
theorem own_reply_heard :
    published [strayQuestion] = [strayReply] ∧ strayReply.subject = Subject.outbound .voice "" ∧
      Subject.takesIn Subject.orderPattern strayReply.subject = true ∧
      listensTo strayReply.subject = true :=
  ⟨published_strayQuestion, by decide, by decide, by decide⟩

/-- The worker hears its reply where orders go, and publishes nothing more; a number with blanks and
a dot has a subject there, too. -/
theorem order_subjects_routable_spacedNumber :
    Echoes [strayQuestion] [strayQuestion, (wordySender, strayReply.arrival)] ∧
      listensTo strayReply.subject = true ∧
      published [strayQuestion, (wordySender, strayReply.arrival)] = [strayReply] ∧
      Subject.IsOrderSubject .sms "telnyx.out.sms.+1-555-0001" "+1-555-0001" ∧
      Subject.outbound .sms "+1-555-0001" = Subject.outbound .sms " +1 555.0001\t" := by
  have hpublished := published_strayQuestion
  have hreply : strayReply ∈ published [strayQuestion] := by
    rw [hpublished]
    exact List.mem_singleton_self strayReply
  have hgiven : Echoes [strayQuestion] [strayQuestion] := .message strayQuestion .nil
  have hechoes := hgiven.echo wordySender hreply
  obtain ⟨⟨last, hsubject, hagain⟩, -, -, -, -, hwork⟩ :=
    order_subjects_routable .sms " +1 555.0001\t" hechoes
  have houtbound : Subject.outbound .sms " +1 555.0001\t" = "telnyx.out.sms.+1-555-0001" := by
    decide
  rw [houtbound] at hsubject
  have htokens : Subject.tokens "telnyx.out.sms.+1-555-0001" =
      ["telnyx", "out", "sms", "+1-555-0001"] := by decide
  obtain rfl : last = "+1-555-0001" := by
    simpa [Channel.name] using hsubject.tokens_eq.symm.trans htokens
  exact ⟨hechoes, by decide, hwork.publications.trans hpublished, hsubject, hagain .sms⟩

end Worker
end AlertLine
