import AlertLine.Proofs.Reply.OwnTexts
import AlertLine.Proofs.Webhook.Messages

/-!
# No end of answers

What the line sends does nothing when it comes back (`handleEvent_of_unknown`). So whoever passes
texts on, each text that reaches a line leaves less to be answered (`Hop.potential_lt`), and an
exchange of texts comes to an end (`Exchange.length_le`).
-/

namespace AlertLine.Webhook

open Text

variable {h : Host} {e : MessageEvent}

/-! ## Texts that are not understood -/

theorem Outcome.eq_done_of_unknown {w : Handling} (ho : Outcome h e w)
    (hreceived : e.eventType = "message.received") (hreply : e.reply = .unknown) :
    w = .done [] := by
  have haction : e.reply.action = none := by rw [hreply]; rfl
  cases ho with
  | ignored => rfl
  | reported hreport => exact absurd hreceived hreport.not_received
  | anonymous => rfl
  | unasked => exact confirm_of_none (by rw [hreply]; rfl)
  | refused hasks =>
    rw [hasks.action] at haction
    cases haction
  | taken hasks =>
    rw [hasks.action] at haction
    cases haction

/-- A text that is not understood does nothing. -/
theorem handleEvent_of_unknown (h : Host) (hreceived : e.eventType = "message.received")
    (hreply : e.reply = .unknown) : handleEvent h e = .done [] :=
  (outcome_handleEvent h e).eq_done_of_unknown hreceived hreply

/-! ## Answers -/

/-- The texts that go out for an event. -/
def answers (h : Host) (e : MessageEvent) : List String :=
  (Ledger.of (handleEvent h e).effects).replies.map fun r => cutToSms r.2.1

theorem length_answers_le (h : Host) (e : MessageEvent) : (answers h e).length ≤ 1 := by
  rw [answers, List.length_map]
  exact (outcome_handleEvent h e).replies_le_one

/-- An answer is one of the line's own texts. -/
theorem isOwnText_of_mem_answers {text : String} (ht : text ∈ answers h e) : IsOwnText text := by
  rw [answers, List.mem_map] at ht
  obtain ⟨⟨number, confirmation, sent⟩, hmem, rfl⟩ := ht
  have hconfirmation := ((outcome_handleEvent h e).of_mem_replies hmem).2.1
  show IsOwnText (cutToSms confirmation)
  rw [cutToSms_confirmation hconfirmation]
  exact .confirmation hconfirmation

theorem answers_of_unknown (h : Host) (hreceived : e.eventType = "message.received")
    (hreply : e.reply = .unknown) : answers h e = [] := by
  rw [answers, handleEvent_of_unknown h hreceived hreply]
  rfl

/-! ## Exchanges -/

/-- One of the texts in flight reaches a line, perhaps respelled on its way, and what the line
answers is in flight in its place. Who passes the text on, under which number and to which line is
left open. -/
inductive Hop : List String → List String → Prop
  | received {before after : List String} {text : String} (h : Host) {e : MessageEvent}
      (hreceived : e.eventType = "message.received") (hbody : Respelled text e.body) :
    Hop (before ++ text :: after) (before ++ answers h e ++ after)

/-- So many hops, one after the other. -/
inductive Exchange : ℕ → List String → List String → Prop
  | start (ts : List String) : Exchange 0 ts ts
  | hop {k : ℕ} {ts us vs : List String} (hrun : Exchange k ts us) (hhop : Hop us vs) :
    Exchange (k + 1) ts vs

/-- What is left to be answered: each text counts, and one that would be understood counts twice. -/
def potential (ts : List String) : ℕ :=
  ts.length + ts.countP fun text => Reply.ofText text ≠ .unknown

theorem potential_append (ts us : List String) :
    potential (ts ++ us) = potential ts + potential us := by
  rw [potential, potential, potential, List.length_append, List.countP_append]
  omega

theorem potential_le (ts : List String) : potential ts ≤ 2 * ts.length := by
  have hcount := List.countP_le_length (p := fun text => Reply.ofText text ≠ .unknown) (l := ts)
  rw [potential]
  omega

/-- The line's own texts are not answered, so each counts once. -/
theorem potential_of_own {ts : List String} (hown : ∀ text ∈ ts, IsOwnText text) :
    potential ts = ts.length := by
  have hcount : (ts.countP fun text => Reply.ofText text ≠ .unknown) = 0 := by
    rw [List.countP_eq_zero]
    intro text htext
    simpa using (hown text htext).ofText_eq_unknown (.refl text)
  rw [potential, hcount, Nat.add_zero]

/-- **A text that reaches a line leaves less to be answered.** -/
theorem Hop.potential_lt {ts us : List String} (hhop : Hop ts us) :
    potential us < potential ts := by
  cases hhop with
  | @received before after text h e hreceived hbody =>
    have hreply : e.reply = Reply.ofText text := Reply.ofText_of_respelled hbody
    have hanswers : potential (answers h e) < potential [text] := by
      rw [potential_of_own fun _ ht => isOwnText_of_mem_answers ht]
      by_cases hunknown : Reply.ofText text = .unknown
      · rw [answers_of_unknown h hreceived (hreply.trans hunknown)]
        simp [potential, hunknown]
      · have hlength := length_answers_le h e
        have htext : potential [text] = 2 := by simp [potential, hunknown]
        omega
    rw [← List.singleton_append, potential_append, potential_append, potential_append,
      potential_append]
    omega

/-- Texts of the line's own are not answered. -/
theorem Hop.own {ts us : List String} (hhop : Hop ts us) (hown : ∀ text ∈ ts, IsOwnText text) :
    (∀ text ∈ us, IsOwnText text) ∧ us.length + 1 = ts.length := by
  cases hhop with
  | @received before after text h e hreceived hbody =>
    have hreply : e.reply = .unknown :=
      (hown text (by simp)).ofText_eq_unknown hbody
    rw [answers_of_unknown h hreceived hreply, List.append_nil]
    refine ⟨?_, by simp; omega⟩
    intro text' htext'
    refine hown text' ?_
    rw [List.mem_append] at htext' ⊢
    exact htext'.imp_right (List.mem_cons_of_mem text)

/-- **An exchange of texts comes to an end.** -/
theorem Exchange.length_le {k : ℕ} {ts us : List String} (hrun : Exchange k ts us) :
    k + potential us ≤ potential ts := by
  induction hrun with
  | start ts => omega
  | hop hrun hhop ih =>
    have hlt := hhop.potential_lt
    omega

/-- In an exchange of the line's own texts each hop is the last of its text. -/
theorem Exchange.own {k : ℕ} {ts us : List String} (hrun : Exchange k ts us)
    (hown : ∀ text ∈ ts, IsOwnText text) :
    (∀ text ∈ us, IsOwnText text) ∧ us.length + k = ts.length := by
  induction hrun with
  | start ts => exact ⟨hown, Nat.add_zero _⟩
  | hop hrun hhop ih =>
    obtain ⟨hus, hlength⟩ := ih hown
    obtain ⟨hvs, hnext⟩ := hhop.own hus
    exact ⟨hvs, by omega⟩

/-- **No reply loop.** Whatever the line sends by text message it does not understand when it comes
back, respelled or not, and does nothing then. So no exchange goes on: each text in flight is good
for two hops at most, and one of the line's own for a single one. -/
theorem no_reply_loop :
    (∀ text body, IsOwnText text → Respelled text body → Reply.ofText body = .unknown) ∧
    (∀ (h : Host) (e : MessageEvent) (text : String), e.eventType = "message.received" →
      IsOwnText text → Respelled text e.body → handleEvent h e = .done []) ∧
    (∀ k ts us, Exchange k ts us → k ≤ 2 * ts.length) ∧
    (∀ k ts us, (∀ text ∈ ts, IsOwnText text) → Exchange k ts us → us.length + k = ts.length) := by
  refine ⟨fun text body hown => hown.ofText_eq_unknown, ?_, ?_, ?_⟩
  · intro h e text hreceived hown hbody
    exact handleEvent_of_unknown h hreceived (hown.ofText_eq_unknown hbody)
  · intro k ts us hrun
    have hlength := hrun.length_le
    have hpotential := potential_le ts
    omega
  · intro k ts us hown hrun
    exact (hrun.own hown).2

/-- A command is confirmed and the confirmation is not answered, so two hops are reached. An alert
whose summary reads like a command comes back to no effect. -/
theorem no_reply_loop_ack :
    Exchange 2 ["ack"] [] ∧ 2 ≤ 2 * ["ack"].length ∧
      ([] : List String).length + 1 = ["Acknowledged."].length ∧
      Reply.ofText " ALERT\t#42: Close 7 " = .unknown ∧
      handleEvent writableHost (textFrom "+15550000003" " ALERT\t#42: Close 7 ") = .done [] := by
  have hop (text : String) : Hop [text] (answers writableHost (textFrom "+15550000003" text)) := by
    have hbody : Respelled text (textFrom "+15550000003" text).body := .refl text
    have hhop := @Hop.received [] [] text writableHost _ rfl hbody
    simpa only [List.nil_append, List.append_nil] using hhop
  have hack : Hop ["ack"] ["Acknowledged."] := by
    have hanswers : answers writableHost (textFrom "+15550000003" "ack") = ["Acknowledged."] := by
      decide +kernel
    have hhop := hop "ack"
    rwa [hanswers] at hhop
  have hecho : Hop ["Acknowledged."] [] := by
    have hanswers : answers writableHost (textFrom "+15550000003" "Acknowledged.") = [] := by
      decide +kernel
    have hhop := hop "Acknowledged."
    rwa [hanswers] at hhop
  have hrun : Exchange 2 ["ack"] [] := .hop (.hop (.start _) hack) hecho
  have hown : ∀ text ∈ ["Acknowledged."], IsOwnText text := by
    intro text htext
    rw [List.mem_singleton.1 htext]
    exact .confirmation (r := .acknowledge none) rfl
  have halert : IsOwnText (cutToSms (Notification.alert 42 "close 7" "").smsText) :=
    .notification _
  have hbody : Respelled (cutToSms (Notification.alert 42 "close 7" "").smsText)
      " ALERT\t#42: Close 7 " :=
    ⟨_, spaced_wordsOf _, by decide +kernel⟩
  obtain ⟨hunknown, hnothing, hends, hdone⟩ := no_reply_loop
  exact ⟨hrun, hends _ _ _ hrun, hdone _ _ _ hown (.hop (.start _) hecho),
    hunknown _ _ halert hbody, hnothing _ _ _ rfl halert hbody⟩

end AlertLine.Webhook
