import AlertLine.Proofs.Reply.Grammar
import AlertLine.Proofs.Webhook.Gate
import AlertLine.Proofs.Webhook.Writes
import AlertLine.Webhook.Messages

/-!
# What an event about a message does

An event does one of six things (`Webhook.outcome_handleEvent`). What it leaves in a ledger follows
from that case by case: a confirmation stands behind the write that it confirms
(`Webhook.confirmed_after_effect`).
-/

namespace AlertLine

/-! ## Events -/

/-- A reply that asks for no action and has an answer is one that could not be read. -/
theorem Reply.eq_badReference {r : Reply} {text : String} (haction : r.action = none)
    (htext : r.confirmation = some text) : r = .badReference := by
  cases r with
  | acknowledge alertId => cases haction
  | close alertId => cases haction
  | unsubscribe => cases haction
  | resubscribe => cases haction
  | badReference => rfl
  | unknown => cases htext

namespace MessageEvent

variable {e : MessageEvent} {number : String}

/-- Whether the event reports how a delivery goes on. -/
def IsReport (e : MessageEvent) : Prop :=
  e.eventType ∈ ["message.sent", "message.finalized", "message.delivered"]

/-- The text of the message; empty if there is none. -/
def body (e : MessageEvent) : String := e.message.text.getD ""

/-- Whether the event is a text that came from a number. -/
structure IsTextFrom (e : MessageEvent) (number : String) : Prop where
  received : e.eventType = "message.received"
  sender : e.message.senderNumber? = some number
  known : number ≠ ""

/-- Whether a received text asks for an action: the kind and the alert are those of the text, the
number is the sender's, and the message is named as the source. -/
structure Asks (e : MessageEvent) (a : AlertAction) : Prop where
  text : e.IsTextFrom a.phoneNumber
  action : e.reply.action = some (a.kind, a.alertId)
  source : a.source = .sms e.message.id

/-- A text asks for one action at most. -/
theorem Asks.unique {a a' : AlertAction} (h : e.Asks a) (h' : e.Asks a') : a = a' := by
  have haction := h.action.symm.trans h'.action
  have hnumber := h.text.sender.symm.trans h'.text.sender
  have hsource := h.source.trans h'.source.symm
  rw [Option.some.injEq] at haction hnumber
  rw [Prod.mk.injEq] at haction
  obtain ⟨kind, alertId, number, source⟩ := a
  rw [AlertAction.mk.injEq]
  exact ⟨haction.1, haction.2, hnumber, hsource⟩

/-- A report is no text. -/
theorem IsReport.not_received (h : e.IsReport) : e.eventType ≠ "message.received" := by
  intro hreceived
  rw [IsReport, hreceived] at h
  revert h
  decide

/-- What a text asks for is what its normal form means. -/
theorem reply_eq_iff {r : Reply} : e.reply = r ↔ Reply.Means (Reply.normalForm e.body) r :=
  Reply.ofText_eq_iff

theorem sender?_eq_some_iff :
    e.sender? = some number ↔ e.message.senderNumber? = some number ∧ number ≠ "" := by
  rw [sender?, Option.filter_eq_some_iff, Bool.not_eq_true', ← Bool.not_eq_true,
    String.isEmpty_iff]

/-! ### Routes -/

theorem route_of_received (h : e.eventType = "message.received") : e.route = .reply := by
  simp only [route, h]

theorem route_of_report (h : e.IsReport) : e.route = .status := by
  rw [IsReport, List.mem_cons, List.mem_cons, List.mem_singleton] at h
  rcases h with h | h | h <;> simp only [route, h]

theorem route_of_other (hreceived : e.eventType ≠ "message.received") (hreport : ¬ e.IsReport) :
    e.route = .ignore := by
  rw [IsReport, List.mem_cons, List.mem_cons, List.mem_singleton] at hreport
  unfold route
  split <;> simp_all

end MessageEvent

/-! ## Outcomes -/

namespace Webhook

/-- What becomes of an event. -/
inductive Outcome (h : Host) (e : MessageEvent) : Handling → Prop
  /-- The event is about something else. -/
  | ignored (hreceived : e.eventType ≠ "message.received") (hreport : ¬ e.IsReport) :
    Outcome h e (.done [])
  /-- A delivery goes on. -/
  | reported (hreport : e.IsReport) : Outcome h e (.done (h.writeStatus e.statusUpdate).2)
  /-- A text came from nowhere. -/
  | anonymous (hreceived : e.eventType = "message.received")
      (hnumber : ∀ number, ¬ e.IsTextFrom number) : Outcome h e (.done [])
  /-- A text asks for no action. -/
  | unasked {number : String} (htext : e.IsTextFrom number) (haction : e.reply.action = none) :
    Outcome h e (confirm h number e.reply)
  /-- A text asks for an action, and it is not taken. -/
  | refused {a : AlertAction} (hasks : e.Asks a) (hrefused : h.recordAction a ≠ .done ()) :
    Outcome h e (.done [.wroteAction a false, .counted (.writeFailed .action)])
  /-- A text asks for an action, and it is taken. -/
  | taken {a : AlertAction} (hasks : e.Asks a) (hdone : h.recordAction a = .done ()) :
    Outcome h e ((confirm h a.phoneNumber e.reply).after [.wroteAction a true])

variable (h : Host) (e : MessageEvent)

theorem outcome_handleReply (hreceived : e.eventType = "message.received") :
    Outcome h e (handleReply h e) := by
  rw [handleReply]
  cases hsender : e.sender? with
  | none =>
    refine .anonymous hreceived fun number hnumber => ?_
    rw [MessageEvent.sender?_eq_some_iff.2 ⟨hnumber.sender, hnumber.known⟩] at hsender
    cases hsender
  | some number =>
    obtain ⟨hnumber, hknown⟩ := MessageEvent.sender?_eq_some_iff.1 hsender
    have htext : e.IsTextFrom number := ⟨hreceived, hnumber, hknown⟩
    cases haction : e.reply.action with
    | none =>
      dsimp only
      exact .unasked htext haction
    | some asked =>
      obtain ⟨kind, alertId⟩ := asked
      have hasks : e.Asks ⟨kind, alertId, number, .sms e.message.id⟩ := ⟨htext, haction, rfl⟩
      rcases h.writeAction_cases ⟨kind, alertId, number, .sms e.message.id⟩ with
        ⟨hdone, hwrite⟩ | ⟨hrefused, hwrite⟩
      · simp only [hwrite, if_true]
        have htaken := Outcome.taken hasks hdone
        exact htaken
      · simp only [hwrite, if_false, Bool.false_eq_true]
        exact .refused hasks hrefused

/-- **What becomes of an event**, by what it is about and what is answered to its write. -/
theorem outcome_handleEvent : Outcome h e (handleEvent h e) := by
  rw [handleEvent]
  by_cases hreceived : e.eventType = "message.received"
  · rw [MessageEvent.route_of_received hreceived]
    exact outcome_handleReply h e hreceived
  · by_cases hreport : e.IsReport
    · rw [MessageEvent.route_of_report hreport]
      exact .reported hreport
    · rw [MessageEvent.route_of_other hreceived hreport]
      exact .ignored hreceived hreport

/-! ## Confirmations -/

section Confirm

variable {h e} {r : Reply} {number text : String}

theorem confirm_of_some (hr : r.confirmation = some text) :
    confirm h number r = h.reply number text := by
  rw [confirm, hr]

theorem confirm_of_none (hr : r.confirmation = none) : confirm h number r = .done [] := by
  rw [confirm, hr]

theorem actions_confirm : (Ledger.of (confirm h number r).effects).actions = [] := by
  cases hr : r.confirmation with
  | none => rw [confirm_of_none hr]; rfl
  | some text => rw [confirm_of_some hr, Host.actions_reply]

theorem statuses_confirm : (Ledger.of (confirm h number r).effects).statuses = [] := by
  cases hr : r.confirmation with
  | none => rw [confirm_of_none hr]; rfl
  | some text => rw [confirm_of_some hr, Host.statuses_reply]

theorem replies_confirm :
    (Ledger.of (confirm h number r).effects).replies =
      (r.confirmation.map fun text =>
        (number, text, (h.sendText number text).succeeded)).toList := by
  cases hr : r.confirmation with
  | none => rw [confirm_of_none hr]; rfl
  | some text => rw [confirm_of_some hr, Host.replies_reply]; rfl

/-! A confirmation behind an action that was taken. -/

variable {a : AlertAction}

theorem actions_taken :
    (Ledger.of ((confirm h number r).after [.wroteAction a true]).effects).actions =
      [(a, true)] := by
  rw [Handling.effects_after_singleton, Ledger.actions_wroteAction, actions_confirm]

theorem replies_taken :
    (Ledger.of ((confirm h number r).after [.wroteAction a true]).effects).replies =
      (Ledger.of (confirm h number r).effects).replies := by
  rw [Handling.effects_after_singleton, Ledger.replies_wroteAction]

end Confirm

/-! ## Ledgers of events -/

namespace Outcome

variable {h e} {w : Handling}

/-- The ledger of an outcome has one write at most. -/
theorem writes_le_one (ho : Outcome h e w) :
    (Ledger.of w.effects).actions.length + (Ledger.of w.effects).statuses.length ≤ 1 := by
  cases ho with
  | ignored => exact Nat.zero_le 1
  | reported =>
    rw [Handling.effects_done, Host.actions_writeStatus, Host.statuses_writeStatus]
    rfl
  | anonymous => exact Nat.zero_le 1
  | unasked => rw [actions_confirm, statuses_confirm]; exact Nat.zero_le 1
  | refused => exact Nat.le_refl 1
  | taken =>
    rw [actions_taken, Handling.effects_after_singleton, Ledger.statuses_wroteAction,
      statuses_confirm]
    exact Nat.le_refl 1

/-- The work on an event comes to its end exactly if the sender comes back from its reply. -/
theorem ends_eq (ho : Outcome h e w) : w.ends = h.comesBack (Ledger.of w.effects) := by
  have hconfirm (number : String) : (confirm h number e.reply).ends =
      h.comesBack (Ledger.of (confirm h number e.reply).effects) := by
    cases hr : e.reply.confirmation with
    | none => rw [confirm_of_none hr]; rfl
    | some text => rw [confirm_of_some hr]; exact h.ends_reply number text
  cases ho with
  | ignored => rfl
  | reported =>
    rw [Handling.effects_done, Host.comesBack, Host.replies_writeStatus]
    rfl
  | anonymous => rfl
  | unasked => exact hconfirm _
  | refused => rfl
  | taken =>
    rw [Handling.ends_after, hconfirm]
    exact h.comesBack_of_replies replies_taken.symm

/-- What becomes of a text that asks for an action. -/
theorem of_asks (ho : Outcome h e w) {a : AlertAction} (hasks : e.Asks a) :
    h.recordAction a = .done () ∧
        w = (confirm h a.phoneNumber e.reply).after [.wroteAction a true] ∨
      h.recordAction a ≠ .done () ∧
        w = .done [.wroteAction a false, .counted (.writeFailed .action)] := by
  cases ho with
  | ignored hreceived => exact absurd hasks.text.received hreceived
  | reported hreport => exact absurd hasks.text.received hreport.not_received
  | anonymous _ hnumber => exact absurd hasks.text (hnumber _)
  | unasked _ haction =>
    rw [hasks.action] at haction
    cases haction
  | refused hasks' hrefused =>
    obtain rfl := hasks.unique hasks'
    exact .inr ⟨hrefused, rfl⟩
  | taken hasks' hdone =>
    obtain rfl := hasks.unique hasks'
    exact .inl ⟨hdone, rfl⟩

theorem asks_of_mem_actions (ho : Outcome h e w) {a : AlertAction} {taken : Bool}
    (hmem : (a, taken) ∈ (Ledger.of w.effects).actions) : e.Asks a := by
  cases ho with
  | ignored => exact absurd hmem List.not_mem_nil
  | reported =>
    rw [Handling.effects_done, Host.actions_writeStatus] at hmem
    exact absurd hmem List.not_mem_nil
  | anonymous => exact absurd hmem List.not_mem_nil
  | unasked =>
    rw [actions_confirm] at hmem
    exact absurd hmem List.not_mem_nil
  | refused hasks =>
    cases List.mem_singleton.1 hmem
    exact hasks
  | taken hasks =>
    rw [actions_taken] at hmem
    cases List.mem_singleton.1 hmem
    exact hasks

/-- A ledger has the action that is asked for, and it was taken if the other side says so. -/
theorem mem_actions (ho : Outcome h e w) {a : AlertAction} {taken : Bool} :
    (a, taken) ∈ (Ledger.of w.effects).actions ↔
      e.Asks a ∧ (taken = true ↔ h.recordAction a = .done ()) := by
  refine ⟨fun hmem => ?_, ?_⟩
  · have hasks := ho.asks_of_mem_actions hmem
    refine ⟨hasks, ?_⟩
    rcases ho.of_asks hasks with ⟨hdone, rfl⟩ | ⟨hrefused, rfl⟩
    · rw [actions_taken] at hmem
      cases List.mem_singleton.1 hmem
      simp [hdone]
    · cases List.mem_singleton.1 hmem
      simp [hrefused]
  · rintro ⟨hasks, htaken⟩
    rcases ho.of_asks hasks with ⟨hdone, rfl⟩ | ⟨hrefused, rfl⟩
    · rw [htaken.2 hdone]
      exact List.mem_cons_self
    · have hfalse : taken = false := by simpa [hrefused] using htaken
      rw [hfalse]
      exact List.mem_cons_self

/-- The ledger of an outcome has one reply at most. -/
theorem replies_le_one (ho : Outcome h e w) : (Ledger.of w.effects).replies.length ≤ 1 := by
  have hconfirm (number : String) :
      (Ledger.of (confirm h number e.reply).effects).replies.length ≤ 1 := by
    rw [replies_confirm]
    exact Option.length_toList_le
  cases ho with
  | ignored => exact Nat.zero_le 1
  | reported =>
    rw [Handling.effects_done, Host.replies_writeStatus]
    exact Nat.zero_le 1
  | anonymous => exact Nat.zero_le 1
  | unasked => exact hconfirm _
  | refused => exact Nat.zero_le 1
  | taken =>
    rw [replies_taken]
    exact hconfirm _

/-- A reply goes to who sent the text and is the confirmation of what was taken, or the text could
not be read. -/
theorem of_mem_replies (ho : Outcome h e w) {number text : String} {sent : Bool}
    (hmem : (number, text, sent) ∈ (Ledger.of w.effects).replies) :
    e.IsTextFrom number ∧ e.reply.confirmation = some text ∧
      ((∃ a, e.Asks a ∧ h.recordAction a = .done () ∧
          w = (h.reply number text).after [.wroteAction a true]) ∨
        e.reply = .badReference ∧ w = h.reply number text) := by
  have hconfirm {origin : String}
      (hmem : (number, text, sent) ∈ (Ledger.of (confirm h origin e.reply).effects).replies) :
      origin = number ∧ e.reply.confirmation = some text := by
    rw [replies_confirm, Option.mem_toList, Option.map_eq_some_iff] at hmem
    obtain ⟨text', htext', heq⟩ := hmem
    cases heq
    exact ⟨rfl, htext'⟩
  cases ho with
  | ignored => exact absurd hmem List.not_mem_nil
  | reported =>
    rw [Handling.effects_done, Host.replies_writeStatus] at hmem
    exact absurd hmem List.not_mem_nil
  | anonymous => exact absurd hmem List.not_mem_nil
  | unasked hfrom haction =>
    obtain ⟨rfl, htext⟩ := hconfirm hmem
    exact ⟨hfrom, htext, .inr ⟨Reply.eq_badReference haction htext, confirm_of_some htext⟩⟩
  | refused => exact absurd hmem List.not_mem_nil
  | @taken a hasks hdone =>
    rw [replies_taken] at hmem
    obtain ⟨rfl, htext⟩ := hconfirm hmem
    refine ⟨hasks.text, htext, .inl ⟨a, hasks, hdone, ?_⟩⟩
    rw [confirm_of_some htext]

/-- Behind a write that was not taken there is no reply. -/
theorem replies_of_refused (ho : Outcome h e w) {a : AlertAction}
    (hmem : (a, false) ∈ (Ledger.of w.effects).actions) : (Ledger.of w.effects).replies = [] := by
  rw [List.eq_nil_iff_forall_not_mem]
  rintro ⟨number, text, sent⟩ hreply
  rcases (ho.of_mem_replies hreply).2.2 with ⟨b, -, -, rfl⟩ | ⟨-, rfl⟩
  · rw [Handling.effects_after_singleton, Ledger.actions_wroteAction,
      Host.actions_reply, List.mem_singleton] at hmem
    cases hmem
  · rw [Host.actions_reply] at hmem
    cases hmem

theorem replies_of_unconfirmed (ho : Outcome h e w) (hnone : e.reply.confirmation = none) :
    (Ledger.of w.effects).replies = [] := by
  rw [List.eq_nil_iff_forall_not_mem]
  rintro ⟨number, text, sent⟩ hreply
  have hsome := (ho.of_mem_replies hreply).2.1
  rw [hnone] at hsome
  cases hsome

/-- What was taken is confirmed to who asked for it. -/
theorem eq_of_taken (ho : Outcome h e w) {a : AlertAction} {text : String} (hasks : e.Asks a)
    (hdone : h.recordAction a = .done ()) (htext : e.reply.confirmation = some text) :
    w = (h.reply a.phoneNumber text).after [.wroteAction a true] := by
  rcases ho.of_asks hasks with ⟨-, heffects⟩ | ⟨hrefused, -⟩
  · rw [heffects, confirm_of_some htext]
  · exact absurd hdone hrefused

/-- What is neither a report nor a text from somewhere does nothing. -/
theorem eq_done_nil (ho : Outcome h e w) (htext : ∀ number, ¬ e.IsTextFrom number)
    (hreport : ¬ e.IsReport) : w = .done [] := by
  cases ho with
  | ignored => rfl
  | reported hreport' => exact absurd hreport' hreport
  | anonymous => rfl
  | unasked htext' => exact absurd htext' (htext _)
  | refused hasks => exact absurd hasks.text (htext _)
  | taken hasks => exact absurd hasks.text (htext _)

end Outcome

/-! ## Confirmations -/

theorem handleEvent_of_report (hreport : e.IsReport) :
    handleEvent h e = .done (h.writeStatus e.statusUpdate).2 := by
  rw [handleEvent, MessageEvent.route_of_report hreport]

open Reply in
/-- **A text is answered only after it took effect.** An event makes one write and one reply at
most. The action that is written is the one that the text asks for; what is not taken is not
confirmed, and what is taken is confirmed to who asked for it. Besides, only a command whose number
is out of range is answered, and nothing is written for it. A report makes one status update, and
any other event nothing at all. -/
theorem confirmed_after_effect (h : Host) (e : MessageEvent) :
    (Ledger.of (handleEvent h e).effects).actions.length +
        (Ledger.of (handleEvent h e).effects).statuses.length ≤ 1 ∧
    (Ledger.of (handleEvent h e).effects).replies.length ≤ 1 ∧
    (∀ a taken, (a, taken) ∈ (Ledger.of (handleEvent h e).effects).actions ↔
      e.Asks a ∧ (taken = true ↔ h.recordAction a = .done ())) ∧
    (∀ number text sent, (number, text, sent) ∈ (Ledger.of (handleEvent h e).effects).replies →
      e.IsTextFrom number ∧ e.reply.confirmation = some text ∧
        ((∃ a, e.Asks a ∧ h.recordAction a = .done () ∧
            handleEvent h e = (h.reply number text).after [.wroteAction a true]) ∨
          (∃ n, 9223372036854775807 < n ∧
            IsNumbered (acknowledgeWords ++ closeWords) (normalForm e.body) n) ∧
            (Ledger.of (handleEvent h e).effects).actions = [])) ∧
    (∀ a text, e.Asks a → h.recordAction a = .done () → e.reply.confirmation = some text →
      handleEvent h e = (h.reply a.phoneNumber text).after [.wroteAction a true]) ∧
    (∀ a, (a, false) ∈ (Ledger.of (handleEvent h e).effects).actions →
      (Ledger.of (handleEvent h e).effects).replies = []) ∧
    (normalForm e.body ∈ stopWords ∨ Means (normalForm e.body) .unknown →
      (Ledger.of (handleEvent h e).effects).replies = []) ∧
    (e.IsReport →
      (∃ taken, (Ledger.of (handleEvent h e).effects).statuses = [(e.statusUpdate, taken)] ∧
        (taken = true ↔ h.recordStatus e.statusUpdate = .done ())) ∧
      (Ledger.of (handleEvent h e).effects).actions = [] ∧
        (Ledger.of (handleEvent h e).effects).replies = []) ∧
    (e.eventType ≠ "message.received" → ¬ e.IsReport → handleEvent h e = .done []) ∧
    (e.eventType = "message.received" →
      e.message.senderNumber? = none ∨ e.message.senderNumber? = some "" →
      handleEvent h e = .done []) := by
  have ho := outcome_handleEvent h e
  refine ⟨ho.writes_le_one, ho.replies_le_one, fun a taken => ho.mem_actions, ?_,
    fun a text => ho.eq_of_taken, fun a => ho.replies_of_refused, ?_, ?_, ?_, ?_⟩
  · intro number text sent hmem
    obtain ⟨hfrom, htext, htaken | ⟨hreply, heq⟩⟩ := ho.of_mem_replies hmem
    · exact ⟨hfrom, htext, .inl htaken⟩
    · refine ⟨hfrom, htext, .inr ⟨?_, ?_⟩⟩
      · cases MessageEvent.reply_eq_iff.1 hreply with
        | badReference hn hnumbered => exact ⟨_, hn, hnumbered⟩
      · rw [heq, Host.actions_reply]
  · intro hsilent
    apply ho.replies_of_unconfirmed
    rcases hsilent with hstop | hunknown
    · rw [MessageEvent.reply_eq_iff.2 (.stop hstop)]
      rfl
    · rw [MessageEvent.reply_eq_iff.2 hunknown]
      rfl
  · intro hreport
    rw [handleEvent_of_report h e hreport, Handling.effects_done, Host.statuses_writeStatus,
      Host.actions_writeStatus, Host.replies_writeStatus]
    exact ⟨⟨_, rfl, h.writeStatus_iff _⟩, rfl, rfl⟩
  · intro hreceived hreport
    exact ho.eq_done_nil (fun number htext => hreceived htext.received) hreport
  · intro hreceived hsender
    refine ho.eq_done_nil ?_ fun hreport => hreport.not_received hreceived
    intro number htext
    have hnumber := htext.sender
    rcases hsender with hsender | hsender
    · rw [hsender] at hnumber
      cases hnumber
    · rw [hsender] at hnumber
      cases hnumber
      exact htext.known rfl

/-- A text from a number. -/
def textFrom (number text : String) : MessageEvent where
  eventType := "message.received"
  id := none
  message := ⟨"m1", some (.number number), none, some text, none⟩

/-- A number in front of the word is the alert, and once the action was taken the sender is told. A
stop is taken and not answered, and a text without a sender's number does nothing. -/
theorem confirmed_after_effect_writableHost :
    handleEvent writableHost (textFrom "+15550000002" " 42 ACK") =
        (writableHost.reply "+15550000002" "Acknowledged alert #42.").after
          [.wroteAction ⟨.acknowledge, some 42, "+15550000002", .sms "m1"⟩ true] ∧
      (⟨.unsubscribe, none, "+15550000002", .sms "m1"⟩, true) ∈
        (Ledger.of (handleEvent writableHost (textFrom "+15550000002" "Stop")).effects).actions ∧
      (Ledger.of (handleEvent writableHost (textFrom "+15550000002" "Stop")).effects).replies = [] ∧
      handleEvent writableHost (textFrom "" "ack") = .done [] := by
  obtain ⟨-, -, -, -, htaken, -⟩ :=
    confirmed_after_effect writableHost (textFrom "+15550000002" " 42 ACK")
  obtain ⟨-, -, hactions, -, -, -, hsilent, -⟩ :=
    confirmed_after_effect writableHost (textFrom "+15550000002" "Stop")
  obtain ⟨-, -, -, -, -, -, -, -, -, hanonymous⟩ :=
    confirmed_after_effect writableHost (textFrom "" "ack")
  have hfrom (text : String) : (textFrom "+15550000002" text).IsTextFrom "+15550000002" :=
    ⟨rfl, rfl, by decide⟩
  refine ⟨?_, ?_, ?_, ?_⟩
  · exact htaken ⟨.acknowledge, some 42, "+15550000002", .sms "m1"⟩ _
      ⟨hfrom _, by decide +kernel, rfl⟩ rfl (by decide +kernel)
  · exact (hactions _ _).2 ⟨⟨hfrom _, by decide +kernel, rfl⟩, by simp [writableHost]⟩
  · exact hsilent (.inl (by decide +kernel))
  · exact hanonymous rfl (.inr rfl)

/-! ## A text that is received -/

/-- The document of an event about the text. -/
def textDocument (number text : String) : Json :=
  .obj [("data", .obj [("event_type", .ofString "message.received"),
    ("payload", .obj [("id", .ofString "m1"), ("from", .ofString number),
      ("text", .ofString text)])])]

/-- The text that acknowledges alert 42, signed by the sender. -/
def textRequest : Request :=
  ⟨"POST", "/telnyx/sms", none,
    signedWith
      "+ni4KlBSevvYsp6163ubkyvYY/fZEZIbT81+AasAJhF/uFvqo8TPXqio6i1XehE74FTaV//nSIi6bGxDJAuVAg=="
      "1700000000",
    (textDocument "+15550000002" "ack 42").bytes⟩

/-- It comes in while an alerting system answers. -/
def textReceived (h : Host) : Visit := ⟨h, 1700000000, "1", textRequest⟩

/-- An alerting system whose sender never comes back. -/
def stalledSender : Host := { writableHost with sendText := fun _ _ => .endless [] }

theorem rejection?_textRequest : rejection? keyedLine 1700000000 textRequest = none := by
  decide +kernel

end Webhook
end AlertLine
