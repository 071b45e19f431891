import AlertLine.Proofs.Provider.Dispatch
import AlertLine.Proofs.Webhook.Calls
import AlertLine.Webhook.Router

/-!
# Answers depend on answers

A request is answered by what the alerting system gives, and by nothing else: how it fails, with an
error or by staying silent, makes no difference to what is said, done or counted. The sender of
texts has no time limit, so whether it comes back does make one, to what is said: a webhook whose
sender stalls has done and counted what it would have with one that fails, but is not answered
(`Webhook.answer_congr_of_failsAlike`). What a sender counts on its own may be looked at or not
(`SeenAlike`).
-/

namespace AlertLine

/-! ## What is seen of an answer -/

/-- Whether an effect is seen, if only certain counts are. -/
def Effect.isSeen (sees : Metric → Bool) : Effect → Bool
  | .counted m => sees m
  | _ => true

/-- Two answers are the same if their senders come back alike, and have the same effects anyway but
for counts that are not seen. -/
structure SeenAlike {α : Type} (sees : Metric → Bool) (comesBack : Prop)
    (x x' : α × List Effect) : Prop where
  value : comesBack → x.1 = x'.1
  effects : x.2.filter (Effect.isSeen sees) = x'.2.filter (Effect.isSeen sees)

theorem SeenAlike.refl {α : Type} (sees : Metric → Bool) (comesBack : Prop)
    (x : α × List Effect) : SeenAlike sees comesBack x x := ⟨fun _ => rfl, rfl⟩

/-- Who sees all counts tells any two answers apart. -/
theorem SeenAlike.eq {α : Type} {comesBack : Prop} {x x' : α × List Effect}
    (h : SeenAlike (fun _ => true) comesBack x x') (hcomesBack : comesBack) : x = x' := by
  have hall (es : List Effect) : es.filter (Effect.isSeen fun _ => true) = es := by
    rw [List.filter_eq_self]
    intro e _
    cases e <;> rfl
  refine Prod.ext (h.value hcomesBack) ?_
  rw [← hall x.2, h.effects, hall]

/-! ## Failures -/

/-- What an answer gives, if it gives anything. -/
def Answer.value? {ε α : Type} : Answer ε α → Option α
  | .done a => some a
  | .refused _ => none
  | .silent => none

/-- Two alerting systems give the same, and fail at the same questions, each in its own way. A text
may get another receipt, or none at all, if it goes out in both or in neither and is counted alike,
as far as counts are seen. -/
structure Host.FailsAlike (sees : Metric → Bool) (h h' : Host) : Prop where
  findAlert : ∀ alertId, (h.findAlert alertId).value? = (h'.findAlert alertId).value?
  recordAction : ∀ a, (h.recordAction a).value? = (h'.recordAction a).value?
  recordStatus : ∀ u, (h.recordStatus u).value? = (h'.recordStatus u).value?
  goesOut : ∀ destination text,
    (h.sendText destination text).succeeded = (h'.sendText destination text).succeeded
  metrics : ∀ destination text,
    (h.sendText destination text).metrics.filter sees =
      (h'.sendText destination text).metrics.filter sees

/-- The senders of two alerting systems come back from the same texts. -/
def Host.ComesBackAlike (h h' : Host) : Prop :=
  ∀ destination text, (h.sendText destination text).ends = (h'.sendText destination text).ends

/-- Whether the work of a handler comes to its end, and what it does. -/
def Handling.parts (w : Handling) : Bool × List Effect := (w.ends, w.effects)

namespace Host

/-- A failed write is counted once, however it failed. -/
theorem written_eq (kind : WriteKind) (answer : Answer WriteError Unit) (effect : Bool → Effect) :
    written kind (answer.inTime writeTimeout) effect =
      match answer.value? with
      | some () => (true, [effect true])
      | none => (false, [effect false, .counted (.writeFailed kind)]) := by
  cases answer <;> rfl

/-- What is found by a lookup that gives something. -/
theorem lookUp_of_some {h : Host} {alertId : Int64} {alert : Alert}
    (hvalue : (h.findAlert alertId).value? = some alert) :
    h.lookUp alertId = (.ok alert, [.lookedUp alertId]) := by
  rw [lookUp]
  cases hfound : h.findAlert alertId <;> rw [hfound] at hvalue <;> cases hvalue
  rfl

/-- A lookup that gives nothing fails. -/
theorem lookUp_of_none {h : Host} {alertId : Int64}
    (hvalue : (h.findAlert alertId).value? = none) :
    ∃ cause, h.lookUp alertId = (.error cause, [.lookedUp alertId]) := by
  rw [lookUp]
  cases hfound : h.findAlert alertId with
  | done alert => rw [hfound] at hvalue; cases hvalue
  | refused cause => exact ⟨cause, rfl⟩
  | silent => exact ⟨.timeout, rfl⟩

namespace FailsAlike

variable {sees : Metric → Bool} {h h' : Host}

theorem writeAction (halike : FailsAlike sees h h') (a : AlertAction) :
    h.writeAction a = h'.writeAction a := by
  rw [Host.writeAction, Host.writeAction, written_eq, written_eq, halike.recordAction]

theorem writeStatus (halike : FailsAlike sees h h') (u : StatusUpdate) :
    h.writeStatus u = h'.writeStatus u := by
  rw [Host.writeStatus, Host.writeStatus, written_eq, written_eq, halike.recordStatus]

theorem reply (halike : FailsAlike sees h h') (destination text : String) :
    SeenAlike sees (h.ComesBackAlike h') (h.reply destination text).parts
      (h'.reply destination text).parts := by
  refine ⟨fun hends => hends destination text, ?_⟩
  have hcounted : Effect.isSeen sees ∘ Effect.counted = sees := rfl
  simp only [Handling.parts, Host.reply, List.filter_append, List.filter_map, hcounted,
    halike.goesOut, halike.metrics]

end FailsAlike

/-! ### Senders -/

/-- An alerting system that sends its texts to a provider. -/
def withProvider (h : Host) (p : Provider) (s : Settings) : Host :=
  { h with sendText := fun destination text => .ended (p.sendText s destination text) }

/-- A client waits for a provider only so long. -/
theorem comesBackAlike_withProvider (h : Host) (s : Settings) (p p' : Provider) :
    (h.withProvider p s).ComesBackAlike (h.withProvider p' s) :=
  fun _ _ => Eq.refl true

/-- Two providers that take nothing on fail alike, but for what is counted of the requests. -/
theorem failsAlike_withProvider (h : Host) (s : Settings) {p p' : Provider}
    (hfails : ∀ r, (p.answer r).fails = true) (hfails' : ∀ r, (p'.answer r).fails = true) :
    FailsAlike (fun m => !m.isRequest) (h.withProvider p s) (h.withProvider p' s) where
  findAlert _ := rfl
  recordAction _ := rfl
  recordStatus _ := rfl
  goesOut destination text :=
    (Provider.isOk_sendText hfails s destination text).trans
      (Provider.isOk_sendText hfails' s destination text).symm
  metrics destination text := by
    have hnone (p : Provider) :
        (p.sendText s destination text).metrics.filter (fun m => !m.isRequest) = [] := by
      rw [List.filter_eq_nil_iff]
      intro m hm
      rw [p.isRequest_of_mem_sendText s hm]
      decide
    exact (hnone p).trans (hnone p').symm

end Host

/-! ## Answers -/

namespace Webhook

variable {sees : Metric → Bool} {h h' : Host}

theorem alertMenu_congr (halike : Host.FailsAlike sees h h') (s : Settings) (c : CallContext)
    (e : CallEvent) : alertMenu s h c e = alertMenu s h' c e := by
  simp only [alertMenu, halike.writeAction]
  cases e.digits.bind s.keys.action? with
  | some kind => rfl
  | none =>
    cases c.alertId with
    | none => rfl
    | some alertId =>
      have hvalue' := halike.findAlert alertId
      cases hvalue : (h.findAlert alertId).value? with
      | some alert =>
        rw [hvalue] at hvalue'
        simp only [Host.lookUp_of_some hvalue, Host.lookUp_of_some hvalue'.symm]
      | none =>
        rw [hvalue] at hvalue'
        obtain ⟨cause, hfailed⟩ := Host.lookUp_of_none hvalue
        obtain ⟨cause', hfailed'⟩ := Host.lookUp_of_none hvalue'.symm
        simp only [hfailed, hfailed']

theorem handleCall_congr (halike : Host.FailsAlike sees h h') (s : Settings)
    (requestId query : String) (body : Bytes) :
    handleCall s h requestId query body = handleCall s h' requestId query body := by
  simp only [handleCall_eq, respondToCall_eq, callMenu, openMenu, alertMenu_congr halike,
    halike.writeStatus]

theorem confirm_congr (halike : Host.FailsAlike sees h h') (number : String) (r : Reply) :
    SeenAlike sees (h.ComesBackAlike h') (confirm h number r).parts
      (confirm h' number r).parts := by
  unfold confirm
  cases r.confirmation with
  | none => exact .refl _ _ _
  | some text => exact halike.reply number text

/-- The same effects in front of two pieces of work keep them alike. -/
theorem SeenAlike.after {comesBack : Prop} {w w' : Handling}
    (hwork : SeenAlike sees comesBack w.parts w'.parts) (es : List Effect) :
    SeenAlike sees comesBack (w.after es).parts (w'.after es).parts := by
  refine ⟨hwork.value, ?_⟩
  have heffects : w.effects.filter (Effect.isSeen sees) = w'.effects.filter (Effect.isSeen sees) :=
    hwork.effects
  simp only [Handling.parts, Handling.after, List.filter_append, heffects]

theorem handleEvent_congr (halike : Host.FailsAlike sees h h') (e : MessageEvent) :
    SeenAlike sees (h.ComesBackAlike h') (handleEvent h e).parts (handleEvent h' e).parts := by
  unfold handleEvent
  cases e.route with
  | status =>
    rw [halike.writeStatus]
    exact .refl _ _ _
  | ignore => exact .refl _ _ _
  | reply =>
    dsimp only
    unfold handleReply
    cases e.sender? with
    | none => exact .refl _ _ _
    | some number =>
      cases e.reply.action with
      | none => exact confirm_congr halike number _
      | some asked =>
        dsimp only
        rw [halike.writeAction]
        split
        · exact SeenAlike.after (confirm_congr halike number _) _
        · exact .refl _ _ _

theorem handleMessage_congr (halike : Host.FailsAlike sees h h') (requestId : String)
    (body : Bytes) :
    SeenAlike sees (h.ComesBackAlike h') (handleMessage h requestId body)
      (handleMessage h' requestId body) := by
  unfold handleMessage
  cases Json.read (Envelope MessageEvent) body with
  | none => exact .refl _ _ _
  | some envelope =>
    have hwork := SeenAlike.after (handleEvent_congr halike envelope.data)
      [.traced (eventSpan requestId envelope.data), .counted (.accepted .sms)]
    refine ⟨fun hends => ?_, hwork.effects⟩
    have hsame := hwork.value hends
    simp only [Handling.parts] at hsame
    simp only [Handling.answering, hsame]

/-- **An answer depends on nothing but what the alerting system gives**, and whether there is one on
nothing but whether its sender comes back. -/
theorem answer_congr_of_failsAlike (halike : Host.FailsAlike sees h h') (l : Line) (now : Int64)
    (requestId : String) (r : Request) :
    SeenAlike sees (h.ComesBackAlike h') (answer l h now requestId r)
      (answer l h' now requestId r) := by
  have hverified : SeenAlike sees (h.ComesBackAlike h') (answerVerified l h requestId r)
      (answerVerified l h' requestId r) := by
    unfold answerVerified
    cases routeOf? r.path with
    | none => exact .refl _ _ _
    | some route =>
      dsimp only
      split
      · cases route with
        | voice =>
          dsimp only
          rw [handleCall_congr halike]
          exact .refl _ _ _
        | sms => exact handleMessage_congr halike requestId r.body
      · exact .refl _ _ _
  unfold answer
  split
  · exact .refl _ _ _
  · unfold answerWebhook
    cases rejection? l now r with
    | some reason => exact .refl _ _ _
    | none =>
      refine ⟨fun hends => ?_, hverified.effects⟩
      dsimp only
      rw [hverified.value hends]

end Webhook
end AlertLine
