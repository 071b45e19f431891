import AlertLine.Bus.Host
import AlertLine.Proofs.Webhook.Messages
import AlertLine.Proofs.Webhook.Payload

/-!
# What a session puts on the bus

A webhook tells of each write whether it was taken (`Webhook.areTold_answered`). Over the bus a
write is taken exactly if the bus takes its publication, so what goes over the bus in a session is
read off its effects: the question of each lookup, and the publication of each write that is told as
taken (`Bus.carried_session`).
-/

namespace AlertLine

/-! ## Writes as they are told -/

/-- A write is told with what the alerting system says of it. -/
def Effect.IsTold (h : Host) : Effect → Prop
  | .wroteAction a taken => taken = true ↔ h.recordAction a = .done ()
  | .wroteStatus u taken => taken = true ↔ h.recordStatus u = .done ()
  | .lookedUp _ | .replied .. | .counted _ | .traced _ => True

/-- All writes in a row of effects are told so. -/
def AreTold (h : Host) (es : List Effect) : Prop := ∀ e ∈ es, e.IsTold h

variable {h : Host} {es es' : List Effect}

theorem areTold_nil : AreTold h [] := List.forall_mem_nil _

theorem areTold_singleton {e : Effect} (he : e.IsTold h) : AreTold h [e] :=
  List.forall_mem_singleton.2 he

theorem AreTold.cons {e : Effect} (he : e.IsTold h) (hes : AreTold h es) : AreTold h (e :: es) :=
  List.forall_mem_cons.2 ⟨he, hes⟩

theorem AreTold.append (hes : AreTold h es) (hes' : AreTold h es') : AreTold h (es ++ es') :=
  List.forall_mem_append.2 ⟨hes, hes'⟩

theorem areTold_counted (ms : List Metric) : AreTold h (ms.map .counted) :=
  List.forall_mem_map.2 fun _ _ => trivial

namespace Host

theorem areTold_writeAction (a : AlertAction) : AreTold h (h.writeAction a).2 := by
  rcases h.writeAction_cases a with ⟨hdone, hwrite⟩ | ⟨hrefused, hwrite⟩
  · rw [hwrite]
    exact areTold_singleton (iff_of_true rfl hdone)
  · rw [hwrite]
    exact .cons (iff_of_false Bool.false_ne_true hrefused) (areTold_singleton trivial)

theorem areTold_writeStatus (u : StatusUpdate) : AreTold h (h.writeStatus u).2 := by
  rcases h.writeStatus_cases u with ⟨hdone, hwrite⟩ | ⟨hrefused, hwrite⟩
  · rw [hwrite]
    exact areTold_singleton (iff_of_true rfl hdone)
  · rw [hwrite]
    exact .cons (iff_of_false Bool.false_ne_true hrefused) (areTold_singleton trivial)

theorem areTold_reply (destination text : String) :
    AreTold h (h.reply destination text).effects :=
  (areTold_counted _).append (areTold_singleton trivial)

end Host

namespace Webhook

theorem areTold_alertMenu (s : Settings) (c : CallContext) (e : CallEvent) :
    AreTold h (alertMenu s h c e).2 := by
  rw [alertMenu.eq_def]
  cases e.digits.bind s.keys.action? with
  | some kind => exact Host.areTold_writeAction _
  | none =>
    cases c.alertId with
    | none => exact areTold_singleton trivial
    | some alertId =>
      cases hfound : (h.findAlert alertId).inTime .timeout with
      | ok alert =>
        simp only [Host.lookUp, hfound]
        exact areTold_singleton trivial
      | error cause =>
        simp only [Host.lookUp, hfound]
        exact .cons trivial (areTold_singleton trivial)

theorem areTold_callMenu (s : Settings) (c : CallContext) (e : CallEvent) :
    AreTold h (callMenu s h c e).2 := by
  cases hstate : endedState? e with
  | some state =>
    rw [callMenu, hstate]
    exact Host.areTold_writeStatus _
  | none =>
    rw [callMenu_of_goes (callHasEnded_of_endedState? hstate), openMenu.eq_def]
    cases c.intent with
    | alert => exact areTold_alertMenu s c e
    | verification =>
      cases c.code with
      | none => exact areTold_singleton trivial
      | some code => exact areTold_nil
    | test => exact areTold_nil
    | default => exact areTold_nil

theorem areTold_confirm (number : String) (r : Reply) :
    AreTold h (confirm h number r).effects := by
  cases hr : r.confirmation with
  | none =>
    rw [confirm_of_none hr]
    exact areTold_nil
  | some text =>
    rw [confirm_of_some hr]
    exact Host.areTold_reply number text

theorem areTold_handleEvent (e : MessageEvent) : AreTold h (handleEvent h e).effects := by
  have ho := outcome_handleEvent h e
  generalize handleEvent h e = w at ho ⊢
  cases ho with
  | ignored => exact areTold_nil
  | reported => exact Host.areTold_writeStatus _
  | anonymous => exact areTold_nil
  | unasked => exact areTold_confirm _ _
  | refused _ hrefused =>
    exact .cons (iff_of_false Bool.false_ne_true hrefused) (areTold_singleton trivial)
  | taken _ hdone => exact .cons (iff_of_true rfl hdone) (areTold_confirm _ _)

/-- **A webhook tells of each write whether it was taken.** -/
theorem areTold_answered (l : Line) (v : Visit) : AreTold v.host (v.answered l).2 := by
  by_cases hgenuine : Genuine l v
  · rcases hgenuine.isWebhook with hpath | hpath
    · rw [answered_voice hgenuine hpath]
      simp only [handleCall_eq, respondToCall_eq, Prod.map_apply, id_eq]
      exact .cons trivial (.cons trivial (areTold_callMenu _ _ _))
    · rw [answered_sms hgenuine hpath, handleMessage]
      cases Json.read (Envelope MessageEvent) v.request.body with
      | none => exact areTold_nil
      | some envelope => exact .cons trivial (.cons trivial (areTold_handleEvent _))
  · rcases effects_of_not_genuine hgenuine with hnone | ⟨reason, hcounted⟩
    · rw [hnone]
      exact areTold_nil
    · rw [hcounted]
      exact areTold_singleton trivial

end Webhook

/-! ## Publications of a session -/

namespace Bus

open Webhook

/-- What goes over the bus for an effect, as it is told. -/
def publications : Effect → List Publication
  | .lookedUp alertId => [lookupRequest alertId]
  | .wroteAction a true => [publishAction a]
  | .wroteStatus u true => [publishStatus u]
  | .wroteAction _ false | .wroteStatus _ false | .replied .. | .counted _ | .traced _ => []

/-- The alerting system is reached over a bus with a limit. -/
def IsReachedBy (limit : ℕ) (h : Host) : Prop :=
  ∃ answer unread sendText, h = host limit answer unread sendText

variable {limit : ℕ} {e : Effect}

/-- The bus takes a publication exactly if it is short enough. -/
theorem publish_answer_eq_done_iff {p : Publication} :
    (publish limit p).answer = .done () ↔ p.fits limit = true := by
  rw [publish]
  split <;> simp_all

/-- It carries what it takes. -/
theorem publish_carried (p : Publication) :
    (publish limit p).carried = if p.fits limit then [p] else [] := by
  rw [publish]
  split <;> rfl

/-- Over the bus an action is told as taken exactly if its publication is short enough. -/
theorem taken_action_iff (hbus : IsReachedBy limit h) {a : AlertAction} {taken : Bool}
    (htold : Effect.IsTold h (.wroteAction a taken)) :
    taken = true ↔ (publishAction a).fits limit = true := by
  obtain ⟨answer, unread, sendText, rfl⟩ := hbus
  simpa only [Effect.IsTold, host, recordAction, publish_answer_eq_done_iff] using htold

/-- So is a status update. -/
theorem taken_status_iff (hbus : IsReachedBy limit h) {u : StatusUpdate} {taken : Bool}
    (htold : Effect.IsTold h (.wroteStatus u taken)) :
    taken = true ↔ (publishStatus u).fits limit = true := by
  obtain ⟨answer, unread, sendText, rfl⟩ := hbus
  simpa only [Effect.IsTold, host, recordStatus, publish_answer_eq_done_iff] using htold

/-- What the bus carries is what is told. -/
theorem carried_eq_publications (hbus : IsReachedBy limit h) (htold : e.IsTold h) :
    carried limit e = publications e := by
  cases e with
  | wroteAction a taken =>
    have htaken := taken_action_iff hbus htold
    rw [carried, recordAction, publish_carried, ← Bool.eq_iff_iff.2 htaken]
    cases taken <;> rfl
  | wroteStatus u taken =>
    have htaken := taken_status_iff hbus htold
    rw [carried, recordStatus, publish_carried, ← Bool.eq_iff_iff.2 htaken]
    cases taken <;> rfl
  | _ => rfl

/-- **What a session puts on the bus**, in order: the questions of its lookups and the publications
of the writes that are told as taken. Which these are is a matter of length alone. -/
theorem carried_session (l : Line) {visits : List Visit}
    (hbus : ∀ v ∈ visits, IsReachedBy limit v.host) :
    (sessionEffects l visits).flatMap (carried limit) =
        (sessionEffects l visits).flatMap publications ∧
      (∀ a taken, (a, taken) ∈ (Ledger.of (sessionEffects l visits)).actions →
        (taken = true ↔ (publishAction a).fits limit = true)) ∧
      ∀ u taken, .wroteStatus u taken ∈ sessionEffects l visits →
        (taken = true ↔ (publishStatus u).fits limit = true) := by
  have htold (e : Effect) (he : e ∈ sessionEffects l visits) :
      ∃ h, IsReachedBy limit h ∧ e.IsTold h := by
    obtain ⟨v, hv, he⟩ := mem_sessionEffects.1 he
    exact ⟨v.host, hbus v hv, areTold_answered l v e he⟩
  refine ⟨?carried, ?actions, ?updates⟩
  case carried =>
    rw [List.flatMap_congr]
    intro e he
    obtain ⟨h, hreached, htold⟩ := htold e he
    exact carried_eq_publications hreached htold
  case actions =>
    intro a taken ha
    obtain ⟨h, hreached, htold⟩ := htold _ (Ledger.mem_actions.1 ha)
    exact taken_action_iff hreached htold
  case updates =>
    intro u taken hu
    obtain ⟨h, hreached, htold⟩ := htold _ hu
    exact taken_status_iff hreached htold

end Bus
end AlertLine
