import AlertLine.Proofs.Webhook.Ledger

/-!
# What a callback does

One lemma for each step of answering a callback: what the handler hands on (`handleCall_eq`), what
a call that goes on is answered with for each intent, and which actions are written. An action is
written exactly if the call is about an alert, goes on, and a menu key was pressed; it names the
alert that the query names (`wroteAction_mem_handleCall`).
-/

namespace AlertLine

/-! ## Writes -/

namespace Host

variable {h : Host}

theorem writeAction_done {a : AlertAction} (hdone : h.recordAction a = .done ()) :
    h.writeAction a = (true, [.wroteAction a true]) := by
  rw [writeAction, hdone]
  rfl

/-- A written action is the one that was handed over, with whether it was taken. -/
theorem wroteAction_mem_writeAction {a a' : AlertAction} {taken : Bool} :
    .wroteAction a' taken ∈ (h.writeAction a).2 ↔ a' = a ∧ taken = (h.writeAction a).1 := by
  rw [writeAction, written.eq_def]
  split
  · rw [List.mem_singleton, Effect.wroteAction.injEq]
  · rw [List.mem_cons, List.mem_singleton, Effect.wroteAction.injEq]
    refine ⟨?_, Or.inl⟩
    rintro (heq | ⟨⟨⟩⟩)
    exact heq

/-- The ledger of a written action. -/
theorem actions_writeAction (a : AlertAction) :
    (Ledger.of (h.writeAction a).2).actions = [(a, (h.writeAction a).1)] := by
  rw [writeAction, written.eq_def]
  split <;> rfl

/-- A status update is no action. -/
theorem wroteAction_not_mem_writeStatus {a : AlertAction} {taken : Bool} (u : StatusUpdate) :
    .wroteAction a taken ∉ (h.writeStatus u).2 := by
  rw [writeStatus, written.eq_def]
  split <;> simp

end Host

/-- The action that a pressed key asks for. -/
def CallEvent.keyAction (e : CallEvent) (kind : ActionKind) (alertId : Option Int64) :
    AlertAction :=
  ⟨kind, alertId, e.contactNumber, .voice e.callSid⟩

namespace Webhook

variable {s : Settings} {h : Host} {c : CallContext} {e : CallEvent}

/-! ## Answers -/

theorem respondToCall_eq (s : Settings) (h : Host) (c : CallContext) (e : CallEvent) :
    respondToCall s h c e = ((callMenu s h c e).1.render s, (callMenu s h c e).2) := by
  rw [respondToCall]

/-- The handler reads the context off the query and the event off the body. -/
theorem handleCall_eq (s : Settings) (h : Host) (requestId query : String) (body : Bytes) :
    handleCall s h requestId query body =
      (.markup (respondToCall s h (.ofQuery query) (.ofForm body)).1,
        .traced (callSpan requestId (.ofQuery query) (.ofForm body)) ::
          .counted (.accepted .voice) ::
          (respondToCall s h (.ofQuery query) (.ofForm body)).2) := by
  rw [handleCall]

/-- A call that has not ended has no state to report. -/
theorem endedState?_eq_none (hgoes : callHasEnded e.status = false) : endedState? e = none := by
  rw [endedState?, hgoes]
  rfl

/-- A call that has ended has a state to report, so a call without one goes on. -/
theorem callHasEnded_of_endedState? (hnone : endedState? e = none) :
    callHasEnded e.status = false := by
  by_contra hended
  rw [Bool.not_eq_false] at hended
  rw [endedState?, hended, if_pos rfl] at hnone
  have hsome := DeliveryState.isSome_ofCallStatus? hended
  rw [hnone] at hsome
  cases hsome

theorem callMenu_of_goes (hgoes : callHasEnded e.status = false) :
    callMenu s h c e = openMenu s h c e := by
  rw [callMenu, endedState?_eq_none hgoes]

/-! ## Calls that go on -/

/-- A menu key in a call about an alert is acted on for the alert of the context. -/
theorem openMenu_of_key {kind : ActionKind} (hintent : c.intent = .alert)
    (hkey : e.digits.bind s.keys.action? = some kind) :
    (openMenu s h c e).2 = (h.writeAction (e.keyAction kind c.alertId)).2 := by
  rw [openMenu, hintent]
  show (alertMenu s h c e).2 = _
  rw [alertMenu, hkey, CallEvent.keyAction]

/-- Without a menu key the alert of the context is looked up. -/
theorem lookups_openMenu {alertId : Int64} (hintent : c.intent = .alert)
    (halert : c.alertId = some alertId) (hkey : e.digits.bind s.keys.action? = none) :
    (Ledger.of (openMenu s h c e).2).lookups = [alertId] := by
  rw [openMenu, hintent]
  show (Ledger.of (alertMenu s h c e).2).lookups = _
  rw [alertMenu, hkey, halert]
  unfold Host.lookUp
  cases hfound : (h.findAlert alertId).inTime .timeout with
  | ok alert =>
    simp only [hfound]
    rfl
  | error cause =>
    simp only [hfound]
    rfl

/-- The menu of an alert is that of a lookup that found it. -/
theorem alertMenu_eq_alert_iff {alert : Alert} :
    (alertMenu s h c e).1 = .alert alert ↔ e.digits.bind s.keys.action? = none ∧
      ∃ alertId, c.alertId = some alertId ∧ h.findAlert alertId = .done alert := by
  rw [alertMenu.eq_def]
  cases hkey : e.digits.bind s.keys.action? with
  | some kind =>
    -- a key is answered with whether it worked
    cases hwrote : (h.writeAction ⟨kind, c.alertId, e.contactNumber, .voice e.callSid⟩).1 <;>
      simp [hwrote]
  | none =>
    cases halert : c.alertId with
    | none => simp
    | some alertId =>
      simp only [Host.lookUp, Option.some.injEq, true_and, exists_eq_left']
      cases h.findAlert alertId <;> simp [Answer.inTime]

/-- **When a caller hears an alert**: in a call about it that goes on, when no menu key was pressed
and the alert was found. -/
theorem callMenu_eq_alert_iff {alert : Alert} :
    (callMenu s h c e).1 = .alert alert ↔
      c.intent = .alert ∧ callHasEnded e.status = false ∧ e.digits.bind s.keys.action? = none ∧
        ∃ alertId, c.alertId = some alertId ∧ h.findAlert alertId = .done alert := by
  cases hstate : endedState? e with
  | some state =>
    have hended : callHasEnded e.status ≠ false := by
      intro hgoes
      simp [endedState?_eq_none hgoes] at hstate
    simp [callMenu, hstate, hended]
  | none =>
    have hgoes := callHasEnded_of_endedState? hstate
    rw [callMenu_of_goes hgoes, openMenu.eq_def]
    cases hintent : c.intent with
    | alert => simp [hgoes, alertMenu_eq_alert_iff]
    | verification => cases hcode : c.code <;> simp
    | test => simp
    | default => simp

theorem openMenu_verification {code : String} (hintent : c.intent = .verification)
    (hcode : c.code = some code) : openMenu s h c e = (.verification code, []) := by
  rw [openMenu, hintent, hcode]

theorem openMenu_test (hintent : c.intent = .test) : openMenu s h c e = (.test, []) := by
  rw [openMenu, hintent]

/-! ## Actions -/

/-- No action is written unless a menu key was pressed. -/
theorem wroteAction_mem_alertMenu {a : AlertAction} {taken : Bool} :
    .wroteAction a taken ∈ (alertMenu s h c e).2 ↔
      ∃ kind, e.digits.bind s.keys.action? = some kind ∧
        a = e.keyAction kind c.alertId ∧ taken = (h.writeAction a).1 := by
  rw [alertMenu.eq_def]
  cases hkey : e.digits.bind s.keys.action? with
  | some kind =>
    show .wroteAction a taken ∈ (h.writeAction _).2 ↔ _
    rw [Host.wroteAction_mem_writeAction]
    refine ⟨?_, ?_⟩
    · rintro ⟨rfl, htaken⟩
      exact ⟨kind, rfl, rfl, htaken⟩
    · rintro ⟨_, ⟨⟩, rfl, htaken⟩
      exact ⟨rfl, htaken⟩
  | none =>
    -- without a key there are a lookup and counts at most
    refine ⟨fun hmem => ?_, ?_⟩
    · cases halert : c.alertId with
      | none => simp [halert] at hmem
      | some alertId =>
        simp only [halert] at hmem
        unfold Host.lookUp at hmem
        cases hfound : (h.findAlert alertId).inTime .timeout <;> simp [hfound] at hmem
    · rintro ⟨_, ⟨⟩, -⟩

theorem wroteAction_mem_openMenu {a : AlertAction} {taken : Bool} :
    .wroteAction a taken ∈ (openMenu s h c e).2 ↔
      c.intent = .alert ∧ .wroteAction a taken ∈ (alertMenu s h c e).2 := by
  rw [openMenu.eq_def]
  cases hintent : c.intent with
  | alert => simp
  | verification => cases hcode : c.code <;> simp
  | test => simp
  | default => simp

/-- **The actions that a callback writes.** There is one if the call is about an alert, goes on,
and a menu key was pressed. -/
theorem wroteAction_mem_callMenu {a : AlertAction} {taken : Bool} :
    .wroteAction a taken ∈ (callMenu s h c e).2 ↔
      c.intent = .alert ∧ callHasEnded e.status = false ∧
      ∃ kind, e.digits.bind s.keys.action? = some kind ∧
        a = e.keyAction kind c.alertId ∧ taken = (h.writeAction a).1 := by
  cases hstate : endedState? e with
  | some state =>
    -- an ended call writes its status and no action
    refine ⟨fun hmem => ?_, ?_⟩
    · rw [callMenu, hstate] at hmem
      exact absurd hmem (Host.wroteAction_not_mem_writeStatus _)
    · rintro ⟨-, hgoes, -⟩
      rw [endedState?_eq_none hgoes] at hstate
      cases hstate
  | none =>
    have hgoes := callHasEnded_of_endedState? hstate
    rw [callMenu_of_goes hgoes, wroteAction_mem_openMenu, wroteAction_mem_alertMenu]
    exact ⟨fun ⟨hintent, hwrote⟩ => ⟨hintent, hgoes, hwrote⟩,
      fun ⟨hintent, _, hwrote⟩ => ⟨hintent, hwrote⟩⟩

/-- The handler writes what the menu of the call writes. -/
theorem wroteAction_mem_handleCall {requestId query : String} {body : Bytes} {a : AlertAction}
    {taken : Bool} :
    .wroteAction a taken ∈ (handleCall s h requestId query body).2 ↔
      .wroteAction a taken ∈ (callMenu s h (.ofQuery query) (.ofForm body)).2 := by
  rw [handleCall_eq, respondToCall_eq]
  simp only [List.mem_cons, reduceCtorEq, false_or]

end Webhook
end AlertLine
