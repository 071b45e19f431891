import AlertLine.Proofs.Delivery
import AlertLine.Proofs.Voice.Documents
import AlertLine.Proofs.Webhook.Calls
import AlertLine.Proofs.Webhook.Gate
import AlertLine.Proofs.Webhook.Writes

/-!
# A call says what happened

A callback is answered in one of five ways, each with its menu and its effects
(`Webhook.answered_callMenu`). That an action was taken is said only where it was, and which of the
ways it is can be told from the document alone (`Webhook.says_what_happened`).
-/

namespace AlertLine

/-- Whether a menu tells how something went: an action, or the call. -/
def CallMenu.isOutcome : CallMenu → Bool
  | .confirmation _ | .actionFailed | .hangup => true
  | _ => false

namespace Webhook

/-! ## Answers -/

/-- How a callback is answered, and with which effects. -/
inductive Answered (s : Settings) (h : Host) (c : CallContext) (e : CallEvent) :
    CallMenu → List Effect → Prop
  /-- The call is over. -/
  | ended {state : DeliveryState} (hended : callHasEnded e.status = true)
      (hfinal : state ∈ [DeliveryState.delivered, .failedTransient, .failedPermanent]) :
    Answered s h c e .hangup (h.writeStatus (e.statusUpdate state)).2
  /-- A key was pressed, and the action was taken. -/
  | taken {kind : ActionKind} (hgoes : callHasEnded e.status = false) (hintent : c.intent = .alert)
      (hdone : h.recordAction (e.keyAction kind c.alertId) = .done ()) :
    Answered s h c e (.confirmation kind) [.wroteAction (e.keyAction kind c.alertId) true]
  /-- A key was pressed, and the action was not taken. -/
  | refused {kind : ActionKind} (hgoes : callHasEnded e.status = false)
      (hintent : c.intent = .alert)
      (hrefused : h.recordAction (e.keyAction kind c.alertId) ≠ .done ()) :
    Answered s h c e .actionFailed
      [.wroteAction (e.keyAction kind c.alertId) false, .counted (.writeFailed .action)]
  /-- The alert was looked up. -/
  | lookedUp {menu : CallMenu} {alertId : Int64} (hgoes : callHasEnded e.status = false)
      (hintent : c.intent = .alert) (hmenu : menu.isOutcome = false) (ms : List Metric) :
    Answered s h c e menu (.lookedUp alertId :: ms.map .counted)
  /-- Nothing was done. -/
  | told {menu : CallMenu} (hgoes : callHasEnded e.status = false) (hmenu : menu.isOutcome = false)
      (ms : List Metric) : Answered s h c e menu (ms.map .counted)

variable (s : Settings) (h : Host) (c : CallContext) (e : CallEvent)

theorem answered_alertMenu (hgoes : callHasEnded e.status = false) (hintent : c.intent = .alert) :
    Answered s h c e (alertMenu s h c e).1 (alertMenu s h c e).2 := by
  rw [alertMenu.eq_def]
  cases hkey : e.digits.bind s.keys.action? with
  | some kind =>
    rcases h.writeAction_cases (e.keyAction kind c.alertId) with
      ⟨hdone, hwrite⟩ | ⟨hrefused, hwrite⟩
    · rw [CallEvent.keyAction] at hwrite
      simp only [hwrite, if_true]
      exact .taken hgoes hintent hdone
    · rw [CallEvent.keyAction] at hwrite
      simp only [hwrite, if_false, Bool.false_eq_true]
      exact .refused hgoes hintent hrefused
  | none =>
    cases halert : c.alertId with
    | none => exact .told hgoes rfl [.lookupFailed .alert]
    | some alertId =>
      unfold Host.lookUp
      cases hfound : (h.findAlert alertId).inTime .timeout with
      | ok alert =>
        simp only [hfound]
        exact .lookedUp hgoes hintent rfl []
      | error cause =>
        simp only [hfound]
        exact .lookedUp hgoes hintent rfl [.lookupFailed .alert]

theorem answered_openMenu (hgoes : callHasEnded e.status = false) :
    Answered s h c e (openMenu s h c e).1 (openMenu s h c e).2 := by
  rw [openMenu.eq_def]
  cases hintent : c.intent with
  | alert => exact answered_alertMenu s h c e hgoes hintent
  | verification =>
    cases hcode : c.code with
    | none => exact .told hgoes rfl [.lookupFailed .verification]
    | some code => exact .told hgoes rfl []
  | test => exact .told hgoes rfl []
  | default => exact .told hgoes rfl []

/-- **How a callback is answered**, by whether the call is over, what it is about and how the other
side answers. -/
theorem answered_callMenu : Answered s h c e (callMenu s h c e).1 (callMenu s h c e).2 := by
  cases hended : callHasEnded e.status with
  | false =>
    rw [callMenu_of_goes hended]
    exact answered_openMenu s h c e hended
  | true =>
    obtain ⟨state, hfinal, hstate⟩ := exists_final_state hended
    rw [callMenu, endedState?, if_pos hended, hstate]
    exact .ended hended hfinal

/-! ## What is done and what is said -/

namespace Answered

variable {s h c e} {menu : CallMenu} {es : List Effect} {kind : ActionKind}

/-- A callback has one write or lookup at most. -/
theorem deeds_le_one (ha : Answered s h c e menu es) :
    (Ledger.of es).actions.length + (Ledger.of es).statuses.length +
      (Ledger.of es).lookups.length ≤ 1 := by
  cases ha with
  | ended =>
    rw [Host.actions_writeStatus, Host.statuses_writeStatus, Host.lookups_writeStatus]
    exact Nat.le_refl 1
  | taken => exact Nat.le_refl 1
  | refused => exact Nat.le_refl 1
  | lookedUp _ _ _ ms =>
    rw [Ledger.actions_lookedUp, Ledger.statuses_lookedUp, Ledger.lookups_lookedUp,
      Host.actions_counted, Host.statuses_counted, Host.lookups_counted]
    exact Nat.le_refl 1
  | told _ _ ms =>
    rw [Host.actions_counted, Host.statuses_counted, Host.lookups_counted]
    exact Nat.zero_le 1

/-- The menu behind an action tells whether it was taken. -/
theorem of_mem_actions (ha : Answered s h c e menu es) {a : AlertAction} {taken : Bool}
    (hmem : (a, taken) ∈ (Ledger.of es).actions) :
    (taken = true ∧ menu = .confirmation a.kind ∧ h.recordAction a = .done ()) ∨
      (taken = false ∧ menu = .actionFailed ∧ h.recordAction a ≠ .done ()) := by
  cases ha with
  | ended =>
    rw [Host.actions_writeStatus] at hmem
    exact absurd hmem List.not_mem_nil
  | taken _ _ hdone =>
    cases List.mem_singleton.1 hmem
    exact .inl ⟨rfl, rfl, hdone⟩
  | refused _ _ hrefused =>
    cases List.mem_singleton.1 hmem
    exact .inr ⟨rfl, rfl, hrefused⟩
  | lookedUp _ _ _ ms =>
    rw [Ledger.actions_lookedUp, Host.actions_counted] at hmem
    exact absurd hmem List.not_mem_nil
  | told _ _ ms =>
    rw [Host.actions_counted] at hmem
    exact absurd hmem List.not_mem_nil

theorem exists_taken (ha : Answered s h c e (.confirmation kind) es) :
    ∃ a, a.kind = kind ∧ (a, true) ∈ (Ledger.of es).actions := by
  cases ha with
  | taken => exact ⟨_, rfl, List.mem_cons_self⟩
  | lookedUp _ _ hmenu => cases hmenu
  | told _ hmenu => cases hmenu

theorem exists_refused (ha : Answered s h c e .actionFailed es) :
    ∃ a, (a, false) ∈ (Ledger.of es).actions := by
  cases ha with
  | refused => exact ⟨_, List.mem_cons_self⟩
  | lookedUp _ _ hmenu => cases hmenu
  | told _ hmenu => cases hmenu

/-- An action is confirmed if it was taken, and only then. -/
theorem confirmation_iff (ha : Answered s h c e menu es) :
    menu = .confirmation kind ↔ ∃ a, a.kind = kind ∧ (a, true) ∈ (Ledger.of es).actions ∧
      h.recordAction a = .done () := by
  refine ⟨?_, ?_⟩
  · rintro rfl
    obtain ⟨a, hkind, hmem⟩ := ha.exists_taken
    rcases ha.of_mem_actions hmem with ⟨-, -, hdone⟩ | ⟨⟨⟩, -⟩
    exact ⟨a, hkind, hmem, hdone⟩
  · rintro ⟨a, rfl, hmem, -⟩
    rcases ha.of_mem_actions hmem with ⟨-, hmenu, -⟩ | ⟨⟨⟩, -⟩
    exact hmenu

/-- The caller is asked for pardon if an action was not taken, and only then. -/
theorem actionFailed_iff (ha : Answered s h c e menu es) :
    menu = .actionFailed ↔ ∃ a, (a, false) ∈ (Ledger.of es).actions ∧
      h.recordAction a ≠ .done () := by
  refine ⟨?_, ?_⟩
  · rintro rfl
    obtain ⟨a, hmem⟩ := ha.exists_refused
    rcases ha.of_mem_actions hmem with ⟨⟨⟩, -⟩ | ⟨-, -, hrefused⟩
    exact ⟨a, hmem, hrefused⟩
  · rintro ⟨a, hmem, -⟩
    rcases ha.of_mem_actions hmem with ⟨⟨⟩, -⟩ | ⟨-, hmenu, -⟩
    exact hmenu

/-- The end of a call is reported once, and nothing more is said. -/
theorem of_ended (ha : Answered s h c e menu es) (hended : callHasEnded e.status = true) :
    menu = .hangup ∧ ∃ state ∈ [DeliveryState.delivered, .failedTransient, .failedPermanent],
      es = (h.writeStatus (e.statusUpdate state)).2 := by
  cases ha with
  | ended _ hfinal => exact ⟨rfl, _, hfinal, rfl⟩
  | taken hgoes => rw [hended] at hgoes; cases hgoes
  | refused hgoes => rw [hended] at hgoes; cases hgoes
  | lookedUp hgoes => rw [hended] at hgoes; cases hgoes
  | told hgoes => rw [hended] at hgoes; cases hgoes

theorem statuses_of_goes (ha : Answered s h c e menu es) (hgoes : callHasEnded e.status = false) :
    (Ledger.of es).statuses = [] := by
  cases ha with
  | ended hended => rw [hgoes] at hended; cases hended
  | taken => rfl
  | refused => rfl
  | lookedUp _ _ _ ms => rw [Ledger.statuses_lookedUp, Host.statuses_counted]
  | told _ _ ms => rw [Host.statuses_counted]

/-- Where the call is not about an alert nothing is looked up or acted on. -/
theorem of_other_intent (ha : Answered s h c e menu es) (hintent : c.intent ≠ .alert) :
    (Ledger.of es).lookups = [] ∧ (Ledger.of es).actions = [] := by
  cases ha with
  | ended => exact ⟨Host.lookups_writeStatus _ _, Host.actions_writeStatus _ _⟩
  | taken _ halert => exact absurd halert hintent
  | refused _ halert => exact absurd halert hintent
  | lookedUp _ halert => exact absurd halert hintent
  | told _ _ ms => exact ⟨Host.lookups_counted ms, Host.actions_counted ms⟩

end Answered

/-- The document of a call that is over. -/
theorem render_hangup (s : Settings) :
    CallMenu.hangup.render s =
      "<?xml version=\"1.0\" encoding=\"UTF-8\"?><Response><Hangup/></Response>" := by
  rw [← String.toList_inj]
  rfl

/-- **A call never says what did not happen.** -/
theorem says_what_happened (s : Settings) (h : Host) (c : CallContext) (e : CallEvent) :
    (Ledger.of (respondToCall s h c e).2).actions.length +
        (Ledger.of (respondToCall s h c e).2).statuses.length +
        (Ledger.of (respondToCall s h c e).2).lookups.length ≤ 1 ∧
    (∀ kind, (respondToCall s h c e).1 = (CallMenu.confirmation kind).render s ↔
      ∃ a, a.kind = kind ∧ (a, true) ∈ (Ledger.of (respondToCall s h c e).2).actions ∧
        h.recordAction a = .done ()) ∧
    ((respondToCall s h c e).1 = CallMenu.actionFailed.render s ↔
      ∃ a, (a, false) ∈ (Ledger.of (respondToCall s h c e).2).actions ∧
        ((∃ cause, h.recordAction a = .refused cause) ∨ h.recordAction a = .silent)) ∧
    (IsEnded e.status →
      (∃ state ∈ [DeliveryState.delivered, .failedTransient, .failedPermanent], ∃ taken,
        (Ledger.of (respondToCall s h c e).2).statuses = [(e.statusUpdate state, taken)]) ∧
      (respondToCall s h c e).1 =
        "<?xml version=\"1.0\" encoding=\"UTF-8\"?><Response><Hangup/></Response>") ∧
    (¬ IsEnded e.status → (Ledger.of (respondToCall s h c e).2).statuses = []) ∧
    (c.intent ≠ .alert → (Ledger.of (respondToCall s h c e).2).lookups = [] ∧
      (Ledger.of (respondToCall s h c e).2).actions = []) := by
  have ha := answered_callMenu s h c e
  rw [respondToCall_eq]
  dsimp only
  refine ⟨ha.deeds_le_one, ?_, ?_, ?_, ?_, ha.of_other_intent⟩
  · intro kind
    rw [CallMenu.render_eq_iff s rfl]
    exact ha.confirmation_iff
  · rw [CallMenu.render_eq_iff s rfl, ha.actionFailed_iff]
    refine exists_congr fun a => and_congr_right fun _ => ?_
    cases h.recordAction a <;> simp
  · intro hended
    obtain ⟨hmenu, state, hfinal, heffects⟩ := ha.of_ended (callHasEnded_iff.2 hended)
    refine ⟨⟨state, hfinal, (h.writeStatus (e.statusUpdate state)).1, ?_⟩, ?_⟩
    · rw [heffects]
      exact h.statuses_writeStatus _
    · rw [hmenu, render_hangup]
  · intro hgoes
    rw [← callHasEnded_iff, Bool.not_eq_true] at hgoes
    exact ha.statuses_of_goes hgoes

/-- The key for acknowledging, pressed in a call about alert 42. -/
def keyFour (status : String) : CallEvent := ⟨"CA42", status, "", "+15550000001", some "4"⟩

/-- An alerting system that answers no write in time. -/
def silentHost : Host := { writableHost with recordAction := fun _ => .silent }

/-- The same key is confirmed where the action is taken and excused where it is not, and changes
nothing once the call is over. -/
theorem says_what_happened_keyFour :
    (respondToCall .standard writableHost ⟨.alert, some 42, none⟩ (keyFour "in-progress")).1 =
        (CallMenu.confirmation .acknowledge).render .standard ∧
      (respondToCall .standard silentHost ⟨.alert, some 42, none⟩ (keyFour "in-progress")).1 =
        CallMenu.actionFailed.render .standard ∧
      (respondToCall .standard writableHost ⟨.alert, some 42, none⟩ (keyFour " Busy\n")).1 =
        "<?xml version=\"1.0\" encoding=\"UTF-8\"?><Response><Hangup/></Response>" ∧
      (Ledger.of (respondToCall .standard writableHost ⟨.test, some 42, none⟩
        (keyFour "in-progress")).2).actions = [] := by
  obtain ⟨-, hconfirmed, -⟩ :=
    says_what_happened .standard writableHost ⟨.alert, some 42, none⟩ (keyFour "in-progress")
  obtain ⟨-, -, hexcused, -⟩ :=
    says_what_happened .standard silentHost ⟨.alert, some 42, none⟩ (keyFour "in-progress")
  obtain ⟨-, -, -, hover, -⟩ :=
    says_what_happened .standard writableHost ⟨.alert, some 42, none⟩ (keyFour " Busy\n")
  obtain ⟨-, -, -, -, -, htest⟩ :=
    says_what_happened .standard writableHost ⟨.test, some 42, none⟩ (keyFour "in-progress")
  have hbusy : IsEnded " Busy\n" :=
    ⟨"busy", by decide, [' '], "Busy".toList, ['\n'], List.forall_mem_singleton.2 (by decide),
      List.forall_mem_singleton.2 (by decide), by decide, by decide⟩
  refine ⟨?_, ?_, ?_, ?_⟩
  · refine (hconfirmed _).2 ⟨(keyFour "in-progress").keyAction .acknowledge (some 42), rfl, ?_, rfl⟩
    decide +kernel
  · refine hexcused.2 ⟨(keyFour "in-progress").keyAction .acknowledge (some 42), ?_, .inr rfl⟩
    decide +kernel
  · exact (hover hbusy).2
  · exact (htest (by decide)).2

end Webhook
end AlertLine
