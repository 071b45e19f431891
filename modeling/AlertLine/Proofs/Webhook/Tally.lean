import AlertLine.Proofs.Delivery
import AlertLine.Proofs.Webhook.Alike
import AlertLine.Proofs.Webhook.Messages
import Mathlib.Data.List.Count

/-!
# What the handlers count

A row of effects counts the metrics that it should, each write in it that failed, and what the
sender counts on its own (`Host.Counts`). Rows that do so can be put behind one another
(`Host.Counts.append`), and those of the handlers are made of a few kinds of rows: lookups, writes,
replies and single counts. So a callback counts where there was nothing to tell
(`Webhook.counts_callMenu`), and an event counts failed writes only (`Webhook.counts_handleEvent`).
-/

namespace AlertLine

/-! ## What is counted -/

/-- Whether a question is refused, or not answered in time. -/
def Answer.fails {ε α : Type} : Answer ε α → Bool
  | .done _ => false
  | .refused _ => true
  | .silent => true

theorem Answer.fails_of_ne_done {ε : Type} {answer : Answer ε Unit} (h : answer ≠ .done ()) :
    answer.fails = true := by
  cases answer with
  | done _ => exact absurd rfl h
  | refused cause => rfl
  | silent => rfl

namespace Host

variable (h : Host)

/-- How many writes of a ledger failed, by the metric that counts them. -/
def failures (ledger : Ledger) : Metric → ℕ
  | .writeFailed .action => ledger.actions.countP fun entry => (h.recordAction entry.1).fails
  | .writeFailed .status => ledger.statuses.countP fun entry => (h.recordStatus entry.1).fails
  | _ => 0

/-- What the sender itself counted for the replies of a ledger. -/
def senderMetrics (ledger : Ledger) : List Metric :=
  ledger.replies.flatMap fun reply => (h.sendText reply.1 reply.2.1).metrics

/-- A row of effects counts the given metrics, each write that failed, and what the sender counts;
nothing is left out and nothing is counted twice. -/
def Counts (es : List Effect) (ms : List Metric) : Prop :=
  ∀ m, (Ledger.of es).count m =
    ms.count m + h.failures (Ledger.of es) m + (h.senderMetrics (Ledger.of es)).count m

variable {h} {es es' : List Effect} {ms ms' : List Metric}

theorem failures_append (m : Metric) :
    h.failures (Ledger.of (es ++ es')) m =
      h.failures (Ledger.of es) m + h.failures (Ledger.of es') m := by
  unfold failures
  split
  · rw [Ledger.actions_append, List.countP_append]
  · rw [Ledger.statuses_append, List.countP_append]
  · rfl

theorem senderMetrics_append :
    h.senderMetrics (Ledger.of (es ++ es')) =
      h.senderMetrics (Ledger.of es) ++ h.senderMetrics (Ledger.of es') := by
  rw [senderMetrics, Ledger.replies_append, List.flatMap_append]
  rfl

theorem Counts.append (hes : h.Counts es ms) (hes' : h.Counts es' ms') :
    h.Counts (es ++ es') (ms ++ ms') := by
  intro m
  rw [Ledger.count_append, hes m, hes' m, failures_append, senderMetrics_append, List.count_append,
    List.count_append]
  omega

/-- Where nothing is written or sent, what is counted is all. -/
theorem counts_of_idle (hactions : (Ledger.of es).actions = [])
    (hstatuses : (Ledger.of es).statuses = []) (hreplies : (Ledger.of es).replies = [])
    (hcount : ∀ m, (Ledger.of es).count m = ms.count m) : h.Counts es ms := by
  intro m
  have hfailures : h.failures (Ledger.of es) m = 0 := by
    unfold failures
    split
    · rw [hactions, List.countP_nil]
    · rw [hstatuses, List.countP_nil]
    · rfl
  rw [hfailures, senderMetrics, hreplies, List.flatMap_nil, List.count_nil, hcount m]
  rfl

theorem counts_nil : h.Counts [] [] := counts_of_idle rfl rfl rfl fun _ => rfl

theorem counts_lookedUp (alertId : Int64) : h.Counts [.lookedUp alertId] [] :=
  counts_of_idle rfl rfl rfl fun _ => rfl

theorem counts_traced (span : Span) : h.Counts [.traced span] [] :=
  counts_of_idle rfl rfl rfl fun _ => rfl

theorem counts_counted (m : Metric) : h.Counts [.counted m] [m] := by
  refine counts_of_idle rfl rfl rfl fun m' => ?_
  rw [Ledger.count_counted, List.count_singleton]
  simp only [beq_iff_eq, @eq_comm _ m]

/-- A request that is taken in is counted in front of what it leads to. -/
theorem Counts.accepted (hes : h.Counts es ms) (span : Span) (route : Route) :
    h.Counts (.traced span :: .counted (.accepted route) :: es) (.accepted route :: ms) :=
  (counts_traced span).append ((counts_counted _).append hes)

/-- A write that fails is counted once, under its kind. -/
theorem count_written {kind : WriteKind} (answer : Answer WriteError Unit) {effect : Bool → Effect}
    (heffect : ∀ taken m, effect taken ≠ .counted m) (m : Metric) :
    (Ledger.of (written kind (answer.inTime writeTimeout) effect).2).count m =
      if answer.fails = true ∧ m = .writeFailed kind then 1 else 0 := by
  have hnone (taken : Bool) : (Ledger.of [effect taken]).count m = 0 :=
    List.count_eq_zero.2 fun hmem => heffect taken m (List.mem_singleton.1 hmem).symm
  rcases written_cases kind answer effect with ⟨rfl, hwrite⟩ | ⟨hrefused, hwrite⟩
  · rw [hwrite, hnone]
    rfl
  · rw [hwrite, ← List.singleton_append, Ledger.count_append, hnone, Ledger.count_counted,
      Answer.fails_of_ne_done hrefused, Nat.zero_add]
    simp only [true_and]

theorem counts_writeAction (a : AlertAction) : h.Counts (h.writeAction a).2 [] := by
  intro m
  have hstatuses : (Ledger.of (h.writeAction a).2).statuses = [] :=
    filterMap_written (fun _ => rfl) ..
  have hreplies : (Ledger.of (h.writeAction a).2).replies = [] :=
    filterMap_written (fun _ => rfl) ..
  have hfailures : h.failures (Ledger.of (h.writeAction a).2) m =
      if (h.recordAction a).fails = true ∧ m = .writeFailed .action then 1 else 0 := by
    unfold failures
    split
    · rw [actions_writeAction, List.countP_singleton]
      simp only [and_true]
    · rw [hstatuses]
      simp
    · next hm _ => rw [if_neg fun h => hm h.2]
  rw [hfailures, senderMetrics, hreplies, writeAction, count_written _ fun _ _ h => by cases h]
  simp

theorem counts_writeStatus (u : StatusUpdate) : h.Counts (h.writeStatus u).2 [] := by
  intro m
  have hfailures : h.failures (Ledger.of (h.writeStatus u).2) m =
      if (h.recordStatus u).fails = true ∧ m = .writeFailed .status then 1 else 0 := by
    unfold failures
    split
    · rw [actions_writeStatus]
      simp
    · rw [statuses_writeStatus, List.countP_singleton]
      simp only [and_true]
    · next _ hm => rw [if_neg fun h => hm h.2]
  rw [hfailures, senderMetrics, replies_writeStatus, writeStatus,
    count_written _ fun _ _ h => by cases h]
  simp

/-- A reply counts what its sender counts. -/
theorem counts_reply (destination text : String) :
    h.Counts (h.reply destination text).effects [] := by
  intro m
  have hfailures : h.failures (Ledger.of (h.reply destination text).effects) m = 0 := by
    unfold failures
    split
    · rw [actions_reply, List.countP_nil]
    · rw [statuses_reply, List.countP_nil]
    · rfl
  have hcount : (Ledger.of (h.reply destination text).effects).count m =
      (h.sendText destination text).metrics.count m := by
    show List.count _ (_ ++ [_]) = _
    rw [List.count_append, List.count_map_of_injective _ _ fun _ _ => Effect.counted.inj]
    simp
  rw [hfailures, hcount, senderMetrics, replies_reply, List.flatMap_singleton, List.count_nil]
  simp only [Nat.zero_add]

end Host

/-! ## What a handler counts -/

/-- Whether a menu is that of an alert that could not be had. -/
def CallMenu.isUnavailable : CallMenu → Bool
  | .alertUnavailable _ => true
  | _ => false

theorem CallMenu.isUnavailable_iff {m : CallMenu} :
    m.isUnavailable = true ↔ ∃ alertId, m = .alertUnavailable alertId := by
  cases m <;> simp [isUnavailable]

namespace Webhook

variable {s : Settings} {h : Host} {c : CallContext} {e : CallEvent}

/-- Whether a call that goes on should tell a code and has none. -/
def IsUncoded (c : CallContext) (e : CallEvent) : Prop :=
  ¬IsEnded e.status ∧ c.intent = .verification ∧ c.code = none

theorem not_isEnded_iff {status : String} : ¬IsEnded status ↔ callHasEnded status = false := by
  rw [← callHasEnded_iff, Bool.not_eq_true]

instance (c : CallContext) (e : CallEvent) : Decidable (IsUncoded c e) :=
  decidable_of_iff (callHasEnded e.status = false ∧ c.intent = .verification ∧ c.code = none)
    (and_congr_left' not_isEnded_iff.symm)

theorem decide_isUncoded_of_ne (hintent : c.intent ≠ .verification) :
    decide (IsUncoded c e) = false :=
  decide_eq_false fun huncoded => hintent huncoded.2.1

/-- What should be counted where a menu was chosen. -/
def menuMetrics (menu : CallMenu) (isUncoded : Bool) : List Metric :=
  (if menu.isUnavailable then [.lookupFailed .alert] else []) ++
    if isUncoded then [.lookupFailed .verification] else []

theorem count_menuMetrics (menu : CallMenu) (isUncoded : Bool) (m : Metric) :
    (menuMetrics menu isUncoded).count m =
      (if menu.isUnavailable = true ∧ m = .lookupFailed .alert then 1 else 0) +
        if isUncoded = true ∧ m = .lookupFailed .verification then 1 else 0 := by
  rw [menuMetrics, List.count_append]
  cases menu.isUnavailable <;> cases isUncoded <;>
    simp [List.count_singleton, @eq_comm _ m]

theorem counts_alertMenu :
    h.Counts (alertMenu s h c e).2 (menuMetrics (alertMenu s h c e).1 false) := by
  rw [alertMenu.eq_def]
  cases e.digits.bind s.keys.action? with
  | some kind =>
    dsimp only
    split
    · exact Host.counts_writeAction _
    · exact Host.counts_writeAction _
  | none =>
    cases c.alertId with
    | none => exact Host.counts_counted _
    | some alertId =>
      cases hvalue : (h.findAlert alertId).value? with
      | some alert =>
        simp only [Host.lookUp_of_some hvalue]
        exact Host.counts_lookedUp alertId
      | none =>
        obtain ⟨cause, hfailed⟩ := Host.lookUp_of_none hvalue
        simp only [hfailed]
        exact (Host.counts_lookedUp alertId).append (Host.counts_counted _)

/-- **What a callback counts**, besides that it was taken in. -/
theorem counts_callMenu :
    h.Counts (callMenu s h c e).2 (menuMetrics (callMenu s h c e).1 (decide (IsUncoded c e))) := by
  -- a call that has ended writes its state and counts nothing itself
  cases hstate : endedState? e with
  | some state =>
    have hcoded : ¬IsUncoded c e := by
      rintro ⟨hgoes, -⟩
      rw [endedState?_eq_none (not_isEnded_iff.1 hgoes)] at hstate
      cases hstate
    rw [callMenu, hstate, decide_eq_false hcoded]
    exact Host.counts_writeStatus _
  | none =>
    have hgoes := callHasEnded_of_endedState? hstate
    rw [callMenu_of_goes hgoes, openMenu.eq_def]
    cases hintent : c.intent with
    | alert =>
      rw [decide_isUncoded_of_ne (by rw [hintent]; decide)]
      exact counts_alertMenu
    | verification =>
      cases hcode : c.code with
      | none =>
        rw [decide_eq_true ⟨not_isEnded_iff.2 hgoes, hintent, hcode⟩]
        exact Host.counts_counted _
      | some code =>
        rw [decide_eq_false fun huncoded => by rw [huncoded.2.2] at hcode; cases hcode]
        exact Host.counts_nil
    | test =>
      rw [decide_isUncoded_of_ne (by rw [hintent]; decide)]
      exact Host.counts_nil
    | default =>
      rw [decide_isUncoded_of_ne (by rw [hintent]; decide)]
      exact Host.counts_nil

theorem counts_confirm (number : String) (r : Reply) :
    h.Counts (confirm h number r).effects [] := by
  cases hr : r.confirmation with
  | none => rw [confirm_of_none hr]; exact Host.counts_nil
  | some text => rw [confirm_of_some hr]; exact Host.counts_reply number text

/-- **An event counts failed writes only**, besides that it was taken in. -/
theorem counts_handleEvent (e : MessageEvent) : h.Counts (handleEvent h e).effects [] := by
  rw [handleEvent]
  cases e.route with
  | status => exact Host.counts_writeStatus _
  | ignore => exact Host.counts_nil
  | reply =>
    dsimp only
    rw [handleReply]
    cases e.sender? with
    | none => exact Host.counts_nil
    | some number =>
      cases e.reply.action with
      | none => exact counts_confirm number _
      | some asked =>
        dsimp only
        split
        · exact (Host.counts_writeAction _).append (counts_confirm number _)
        · exact Host.counts_writeAction _

end Webhook
end AlertLine
