import AlertLine.Proofs.Webhook.Ledger

/-!
# Writes and replies

A write is taken exactly if the other side says so in time, and one that is not taken is counted
(`Host.written_cases`). Counts are no entries of a ledger, so a reply is the only entry that sending
it makes (`Host.replies_reply` and its companions).
-/

namespace AlertLine

/-! ## Work -/

namespace Handling

variable (w : Handling) (es : List Effect)

@[simp] theorem effects_done : (done es).effects = es := rfl

theorem effects_after_singleton (e : Effect) : (w.after [e]).effects = e :: w.effects := rfl

@[simp] theorem ends_after : (w.after es).ends = w.ends := rfl

end Handling

/-! ## Writes -/

namespace Host

variable (h : Host)

/-- **What becomes of a write.** -/
theorem written_cases (kind : WriteKind) (answer : Answer WriteError Unit)
    (effect : Bool → Effect) :
    answer = .done () ∧ written kind (answer.inTime writeTimeout) effect = (true, [effect true]) ∨
      answer ≠ .done () ∧ written kind (answer.inTime writeTimeout) effect =
        (false, [effect false, .counted (.writeFailed kind)]) := by
  cases answer with
  | done a => exact .inl ⟨rfl, rfl⟩
  | refused cause =>
    refine .inr ⟨?_, rfl⟩
    rintro ⟨⟩
  | silent =>
    refine .inr ⟨?_, rfl⟩
    rintro ⟨⟩

theorem writeAction_cases (a : AlertAction) :
    h.recordAction a = .done () ∧ h.writeAction a = (true, [.wroteAction a true]) ∨
      h.recordAction a ≠ .done () ∧ h.writeAction a =
        (false, [.wroteAction a false, .counted (.writeFailed .action)]) :=
  written_cases .action (h.recordAction a) (.wroteAction a)

theorem writeStatus_cases (u : StatusUpdate) :
    h.recordStatus u = .done () ∧ h.writeStatus u = (true, [.wroteStatus u true]) ∨
      h.recordStatus u ≠ .done () ∧ h.writeStatus u =
        (false, [.wroteStatus u false, .counted (.writeFailed .status)]) :=
  written_cases .status (h.recordStatus u) (.wroteStatus u)

theorem writeStatus_iff (u : StatusUpdate) :
    (h.writeStatus u).1 = true ↔ h.recordStatus u = .done () := by
  rcases h.writeStatus_cases u with ⟨hdone, hwrite⟩ | ⟨hrefused, hwrite⟩
  · simp [hdone, hwrite]
  · simp [hrefused, hwrite]

/-! ## Views -/

section Views

variable {α : Type} {view : Effect → Option α}

/-- A view of effects that shows no counts shows nothing of a row of them. -/
theorem filterMap_counted (hview : ∀ m, view (.counted m) = none) (ms : List Metric) :
    (ms.map Effect.counted).filterMap view = [] := by
  induction ms with
  | nil => rfl
  | cons m ms ih => rw [List.map_cons, List.filterMap_cons_none (hview m), ih]

/-- Such a view shows of a write what it shows of the one effect. -/
theorem filterMap_written (hview : ∀ m, view (.counted m) = none) (kind : WriteKind)
    (result : Except WriteError Unit) (effect : Bool → Effect) :
    (written kind result effect).2.filterMap view =
      (view (effect (written kind result effect).1)).toList := by
  rw [written.eq_def]
  cases result <;> cases hentry : view (effect _) <;> simp [hentry, hview]

end Views

/-! ### Ledgers of counts -/

theorem actions_counted (ms : List Metric) :
    (Ledger.of (ms.map .counted)).actions = [] :=
  filterMap_counted (fun _ => rfl) ms

theorem statuses_counted (ms : List Metric) :
    (Ledger.of (ms.map .counted)).statuses = [] :=
  filterMap_counted (fun _ => rfl) ms

theorem replies_counted (ms : List Metric) :
    (Ledger.of (ms.map .counted)).replies = [] :=
  filterMap_counted (fun _ => rfl) ms

theorem lookups_counted (ms : List Metric) :
    (Ledger.of (ms.map .counted)).lookups = [] :=
  filterMap_counted (fun _ => rfl) ms

/-! ### Ledgers of status updates -/

theorem actions_writeStatus (u : StatusUpdate) :
    (Ledger.of (h.writeStatus u).2).actions = [] :=
  filterMap_written (fun _ => rfl) ..

theorem statuses_writeStatus (u : StatusUpdate) :
    (Ledger.of (h.writeStatus u).2).statuses = [(u, (h.writeStatus u).1)] :=
  filterMap_written (fun _ => rfl) ..

theorem replies_writeStatus (u : StatusUpdate) :
    (Ledger.of (h.writeStatus u).2).replies = [] :=
  filterMap_written (fun _ => rfl) ..

theorem lookups_writeStatus (u : StatusUpdate) :
    (Ledger.of (h.writeStatus u).2).lookups = [] :=
  filterMap_written (fun _ => rfl) ..

/-! ## Replies -/

variable (destination text : String)

theorem actions_reply : (Ledger.of (h.reply destination text).effects).actions = [] := by
  rw [reply, Ledger.actions_append, actions_counted]
  rfl

theorem statuses_reply : (Ledger.of (h.reply destination text).effects).statuses = [] := by
  rw [reply, Ledger.statuses_append, statuses_counted]
  rfl

theorem replies_reply :
    (Ledger.of (h.reply destination text).effects).replies =
      [(destination, text, (h.sendText destination text).succeeded)] := by
  rw [reply, Ledger.replies_append, replies_counted]
  rfl

/-! ### Senders that come back -/

/-- Whether the sender comes back from every reply of a ledger. -/
def comesBack (ledger : Ledger) : Bool :=
  ledger.replies.all fun reply => (h.sendText reply.1 reply.2.1).ends

theorem comesBack_of_replies {ledger ledger' : Ledger} (hsame : ledger.replies = ledger'.replies) :
    h.comesBack ledger = h.comesBack ledger' := by
  rw [comesBack, hsame]
  rfl

theorem comesBack_of_ends (hends : ∀ number text, (h.sendText number text).ends = true)
    (ledger : Ledger) : h.comesBack ledger = true := by
  rw [comesBack, List.all_eq_true]
  exact fun reply _ => hends reply.1 reply.2.1

/-- Work that sends one reply ends if the sender comes back from it. -/
theorem ends_reply :
    (h.reply destination text).ends =
      h.comesBack (Ledger.of (h.reply destination text).effects) := by
  rw [comesBack, replies_reply]
  exact (Bool.and_true _).symm

end Host
end AlertLine
