import AlertLine.Webhook.Router
import Mathlib.Tactic.Common

/-!
# Ledgers

What a row of effects leaves behind: the writes and replies with whether they went through, the
alerts that were looked up, and how often everything was counted (`Ledger`). A ledger grows with
the effects (`Ledger.actions_append` and so on), and a count behind them changes nothing else
(`Ledger.of_append_counted`). The effects of a session are those of its visits, one after the other
(`Webhook.sessionEffects_append`).
-/

namespace AlertLine

/-! ## Effects -/

namespace Effect

/-- The action that was written, with whether it was taken. -/
def action? : Effect → Option (AlertAction × Bool)
  | .wroteAction a taken => some (a, taken)
  | _ => none

/-- The status update that was written, with whether it was taken. -/
def status? : Effect → Option (StatusUpdate × Bool)
  | .wroteStatus u taken => some (u, taken)
  | _ => none

/-- The reply that was sent, its destination and text, with whether it went out. -/
def reply? : Effect → Option (String × String × Bool)
  | .replied destination text sent => some (destination, text, sent)
  | _ => none

/-- The alert that was looked up. -/
def lookup? : Effect → Option Int64
  | .lookedUp alertId => some alertId
  | _ => none

/-- Whether someone else notices the effect: a write, a reply or a lookup. -/
def isDeed : Effect → Bool
  | .counted _ | .traced _ => false
  | _ => true

theorem isDeed_of_action? {e : Effect} {entry : AlertAction × Bool} (h : e.action? = some entry) :
    e.isDeed = true := by
  cases e <;> first | rfl | cases h

theorem isDeed_of_status? {e : Effect} {entry : StatusUpdate × Bool} (h : e.status? = some entry) :
    e.isDeed = true := by
  cases e <;> first | rfl | cases h

theorem isDeed_of_reply? {e : Effect} {entry : String × String × Bool}
    (h : e.reply? = some entry) : e.isDeed = true := by
  cases e <;> first | rfl | cases h

theorem isDeed_of_lookup? {e : Effect} {alertId : Int64} (h : e.lookup? = some alertId) :
    e.isDeed = true := by
  cases e <;> first | rfl | cases h

end Effect

/-! ## Ledgers -/

/-- What a row of effects leaves behind. -/
structure Ledger where
  /-- The actions that were written, each with whether it was taken. -/
  actions : List (AlertAction × Bool)
  /-- The status updates that were written, each with whether it was taken. -/
  statuses : List (StatusUpdate × Bool)
  /-- The replies that were sent, each with whether it went out. -/
  replies : List (String × String × Bool)
  /-- The alerts that were looked up. -/
  lookups : List Int64
  /-- How often everything was counted. -/
  count : Metric → ℕ

namespace Ledger

variable {es es' : List Effect}

/-- The ledger of a row of effects. -/
def of (es : List Effect) : Ledger where
  actions := es.filterMap Effect.action?
  statuses := es.filterMap Effect.status?
  replies := es.filterMap Effect.reply?
  lookups := es.filterMap Effect.lookup?
  count m := es.count (.counted m)

/-- The ledger with one more count. -/
def counting (ledger : Ledger) (m : Metric) : Ledger where
  actions := ledger.actions
  statuses := ledger.statuses
  replies := ledger.replies
  lookups := ledger.lookups
  count m' := if m' = m then ledger.count m' + 1 else ledger.count m'

@[simp] theorem actions_append : (of (es ++ es')).actions = (of es).actions ++ (of es').actions :=
  List.filterMap_append

@[simp] theorem statuses_append :
    (of (es ++ es')).statuses = (of es).statuses ++ (of es').statuses :=
  List.filterMap_append

@[simp] theorem replies_append : (of (es ++ es')).replies = (of es).replies ++ (of es').replies :=
  List.filterMap_append

@[simp] theorem lookups_append : (of (es ++ es')).lookups = (of es).lookups ++ (of es').lookups :=
  List.filterMap_append

@[simp] theorem count_append (m : Metric) :
    (of (es ++ es')).count m = (of es).count m + (of es').count m :=
  List.count_append

theorem count_counted (m m' : Metric) :
    (of [.counted m]).count m' = if m' = m then 1 else 0 := by
  show List.count (Effect.counted m') [.counted m] = _
  rw [List.count_singleton]
  by_cases h : m' = m
  · rw [if_pos h, h, if_pos (beq_self_eq_true _)]
  · rw [if_neg h, if_neg]
    intro heq
    exact h (Effect.counted.inj (beq_iff_eq.1 heq)).symm

/-- One count behind a row of effects changes nothing else. -/
theorem of_append_counted (es : List Effect) (m : Metric) :
    of (es ++ [.counted m]) = (of es).counting m := by
  have hcount : (of (es ++ [.counted m])).count = ((of es).counting m).count := by
    funext m'
    rw [count_append, count_counted]
    show _ = if m' = m then (of es).count m' + 1 else (of es).count m'
    split_ifs <;> rfl
  have hactions : (of (es ++ [.counted m])).actions = (of es).actions := by
    rw [actions_append]
    exact List.append_nil _
  have hstatuses : (of (es ++ [.counted m])).statuses = (of es).statuses := by
    rw [statuses_append]
    exact List.append_nil _
  have hreplies : (of (es ++ [.counted m])).replies = (of es).replies := by
    rw [replies_append]
    exact List.append_nil _
  have hlookups : (of (es ++ [.counted m])).lookups = (of es).lookups := by
    rw [lookups_append]
    exact List.append_nil _
  rw [counting, mk.injEq]
  exact ⟨hactions, hstatuses, hreplies, hlookups, hcount⟩

/-- A trace is no entry of a ledger. -/
theorem of_traced (span : Span) (es : List Effect) : of (.traced span :: es) = of es := by
  have hcount : (of (.traced span :: es)).count = (of es).count := by
    funext m
    show List.count (Effect.counted m) (.traced span :: es) = List.count (Effect.counted m) es
    exact List.count_cons_of_ne (by simp)
  rw [mk.injEq]
  exact ⟨rfl, rfl, rfl, rfl, hcount⟩

/-! ## Entries -/

section Entries

variable {a : AlertAction} {taken : Bool} {alertId : Int64}

theorem actions_wroteAction :
    (of (.wroteAction a taken :: es)).actions = (a, taken) :: (of es).actions := rfl

theorem statuses_wroteAction :
    (of (.wroteAction a taken :: es)).statuses = (of es).statuses := rfl

theorem replies_wroteAction :
    (of (.wroteAction a taken :: es)).replies = (of es).replies := rfl

theorem actions_lookedUp : (of (.lookedUp alertId :: es)).actions = (of es).actions := rfl

theorem statuses_lookedUp : (of (.lookedUp alertId :: es)).statuses = (of es).statuses := rfl

theorem lookups_lookedUp :
    (of (.lookedUp alertId :: es)).lookups = alertId :: (of es).lookups := rfl

end Entries

/-- An action of a ledger is one that was written. -/
theorem mem_actions {a : AlertAction} {taken : Bool} :
    (a, taken) ∈ (of es).actions ↔ .wroteAction a taken ∈ es := by
  rw [of, List.mem_filterMap]
  refine ⟨?_, fun h => ⟨_, h, rfl⟩⟩
  rintro ⟨e, he, h⟩
  cases e <;> cases h
  exact he

end Ledger

/-! ## Sessions -/

namespace Webhook

/-- How a visit is answered. -/
def Visit.answered (l : Line) (v : Visit) : Option Response × List Effect :=
  answer l v.host v.now v.requestId v.request

theorem sessionEffects_append (l : Line) (visits later : List Visit) :
    sessionEffects l (visits ++ later) = sessionEffects l visits ++ sessionEffects l later := by
  rw [sessionEffects, session, List.map_append, List.flatMap_append]
  rfl

theorem sessionEffects_singleton (l : Line) (v : Visit) :
    sessionEffects l [v] = (v.answered l).2 := by
  rw [sessionEffects, session, List.map_singleton, List.flatMap_singleton]
  rfl

/-- An effect of a session is an effect of one of its visits. -/
theorem mem_sessionEffects {l : Line} {visits : List Visit} {e : Effect} :
    e ∈ sessionEffects l visits ↔ ∃ v ∈ visits, e ∈ (v.answered l).2 := by
  rw [sessionEffects, session, List.mem_flatMap]
  refine ⟨?_, ?_⟩
  · rintro ⟨answered, hanswered, he⟩
    obtain ⟨v, hv, rfl⟩ := List.mem_map.1 hanswered
    exact ⟨v, hv, he⟩
  · rintro ⟨v, hv, he⟩
    exact ⟨_, List.mem_map_of_mem hv, he⟩

end Webhook
end AlertLine
