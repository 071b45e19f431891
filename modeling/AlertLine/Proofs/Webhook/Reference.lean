import AlertLine.Proofs.Settings.Accepted
import AlertLine.Proofs.Voice.Context
import AlertLine.Proofs.Webhook.Calls
import AlertLine.Proofs.Webhook.Gate

/-!
# Which alert a pressed key acts on

Whatever a callback writes names the alert that its query names last (`alertId_of_wroteAction`).
The keys are looked at before the number is, so where that number is missing or cannot be read a
key still acknowledges or closes, without a number: `unreferenced_iff` says exactly when. A key of
accepted settings can always be pressed (`action?_acknowledge`), so actions are sure to have a
number exactly for the queries that give one, or that are about no alert (`reference_of_key`).
`unreferenced_acknowledgement` is a callback whose query gives none.
-/

namespace AlertLine

/-- An action that is meant for one alert. -/
def ActionKind.NamesAlert (kind : ActionKind) : Prop := kind = .acknowledge ∨ kind = .close

/-! ## Pressing a key -/

/-- The form of an event in which nothing but keys is told. -/
def CallEvent.formOf (pressed : String) : Bytes := Utf8.encode (Form.encode [("Digits", pressed)])

/-- The event of a pressed key tells the key and no end of the call. -/
theorem ofForm_formOf {key : String} (h : IsKey key) :
    CallEvent.ofForm (CallEvent.formOf key) = ⟨"", "", "", "", some key⟩ := by
  have hparse : Form.parse (CallEvent.formOf key) = [("Digits", key)] := Form.parseQuery_encode _
  rw [CallEvent.ofForm, hparse, List.foldl_cons, List.foldl_nil]
  show (if (Text.trim key).isEmpty then CallEvent.blank
    else { CallEvent.blank with digits := some (Text.trim key) }) = _
  rw [h.trim, h.isEmpty]
  rfl

/-- The key for acknowledging acknowledges. -/
theorem action?_acknowledge {s : Settings} (h : IsKey s.keys.acknowledge) :
    s.keys.action? s.keys.acknowledge = some .acknowledge := by
  rw [MenuKeys.action?, h.trim]
  exact if_pos rfl

namespace Webhook

/-! ## The alert of a callback -/

/-- The alert that a query names: what the last value under its name gives. -/
def namedAlert? (query : String) : Option Int64 :=
  (CallContext.lastValue? CallContext.alertKey (Form.parseQuery query)).bind CallContext.alertIdOf?

theorem alertId_ofQuery (query : String) :
    (CallContext.ofQuery query).alertId = namedAlert? query := by
  rw [CallContext.ofQuery, CallContext.ofPairs_eq, namedAlert?]

variable {s : Settings} {h : Host} {requestId query : String} {body : Bytes}

/-- An action of a callback names the alert of its query. -/
theorem alertId_of_wroteAction {a : AlertAction} {taken : Bool}
    (ha : .wroteAction a taken ∈ (handleCall s h requestId query body).2) :
    a.alertId = namedAlert? query := by
  obtain ⟨-, -, kind, -, rfl, -⟩ :=
    wroteAction_mem_callMenu.1 (wroteAction_mem_handleCall.1 ha)
  exact alertId_ofQuery query

/-! ## Actions without an alert -/

/-- A key acts on no alert: the call is about an alert and goes on, a key for acknowledging or
closing is pressed, and the action without a number is taken. -/
structure ActsOnNone (s : Settings) (h : Host) (c : CallContext) (e : CallEvent)
    (kind : ActionKind) : Prop where
  intent : c.intent = .alert
  goes : callHasEnded e.status = false
  key : e.digits.bind s.keys.action? = some kind
  names : kind.NamesAlert
  taken : (h.writeAction (e.keyAction kind none)).1 = true

/-- **When a key acts on no alert.** -/
theorem unreferenced_iff :
    (∃ a, (a, true) ∈ (Ledger.of (handleCall s h requestId query body).2).actions ∧
        a.kind.NamesAlert ∧ a.alertId = none) ↔
      namedAlert? query = none ∧ ∃ kind, ActsOnNone s h (.ofQuery query) (.ofForm body) kind := by
  refine ⟨?_, ?_⟩
  · rintro ⟨a, ha, hnames, hnone⟩
    have hwrote := Ledger.mem_actions.1 ha
    have hnamed : namedAlert? query = none := (alertId_of_wroteAction hwrote).symm.trans hnone
    obtain ⟨hintent, hgoes, kind, hkey, rfl, htaken⟩ :=
      wroteAction_mem_callMenu.1 (wroteAction_mem_handleCall.1 hwrote)
    rw [alertId_ofQuery, hnamed] at htaken
    exact ⟨hnamed, kind, hintent, hgoes, hkey, hnames, htaken.symm⟩
  · rintro ⟨hnamed, kind, hnone⟩
    refine ⟨(CallEvent.ofForm body).keyAction kind none, Ledger.mem_actions.2 ?_, hnone.names, rfl⟩
    refine wroteAction_mem_handleCall.2 (wroteAction_mem_callMenu.2 ?_)
    refine ⟨hnone.intent, hnone.goes, kind, hnone.key, ?_, hnone.taken.symm⟩
    rw [alertId_ofQuery, hnamed]

/-- With accepted settings and a query about an alert that it does not name, the key for
acknowledging acts on no alert. -/
theorem actsOnNone_of_accepted {given : Settings} (haccepted : given.accepted = .ok s)
    {c : CallContext} (hintent : c.intent = .alert) :
    ActsOnNone s writableHost c (.ofForm (CallEvent.formOf s.keys.acknowledge))
      .acknowledge := by
  obtain ⟨-, hcheck⟩ := Settings.accepted_eq_ok_iff.1 haccepted
  have hkeypad : IsKey s.keys.acknowledge :=
    (MenuKeys.check_eq_ok_iff.1 hcheck).1 _ List.mem_cons_self
  refine ⟨hintent, ?_, ?_, .inl rfl, rfl⟩
  · rw [ofForm_formOf hkeypad]
    show callHasEnded "" = false
    decide +kernel
  · rw [ofForm_formOf hkeypad]
    exact action?_acknowledge hkeypad

/-- **Which alert a pressed key acts on.** Under accepted settings, every action of a callback
names the alert that its query names. One that is meant for an alert is recorded without a number
exactly if the query names none and a key acts nevertheless. So the actions of a query are sure to
have a number exactly if the query names an alert, or is not about one. -/
theorem reference_of_key {given s : Settings} (haccepted : given.accepted = .ok s)
    (query : String) :
    (∀ h requestId body a taken,
      (a, taken) ∈ (Ledger.of (handleCall s h requestId query body).2).actions →
        a.alertId = namedAlert? query) ∧
    (∀ h requestId body,
      (∃ a, (a, true) ∈ (Ledger.of (handleCall s h requestId query body).2).actions ∧
          a.kind.NamesAlert ∧ a.alertId = none) ↔
        namedAlert? query = none ∧ ∃ kind, ActsOnNone s h (.ofQuery query) (.ofForm body) kind) ∧
    ((∀ h requestId body a,
      (a, true) ∈ (Ledger.of (handleCall s h requestId query body).2).actions →
        a.kind.NamesAlert → ∃ id, a.alertId = some id ∧ namedAlert? query = some id) ↔
      ((CallContext.ofQuery query).intent = .alert → namedAlert? query ≠ none)) := by
  refine ⟨fun h requestId body a taken ha => alertId_of_wroteAction (Ledger.mem_actions.1 ha),
    fun h requestId body => unreferenced_iff, fun hsure hintent hnamed => ?_,
    fun hnames h requestId body a ha _ => ?_⟩
  · -- the key for acknowledging would be recorded without a number
    obtain ⟨a, ha, hkind, hnone⟩ := (@unreferenced_iff s writableHost "" query _).2
      ⟨hnamed, .acknowledge, actsOnNone_of_accepted haccepted hintent⟩
    obtain ⟨id, hid, -⟩ := hsure _ _ _ a ha hkind
    rw [hnone] at hid
    cases hid
  · have hwrote := Ledger.mem_actions.1 ha
    obtain ⟨hintent, -⟩ := wroteAction_mem_callMenu.1 (wroteAction_mem_handleCall.1 hwrote)
    obtain ⟨id, hid⟩ := Option.ne_none_iff_exists'.1 (hnames hintent)
    exact ⟨id, (alertId_of_wroteAction hwrote).trans hid, hid⟩

/-- A key is pressed in a call about an alert whose number cannot be read. -/
def keyWithoutAlert : Response × List Effect :=
  handleCall .standard writableHost "1" "type=alert&alertID=forty-two"
    (Utf8.encode "CallSid=CA42&CallStatus=in-progress&To=%2B15550000001&Digits=4")

theorem accepted_standard : Settings.standard.accepted = .ok .standard := by
  decide +kernel

/-- **An acknowledgement without an alert is recorded.** -/
theorem unreferenced_acknowledgement :
    Settings.standard.accepted = .ok .standard ∧
      namedAlert? "type=alert&alertID=forty-two" = none ∧
      (Ledger.of keyWithoutAlert.2).actions =
        [(⟨.acknowledge, none, "+15550000001", .voice "CA42"⟩, true)] :=
  ⟨accepted_standard, by decide +kernel, by decide +kernel⟩

/-- Under the standard settings a query that names alert 42 is sure to have actions with that
number. -/
theorem reference_of_key_standard :
    Settings.standard.accepted = .ok .standard ∧
      ∀ h requestId body a, (a, true) ∈
          (Ledger.of (handleCall .standard h requestId "type=alert&alertID=42" body).2).actions →
        a.kind.NamesAlert → a.alertId = some 42 := by
  have hnamed : namedAlert? "type=alert&alertID=42" = some 42 := by decide +kernel
  obtain ⟨-, -, hsure⟩ := reference_of_key accepted_standard "type=alert&alertID=42"
  refine ⟨accepted_standard, fun h requestId body a ha hkind => ?_⟩
  obtain ⟨id, hid, hid'⟩ := hsure.2 (fun _ => by rw [hnamed]; exact Option.some_ne_none 42)
    h requestId body a ha hkind
  rw [hid, ← hid', hnamed]

end Webhook
end AlertLine
