import AlertLine.Proofs.Bus.RoundTrip
import AlertLine.Proofs.Webhook.Reference

/-!
# Which alert a caller hears

A menu tells of an alert by its number (`CallMenu.tellsOf_iff`). That number is the one in the
answer to the lookup, whatever was asked for: each alert is taken as the answer to each question
(`Bus.readLookupReply_write`), and the caller hears it (`Bus.tellsOf_callMenu_iff`). The keys of the
same call act on the alert that its query names. The two are one alert for every call about a query
exactly if the answers to the question for this alert are about it (`Bus.spoken_alert`);
`Bus.another_alert_told` is a call in which they are not.
-/

namespace AlertLine

/-! ## Numbers in front of a colon -/

theorem Decimal.ofInt64_injective {m n : Int64} (h : ofInt64 m = ofInt64 n) : m = n := by
  have hread := readInt64_ofInt64 m
  rw [h, readInt64_ofInt64 n] at hread
  exact (Except.ok.inj hread).symm

/-- What stands in front of the first colon is the number. -/
theorem Decimal.takeWhile_ofInt64 (n : Int64) (rest : String) :
    (ofInt64 n ++ (": " ++ rest)).toList.takeWhile (· != ':') = (ofInt64 n).toList := by
  have hcolon : ∀ c ∈ (ofInt64 n).toList, (c != ':') = true := by
    intro c hc
    rcases mem_ofInt64 hc with rfl | hdigit
    · decide
    · apply bne_iff_ne.2
      rintro rfl
      exact absurd hdigit (by decide)
  rw [String.toList_append, List.takeWhile_append_of_pos hcolon, String.toList_append]
  simp

/-! ## Menus -/

namespace CallMenu

/-- What is said of an alert with this number, up to the colon behind it. -/
def numbered (alertId : Int64) (rest : String) : String :=
  "Alert " ++ (Decimal.ofInt64 alertId ++ (": " ++ rest))

theorem numbered_inj {m n : Int64} {rest rest' : String} (h : numbered m rest = numbered n rest') :
    m = n := by
  apply Decimal.ofInt64_injective
  have hbehind := (String.append_right_inj "Alert ").1 h
  rw [← String.toList_inj, ← Decimal.takeWhile_ofInt64 m rest, hbehind, Decimal.takeWhile_ofInt64]

theorem ne_numbered {text : String} (h : text.toList.head? ≠ some 'A') (n : Int64)
    (rest : String) : text ≠ numbered n rest := by
  rintro rfl
  apply h
  rw [numbered, String.toList_append]
  rfl

theorem head?_codeText (code : String) : (codeText code).toList.head? = some 'Y' := by
  have htext : codeText code =
      "Your verification code is: " ++ (code ++ ". Repeat: " ++ code ++ ".") := by
    show "Your verification code is: " ++ code ++ ". Repeat: " ++ code ++ "." = _
    simp only [String.append_assoc]
  rw [htext, String.toList_append]
  rfl

theorem alertText_eq_numbered (a : Alert) : ∃ rest, alertText a = numbered a.id rest := by
  unfold alertText numbered
  dsimp only
  split
  · exact ⟨Text.trim a.summary ++ ".", by simp only [String.append_assoc]⟩
  · exact ⟨Text.trim a.summary ++ "." ++ " " ++ Text.trim a.details,
      by simp only [String.append_assoc]⟩

/-- A menu tells of an alert: what plays while keys are taken begins with its number. -/
def TellsOf (keys : MenuKeys) (menu : CallMenu) (alertId : Int64) : Prop :=
  ∃ rest children, menu.prompt keys = takingKey (.say (numbered alertId rest) :: children)

theorem takingKey_say_inj {text text' : String} {children children' : List Verb}
    (h : takingKey (.say text :: children) = takingKey (.say text' :: children')) :
    text = text' := by
  injection h with h
  injection h with h _
  injection h with _ _ h
  injection h with h _
  injection h

/-- Only the menu of an alert tells of one, and of no other. -/
theorem tellsOf_iff {keys : MenuKeys} {menu : CallMenu} {alertId : Int64} :
    menu.TellsOf keys alertId ↔ ∃ alert, menu = .alert alert ∧ alert.id = alertId := by
  constructor
  · rintro ⟨rest, children, htold⟩
    cases menu with
    | alert a =>
      obtain ⟨rest', htext⟩ := alertText_eq_numbered a
      have hsaid := takingKey_say_inj htold
      rw [htext] at hsaid
      exact ⟨a, rfl, numbered_inj hsaid⟩
    | alertUnavailable alertId? =>
      cases alertId? with
      | none => simp [prompt, sayAndHangup, takingKey] at htold
      | some id =>
        have hsaid : fallbackText = numbered alertId rest := takingKey_say_inj htold
        exact absurd hsaid (ne_numbered (by decide) alertId rest)
    | verification code =>
      have hsaid : codeText code = numbered alertId rest := takingKey_say_inj htold
      exact absurd hsaid (ne_numbered (by simp [head?_codeText]) alertId rest)
    | confirmation kind => simp [prompt, sayAndHangup, takingKey] at htold
    | test => simp [prompt, sayAndHangup, takingKey] at htold
    | generic => simp [prompt, sayAndHangup, takingKey] at htold
    | actionFailed => simp [prompt, sayAndHangup, takingKey] at htold
    | hangup => simp [prompt, takingKey] at htold
  · rintro ⟨a, rfl, rfl⟩
    obtain ⟨rest, htext⟩ := alertText_eq_numbered a
    exact ⟨rest, _, by rw [← htext]; rfl⟩

end CallMenu

namespace Bus

open Webhook

/-! ## Answers to lookups -/

/-- An answer is an alert if it is the document of one, whatever was asked for. -/
theorem readLookupReply_eq_ok_iff {unread : Bytes → String} {alertId : Int64} {payload : Bytes}
    {alert : Alert} :
    readLookupReply unread alertId payload = .ok alert ↔
      Json.read LookupReply payload = some (.found alert) := by
  unfold readLookupReply
  cases hread : Json.read LookupReply payload with
  | none => simp
  | some reply =>
    cases reply with
    | found other => simp
    | failed error =>
      by_cases herror : error = notFoundError
      · simp [herror]
      · simp [herror]

/-- The answers to the question for an alert are about it. -/
def NamesAsked (answer : Publication → BusAnswer) (unread : Bytes → String) (alertId : Int64) :
    Prop :=
  ∀ payload alert, answer (lookupRequest alertId) = .payload payload →
    readLookupReply unread alertId payload = .ok alert → alert.id = alertId

section Calls

variable {limit : ℕ} {answer : Publication → BusAnswer} {unread : Bytes → String}
  {sendText : String → String → Sending} {s : Settings} {query : String} {body : Bytes}

theorem findAlert_host_eq_done_iff {alertId : Int64} {alert : Alert} :
    (host limit answer unread sendText).findAlert alertId = .done alert ↔
      ∃ payload, answer (lookupRequest alertId) = .payload payload ∧
        readLookupReply unread alertId payload = .ok alert := by
  show findAlert unread alertId (answer (lookupRequest alertId)) = .done alert ↔ _
  unfold findAlert
  cases answer (lookupRequest alertId) with
  | payload bytes =>
    simp only [BusAnswer.payload.injEq, exists_eq_left']
    cases readLookupReply unread alertId bytes <;> simp
  | noResponders => simp
  | silent => simp

/-- **Which alert a caller hears.** It is the one in the answer to the lookup of the alert that the
call is about. -/
theorem tellsOf_callMenu_iff {c : CallContext} {e : CallEvent} {number : Int64} :
    (callMenu s (host limit answer unread sendText) c e).1.TellsOf s.keys number ↔
      c.intent = .alert ∧ callHasEnded e.status = false ∧ e.digits.bind s.keys.action? = none ∧
        ∃ alertId payload alert, c.alertId = some alertId ∧
          answer (lookupRequest alertId) = .payload payload ∧
          readLookupReply unread alertId payload = .ok alert ∧ alert.id = number := by
  simp only [CallMenu.tellsOf_iff, callMenu_eq_alert_iff, findAlert_host_eq_done_iff]
  constructor
  · rintro ⟨alert, ⟨hintent, hgoes, hkey, alertId, halert, payload, hanswer, hread⟩, hnumber⟩
    exact ⟨hintent, hgoes, hkey, alertId, payload, alert, halert, hanswer, hread, hnumber⟩
  · rintro ⟨hintent, hgoes, hkey, alertId, payload, alert, halert, hanswer, hread, hnumber⟩
    exact ⟨alert, ⟨hintent, hgoes, hkey, alertId, halert, payload, hanswer, hread⟩, hnumber⟩

/-- A callback without a form comes while the call goes on, before a key is pressed. -/
theorem tellsOf_opening {alertId : Int64} {payload : Bytes} {alert : Alert}
    (hintent : (CallContext.ofQuery query).intent = .alert)
    (hnamed : namedAlert? query = some alertId)
    (hanswer : answer (lookupRequest alertId) = .payload payload)
    (hread : readLookupReply unread alertId payload = .ok alert) :
    (callMenu s (host limit answer unread sendText) (.ofQuery query) (.ofForm [])).1.TellsOf s.keys
      alert.id := by
  apply tellsOf_callMenu_iff.2
  rw [alertId_ofQuery]
  have hgoes : callHasEnded "" = false := by decide +kernel
  exact ⟨hintent, hgoes, rfl, alertId, payload, alert, hnamed, hanswer, hread, rfl⟩

/-- The key for acknowledging, pressed in a call about an alert. -/
theorem acknowledged_of_accepted {given : Settings} (haccepted : given.accepted = .ok s)
    (hintent : (CallContext.ofQuery query).intent = .alert) :
    ∃ a, (a, true) ∈ (Ledger.of (handleCall s writableHost "" query
      (CallEvent.formOf s.keys.acknowledge)).2).actions := by
  obtain ⟨-, hgoes, hkey, -, -⟩ := actsOnNone_of_accepted haccepted hintent
  let e := CallEvent.ofForm (CallEvent.formOf s.keys.acknowledge)
  let a := e.keyAction .acknowledge (CallContext.ofQuery query).alertId
  have hwrote : .wroteAction a true ∈ (callMenu s writableHost (.ofQuery query) e).2 :=
    wroteAction_mem_callMenu.2 ⟨hintent, hgoes, .acknowledge, hkey, rfl, rfl⟩
  exact ⟨a, Ledger.mem_actions.2 (wroteAction_mem_handleCall.2 hwrote)⟩

/-- **Whether the alert that is spoken is the one that is acted on.** Each alert is taken as the
answer to each question. A caller hears the number of the answer to the lookup for the alert that
the query names, and every key acts on the alert that the query names. For all calls about a query
these are one number exactly if the answers to the question for the alert are about it. -/
theorem spoken_alert {given : Settings} (haccepted : given.accepted = .ok s) (limit : ℕ)
    (answer : Publication → BusAnswer) (unread : Bytes → String)
    (sendText : String → String → Sending) (query : String) :
    (∀ alertId payload alert, readLookupReply unread alertId payload = .ok alert ↔
      Json.read LookupReply payload = some (.found alert)) ∧
    (∀ alertId alert, readLookupReply unread alertId (Json.write alert) = .ok alert) ∧
    (∀ body number,
      (callMenu s (host limit answer unread sendText) (.ofQuery query)
          (.ofForm body)).1.TellsOf s.keys number →
        ∃ alertId payload alert, namedAlert? query = some alertId ∧
          answer (lookupRequest alertId) = .payload payload ∧
          readLookupReply unread alertId payload = .ok alert ∧ alert.id = number) ∧
    (∀ h requestId body a taken,
      (a, taken) ∈ (Ledger.of (handleCall s h requestId query body).2).actions →
        a.alertId = namedAlert? query) ∧
    ((∀ body number,
      (callMenu s (host limit answer unread sendText) (.ofQuery query)
          (.ofForm body)).1.TellsOf s.keys number →
        ∀ h requestId body' a taken,
          (a, taken) ∈ (Ledger.of (handleCall s h requestId query body').2).actions →
            a.alertId = some number) ↔
      ((CallContext.ofQuery query).intent = .alert →
        ∀ alertId, namedAlert? query = some alertId → NamesAsked answer unread alertId)) := by
  have hacted : ∀ h requestId body a taken,
      (a, taken) ∈ (Ledger.of (handleCall s h requestId query body).2).actions →
        a.alertId = namedAlert? query := by
    intro h requestId body a taken ha
    exact alertId_of_wroteAction (Ledger.mem_actions.1 ha)
  refine ⟨?_, readLookupReply_write unread, ?heard, hacted, ?together⟩
  · intro alertId payload alert
    exact readLookupReply_eq_ok_iff
  case heard =>
    intro body number htold
    obtain ⟨-, -, -, alertId, payload, alert, hnamed, hanswer, hread, hnumber⟩ :=
      tellsOf_callMenu_iff.1 htold
    rw [alertId_ofQuery] at hnamed
    exact ⟨alertId, payload, alert, hnamed, hanswer, hread, hnumber⟩
  case together =>
    constructor
    · -- a call in which the alert is heard first, and then acknowledged
      intro htogether hintent alertId hnamed payload alert hanswer hread
      obtain ⟨a, ha⟩ := acknowledged_of_accepted haccepted hintent
      have hspoken := htogether [] alert.id (tellsOf_opening hintent hnamed hanswer hread)
        writableHost "" _ a true ha
      rw [hacted _ _ _ _ _ ha, hnamed] at hspoken
      exact (Option.some.inj hspoken).symm
    · intro hnames body number htold h requestId body' a taken ha
      obtain ⟨hintent, -, -, alertId, payload, alert, hnamed, hanswer, hread, rfl⟩ :=
        tellsOf_callMenu_iff.1 htold
      rw [alertId_ofQuery] at hnamed
      rw [hacted _ _ _ _ _ ha, hnamed, hnames hintent alertId hnamed payload alert hanswer hread]

end Calls

/-! ## A call -/

/-- An alert. -/
def serverDown : Alert := ⟨42, "Server Down", ""⟩

/-- An alerting system that answers all questions with one alert. -/
def oneAnswer (_ : Publication) : BusAnswer := .payload (Json.write serverDown)

/-- What a reader says of an answer that it cannot read. -/
def notJson (_ : Bytes) : String := "expected value at line 1 column 1"

/-- A sender that has no number to send from. -/
def noTexts (_ _ : String) : Sending := .ended (.refused .noNumber)

/-- The alerting system with one answer, over a bus that takes 4096 bytes. -/
def oneAlertHost : Host := host 4096 oneAnswer notJson noTexts

/-- **Another alert is spoken than the one that is acted on.** The answer to the question for alert
7 is alert 42: its number is spoken, and the key for acknowledging acknowledges alert 7. -/
theorem another_alert_told :
    readLookupReply notJson 7 (Json.write serverDown) = .ok serverDown ∧ serverDown.id ≠ 7 ∧
      (callMenu .standard oneAlertHost (.ofQuery "type=alert&alertID=7") (.ofForm [])).1.TellsOf
        Settings.standard.keys 42 ∧
      (Ledger.of (handleCall .standard oneAlertHost "1" "type=alert&alertID=7"
        (Utf8.encode
          "CallSid=CA7&CallStatus=in-progress&To=%2B15550000001&Digits=4")).2).actions =
        [(⟨.acknowledge, some 7, "+15550000001", .voice "CA7"⟩, true)] := by
  have hread := readLookupReply_write notJson 7 serverDown
  have hanswer : oneAnswer (lookupRequest 7) = .payload (Json.write serverDown) := rfl
  have hintent : (CallContext.ofQuery "type=alert&alertID=7").intent = .alert := by decide +kernel
  have hnamed : namedAlert? "type=alert&alertID=7" = some 7 := by decide +kernel
  have htold : (callMenu .standard oneAlertHost (.ofQuery "type=alert&alertID=7")
      (.ofForm [])).1.TellsOf Settings.standard.keys serverDown.id :=
    tellsOf_opening hintent hnamed hanswer hread
  exact ⟨hread, by decide, htold, by decide +kernel⟩

/-- Calls about alert 42 speak of the alert that they act on; calls about alert 7 do not. -/
theorem spoken_alert_serverDown :
    Settings.standard.accepted = .ok .standard ∧
      (∀ body number,
        (callMenu .standard oneAlertHost (.ofQuery "type=alert&alertID=42")
            (.ofForm body)).1.TellsOf Settings.standard.keys number →
          ∀ h requestId body' a taken,
            (a, taken) ∈ (Ledger.of (handleCall .standard h requestId "type=alert&alertID=42"
              body').2).actions → a.alertId = some number) ∧
      ¬ ∀ body number,
        (callMenu .standard oneAlertHost (.ofQuery "type=alert&alertID=7")
            (.ofForm body)).1.TellsOf Settings.standard.keys number →
          ∀ h requestId body' a taken,
            (a, taken) ∈ (Ledger.of (handleCall .standard h requestId "type=alert&alertID=7"
              body').2).actions → a.alertId = some number := by
  obtain ⟨-, -, -, -, hasked⟩ := spoken_alert accepted_standard 4096 oneAnswer notJson noTexts
    "type=alert&alertID=42"
  obtain ⟨-, -, -, -, hother⟩ := spoken_alert accepted_standard 4096 oneAnswer notJson noTexts
    "type=alert&alertID=7"
  refine ⟨accepted_standard, hasked.2 ?_, fun htogether => ?_⟩
  · intro _ alertId hnamed payload alert hanswer hread
    have hid : namedAlert? "type=alert&alertID=42" = some 42 := by decide +kernel
    have hpayload : Json.write serverDown = payload := by injection hanswer
    rw [← hpayload, readLookupReply_write] at hread
    rw [hid] at hnamed
    rw [← Except.ok.inj hread, ← Option.some.inj hnamed]
    rfl
  · have hnames := hother.1 htogether (by decide +kernel) 7 (by decide +kernel)
    have hsame := hnames _ _ rfl (readLookupReply_write notJson 7 serverDown)
    exact absurd hsame (by decide)

end Bus
end AlertLine
