import AlertLine.Proofs.Attempt
import AlertLine.Proofs.Url.Query
import AlertLine.Proofs.Voice.Context
import AlertLine.Proofs.Voice.Spoken
import AlertLine.Proofs.Webhook.Calls
import AlertLine.Proofs.Webhook.Gate
import AlertLine.Provider.Sender

/-!
# A call is answered for what it was made for

A call is made with an address whose query tells what it is for, and is answered by what the query
of that address tells; nothing else connects the two. The address lies beside the base address for
callbacks, so whatever path, query or fragment that one has, the query is that of the notification
alone (`Settings.exists_of_callbackUrl`). It is read as the notification's context, the code
without blanks around it. So each notification is answered as it was meant (`callback_agrees`): the
alert that is looked up or acted on is the one that was notified, and the code that is heard is
the one that was sent, as it comes through markup. There a control character in it is a space
(`bell_in_code_unspoken`).
-/

namespace AlertLine

/-! ## The address for callbacks -/

namespace Settings

/-- The address for callbacks is cut at its marks, and its query is that of the notification. -/
theorem exists_of_callbackUrl {s : Settings} {n : Notification} {address : String}
    (h : s.callbackUrl n = .ok address) :
    ∃ u : Url, u.IsCut ∧ u.query = some (Form.encode (CallContext.ofNotification n).pairs) ∧
      u.text = address := by
  obtain ⟨base, -, h⟩ := bind_eq_ok.1 h
  simp only at h
  split at h
  case _ beside hbeside =>
    obtain ⟨u, hparse, hbeside⟩ := bind_eq_ok.1 hbeside
    have hnames : ∀ name ∈ voicePath, IsUnmarked name.toList := by decide
    have hcut := Url.isCut_withTrailingSlash (Url.isCut_of_parse hparse)
    obtain ⟨hcut, hquery, -⟩ := Url.isCut_of_beside hcut hnames hbeside
    cases h
    refine ⟨_, Url.isCut_withPairs hcut _, ?_, rfl⟩
    rw [Url.withPairs, hquery]
  · cases h

/-- A call is made with the address for callbacks. -/
theorem content_of_buildRequest {s : Settings} {destination : String} {n : Notification}
    {o : Outbound} (h : s.buildRequest destination .voice n = .ok o) :
    ∃ address, o.content = .callback address ∧ s.callbackUrl n = .ok address := by
  obtain ⟨origin, -, h⟩ := bind_eq_ok.1 h
  obtain ⟨address, haddress, h⟩ := bind_eq_ok.1 h
  cases h
  exact ⟨address, rfl, haddress⟩

end Settings

/-! ## Calls -/

/-- What a call that goes on is answered with, if it is answered for what it was made for. For an
alert a menu key acts on that alert, and without one the alert is looked up; the caller hears the
code, without the blanks around it and as it comes through; and of a test the caller hears that it
is one. -/
def AnsweredAsMeant (t : Settings) (host : Host) (e : CallEvent) (answer : String × List Effect) :
    Notification → Prop
  | .alert id _ _ =>
    (e.digits.bind t.keys.action? = none → (Ledger.of answer.2).lookups = [id]) ∧
    ∀ kind, e.digits.bind t.keys.action? = some kind →
      ∃ taken, (Ledger.of answer.2).actions = [(e.keyAction kind (some id), taken)] ∧
        (host.recordAction (e.keyAction kind (some id)) = .done () → taken)
  | .verification code =>
    Text.isBlankText code = false →
      Markup.spoken answer.1 =
        ["Your verification code is: " ++ Markup.plain (Text.trim code) ++ ". Repeat: " ++
            Markup.plain (Text.trim code) ++ ".",
          "Press any key to hear the code again.", "Goodbye."]
  | .test =>
    Markup.spoken answer.1 =
      ["This is a test message from your alerting system. If you are hearing this, your voice " ++
        "configuration is correct."]

theorem answeredAsMeant (n : Notification) (t : Settings) (host : Host) {e : CallEvent}
    (hgoes : callHasEnded e.status = false) :
    AnsweredAsMeant t host e
      (Webhook.respondToCall t host (CallContext.ofNotification n).arrived e) n := by
  rw [Webhook.respondToCall_eq, Webhook.callMenu_of_goes hgoes]
  cases n with
  | alert id summary details =>
    have hcontext : (CallContext.ofNotification (.alert id summary details)).arrived =
        ⟨.alert, some id, none⟩ := rfl
    rw [hcontext]
    refine ⟨fun hkey => Webhook.lookups_openMenu rfl rfl hkey, fun kind hkey => ?_⟩
    refine ⟨(host.writeAction (e.keyAction kind (some id))).1, ?_, ?_⟩
    · show (Ledger.of (Webhook.openMenu t host ⟨.alert, some id, none⟩ e).2).actions = _
      rw [Webhook.openMenu_of_key rfl hkey]
      exact Host.actions_writeAction _
    · intro hdone
      rw [Host.writeAction_done hdone]
  | verification code =>
    intro hcode
    have hcontext : (CallContext.ofNotification (.verification code)).arrived =
        ⟨.verification, none, some (Text.trim code)⟩ := by
      rw [CallContext.arrived, ← CallContext.codeOf?_of_not_blank hcode]
      rfl
    rw [hcontext, Webhook.openMenu_verification rfl rfl]
    exact CallMenu.spoken_verification t (Text.trim code)
  | test =>
    have hcontext : (CallContext.ofNotification .test).arrived = ⟨.test, none, none⟩ := rfl
    rw [hcontext, Webhook.openMenu_test rfl]
    exact CallMenu.spoken_test t

/-- **A call is answered for what it was made for.** The address that a call is made with has a
query; the query is read as the context of the notification, the code without the blanks around it;
and a call that goes on is answered with that query as it was meant. -/
theorem callback_agrees {s : Settings} {destination : String} {n : Notification} {o : Outbound}
    (h : s.buildRequest destination .voice n = .ok o) :
    ∃ (u : Url) (query : String), o.content = .callback u.text ∧ u.query = some query ∧
      Url.queryText u.text = some query ∧
      CallContext.ofQuery query = (CallContext.ofNotification n).arrived ∧
      ∀ (t : Settings) (host : Host) (e : CallEvent), callHasEnded e.status = false →
        AnsweredAsMeant t host e
          (Webhook.respondToCall t host (CallContext.ofQuery query) e) n := by
  obtain ⟨address, hcontent, haddress⟩ := Settings.content_of_buildRequest h
  obtain ⟨u, hcut, hquery, rfl⟩ := Settings.exists_of_callbackUrl haddress
  have hcontext := CallContext.ofQuery_encode_pairs (CallContext.ofNotification n)
  refine ⟨u, _, hcontent, hquery, (Url.queryText_text hcut).trans hquery, hcontext, ?_⟩
  intro t host e hgoes
  rw [hcontext]
  exact answeredAsMeant n t host hgoes

/-- Settings whose base address for callbacks has a path to be escaped, a query and a fragment. -/
def settingsWithBase : Settings :=
  { Settings.standard with
    fromNumber := "+15550000000"
    callbackBase := "https://calls.example.org/line one?type=test#top" }

/-- The address for callbacks beside that base, with a query. -/
def callbackAddress (query : String) : String :=
  "https://calls.example.org/line%20one/telnyx/voice?" ++ query

/-- What a call is made with under these settings. -/
def callWith (query : String) : Outbound :=
  ⟨"+15550000001", "+15550000000", .voice, .callback (callbackAddress query)⟩

/-- A call about an alert with a negative number looks up the alert with that number, a call about a
code tells the code, and a test is told as such. -/
theorem callback_agrees_settingsWithBase :
    (settingsWithBase.buildRequest "+15550000001" .voice (.alert (-42) "Server down" "") =
        .ok (callWith "type=alert&alertID=-42") ∧
      ∃ query, Url.queryText (callbackAddress "type=alert&alertID=-42") = some query ∧
        CallContext.ofQuery query = ⟨.alert, some (-42), none⟩ ∧
        ∀ host, (Ledger.of (Webhook.respondToCall settingsWithBase host (CallContext.ofQuery query)
          CallEvent.blank).2).lookups = [-42]) ∧
    (settingsWithBase.buildRequest "+15550000001" .voice (.verification " 40 12\n") =
        .ok (callWith "type=verify&code=+40+12%0A") ∧
      ∃ query, Url.queryText (callbackAddress "type=verify&code=+40+12%0A") = some query ∧
        ∀ host, Markup.spoken (Webhook.respondToCall settingsWithBase host
            (CallContext.ofQuery query) CallEvent.blank).1 =
          ["Your verification code is: 40 12. Repeat: 40 12.",
            "Press any key to hear the code again.", "Goodbye."]) ∧
    settingsWithBase.buildRequest "+15550000001" .voice .test = .ok (callWith "type=test") ∧
      ∃ query, Url.queryText (callbackAddress "type=test") = some query ∧
        ∀ host, Markup.spoken (Webhook.respondToCall settingsWithBase host
            (CallContext.ofQuery query) CallEvent.blank).1 =
          ["This is a test message from your alerting system. If you are hearing this, your " ++
            "voice configuration is correct."] := by
  have hgoes : callHasEnded CallEvent.blank.status = false := by decide +kernel
  have halert : settingsWithBase.buildRequest "+15550000001" .voice
      (.alert (-42) "Server down" "") = .ok (callWith "type=alert&alertID=-42") := by
    decide +kernel
  have hcode : settingsWithBase.buildRequest "+15550000001" .voice (.verification " 40 12\n") =
      .ok (callWith "type=verify&code=+40+12%0A") := by
    decide +kernel
  have htest : settingsWithBase.buildRequest "+15550000001" .voice .test =
      .ok (callWith "type=test") := by
    decide +kernel
  refine ⟨⟨halert, ?alert⟩, ⟨hcode, ?code⟩, htest, ?test⟩
  case alert =>
    obtain ⟨u, query, hcontent, -, hquery, hcontext, hanswer⟩ := callback_agrees halert
    rw [← Content.callback.inj hcontent] at hquery
    refine ⟨query, hquery, hcontext, fun host => ?_⟩
    exact (hanswer settingsWithBase host CallEvent.blank hgoes).1 rfl
  case code =>
    obtain ⟨u, query, hcontent, -, hquery, -, hanswer⟩ := callback_agrees hcode
    rw [← Content.callback.inj hcontent] at hquery
    refine ⟨query, hquery, fun host => ?_⟩
    have hheard := hanswer settingsWithBase host CallEvent.blank hgoes (by decide +kernel)
    have hplain : Markup.plain (Text.trim " 40 12\n") = "40 12" := by decide +kernel
    rwa [hplain] at hheard
  case test =>
    obtain ⟨u, query, hcontent, -, hquery, -, hanswer⟩ := callback_agrees htest
    rw [← Content.callback.inj hcontent] at hquery
    exact ⟨query, hquery, fun host => hanswer settingsWithBase host CallEvent.blank hgoes⟩

/-- A code with a control character in it. -/
def bellCode : String := "12\x0734"

/-- **A control character in a code is not spoken.** The call is made with the code as it is, and
the code has no blanks around it, but what is heard is another one. -/
theorem bell_in_code_unspoken :
    settingsWithBase.buildRequest "+15550000001" .voice (.verification bellCode) =
        .ok (callWith "type=verify&code=12%0734") ∧
      Text.isBlankText bellCode = false ∧ Text.trim bellCode = bellCode ∧
      CallContext.ofQuery "type=verify&code=12%0734" = ⟨.verification, none, some bellCode⟩ ∧
      Markup.spoken (Webhook.respondToCall settingsWithBase Webhook.writableHost
          (CallContext.ofQuery "type=verify&code=12%0734") CallEvent.blank).1 =
        ["Your verification code is: 12 34. Repeat: 12 34.",
          "Press any key to hear the code again.", "Goodbye."] ∧
      "12 34" ≠ bellCode := by
  have hcontext : CallContext.ofQuery "type=verify&code=12%0734" =
      (CallContext.ofNotification (.verification bellCode)).arrived := by
    decide +kernel
  have hheard := answeredAsMeant (.verification bellCode) settingsWithBase Webhook.writableHost
    (e := CallEvent.blank) (by decide +kernel) (by decide +kernel)
  have hplain : Markup.plain (Text.trim bellCode) = "12 34" := by decide +kernel
  rw [hplain] at hheard
  refine ⟨by decide +kernel, by decide +kernel, by decide +kernel, by decide +kernel, ?_,
    by decide +kernel⟩
  rw [hcontext]
  exact hheard

end AlertLine
