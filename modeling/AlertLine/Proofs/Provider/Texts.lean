import AlertLine.Proofs.Json.Printed
import AlertLine.Proofs.Provider.Pretended
import AlertLine.Proofs.Reply.OwnTexts

/-!
# Texts that are posted

A notification or a text that is sent as a message is posted in one document, which gives the
configured number, the number that it is for and the text, cut to the length of one message
(`Provider.posted_text`). The text is cut by characters and not by bytes, and what it begins with
stays whole (`prefix_cutToSms`), so the number of an alert can always be replied to.
-/

namespace AlertLine

/-! ## Cut texts -/

/-- What is posted of a text: all of it if it has 160 characters at most, and else its first 157
with three dots behind them. It has 160 characters at most and is not cut again. -/
structure IsPostedOf (text posted : String) : Prop where
  whole : text.length ≤ 160 → posted = text
  cut : 160 < text.length → posted = String.ofList (text.toList.take 157) ++ "..."
  short : posted.length ≤ 160
  again : cutToSms posted = posted

theorem length_cutToSms (text : String) : (cutToSms text).length ≤ 160 := by
  have hmark : cutMark.length = 3 := rfl
  have hlimit : smsLimit = 160 := rfl
  rw [cutToSms]
  split_ifs with hshort
  · exact hshort
  · rw [String.length_append, String.length_ofList, List.length_take]
    omega

theorem isPostedOf_cutToSms (text : String) : IsPostedOf text (cutToSms text) where
  whole hshort := if_pos hshort
  cut hlong := if_neg (Nat.not_le_of_lt hlong)
  short := length_cutToSms text
  again := if_pos (length_cutToSms text)

/-- What the text of an alert begins with, and what it is replied to by. -/
def alertMark (id : Int64) : String := "Alert #" ++ Decimal.ofInt64 id ++ ":"

/-- The text of an alert is not cut in its number. -/
theorem alertMark_prefix (id : Int64) (summary details : String) :
    (alertMark id).toList <+:
      (cutToSms (Notification.alert id summary details).smsText).toList := by
  have htext : (Notification.alert id summary details).smsText =
      alertMark id ++ (" " ++ summary) := by
    have hmark : ": " = ":" ++ " " := by decide
    show "Alert #" ++ Decimal.ofInt64 id ++ ": " ++ summary = _
    rw [alertMark, hmark, ← String.append_assoc, ← String.append_assoc]
  refine prefix_cutToSms ?_ ?_
  · have hlength := Decimal.length_ofInt64 id
    have hfront : "Alert #".length = 7 := rfl
    have hcolon : ":".length = 1 := rfl
    rw [String.length_toList, alertMark, String.length_append, String.length_append]
    omega
  · rw [htext, String.toList_append]
    exact List.prefix_append _ _

/-! ## Posts -/

/-- An operation posts a text to a number, as a notification or as it is. -/
inductive Operation.PostsText : Operation Receipt → String → String → Prop
  /-- A notification is sent as a message. -/
  | notification (destination : String) (n : Notification) :
    PostsText (.send destination .sms n) destination n.smsText
  /-- A text is sent. -/
  | text (destination text : String) : PostsText (.sendText destination text) destination text

namespace Provider

variable {p : Provider} {s : Settings} {op : Operation Receipt} {destination text : String}

theorem eq_messageRequest (h : op.PostsText destination text) {r : HttpRequest}
    (hready : op.prepare s = .ok r) : r = s.messageRequest destination text := by
  cases h with
  | notification destination n =>
    obtain ⟨-, -, hready⟩ := bind_eq_ok.1 hready
    obtain ⟨-, -, ⟨⟩⟩ := bind_eq_ok.1 hready
    rfl
  | text destination text =>
    obtain ⟨-, -, hready⟩ := bind_eq_ok.1 hready
    obtain ⟨-, -, ⟨⟩⟩ := bind_eq_ok.1 hready
    rfl

/-- What comes of a message that is answered with a success: a receipt for the message that is
described in the answer. -/
theorem result_of_postsText (h : op.PostsText destination text) {r : HttpRequest}
    (hmade : r ∈ (p.perform s op).requests) {status : HttpStatus} {body : Bytes}
    (hanswer : p.answer r = .whole status body) (hsuccess : status.isSuccess = true) :
    (p.perform s op).result =
      match Json.read (Envelope MessagePayload) body with
      | some envelope => .ok (messageReceipt s.fromNumber envelope.data)
      | none => .error (.decode (.undecodable (p.unread .sms body))) := by
  have hread : op.read s (p.unread op.kind) (p.answer r) =
      (p.answer r).readThen (p.unread .sms) fun envelope : Envelope MessagePayload =>
        .ok (messageReceipt s.fromNumber envelope.data) := by
    cases h <;> rfl
  rw [result_of_mem_requests hmade, hread, hanswer, HttpAnswer.readThen, HttpAnswer.read,
    if_pos hsuccess]
  cases Json.read (Envelope MessagePayload) body <;> rfl

/-- The document of a message is read back from its bytes. -/
theorem parse_messageDocument (origin destination text : String) :
    Json.parse (Json.bytes (.obj [("from", .ofString origin), ("to", .ofString destination),
      ("text", .ofString text)])) =
        some (.obj [("from", .ofString origin), ("to", .ofString destination),
          ("text", .ofString text)]) := by
  refine Json.parse_bytes (.object fun e he => ?_)
  simp only [List.mem_cons, List.not_mem_nil, or_false] at he
  rcases he with rfl | rfl | rfl <;> exact .text _

/-- **Texts that are posted.** If a request is made for a notification or a text that is sent as a
message, then it posts a document whose bytes give the configured number, the number that the
message is for and what is posted of the text. If that is the text of an alert, then it begins with
the number of the alert, whatever the number is. -/
theorem posted_text (h : op.PostsText destination text) {r : HttpRequest}
    (hmade : r ∈ (p.perform s op).requests) :
    r.method = .post ∧ r.address = s.apiUrl "messages" ∧
    ∃ document posted, r.body = some document ∧
      Json.parse (Json.bytes document) = some (.obj [("from", .ofString s.fromNumber),
        ("to", .ofString destination), ("text", .ofString posted)]) ∧
      IsPostedOf text posted ∧
      ∀ id summary details, text = (Notification.alert id summary details).smsText →
        (alertMark id).toList <+: posted.toList := by
  obtain ⟨-, hready, -⟩ := mem_requests_iff.1 hmade
  rw [eq_messageRequest h hready]
  refine ⟨rfl, rfl, _, cutToSms text, rfl, parse_messageDocument .., isPostedOf_cutToSms text, ?_⟩
  rintro id summary details rfl
  exact alertMark_prefix id summary details

/-- An alert of the least number, with a long summary that is not ASCII. -/
def longAlert : Notification :=
  .alert Int64.minValue (String.ofList (List.replicate 200 'ü')) ""

/-- The text of such an alert is cut, and begins with its number in full. -/
theorem posted_text_longAlert :
    ∃ r ∈ (silent.perform textLine (.send "+15550000001" .sms longAlert)).requests,
      ∃ document posted, r.body = some document ∧
        Json.parse (Json.bytes document) = some (.obj [("from", .ofString "+15550009999"),
          ("to", .ofString "+15550000001"), ("text", .ofString posted)]) ∧
        posted.length ≤ 160 ∧ "Alert #-9223372036854775808:".toList <+: posted.toList := by
  have hposts : (Operation.send "+15550000001" .sms longAlert).PostsText "+15550000001"
      longAlert.smsText := .notification ..
  have hmade : textLine.messageRequest "+15550000001" longAlert.smsText ∈
      (silent.perform textLine (.send "+15550000001" .sms longAlert)).requests :=
    mem_requests_iff.2 ⟨by decide, rfl, by decide +kernel⟩
  obtain ⟨-, -, document, posted, hbody, hparse, hposted, halert⟩ := posted_text hposts hmade
  refine ⟨_, hmade, document, posted, hbody, hparse, hposted.short, ?_⟩
  have hmark : alertMark Int64.minValue = "Alert #-9223372036854775808:" := by decide +kernel
  rw [← hmark]
  exact halert Int64.minValue _ _ rfl

end Provider
end AlertLine
