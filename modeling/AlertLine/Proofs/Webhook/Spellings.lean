import AlertLine.Proofs.Provider.Spellings
import AlertLine.Proofs.Provider.Texts
import AlertLine.Webhook.Messages

/-!
# Webhooks read all spellings alike

A report is read as the event that it spells (`Webhook.Reports.exists_of_read`), and reports whose
messages are described alike are handled alike (`Webhook.handleMessage_of_bodiesAlike`). Answers to
a message that is sent are taken alike, too (`Provider.result_of_bodiesAlike`). A description that
is read in a report is read in an answer, where it stands one container higher
(`Webhook.SameMessage.read_eq`).
-/

namespace AlertLine

open Json (Gives ReadsOn)

/-! ## Contents of a document -/

/-- What is read of a document under the name `data`. -/
theorem Envelope.decode_of_gives {α : Type} [Reads α] {room : ℕ} {v contents : Json}
    (hgives : Gives ["data"] v [some contents]) :
    (Reads.decode (room + 1) v : Option (Envelope α)) =
      (Reads.decode room contents).map Envelope.mk := by
  have hrecord : Json.record? ["data"] (room + 1) v = some ⟨_, room, _⟩ :=
    Json.record?_eq_some_iff.2 ⟨hgives, rfl, rfl⟩
  show (Json.record? ["data"] (room + 1) v).bind _ = _
  rw [hrecord]
  show ((Reads.decode room contents).bind fun a => some (Envelope.mk a)) = _
  cases (Reads.decode room contents : Option α) <;> rfl

/-- The body of a document with these contents. -/
def HasContents (body : Bytes) (contents : Json) : Prop :=
  ∃ v, Json.parse body = some v ∧ Gives ["data"] v [some contents]

theorem HasContents.read_eq {α : Type} [Reads α] {body : Bytes} {contents : Json}
    (h : HasContents body contents) :
    Json.read (Envelope α) body =
      (Reads.decode (Json.maxDepth - 1) contents).map Envelope.mk := by
  obtain ⟨v, hparse, hgives⟩ := h
  rw [Json.read, hparse]
  exact Envelope.decode_of_gives hgives

/-! ## Events -/

namespace MessageEvent

/-- The fields of an event. -/
def fieldNames : List String := ["event_type", "id", "payload"]

/-- Two documents are of the same event, and describe its message alike. -/
def AreAlike (room : ℕ) (v v' : Json) : Prop :=
  ∃ type? id? message message', Gives fieldNames v [type?, id?, some message] ∧
    Gives fieldNames v' [type?, id?, some message'] ∧ MessagePayload.AreAlike room message message'

/-- Two events are the same, as far as anyone asks. -/
structure TellSame (e e' : MessageEvent) : Prop where
  eventType : e.eventType = e'.eventType
  message : e.message.TellSame e'.message

variable {room : ℕ} {v v' : Json} {e e' : MessageEvent}

/-- What is read of an event from the fields that are given for it. -/
theorem decode_of_gives {type? id? message : Option Json}
    (hgives : Gives fieldNames v [type?, id?, message]) :
    (Reads.decode (room + 1) v : Option MessageEvent) = some e ↔
      type?.bind (Reads.decode room) = some e.eventType ∧
        readIfGiven room id? = some e.id ∧
        message.bind (Reads.decode room) = some e.message := by
  have hrecord : Json.record? fieldNames (room + 1) v = some ⟨_, room, _⟩ :=
    Json.record?_eq_some_iff.2 ⟨hgives, rfl, rfl⟩
  have hdecode : (Reads.decode (room + 1) v : Option MessageEvent) =
      (Json.record? fieldNames (room + 1) v).bind fun r => (r.required 0).bind fun eventType =>
        (r.defaulted 1 none).bind fun id => (r.required 2).bind fun message =>
          some ⟨eventType, id, message⟩ := rfl
  rw [hdecode, hrecord, Option.bind_some]
  constructor
  · intro h
    obtain ⟨eventType, htype, h⟩ := Option.bind_eq_some_iff.1 h
    obtain ⟨id, hid, h⟩ := Option.bind_eq_some_iff.1 h
    obtain ⟨m, hm, ⟨⟩⟩ := Option.bind_eq_some_iff.1 h
    exact ⟨htype, hid, hm⟩
  · rintro ⟨htype, hid, hm⟩
    refine Option.bind_eq_some_iff.2 ⟨e.eventType, htype, ?_⟩
    refine Option.bind_eq_some_iff.2 ⟨e.id, hid, ?_⟩
    exact Option.bind_eq_some_iff.2 ⟨e.message, hm, rfl⟩

theorem AreAlike.symm (h : AreAlike room v v') : AreAlike room v' v := by
  obtain ⟨type?, id?, message, message', hv, hv', hmessages⟩ := h
  exact ⟨type?, id?, message', message, hv', hv, hmessages.symm⟩

theorem AreAlike.exists_of_decode (h : AreAlike room v v')
    (hread : Reads.decode (room + 2) v = some e) :
    ∃ e', Reads.decode (room + 2) v' = some e' ∧ TellSame e e' := by
  obtain ⟨type?, id?, message, message', hv, hv', hmessages⟩ := h
  obtain ⟨htype, hid, hm⟩ := (decode_of_gives hv).1 hread
  obtain ⟨m', hm', hsame⟩ := hmessages.exists_of_decode hm
  exact ⟨⟨e.eventType, e.id, m'⟩, (decode_of_gives hv').2 ⟨htype, hid, hm'⟩, rfl, hsame⟩

/-- **Events of messages that are described alike are read alike**, if either can be read. -/
theorem tellSame_of_areAlike (h : AreAlike room v v') :
    Option.Rel TellSame (Reads.decode (room + 2) v) (Reads.decode (room + 2) v') := by
  refine optionRel_of_exists (fun e he => h.exists_of_decode he) fun e' he' => ?_
  obtain ⟨e, he, -⟩ := h.symm.exists_of_decode he'
  exact ⟨e, he⟩

/-- A document is of an event, and describes its message in whatever spelling. -/
def Reports (room : ℕ) (v : Json) (e : MessageEvent) : Prop :=
  ∃ id? message, Gives fieldNames v [some (.ofString e.eventType), id?, some message] ∧
    MaySay id? e.id ∧ MessagePayload.Describes room message e.message

/-- A document is read as the event that it is of. -/
theorem Reports.exists_of_decode (h : Reports room v e) :
    ∃ e', Reads.decode (room + 2) v = some e' ∧ TellSame e e' := by
  obtain ⟨id?, message, hgives, hid, hdescribes⟩ := h
  obtain ⟨m, hm, hsame⟩ := hdescribes.exists_of_decode
  exact ⟨⟨e.eventType, e.id, m⟩, (decode_of_gives hgives).2 ⟨rfl, hid.readIfGiven_eq, hm⟩,
    rfl, hsame⟩

/-- What is reported of an event does not depend on the spellings of its message. -/
theorem TellSame.statusUpdate_eq (h : TellSame e e') : e.statusUpdate = e'.statusUpdate := by
  obtain ⟨-, hid, -, hrecipient, -, hstatus⟩ := h
  rw [statusUpdate, statusUpdate, MessagePayload.state, MessagePayload.state, hid, hrecipient,
    hstatus]

theorem TellSame.reply_eq (h : TellSame e e') : e.reply = e'.reply := by
  rw [reply, reply, h.message.text]

theorem TellSame.sender?_eq (h : TellSame e e') : e.sender? = e'.sender? := by
  rw [sender?, sender?, h.message.sender]

end MessageEvent

/-! ## Handling -/

namespace Webhook

open MessageEvent (TellSame)

variable {e e' : MessageEvent}

/-- Events that tell the same have the same effects. -/
theorem handleEvent_of_tellSame (hsame : TellSame e e') (h : Host) :
    handleEvent h e = handleEvent h e' := by
  have hroute : e.route = e'.route := by
    rw [MessageEvent.route, MessageEvent.route, hsame.eventType]
  have hreply : handleReply h e = handleReply h e' := by
    rw [handleReply, handleReply, hsame.sender?_eq, hsame.reply_eq, hsame.message.id]
  rw [handleEvent, handleEvent, hroute, hreply, hsame.statusUpdate_eq]

/-- What is traced of events that tell the same is the same. -/
theorem eventSpan_of_tellSame (hsame : TellSame e e') (requestId : String) :
    eventSpan requestId e = eventSpan requestId e' := by
  rw [eventSpan, eventSpan, hsame.eventType, hsame.message.id]

/-- A body reports an event, and describes its message in whatever spelling. Three containers stand
around what is spelled there. -/
def Reports (body : Bytes) (e : MessageEvent) : Prop :=
  ∃ event, HasContents body event ∧ MessageEvent.Reports (Json.maxDepth - 3) event e

/-- **A report is read as the event that it spells.** -/
theorem Reports.exists_of_read {body : Bytes} (h : Reports body e) :
    ∃ w, Json.read (Envelope MessageEvent) body = some w ∧ TellSame e w.data := by
  obtain ⟨event, hbody, hevent⟩ := h
  obtain ⟨e', he', hsame⟩ := hevent.exists_of_decode
  have hread : (Reads.decode (Json.maxDepth - 1) event : Option MessageEvent) = some e' := he'
  exact ⟨⟨e'⟩, by rw [hbody.read_eq, hread, Option.map_some], hsame⟩

/-- It is handled as that event. -/
theorem Reports.handleMessage_eq {body : Bytes} (hreports : Reports body e) (h : Host)
    (requestId : String) :
    handleMessage h requestId body =
      ((handleEvent h e).after [.traced (eventSpan requestId e),
        .counted (.accepted .sms)]).answering (.acknowledgement (some requestId)) := by
  obtain ⟨w, hread, hsame⟩ := hreports.exists_of_read
  rw [handleMessage, hread, eventSpan_of_tellSame hsame, handleEvent_of_tellSame hsame]

/-- Two bodies report the same event, and describe its message alike. -/
def BodiesAlike (body body' : Bytes) : Prop :=
  ∃ event event', HasContents body event ∧ HasContents body' event' ∧
    MessageEvent.AreAlike (Json.maxDepth - 3) event event'

variable {body body' : Bytes}

theorem read_of_bodiesAlike (halike : BodiesAlike body body') :
    Option.Rel (fun w w' : Envelope MessageEvent => TellSame w.data w'.data)
      (Json.read (Envelope MessageEvent) body) (Json.read (Envelope MessageEvent) body') := by
  obtain ⟨event, event', hbody, hbody', hevents⟩ := halike
  have hrel : Option.Rel TellSame (Reads.decode (Json.maxDepth - 1) event)
      (Reads.decode (Json.maxDepth - 1) event') := MessageEvent.tellSame_of_areAlike hevents
  rw [hbody.read_eq, hbody'.read_eq]
  generalize (Reads.decode (Json.maxDepth - 1) event : Option MessageEvent) = e?,
    (Reads.decode (Json.maxDepth - 1) event' : Option MessageEvent) = e?' at hrel
  cases hrel with
  | none => exact .none
  | some hsame => exact .some hsame

/-- **Reports whose messages are described alike are handled alike.** -/
theorem handleMessage_of_bodiesAlike (halike : BodiesAlike body body') (h : Host)
    (requestId : String) : handleMessage h requestId body = handleMessage h requestId body' := by
  have hrel := read_of_bodiesAlike halike
  rw [handleMessage, handleMessage]
  generalize Json.read (Envelope MessageEvent) body = w?,
    Json.read (Envelope MessageEvent) body' = w?' at hrel
  cases hrel with
  | none => rfl
  | @some w w' hsame =>
    simp only [eventSpan_of_tellSame hsame, handleEvent_of_tellSame hsame]

/-- A body reports an event, and an end of its message is spelled that cannot be taken in whole. -/
def HasUnsoundEnd (body : Bytes) : Prop :=
  ∃ event type? id? message, HasContents body event ∧
    Gives MessageEvent.fieldNames event [type?, id?, some message] ∧
    MessagePayload.HasUnsoundEnd (Json.maxDepth - 3) message

/-- Such a body is not read, and only acknowledged. -/
theorem HasUnsoundEnd.read_eq_none (h : HasUnsoundEnd body) :
    Json.read (Envelope MessageEvent) body = none := by
  obtain ⟨event, type?, id?, message, hbody, hgives, hunsound⟩ := h
  have hevent : (Reads.decode (Json.maxDepth - 1) event : Option MessageEvent) = none := by
    refine Option.eq_none_iff_forall_ne_some.2 fun e he => ?_
    obtain ⟨-, -, hmessage⟩ := (MessageEvent.decode_of_gives hgives).1 he
    exact Option.some_ne_none _ (hmessage.symm.trans hunsound.decode_eq_none)
  rw [hbody.read_eq, hevent, Option.map_none]

theorem handleMessage_of_read_eq_none (hread : Json.read (Envelope MessageEvent) body = none)
    (h : Host) (requestId : String) :
    handleMessage h requestId body = (some (.acknowledgement (some requestId)), []) := by
  rw [handleMessage, hread]

/-- The message that a body describes is that of the event that another body reports. -/
def SameMessage (body report : Bytes) : Prop :=
  ∃ event type? id? message, HasContents body message ∧ HasContents report event ∧
    Gives MessageEvent.fieldNames event [type?, id?, some message]

/-- A message that is read where it is reported is read where it stands alone. -/
theorem SameMessage.read_eq {report : Bytes} (h : SameMessage body report)
    {w : Envelope MessageEvent} (hread : Json.read (Envelope MessageEvent) report = some w) :
    Json.read (Envelope MessagePayload) body = some ⟨w.data.message⟩ := by
  obtain ⟨event, type?, id?, message, hbody, hreport, hgives⟩ := h
  rw [hreport.read_eq] at hread
  obtain ⟨e, he, rfl⟩ := Option.map_eq_some_iff.1 hread
  obtain ⟨-, -, hmessage⟩ := (MessageEvent.decode_of_gives hgives).1 he
  have hmore : (Reads.decode (Json.maxDepth - 1) message : Option MessagePayload) =
      some e.message := ReadsOn.decode_succ hmessage
  rw [hbody.read_eq, hmore, Option.map_some]

end Webhook

/-! ## Answers to a message -/

namespace Provider

/-- Two bodies describe a message alike. Two containers stand around what is spelled there. -/
def BodiesAlike (body body' : Bytes) : Prop :=
  ∃ message message', HasContents body message ∧ HasContents body' message' ∧
    MessagePayload.AreAlike (Json.maxDepth - 2) message message'

variable {p p' : Provider} {s : Settings} {op : Operation Receipt} {destination text : String}
  {r : HttpRequest} {status : HttpStatus} {body body' : Bytes}

/-- Descriptions that tell the same make the same receipt. -/
theorem messageReceipt_of_tellSame {m m' : MessagePayload} (h : m.TellSame m') (origin : String) :
    messageReceipt origin m = messageReceipt origin m' := by
  rw [messageReceipt, messageReceipt, MessagePayload.state, MessagePayload.state, h.id, h.status,
    h.sender]

/-- What comes of two answers that describe a message alike: one receipt, or neither is read. -/
inductive ComesToSame (p p' : Provider) (body body' : Bytes) :
    Except DispatchError Receipt → Except DispatchError Receipt → Prop
  /-- Both are read. -/
  | receipt (receipt : Receipt) : ComesToSame p p' body body' (.ok receipt) (.ok receipt)
  /-- Neither is read. -/
  | unread : ComesToSame p p' body body'
      (.error (.decode (.undecodable (p.unread .sms body))))
      (.error (.decode (.undecodable (p'.unread .sms body'))))

/-- **Answers that describe a message alike come to the same.** -/
theorem result_of_bodiesAlike (hposts : op.PostsText destination text)
    (hmade : r ∈ (p.perform s op).requests) (hanswer : p.answer r = .whole status body)
    (hanswer' : p'.answer r = .whole status body') (hsuccess : status.isSuccess = true)
    (halike : BodiesAlike body body') :
    ComesToSame p p' body body' (p.perform s op).result (p'.perform s op).result := by
  have hmade' : r ∈ (p'.perform s op).requests := mem_requests_iff.2 (mem_requests_iff.1 hmade)
  obtain ⟨message, message', hbody, hbody', hmessages⟩ := halike
  have hrel : Option.Rel MessagePayload.TellSame (Reads.decode (Json.maxDepth - 1) message)
      (Reads.decode (Json.maxDepth - 1) message') := MessagePayload.tellSame_of_areAlike hmessages
  rw [result_of_postsText hposts hmade hanswer hsuccess,
    result_of_postsText hposts hmade' hanswer' hsuccess, hbody.read_eq, hbody'.read_eq]
  generalize (Reads.decode (Json.maxDepth - 1) message : Option MessagePayload) = m?,
    (Reads.decode (Json.maxDepth - 1) message' : Option MessagePayload) = m?' at hrel
  cases hrel with
  | none => exact .unread
  | @some m m' hsame =>
    have hreceipt := messageReceipt_of_tellSame hsame s.fromNumber
    show ComesToSame p p' body body' (.ok (messageReceipt _ m)) (.ok (messageReceipt _ m'))
    rw [hreceipt]
    exact .receipt _

end Provider

/-! ## All spellings -/

namespace Webhook

open MessageEvent (TellSame)

/-- **All spellings read alike.** A report is read and handled as the event that it spells. Reports
that are the same but for the spellings of the ends of their messages are read alike, make the same
status update and are handled alike, where both spellings can be taken in whole; a report with an
end that cannot be is not read and only acknowledged. In an answer to a message that is sent all
spellings come to the same, too, and an answer says of a message what a report of it says. -/
theorem spellings_read_alike :
    (∀ body e, Reports body e →
      (∃ w, Json.read (Envelope MessageEvent) body = some w ∧ TellSame e w.data ∧
        e.statusUpdate = w.data.statusUpdate) ∧
      ∀ h requestId, handleMessage h requestId body =
        ((handleEvent h e).after [.traced (eventSpan requestId e),
          .counted (.accepted .sms)]).answering (.acknowledgement (some requestId))) ∧
    (∀ body body', BodiesAlike body body' →
      Option.Rel (fun w w' : Envelope MessageEvent => TellSame w.data w'.data ∧
          w.data.statusUpdate = w'.data.statusUpdate ∧
          ∀ h, handleEvent h w.data = handleEvent h w'.data)
        (Json.read (Envelope MessageEvent) body) (Json.read (Envelope MessageEvent) body') ∧
      ∀ h requestId, handleMessage h requestId body = handleMessage h requestId body') ∧
    (∀ body, HasUnsoundEnd body → Json.read (Envelope MessageEvent) body = none ∧
      ∀ h requestId,
        handleMessage h requestId body = (some (.acknowledgement (some requestId)), [])) ∧
    ∀ (p : Provider) (s : Settings) (op : Operation Receipt) (destination text : String),
      op.PostsText destination text → ∀ r ∈ (p.perform s op).requests, ∀ status body,
        p.answer r = .whole status body → status.isSuccess = true →
          (∀ (p' : Provider) body', p'.answer r = .whole status body' →
            Provider.BodiesAlike body body' →
              Provider.ComesToSame p p' body body' (p.perform s op).result
                (p'.perform s op).result) ∧
          ∀ report w, SameMessage body report →
            Json.read (Envelope MessageEvent) report = some w →
              ∃ receipt, (p.perform s op).result = .ok receipt ∧
                receipt.externalId = w.data.statusUpdate.externalId ∧
                receipt.state = w.data.statusUpdate.state := by
  refine ⟨fun body e hreports => ⟨?_, hreports.handleMessage_eq⟩,
    fun body body' halike => ⟨?_, handleMessage_of_bodiesAlike halike⟩,
    fun body hunsound =>
      ⟨hunsound.read_eq_none, handleMessage_of_read_eq_none hunsound.read_eq_none⟩,
    fun p s op destination text hposts r hmade status body hanswer hsuccess =>
      ⟨fun p' body' hanswer' =>
        Provider.result_of_bodiesAlike hposts hmade hanswer hanswer' hsuccess, ?_⟩⟩
  · obtain ⟨w, hread, hsame⟩ := hreports.exists_of_read
    exact ⟨w, hread, hsame, hsame.statusUpdate_eq⟩
  · have hrel := read_of_bodiesAlike halike
    generalize Json.read (Envelope MessageEvent) body = w?,
      Json.read (Envelope MessageEvent) body' = w?' at hrel
    cases hrel with
    | none => exact .none
    | some hsame => exact .some ⟨hsame, hsame.statusUpdate_eq, handleEvent_of_tellSame hsame⟩
  · intro report w hsame hread
    refine ⟨Provider.messageReceipt s.fromNumber w.data.message, ?_, rfl, rfl⟩
    rw [Provider.result_of_postsText hposts hmade hanswer hsuccess, hsame.read_eq hread]

/-- A delivered message with these ends. -/
def describing (sender recipients : Json) : Json :=
  .obj [("id", .ofString "m1"), ("from", sender), ("to", recipients),
    ("status", .ofString "delivered")]

/-- A delivery report of a message. -/
def reporting (message : Json) : Json :=
  .obj [("event_type", .ofString "message.finalized"), ("payload", message)]

/-- A document with these contents. -/
def documentOf (contents : Json) : Bytes := Json.bytes (.obj [("data", contents)])

/-- A number alone. -/
def aloneNumber : Json := .ofString "+15550000001"

/-- The same number in an object with another field. -/
def numberBeside (v : Json) : Json := .obj [("phone_number", .ofString "+15550000001"), ("x", v)]

/-- A message with both ends alone. -/
def plainMessage : Json := describing aloneNumber aloneNumber

/-- The same message with objects for its ends, among several recipients. -/
def detailedMessage : Json :=
  describing (numberBeside .null) (.array [numberBeside .null, aloneNumber])

/-- The same message with a number beside its recipient that no double can hold. -/
def vastMessage : Json := describing aloneNumber (numberBeside (.ofInt (10 ^ 400)))

section Documents

open Json (IsPlain)

theorem isPlain_reporting {message : Json} (h : IsPlain message) : IsPlain (reporting message) :=
  .obj (.cons (.text _) (.cons h .nil))

theorem isPlain_describing {sender recipients : Json} (hsender : IsPlain sender)
    (hrecipients : IsPlain recipients) : IsPlain (describing sender recipients) :=
  .obj (.cons (.text _) (.cons hsender (.cons hrecipients (.cons (.text _) .nil))))

theorem isPlain_numberBeside {v : Json} (hv : IsPlain v) : IsPlain (numberBeside v) :=
  .obj (.cons (.text _) (.cons hv .nil))

theorem isPlain_plainMessage : IsPlain plainMessage := isPlain_describing (.text _) (.text _)

theorem isPlain_detailedMessage : IsPlain detailedMessage := by
  have hlist : IsPlain (.array [numberBeside .null, aloneNumber]) :=
    .array (List.forall_mem_cons.2
      ⟨isPlain_numberBeside .null, List.forall_mem_singleton.2 (.text _)⟩)
  exact isPlain_describing (isPlain_numberBeside .null) hlist

theorem hasContents_documentOf {contents : Json} (h : IsPlain contents) :
    HasContents (documentOf contents) contents :=
  ⟨_, Json.parse_bytes (.obj (.cons h .nil)), .object (by simp) (.cons rfl .nil)⟩

theorem gives_describing (sender recipients : Json) :
    Gives MessagePayload.fieldNames (describing sender recipients)
      [some (.ofString "m1"), some sender, some recipients, none,
        some (.ofString "delivered")] :=
  .object (by simp) (.cons rfl (.cons rfl (.cons rfl (.cons rfl (.cons rfl .nil)))))

theorem gives_reporting (message : Json) :
    Gives MessageEvent.fieldNames (reporting message)
      [some (.ofString "message.finalized"), none, some message] :=
  .object (by simp) (.cons rfl (.cons rfl (.cons rfl .nil)))

theorem spells_numberBeside (v : Json) : Endpoint.Spells "+15550000001" none (numberBeside v) :=
  .object (.object (by simp) (.cons rfl (.cons rfl .nil))) .absent

/-- The two messages are described alike: the list of recipients needs room for two containers. -/
theorem areAlike_detailedMessage (room : ℕ) :
    MessagePayload.AreAlike (room + 2) plainMessage detailedMessage := by
  have hothers : ∀ w ∈ [aloneNumber], ∃ number status?, Endpoint.Spells number status? w :=
    List.forall_mem_singleton.2 ⟨_, _, .alone⟩
  have hlist : (Json.array [numberBeside .null, aloneNumber]).isSound (room + 2) = true := by
    cases room <;> rfl
  exact ⟨_, _, _, _, _, _, _, gives_describing .., gives_describing ..,
    .spelled ⟨_, _, _, .alone, spells_numberBeside _⟩ rfl rfl,
    .spelled ⟨_, _, .one .alone, .list (spells_numberBeside _) hothers⟩ rfl hlist⟩

/-- The message with the vast number is reported with an end that cannot be taken in whole. -/
theorem hasUnsoundEnd_vastMessage : HasUnsoundEnd (documentOf (reporting vastMessage)) := by
  have hplain : IsPlain vastMessage :=
    isPlain_describing (.text _) (isPlain_numberBeside (.int _))
  exact ⟨_, _, _, _, hasContents_documentOf (isPlain_reporting hplain), gives_reporting _,
    .recipients (gives_describing ..) (.one (spells_numberBeside _)) (by decide +kernel)⟩

/-- The event that is reported of the plain message. -/
def plainEvent : MessageEvent :=
  ⟨"message.finalized", none, ⟨"m1", some (.number "+15550000001"),
    some (.one (.number "+15550000001")), none, some "delivered"⟩⟩

theorem reports_plainMessage : Reports (documentOf (reporting plainMessage)) plainEvent := by
  have halone : aloneNumber.isSound (Json.maxDepth - 3) = true := Json.isSound_ofString _ _
  refine ⟨_, hasContents_documentOf (isPlain_reporting isPlain_plainMessage), _, _,
    gives_reporting _, .absent, _, _, _, _, gives_describing .., ?_, ?_, .absent, .given _⟩
  · exact .spelled .alone halone
  · exact .spelled (.one .alone) halone

end Documents

/-- The plain and the detailed message read alike in reports and in answers, and the message with
the vast number is not read. -/
theorem spellings_read_alike_detailedMessage :
    (∃ w, Json.read (Envelope MessageEvent) (documentOf (reporting plainMessage)) = some w ∧
      w.data.statusUpdate = ⟨"m1", .delivered, some "+15550000001", "delivered"⟩) ∧
    BodiesAlike (documentOf (reporting plainMessage)) (documentOf (reporting detailedMessage)) ∧
    (∀ h requestId, handleMessage h requestId (documentOf (reporting plainMessage)) =
      handleMessage h requestId (documentOf (reporting detailedMessage))) ∧
    HasUnsoundEnd (documentOf (reporting vastMessage)) ∧
    Json.read (Envelope MessageEvent) (documentOf (reporting vastMessage)) = none ∧
    SameMessage (documentOf plainMessage) (documentOf (reporting plainMessage)) ∧
    ∃ receipt, ((Provider.answering (documentOf detailedMessage)).perform Provider.textLine
        (.sendText "+15550000001" "hello")).result = .ok receipt ∧
      receipt.externalId = "m1" ∧ receipt.state = .delivered := by
  obtain ⟨hreports, halike, hunsound, hanswers⟩ := spellings_read_alike
  obtain ⟨w, hread, -, hupdate⟩ := (hreports _ _ reports_plainMessage).1
  have hbodies : BodiesAlike (documentOf (reporting plainMessage))
      (documentOf (reporting detailedMessage)) :=
    ⟨_, _, hasContents_documentOf (isPlain_reporting isPlain_plainMessage),
      hasContents_documentOf (isPlain_reporting isPlain_detailedMessage), _, _, _, _,
      gives_reporting _, gives_reporting _, areAlike_detailedMessage (Json.maxDepth - 5)⟩
  have hanswered : Provider.BodiesAlike (documentOf plainMessage) (documentOf detailedMessage) :=
    ⟨_, _, hasContents_documentOf isPlain_plainMessage,
      hasContents_documentOf isPlain_detailedMessage,
      areAlike_detailedMessage (Json.maxDepth - 4)⟩
  have hmessage : SameMessage (documentOf plainMessage) (documentOf (reporting plainMessage)) :=
    ⟨_, _, _, _, hasContents_documentOf isPlain_plainMessage,
      hasContents_documentOf (isPlain_reporting isPlain_plainMessage), gives_reporting _⟩
  have hmade : Provider.textLine.messageRequest "+15550000001" "hello" ∈
      ((Provider.answering (documentOf plainMessage)).perform Provider.textLine
        (.sendText "+15550000001" "hello")).requests :=
    Provider.mem_requests_iff.2 ⟨by decide, rfl, by decide +kernel⟩
  obtain ⟨hsame, hreceipt⟩ := hanswers (Provider.answering (documentOf plainMessage)) _ _ _ _
    (.text ..) _ hmade 200 _ rfl (by decide)
  obtain ⟨receipt, hresult, hid, hstate⟩ := hreceipt _ w hmessage hread
  refine ⟨⟨w, hread, hupdate.symm⟩, hbodies, (halike _ _ hbodies).2, hasUnsoundEnd_vastMessage,
    (hunsound _ hasUnsoundEnd_vastMessage).1, hmessage, receipt, ?_, ?_, ?_⟩
  · have hcomes := hsame (Provider.answering (documentOf detailedMessage)) _ rfl hanswered
    rw [hresult] at hcomes
    generalize hresult' : ((Provider.answering (documentOf detailedMessage)).perform
      Provider.textLine (.sendText "+15550000001" "hello")).result = result at hcomes ⊢
    cases hcomes
    rfl
  · rw [hid, ← hupdate]
    rfl
  · rw [hstate, ← hupdate]
    rfl

/-- A message is not read with a number beside its recipient that no double can hold, although the
recipient is spelled as well as without. -/
theorem vastNumber_unread :
    Endpoints.Spells "+15550000001" none aloneNumber ∧
    Endpoints.Spells "+15550000001" none (numberBeside (.ofInt (10 ^ 400))) ∧
    (∃ w, Json.read (Envelope MessageEvent)
        (documentOf (reporting (describing aloneNumber aloneNumber))) = some w ∧
      w.data.statusUpdate = ⟨"m1", .delivered, some "+15550000001", "delivered"⟩) ∧
    Json.read (Envelope MessageEvent)
      (documentOf (reporting (describing aloneNumber (numberBeside (.ofInt (10 ^ 400)))))) =
        none := by
  obtain ⟨w, hread, hsame⟩ := reports_plainMessage.exists_of_read
  exact ⟨.one .alone, .one (spells_numberBeside _), ⟨w, hread, hsame.statusUpdate_eq.symm⟩,
    hasUnsoundEnd_vastMessage.read_eq_none⟩

end Webhook
end AlertLine
