import AlertLine.Bus.Host
import AlertLine.Bus.Worker
import AlertLine.Proofs.Json.Records
import AlertLine.Reply
import AlertLine.Voice.Context

/-!
# What travels on the bus reads back

Everything that the line writes into a document, and everything that is written for it, is read
back from there: names, choices by their tags, records field by field, with the fields that are left
out where they have no value. One instance of `ReadsBack` for each kind of value, in the order in
which they are made of each other.
-/

namespace AlertLine

open Json ReadsBack

/-! ## Names -/

instance : ReadsBack Channel 0 where
  isPlain c := .text c.name
  decode_encode := by
    intro room _ c
    cases c <;> rfl

instance : ReadsBack DeliveryState 0 where
  isPlain s := .text s.name
  decode_encode := by
    intro room _ s
    cases s <;> rfl

instance : ReadsBack ActionKind 0 where
  isPlain k := .text k.name
  decode_encode := by
    intro room _ k
    cases k <;> rfl

instance : ReadsBack CallIntent 0 where
  isPlain i := .text i.name
  decode_encode := by
    intro room _ i
    cases i <;> rfl

/-! ## Choices

The texts that a choice holds are looked at before it is known which choice it is. By computation,
apart from the number of an alert, which has to be finite.
-/

instance : ReadsBack Content 1 where
  isPlain
    | .body text => .obj (.cons (isPlain "body") (.cons (isPlain text) .nil))
    | .callback url => .obj (.cons (isPlain "callback_target") (.cons (isPlain url) .nil))
  decode_encode := by
    intro room hroom c
    obtain ⟨room, rfl⟩ := Nat.exists_eq_add_of_le' hroom
    cases c <;> cases room <;> rfl

instance : ReadsBack ActionSource 1 where
  isPlain
    | .voice callSid => .obj (.cons (isPlain "voice") (.cons (isPlain callSid) .nil))
    | .sms messageId => .obj (.cons (isPlain "sms") (.cons (isPlain messageId) .nil))
  decode_encode := by
    intro room hroom s
    obtain ⟨room, rfl⟩ := Nat.exists_eq_add_of_le' hroom
    cases s <;> cases room <;> rfl

/-- The entries of a notification about an alert, behind its tag. -/
def Notification.alertEntries (id : Int64) (summary details : String) : List (String × Json) :=
  [("alert_id", .ofInt64 id), ("summary", .ofString summary), ("details", .ofString details)]

theorem Notification.areSound_alertEntries (room : ℕ) (id : Int64) (summary details : String) :
    AreSound room (alertEntries id summary details) :=
  .cons (isSound_ofInt64 room id)
    (.cons (isSound_ofString room summary) (.cons (isSound_ofString room details) .nil))

instance : ReadsBack Notification 1 where
  isPlain
    | .test => .obj (.cons (isPlain "test") .nil)
    | .alert id summary details =>
      .obj (.cons (isPlain "alert")
        (.cons (isPlain id) (.cons (isPlain summary) (.cons (isPlain details) .nil))))
    | .verification code => .obj (.cons (isPlain "verification") (.cons (isPlain code) .nil))
  decode_encode := by
    intro room hroom n
    obtain ⟨room, rfl⟩ := Nat.exists_eq_add_of_le' hroom
    cases n with
    | test => rfl
    | alert id summary details =>
      let r : Record := ⟨false, room,
        [some (Wire.encode id), some (Wire.encode summary), some (Wire.encode details)]⟩
      have htag : tagged? "type" (room + 1) (Wire.encode (Notification.alert id summary details)) =
          some ("alert", obj (Notification.alertEntries id summary details)) :=
        tagged?_obj (by simp) (Notification.areSound_alertEntries room id summary details)
      have hrecord : record? ["alert_id", "summary", "details"] (room + 1)
          (obj (Notification.alertEntries id summary details)) = some r := rfl
      have hid : r.required 0 = some id := Record.required_eq (Nat.zero_le _) rfl
      have hsummary : r.required 1 = some summary := Record.required_eq (Nat.zero_le _) rfl
      have hdetails : r.defaulted 2 "" = some details := Record.defaulted_eq (Nat.zero_le _) rfl
      simp only [Reads.decode, htag, hrecord, hid, hsummary, hdetails, Option.bind_eq_bind,
        Option.bind_some]
    | verification code => cases room <;> rfl

instance : ReadsBack Reply 1 where
  isPlain
    | .acknowledge id => .obj (.cons (isPlain "acknowledge") (.cons (isPlain id) .nil))
    | .close id => .obj (.cons (isPlain "close") (.cons (isPlain id) .nil))
    | .unsubscribe => .obj (.cons (isPlain "unsubscribe") .nil)
    | .resubscribe => .obj (.cons (isPlain "resubscribe") .nil)
    | .badReference => .obj (.cons (isPlain "bad_reference") .nil)
    | .unknown => .obj (.cons (isPlain "unknown") .nil)
  decode_encode := by
    intro room hroom r
    obtain ⟨room, rfl⟩ := Nat.exists_eq_add_of_le' hroom
    -- only the alert number has to be read; a reply without a place for one is a name
    have hid (id : Option Int64) : Reads.decode room (Wire.encode id) = some id :=
      decode_encode (Nat.zero_le room) id
    cases r with
    | acknowledge id =>
      show (Reads.decode room (Wire.encode id)).map Reply.acknowledge = _
      rw [hid, Option.map_some]
    | close id =>
      show (Reads.decode room (Wire.encode id)).map Reply.close = _
      rw [hid, Option.map_some]
    | unsubscribe => rfl
    | resubscribe => rfl
    | badReference => rfl
    | unknown => rfl

/-! ## Records -/

instance : ReadsBack Alert 1 where
  isPlain a :=
    .obj (.cons (isPlain a.id) (.cons (isPlain a.summary) (.cons (isPlain a.details) .nil)))
  decode_encode := by
    intro room hroom a
    obtain ⟨room, rfl⟩ := Nat.exists_eq_add_of_le' hroom
    let r : Record := ⟨false, room,
      [some (Wire.encode a.id), some (Wire.encode a.summary), some (Wire.encode a.details)]⟩
    have hrecord : record? ["id", "summary", "details"] (room + 1) (Wire.encode a) = some r := rfl
    have hid : r.required 0 = some a.id := Record.required_eq (Nat.zero_le _) rfl
    have hsummary : r.required 1 = some a.summary := Record.required_eq (Nat.zero_le _) rfl
    have hdetails : r.defaulted 2 "" = some a.details := Record.defaulted_eq (Nat.zero_le _) rfl
    simp only [Reads.decode, hrecord, hid, hsummary, hdetails, Option.bind_eq_bind,
      Option.bind_some]

instance : ReadsBack AlertAction 2 where
  isPlain a :=
    .obj (.cons (isPlain a.kind)
      (.cons (isPlain a.alertId) (.cons (isPlain a.phoneNumber) (.cons (isPlain a.source) .nil))))
  decode_encode := by
    intro room hroom a
    obtain ⟨room, rfl⟩ := Nat.exists_eq_add_of_le' hroom
    let r : Record := ⟨false, room + 1,
      [some (Wire.encode a.kind), some (Wire.encode a.alertId), some (Wire.encode a.phoneNumber),
        some (Wire.encode a.source)]⟩
    have hrecord : record? ["kind", "alert_id", "phone_number", "source"] (room + 2)
        (Wire.encode a) = some r := rfl
    have hkind : r.required 0 = some a.kind := Record.required_eq (Nat.zero_le _) rfl
    have hid : r.nullable 1 = some a.alertId := Record.nullable_eq (Nat.zero_le _) rfl
    have hnumber : r.required 2 = some a.phoneNumber := Record.required_eq (Nat.zero_le _) rfl
    have hsource : r.required 3 = some a.source := Record.required_eq (Nat.le_add_left 1 room) rfl
    simp only [Reads.decode, hrecord, hkind, hid, hnumber, hsource, Option.bind_eq_bind,
      Option.bind_some]

instance : ReadsBack StatusUpdate 1 where
  isPlain u :=
    .obj (.cons (isPlain u.externalId) (.cons (isPlain u.state)
      (.cons (isPlain u.destination) (.cons (isPlain u.providerStatus) .nil))))
  decode_encode := by
    intro room hroom u
    obtain ⟨room, rfl⟩ := Nat.exists_eq_add_of_le' hroom
    let r : Record := ⟨false, room,
      [some (Wire.encode u.externalId), some (Wire.encode u.state),
        some (Wire.encode u.destination), some (Wire.encode u.providerStatus)]⟩
    have hrecord : record? ["external_id", "state", "destination", "provider_status"] (room + 1)
        (Wire.encode u) = some r := rfl
    have hid : r.required 0 = some u.externalId := Record.required_eq (Nat.zero_le _) rfl
    have hstate : r.required 1 = some u.state := Record.required_eq (Nat.zero_le _) rfl
    have hdestination : r.nullable 2 = some u.destination :=
      Record.nullable_eq (Nat.zero_le _) rfl
    have hstatus : r.required 3 = some u.providerStatus := Record.required_eq (Nat.zero_le _) rfl
    simp only [Reads.decode, hrecord, hid, hstate, hdestination, hstatus, Option.bind_eq_bind,
      Option.bind_some]

instance : ReadsBack CallContext 1 where
  isPlain c :=
    .obj (.cons (isPlain c.intent) (.cons (isPlain c.alertId) (.cons (isPlain c.code) .nil)))
  decode_encode := by
    intro room hroom c
    obtain ⟨room, rfl⟩ := Nat.exists_eq_add_of_le' hroom
    let r : Record := ⟨false, room,
      [some (Wire.encode c.intent), some (Wire.encode c.alertId), some (Wire.encode c.code)]⟩
    have hrecord : record? ["intent", "alert_id", "code"] (room + 1) (Wire.encode c) = some r := rfl
    have hintent : r.required 0 = some c.intent := Record.required_eq (Nat.zero_le _) rfl
    have hid : r.nullable 1 = some c.alertId := Record.nullable_eq (Nat.zero_le _) rfl
    have hcode : r.nullable 2 = some c.code := Record.nullable_eq (Nat.zero_le _) rfl
    simp only [Reads.decode, hrecord, hintent, hid, hcode, Option.bind_eq_bind, Option.bind_some]

instance : ReadsBack Outbound 2 where
  isPlain o :=
    .obj (.cons (isPlain o.destination)
      (.cons (isPlain o.origin) (.cons (isPlain o.channel) (.cons (isPlain o.content) .nil))))
  decode_encode := by
    intro room hroom o
    obtain ⟨room, rfl⟩ := Nat.exists_eq_add_of_le' hroom
    let r : Record := ⟨false, room + 1,
      [some (Wire.encode o.destination), some (Wire.encode o.origin),
        some (Wire.encode o.channel), some (Wire.encode o.content)]⟩
    have hrecord : record? ["destination", "origin", "kind", "content"] (room + 2)
        (Wire.encode o) = some r := rfl
    have hdestination : r.required 0 = some o.destination := Record.required_eq (Nat.zero_le _) rfl
    have horigin : r.required 1 = some o.origin := Record.required_eq (Nat.zero_le _) rfl
    have hchannel : r.required 2 = some o.channel := Record.required_eq (Nat.zero_le _) rfl
    have hcontent : r.required 3 = some o.content :=
      Record.required_eq (Nat.le_add_left 1 room) rfl
    simp only [Reads.decode, hrecord, hdestination, horigin, hchannel, hcontent,
      Option.bind_eq_bind, Option.bind_some]

instance : ReadsBack Receipt 1 where
  isPlain r :=
    .obj (.cons (isPlain r.externalId) (.cons (isPlain r.state) (.cons (isPlain r.source) .nil)))
  decode_encode := by
    intro room hroom receipt
    obtain ⟨room, rfl⟩ := Nat.exists_eq_add_of_le' hroom
    let r : Record := ⟨false, room,
      [some (Wire.encode receipt.externalId), some (Wire.encode receipt.state),
        some (Wire.encode receipt.source)]⟩
    have hrecord : record? ["external_id", "state", "source"] (room + 1) (Wire.encode receipt) =
        some r := rfl
    have hid : r.required 0 = some receipt.externalId := Record.required_eq (Nat.zero_le _) rfl
    have hstate : r.required 1 = some receipt.state := Record.required_eq (Nat.zero_le _) rfl
    have hsource : r.required 2 = some receipt.source := Record.required_eq (Nat.zero_le _) rfl
    simp only [Reads.decode, hrecord, hid, hstate, hsource, Option.bind_eq_bind, Option.bind_some]

instance : NeverNull Receipt where
  ne_null := by rintro r ⟨⟩

/-! ### Records of texts -/

instance : ReadsBack Carrier 1 where
  isPlain c := .obj (.cons (isPlain c.name) (.cons (isPlain c.lineType) .nil))
  decode_encode := by
    intro room hroom c
    obtain ⟨room, rfl⟩ := Nat.exists_eq_add_of_le' hroom
    rfl

instance : NeverNull Carrier where
  ne_null := by rintro c ⟨⟩

instance : ReadsBack Failure 1 where
  isPlain f := .obj (.cons (isPlain f.message) (.cons (isPlain f.retryable) .nil))
  decode_encode := by
    intro room hroom f
    obtain ⟨room, rfl⟩ := Nat.exists_eq_add_of_le' hroom
    rfl

instance : NeverNull Failure where
  ne_null := by rintro f ⟨⟩

instance : ReadsBack CarrierQuery 1 where
  isPlain q := .obj (.cons (isPlain q.number) .nil)
  decode_encode := by
    intro room hroom q
    obtain ⟨room, rfl⟩ := Nat.exists_eq_add_of_le' hroom
    rfl

instance : ReadsBack ApiError 1 where
  isPlain e :=
    .obj (.cons (isPlain e.code) (.cons (isPlain e.title) (.cons (isPlain e.detail) .nil)))
  decode_encode := by
    intro room hroom e
    obtain ⟨room, rfl⟩ := Nat.exists_eq_add_of_le' hroom
    rfl

instance : ReadsBack ApiErrors 3 where
  isPlain es := .obj (.cons (isPlain es.errors) .nil)
  decode_encode := by
    intro room hroom es
    obtain ⟨room, rfl⟩ := Nat.exists_eq_add_of_le' hroom
    let r : Record := ⟨false, room + 2, [some (Wire.encode es.errors)]⟩
    have hrecord : record? ["errors"] (room + 3) (Wire.encode es) = some r := rfl
    have herrors : r.defaulted 0 [] = some es.errors :=
      Record.defaulted_eq (Nat.le_add_left 2 room) rfl
    simp only [Reads.decode, hrecord, herrors, Option.bind_eq_bind, Option.bind_some]

/-! ### Records with fields that may be left out -/

theorem arePlain_optionalEntry {α : Type} [Wire α] {depth : ℕ} [ReadsBack α depth] (name : String)
    (value : Option α) : ArePlain (optionalEntry name value) := by
  cases value with
  | none => exact .nil
  | some a => exact .cons (isPlain a) .nil

instance : ReadsBack SendOrder 2 where
  isPlain o :=
    .obj (.append
      (.cons (isPlain o.destination)
        (.cons (isPlain o.channel) (.cons (isPlain o.notification) .nil)))
      (arePlain_optionalEntry "request_id" o.requestId))
  decode_encode := by
    intro room hroom o
    obtain ⟨room, rfl⟩ := Nat.exists_eq_add_of_le' hroom
    let r : Record := ⟨false, room + 1,
      [some (Wire.encode o.destination), some (Wire.encode o.channel),
        some (Wire.encode o.notification), o.requestId.map Wire.encode]⟩
    have hrecord : record? ["destination", "kind", "notification", "request_id"] (room + 2)
        (Wire.encode o) = some r := by
      obtain ⟨_, _, _, _ | _⟩ := o <;> rfl
    have hdestination : r.required 0 = some o.destination := Record.required_eq (Nat.zero_le _) rfl
    have hchannel : r.required 1 = some o.channel := Record.required_eq (Nat.zero_le _) rfl
    have hnotification : r.required 2 = some o.notification :=
      Record.required_eq (Nat.le_add_left 1 room) rfl
    have hid : r.defaulted 3 none = some o.requestId :=
      Record.defaulted_none_eq (Nat.zero_le _) rfl
    simp only [Reads.decode, hrecord, hdestination, hchannel, hnotification, hid,
      Option.bind_eq_bind, Option.bind_some]

instance : ReadsBack SendReport 2 where
  isPlain o :=
    .obj (.append
      (.append
        (.append (arePlain_optionalEntry "request_id" o.requestId)
          (.cons (isPlain o.destination) (.cons (isPlain o.channel) .nil)))
        (arePlain_optionalEntry "result" o.result))
      (arePlain_optionalEntry "error" o.error))
  decode_encode := by
    intro room hroom o
    obtain ⟨room, rfl⟩ := Nat.exists_eq_add_of_le' hroom
    let r : Record := ⟨false, room + 1,
      [o.requestId.map Wire.encode, some (Wire.encode o.destination), some (Wire.encode o.channel),
        o.result.map Wire.encode, o.error.map Wire.encode]⟩
    have hrecord : record? ["request_id", "destination", "kind", "result", "error"] (room + 2)
        (Wire.encode o) = some r := by
      obtain ⟨_ | _, _, _, _ | _, _ | _⟩ := o <;> rfl
    have hid : r.defaulted 0 none = some o.requestId :=
      Record.defaulted_none_eq (Nat.zero_le _) rfl
    have hdestination : r.required 1 = some o.destination := Record.required_eq (Nat.zero_le _) rfl
    have hchannel : r.required 2 = some o.channel := Record.required_eq (Nat.zero_le _) rfl
    have hresult : r.defaulted 3 none = some o.result :=
      Record.defaulted_none_eq (Nat.le_add_left 1 room) rfl
    have herror : r.defaulted 4 none = some o.error :=
      Record.defaulted_none_eq (Nat.le_add_left 1 room) rfl
    simp only [Reads.decode, hrecord, hid, hdestination, hchannel, hresult, herror,
      Option.bind_eq_bind, Option.bind_some]

instance : ReadsBack CarrierReply 2 where
  isPlain r :=
    .obj (.append (arePlain_optionalEntry "carrier" r.carrier)
      (arePlain_optionalEntry "error" r.error))
  decode_encode := by
    intro room hroom reply
    obtain ⟨room, rfl⟩ := Nat.exists_eq_add_of_le' hroom
    let r : Record := ⟨false, room + 1,
      [reply.carrier.map Wire.encode, reply.error.map Wire.encode]⟩
    have hrecord : record? ["carrier", "error"] (room + 2) (Wire.encode reply) = some r := by
      obtain ⟨_ | _, _ | _⟩ := reply <;> rfl
    have hcarrier : r.defaulted 0 none = some reply.carrier :=
      Record.defaulted_none_eq (Nat.le_add_left 1 room) rfl
    have herror : r.defaulted 1 none = some reply.error :=
      Record.defaulted_none_eq (Nat.le_add_left 1 room) rfl
    simp only [Reads.decode, hrecord, hcarrier, herror, Option.bind_eq_bind, Option.bind_some]

end AlertLine
