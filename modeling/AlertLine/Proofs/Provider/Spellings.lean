import AlertLine.Proofs.Json.Records
import AlertLine.Proofs.Json.Room
import AlertLine.Provider.Message

/-!
# Spellings of a message

The ends of a message can be spelled in several ways: a number alone or an object that gives it, and
one recipient or a list of them (`Endpoint.Spells`, `Endpoints.Spells`). As long as what is spelled
can be taken in whole where it stands, all spellings of a number read alike
(`Endpoints.exists_of_spells`). A description of a message is read as that message
(`MessagePayload.Describes.exists_of_decode`), and descriptions which are the same but for the
spellings tell the same of it (`MessagePayload.tellSame_of_areAlike`). What cannot be taken in is
not read, and neither is the description around it
(`MessagePayload.HasUnsoundEnd.decode_eq_none`).
-/

namespace AlertLine

open Json (Gives ReadsOn Record)

/-- Two attempts go alike if either leads to the other. -/
theorem optionRel_of_exists {α β : Type} {R : α → β → Prop} {x : Option α} {y : Option β}
    (h : ∀ a, x = some a → ∃ b, y = some b ∧ R a b) (h' : ∀ b, y = some b → ∃ a, x = some a) :
    Option.Rel R x y := by
  cases x with
  | some a =>
    obtain ⟨b, rfl, hab⟩ := h a rfl
    exact .some hab
  | none =>
    cases y with
    | none => exact .none
    | some b =>
      obtain ⟨a, ⟨⟩⟩ := h' b rfl

/-! ## Endpoints -/

/-- What a field says that may be left out. -/
inductive MaySay : Option Json → Option String → Prop
  /-- A text is given. -/
  | given (text : String) : MaySay (some (.ofString text)) (some text)
  /-- It is said that there is none. -/
  | null : MaySay (some .null) none
  /-- Nothing is said. -/
  | absent : MaySay none none

/-- What is read of a field that may be left out. -/
def readIfGiven {α : Type} [Reads α] (room : ℕ) : Option Json → Option (Option α)
  | some v => Reads.decode room v
  | none => some none

theorem MaySay.readIfGiven_eq {room : ℕ} {field? : Option Json} {text? : Option String}
    (h : MaySay field? text?) : readIfGiven room field? = some text? := by
  cases h <;> rfl

namespace Endpoint

/-- The fields of an endpoint. -/
def fieldNames : List String := ["phone_number", "status"]

/-- The spellings of a number and the status of a message there: the number alone, if there is no
status, or an object that gives both, whatever else it holds. -/
inductive Spells (number : String) : Option String → Json → Prop
  /-- The number alone. -/
  | alone : Spells number none (.ofString number)
  /-- An object. -/
  | object {entries : List (Json.Reading × Json)} {field? : Option Json} {status? : Option String}
      (hgives : Gives fieldNames (.object entries) [some (.ofString number), field?])
      (hstatus : MaySay field? status?) : Spells number status? (.object entries)

variable {number : String} {status? : Option String} {v : Json} {room : ℕ}

theorem Spells.ne_null (h : Spells number status? v) : v ≠ .null := by
  cases h <;> nofun

/-- Two values spell the same number. -/
def SpelledAlike (v v' : Json) : Prop :=
  ∃ number status? status?', Spells number status? v ∧ Spells number status?' v'

theorem SpelledAlike.symm {v v' : Json} (h : SpelledAlike v v') : SpelledAlike v' v := by
  obtain ⟨number, status?, status?', h, h'⟩ := h
  exact ⟨number, status?', status?, h', h⟩

/-- What is read of an object, which is taken in whole before it is looked at. -/
theorem decode_object_iff {entries : List (Json.Reading × Json)} {e : Endpoint} :
    (Reads.decode room (.object entries) : Option Endpoint) = some e ↔
      (Json.object entries).isSound room = true ∧
        ∃ r, Json.record? fieldNames room (.object entries) = some r ∧
          ∃ number, r.required 0 = some number ∧
            ∃ status?, r.defaulted 1 none = some status? ∧ .detailed number status? = e := by
  have hread : ofObject? room (.object entries) = some e ↔
      ∃ r, Json.record? fieldNames room (.object entries) = some r ∧
        ∃ number, r.required 0 = some number ∧
          ∃ status?, r.defaulted 1 none = some status? ∧ .detailed number status? = e := by
    simp only [← Option.some_inj (b := e), ← Option.bind_eq_some_iff]
    rfl
  show (if (Json.object entries).isSound room then _ else none) = some e ↔ _
  split_ifs with hsound
  · rw [hread, and_iff_right hsound]
  · exact iff_of_false nofun fun h => hsound h.1

/-- **However an endpoint is spelled, the same is read**, if it can be taken in whole. -/
theorem exists_of_spells (h : Spells number status? v) (hsound : v.isSound room = true) :
    ∃ e : Endpoint, Reads.decode room v = some e ∧ e.phoneNumber = number ∧
      e.status? = status? := by
  cases h with
  | alone => exact ⟨.number number, rfl, rfl, rfl⟩
  | @object entries field? _ hgives hstatus =>
    cases room with
    | zero => cases hsound
    | succ room =>
      have hrecord : Json.record? fieldNames (room + 1) (.object entries) =
          some ⟨false, room, [some (.ofString number), field?]⟩ :=
        Json.record?_eq_some_iff.2 ⟨hgives, rfl, rfl⟩
      have hread := decode_object_iff.2
        ⟨hsound, _, hrecord, number, rfl, status?, hstatus.readIfGiven_eq, rfl⟩
      exact ⟨.detailed number status?, hread, rfl, rfl⟩

/-- An endpoint that cannot be taken in whole is not read. -/
theorem decode_of_unsound (h : Spells number status? v) (hsound : ¬ v.isSound room = true) :
    (Reads.decode room v : Option Endpoint) = none := by
  cases h with
  | alone => exact absurd (Json.isSound_ofString room number) hsound
  | object hgives hstatus =>
    exact Option.eq_none_iff_forall_ne_some.2 fun e he => hsound (decode_object_iff.1 he).1

/-- Texts and objects only are read as an endpoint. -/
theorem eq_string_or_object {e : Endpoint} (h : Reads.decode room v = some e) :
    (∃ reading, v = .string reading) ∨ ∃ entries, v = .object entries := by
  cases v with
  | string reading => exact .inl ⟨reading, rfl⟩
  | object entries => exact .inr ⟨entries, rfl⟩
  | null | bool b | number n | array items =>
    have hnone : (if Json.isSound room _ then (none : Option Endpoint) else none) = some e := h
    rw [ite_self] at hnone
    cases hnone

instance : ReadsOn Endpoint where
  decode_succ := by
    intro room v e h
    obtain ⟨reading, rfl⟩ | ⟨entries, rfl⟩ := eq_string_or_object h
    · exact h
    · obtain ⟨hsound, r, hr, number, hnumber, status?, hstatus, he⟩ := decode_object_iff.1 h
      exact decode_object_iff.2 ⟨Json.isSound_succ hsound, _, Json.record?_succ hr,
        number, Record.required_deeper hnumber, status?, Record.defaulted_deeper hstatus, he⟩

end Endpoint

/-! ## Recipients -/

namespace Endpoints

/-- The spellings of recipients by the first of them: it alone, or a list that begins with it. -/
inductive Spells (number : String) (status? : Option String) : Json → Prop
  /-- One recipient. -/
  | one {v : Json} (h : Endpoint.Spells number status? v) : Spells number status? v
  /-- A list of recipients. -/
  | list {v : Json} {others : List Json} (h : Endpoint.Spells number status? v)
      (hothers : ∀ w ∈ others, ∃ number status?, Endpoint.Spells number status? w) :
    Spells number status? (.array (v :: others))

variable {number : String} {status? : Option String} {v : Json} {room : ℕ}

theorem Spells.ne_null (h : Spells number status? v) : v ≠ .null := by
  cases h with
  | one h => exact h.ne_null
  | list h hothers => nofun

/-- Two values spell the same number and the same status for the first recipient. -/
def SpelledAlike (v v' : Json) : Prop :=
  ∃ number status?, Spells number status? v ∧ Spells number status? v'

theorem SpelledAlike.symm {v v' : Json} (h : SpelledAlike v v') : SpelledAlike v' v := by
  obtain ⟨number, status?, h, h'⟩ := h
  exact ⟨number, status?, h', h⟩

/-- Whether it is one recipient is tried first, and a list is looked at only if it is not. -/
theorem decode_eq (v : Json) :
    (Reads.decode room v : Option Endpoints) =
      if v.isSound room then
        match (Reads.decode room v : Option Endpoint) with
        | some e => some (.one e)
        | none => (Reads.decode room v : Option (List Endpoint)).map .many
      else none := rfl

theorem decode_array {items : List Json} {es : List Endpoint}
    (hsound : (Json.array items).isSound (room + 1) = true)
    (h : (Reads.decode (room + 1) (.array items) : Option (List Endpoint)) = some es) :
    (Reads.decode (room + 1) (.array items) : Option Endpoints) = some (.many es) := by
  have hnone : (Reads.decode (room + 1) (.array items) : Option Endpoint) = none := by
    refine Option.eq_none_iff_forall_ne_some.2 fun e he => ?_
    obtain ⟨_, ⟨⟩⟩ | ⟨_, ⟨⟩⟩ := Endpoint.eq_string_or_object he
  rw [decode_eq, if_pos hsound, hnone, h]
  rfl

theorem exists_others {others : List Json}
    (h : ∀ w ∈ others, ∃ e : Endpoint, Reads.decode room w = some e) :
    ∃ es : List Endpoint, List.Forall₂ (fun w e => Reads.decode room w = some e) others es := by
  induction others with
  | nil => exact ⟨[], .nil⟩
  | cons w others ih =>
    obtain ⟨⟨e, he⟩, hothers⟩ := List.forall_mem_cons.1 h
    obtain ⟨es, hes⟩ := ih hothers
    exact ⟨e :: es, .cons he hes⟩

/-- **However recipients are spelled, the same first one is read**, if they can be taken in
whole. -/
theorem exists_of_spells (h : Spells number status? v) (hsound : v.isSound room = true) :
    ∃ es : Endpoints, Reads.decode room v = some es ∧
      es.first?.map Endpoint.phoneNumber = some number ∧
      es.first?.bind Endpoint.status? = status? := by
  cases h with
  | one h =>
    obtain ⟨e, he, hnumber, hstatus⟩ := Endpoint.exists_of_spells h hsound
    refine ⟨.one e, ?_, congrArg some hnumber, hstatus⟩
    rw [decode_eq, if_pos hsound, he]
  | @list v others h hothers =>
    cases room with
    | zero => cases hsound
    | succ room =>
      have hitems : ∀ item ∈ v :: others, item.isSound room = true := List.all_eq_true.1 hsound
      obtain ⟨hfirst, hrest⟩ := List.forall_mem_cons.1 hitems
      obtain ⟨e, he, hnumber, hstatus⟩ := Endpoint.exists_of_spells h hfirst
      obtain ⟨es, hes⟩ := exists_others fun w hw => by
        obtain ⟨number, status?, h⟩ := hothers w hw
        obtain ⟨e, he, -, -⟩ := Endpoint.exists_of_spells h (hrest w hw)
        exact ⟨e, he⟩
      refine ⟨.many (e :: es), decode_array hsound ?_, congrArg some hnumber, hstatus⟩
      exact Json.decode_list_iff.2 ⟨_, rfl, .cons he hes⟩

/-- Recipients that cannot be taken in whole are not read. -/
theorem decode_of_unsound (hsound : ¬ v.isSound room = true) :
    (Reads.decode room v : Option Endpoints) = none := by
  rw [decode_eq, if_neg hsound]

instance : ReadsOn Endpoints where
  decode_succ := by
    intro room v es h
    rw [decode_eq] at h
    split_ifs at h with hsound
    cases hone : (Reads.decode room v : Option Endpoint) with
    | some e =>
      rw [hone] at h
      rw [decode_eq, if_pos (Json.isSound_succ hsound), ReadsOn.decode_succ hone]
      exact h
    | none =>
      rw [hone] at h
      obtain ⟨as, has, rfl⟩ := Option.map_eq_some_iff.1 h
      cases room with
      | zero => cases v <;> cases has
      | succ room =>
        obtain ⟨items, rfl, -⟩ := Json.decode_list_iff.1 has
        exact decode_array (Json.isSound_succ hsound) (ReadsOn.decode_succ has)

end Endpoints

/-! ## Messages -/

namespace MessagePayload

/-- The fields of a message. -/
def fieldNames : List String := ["id", "from", "to", "text", "status"]

/-- Two descriptions tell the same of a message, as far as anyone asks. -/
structure TellSame (m m' : MessagePayload) : Prop where
  id : m.id = m'.id
  sender : m.senderNumber? = m'.senderNumber?
  recipient : m.recipientNumber? = m'.recipientNumber?
  text : m.text = m'.text
  status : m.status = m'.status

/-- What is given for an end of a message is the same, or spelled alike where both spellings can be
taken in whole. -/
inductive EndsAlike (room : ℕ) (SpelledAlike : Json → Json → Prop) :
    Option Json → Option Json → Prop
  /-- It is the same. -/
  | same (field? : Option Json) : EndsAlike room SpelledAlike field? field?
  /-- It is spelled alike. -/
  | spelled {v v' : Json} (h : SpelledAlike v v') (hsound : v.isSound room = true)
      (hsound' : v'.isSound room = true) : EndsAlike room SpelledAlike (some v) (some v')

theorem EndsAlike.symm {room : ℕ} {SpelledAlike : Json → Json → Prop}
    {field? field?' : Option Json}
    (hsymm : ∀ v v', SpelledAlike v v' → SpelledAlike v' v)
    (h : EndsAlike room SpelledAlike field? field?') :
    EndsAlike room SpelledAlike field?' field? := by
  cases h with
  | same => exact .same _
  | spelled h hsound hsound' => exact .spelled (hsymm _ _ h) hsound' hsound

/-- Two documents describe a message alike: but for the spellings of its ends they give the same. -/
def AreAlike (room : ℕ) (v v' : Json) : Prop :=
  ∃ id? sender? sender?' recipients? recipients?' text? status?,
    Gives fieldNames v [id?, sender?, recipients?, text?, status?] ∧
      Gives fieldNames v' [id?, sender?', recipients?', text?, status?] ∧
      EndsAlike room Endpoint.SpelledAlike sender? sender?' ∧
      EndsAlike room Endpoints.SpelledAlike recipients? recipients?'

variable {room : ℕ} {v v' : Json}

/-- What is read of a message. -/
theorem decode_iff {m : MessagePayload} :
    (Reads.decode room v : Option MessagePayload) = some m ↔
      ∃ r, Json.record? fieldNames room v = some r ∧
        r.required 0 = some m.id ∧ r.defaulted 1 none = some m.sender ∧
        r.defaulted 2 none = some m.recipients ∧ r.defaulted 3 none = some m.text ∧
        r.defaulted 4 none = some m.ownStatus := by
  have hdecode : (Reads.decode room v : Option MessagePayload) =
      (Json.record? fieldNames room v).bind fun r => (r.required 0).bind fun id =>
        (r.defaulted 1 none).bind fun sender => (r.defaulted 2 none).bind fun recipients =>
          (r.defaulted 3 none).bind fun text => (r.defaulted 4 none).bind fun ownStatus =>
            some ⟨id, sender, recipients, text, ownStatus⟩ := rfl
  obtain ⟨id, sender, recipients, text, ownStatus⟩ := m
  simp only [hdecode, Option.bind_eq_some_iff, Option.some_inj, MessagePayload.mk.injEq]
  constructor
  · rintro ⟨r, hr, _, hid, _, hsender, _, hrecipients, _, htext, _, hstatus, rfl, rfl, rfl, rfl,
      rfl⟩
    exact ⟨r, hr, hid, hsender, hrecipients, htext, hstatus⟩
  · rintro ⟨r, hr, hid, hsender, hrecipients, htext, hstatus⟩
    exact ⟨r, hr, _, hid, _, hsender, _, hrecipients, _, htext, _, hstatus, rfl, rfl, rfl, rfl,
      rfl⟩

instance : ReadsOn MessagePayload where
  decode_succ := by
    intro room v m h
    obtain ⟨r, hr, hid, hsender, hrecipients, htext, hstatus⟩ := decode_iff.1 h
    exact decode_iff.2 ⟨r.deeper, Json.record?_succ hr, Record.required_deeper hid,
      Record.defaulted_deeper hsender, Record.defaulted_deeper hrecipients,
      Record.defaulted_deeper htext, Record.defaulted_deeper hstatus⟩

/-- What is read of a message from the fields that are given for it. -/
theorem decode_of_gives {id? sender? recipients? text? status? : Option Json}
    (hgives : Gives fieldNames v [id?, sender?, recipients?, text?, status?])
    {m : MessagePayload} :
    (Reads.decode (room + 1) v : Option MessagePayload) = some m ↔
      id?.bind (Reads.decode room) = some m.id ∧ readIfGiven room sender? = some m.sender ∧
        readIfGiven room recipients? = some m.recipients ∧
        readIfGiven room text? = some m.text ∧ readIfGiven room status? = some m.ownStatus := by
  have hrecord : Json.record? fieldNames (room + 1) v = some ⟨_, room, _⟩ :=
    Json.record?_eq_some_iff.2 ⟨hgives, rfl, rfl⟩
  rw [decode_iff]
  constructor
  · rintro ⟨r, hr, hfields⟩
    cases hrecord.symm.trans hr
    exact hfields
  · exact fun hfields => ⟨_, hrecord, hfields⟩

/-- What is given for the sender of a message says which number it comes from, if one is known. -/
inductive SaysSender (room : ℕ) : Option Json → Option String → Prop
  /-- A number is spelled. -/
  | spelled {number : String} {status? : Option String} {w : Json}
      (h : Endpoint.Spells number status? w) (hsound : w.isSound room = true) :
    SaysSender room (some w) (some number)
  /-- It is said that there is none. -/
  | null : SaysSender room (some .null) none
  /-- Nothing is said. -/
  | absent : SaysSender room none none

/-- What is given for the recipients of a message says the number of the first of them, if there is
one, and the status of the message there. -/
inductive SaysRecipient (room : ℕ) : Option Json → Option String → Option String → Prop
  /-- A number is spelled, and perhaps a status. -/
  | spelled {number : String} {status? : Option String} {w : Json}
      (h : Endpoints.Spells number status? w) (hsound : w.isSound room = true) :
    SaysRecipient room (some w) (some number) status?
  /-- It is said that there is none. -/
  | null : SaysRecipient room (some .null) none none
  /-- Nothing is said. -/
  | absent : SaysRecipient room none none none

theorem SaysSender.exists_sender {sender? : Option Json} {number? : Option String}
    (h : SaysSender room sender? number?) :
    ∃ sender, readIfGiven room sender? = some sender ∧
      sender.map Endpoint.phoneNumber = number? := by
  cases h with
  | spelled h hsound =>
    obtain ⟨e, he, hnumber, -⟩ := Endpoint.exists_of_spells h hsound
    refine ⟨some e, ?_, congrArg some hnumber⟩
    rw [readIfGiven, Json.decode_option h.ne_null, he, Option.map_some]
  | null => exact ⟨none, rfl, rfl⟩
  | absent => exact ⟨none, rfl, rfl⟩

theorem SaysRecipient.exists_recipients {recipients? : Option Json}
    {number? status? : Option String} (h : SaysRecipient room recipients? number? status?) :
    ∃ recipients, readIfGiven room recipients? = some recipients ∧
      (recipients.bind Endpoints.first?).map Endpoint.phoneNumber = number? ∧
      (recipients.bind Endpoints.first?).bind Endpoint.status? = status? := by
  cases h with
  | spelled h hsound =>
    obtain ⟨es, hes, hnumber, hstatus⟩ := Endpoints.exists_of_spells h hsound
    refine ⟨some es, ?_, hnumber, hstatus⟩
    rw [readIfGiven, Json.decode_option h.ne_null, hes, Option.map_some]
  | null => exact ⟨none, rfl, rfl, rfl⟩
  | absent => exact ⟨none, rfl, rfl, rfl⟩

theorem exists_sender {sender? sender?' : Option Json}
    (h : EndsAlike room Endpoint.SpelledAlike sender? sender?') {sender : Option Endpoint}
    (hread : readIfGiven room sender? = some sender) :
    ∃ sender', readIfGiven room sender?' = some sender' ∧
      sender.map Endpoint.phoneNumber = sender'.map Endpoint.phoneNumber := by
  cases h with
  | same => exact ⟨sender, hread, rfl⟩
  | spelled halike hsound hsound' =>
    obtain ⟨number, _, _, h, h'⟩ := halike
    obtain ⟨_, hsender, hnumber⟩ := (SaysSender.spelled h hsound).exists_sender
    obtain ⟨sender', hsender', hnumber'⟩ := (SaysSender.spelled h' hsound').exists_sender
    cases hsender.symm.trans hread
    exact ⟨sender', hsender', hnumber.trans hnumber'.symm⟩

theorem exists_recipients {recipients? recipients?' : Option Json}
    (h : EndsAlike room Endpoints.SpelledAlike recipients? recipients?')
    {recipients : Option Endpoints}
    (hread : readIfGiven room recipients? = some recipients) :
    ∃ recipients', readIfGiven room recipients?' = some recipients' ∧
      (recipients.bind Endpoints.first?).map Endpoint.phoneNumber =
        (recipients'.bind Endpoints.first?).map Endpoint.phoneNumber ∧
      (recipients.bind Endpoints.first?).bind Endpoint.status? =
        (recipients'.bind Endpoints.first?).bind Endpoint.status? := by
  cases h with
  | same => exact ⟨recipients, hread, rfl, rfl⟩
  | spelled halike hsound hsound' =>
    obtain ⟨number, _, h, h'⟩ := halike
    obtain ⟨_, hrecipients, hnumber, hstatus⟩ :=
      (SaysRecipient.spelled h hsound).exists_recipients
    obtain ⟨recipients', hrecipients', hnumber', hstatus'⟩ :=
      (SaysRecipient.spelled h' hsound').exists_recipients
    cases hrecipients.symm.trans hread
    exact ⟨recipients', hrecipients', hnumber.trans hnumber'.symm, hstatus.trans hstatus'.symm⟩

theorem AreAlike.symm (h : AreAlike room v v') : AreAlike room v' v := by
  obtain ⟨id?, _, _, _, _, text?, status?, hv, hv', hsenders, hrecipients⟩ := h
  exact ⟨id?, _, _, _, _, text?, status?, hv', hv,
    hsenders.symm fun _ _ => .symm, hrecipients.symm fun _ _ => .symm⟩

/-- What is read of one description is read of one that is alike, and tells the same. -/
theorem AreAlike.exists_of_decode (h : AreAlike room v v') {m : MessagePayload}
    (hread : Reads.decode (room + 1) v = some m) :
    ∃ m', Reads.decode (room + 1) v' = some m' ∧ TellSame m m' := by
  obtain ⟨id?, _, _, _, _, text?, status?, hv, hv', hsenders, hrecipients⟩ := h
  obtain ⟨hid, hsender, hrecipient, htext, hstatus⟩ := (decode_of_gives hv).1 hread
  obtain ⟨sender', hsender', hnumber⟩ := exists_sender hsenders hsender
  obtain ⟨recipients', hrecipients', hfirst, hfirstStatus⟩ :=
    exists_recipients hrecipients hrecipient
  refine ⟨⟨m.id, sender', recipients', m.text, m.ownStatus⟩,
    (decode_of_gives hv').2 ⟨hid, hsender', hrecipients', htext, hstatus⟩,
    rfl, hnumber, hfirst, rfl, ?_⟩
  exact congrArg (fun status? => (m.ownStatus.or status?).getD "") hfirstStatus

/-- **Descriptions that are alike tell the same**, if either can be read. -/
theorem tellSame_of_areAlike (h : AreAlike room v v') :
    Option.Rel TellSame (Reads.decode (room + 1) v) (Reads.decode (room + 1) v') := by
  refine optionRel_of_exists (fun m hm => h.exists_of_decode hm) fun m' hm' => ?_
  obtain ⟨m, hm, -⟩ := h.symm.exists_of_decode hm'
  exact ⟨m, hm⟩

/-- A document describes a message, in whatever spelling. -/
def Describes (room : ℕ) (v : Json) (m : MessagePayload) : Prop :=
  ∃ sender? recipients? text? status?,
    Gives fieldNames v [some (.ofString m.id), sender?, recipients?, text?, status?] ∧
      SaysSender room sender? m.senderNumber? ∧
      SaysRecipient room recipients? m.recipientNumber? (m.firstRecipient?.bind Endpoint.status?) ∧
      MaySay text? m.text ∧ MaySay status? m.ownStatus

/-- **A document is read as the message that it describes.** -/
theorem Describes.exists_of_decode {m : MessagePayload} (h : Describes room v m) :
    ∃ m', Reads.decode (room + 1) v = some m' ∧ TellSame m m' := by
  obtain ⟨sender?, recipients?, text?, status?, hgives, hsender, hrecipients, htext, hstatus⟩ := h
  obtain ⟨sender, hsender, hnumber⟩ := hsender.exists_sender
  obtain ⟨recipients, hrecipients, hfirst, hfirstStatus⟩ := hrecipients.exists_recipients
  refine ⟨⟨m.id, sender, recipients, m.text, m.ownStatus⟩,
    (decode_of_gives hgives).2
      ⟨rfl, hsender, hrecipients, htext.readIfGiven_eq, hstatus.readIfGiven_eq⟩,
    rfl, hnumber.symm, hfirst.symm, rfl, ?_⟩
  exact congrArg (fun status? => (m.ownStatus.or status?).getD "") hfirstStatus.symm

/-- An end of a message is spelled that cannot be taken in whole where it stands. -/
inductive HasUnsoundEnd (room : ℕ) (v : Json) : Prop
  /-- The sender cannot. -/
  | sender {id? recipients? text? field? : Option Json} {number : String} {status? : Option String}
      {w : Json} (hgives : Gives fieldNames v [id?, some w, recipients?, text?, field?])
      (h : Endpoint.Spells number status? w) (hunsound : ¬ w.isSound room = true)
  /-- The recipients cannot. -/
  | recipients {id? sender? text? field? : Option Json} {number : String} {status? : Option String}
      {w : Json} (hgives : Gives fieldNames v [id?, sender?, some w, text?, field?])
      (h : Endpoints.Spells number status? w) (hunsound : ¬ w.isSound room = true)

/-- A description is not read if an end of it cannot be taken in. -/
theorem HasUnsoundEnd.decode_eq_none (h : HasUnsoundEnd room v) :
    (Reads.decode (room + 1) v : Option MessagePayload) = none := by
  refine Option.eq_none_iff_forall_ne_some.2 fun m hm => ?_
  cases h with
  | sender hgives h hunsound =>
    obtain ⟨-, hsender, -⟩ := (decode_of_gives hgives).1 hm
    rw [readIfGiven, Json.decode_option h.ne_null, Endpoint.decode_of_unsound h hunsound] at hsender
    cases hsender
  | recipients hgives h hunsound =>
    obtain ⟨-, -, hrecipients, -⟩ := (decode_of_gives hgives).1 hm
    rw [readIfGiven, Json.decode_option h.ne_null,
      Endpoints.decode_of_unsound hunsound] at hrecipients
    cases hrecipients

end MessagePayload
end AlertLine
