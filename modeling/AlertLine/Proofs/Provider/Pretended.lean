import AlertLine.Proofs.Provider.Addresses
import AlertLine.Proofs.Provider.Outcomes
import AlertLine.Proofs.Provider.Secrecy
import AlertLine.Proofs.Url.Targets

/-!
# Sends that are only pretended

With a stand-in for the provider, an operation is refused for what stands against it with an account
that has a secret, and otherwise something is made up for it (`Provider.perform_of_mock`). So what
fails with the stand-in fails in the same way with an account, before a request is made
(`Provider.pretended_as_live`). The converse has one exception: the address of a request can be too
long for a request to go to it, and the stand-in looks at no address.
-/

namespace AlertLine

/-- The settings with another base address of the provider and another secret. -/
def Settings.withAccount (s : Settings) (base key : String) : Settings :=
  { s with apiBase := base, apiKey := key }

/-- What comes of an operation that is only pretended. -/
def Operation.pretended {α : Type} (p : Provider) (s : Settings) : Operation α → α
  | .send _ .sms _ => ⟨p.mockId, .sending, s.fromNumber⟩
  | .send destination .voice _ => ⟨p.mockId, .sending, destination⟩
  | .sendText .. => ⟨p.mockId, .sending, s.fromNumber⟩
  | .makeCall .. => p.mockId
  | .lookupCarrier _ => Provider.mockCarrier

/-- Where the receipt of an operation says that it comes from: a message from the configured number,
and a call from the number that is called. -/
def Operation.HasSource {α : Type} (s : Settings) : Operation α → α → Prop
  | .send _ .sms _, receipt => receipt.source = s.fromNumber
  | .send destination .voice _, receipt => receipt.source = destination
  | .sendText .., receipt => receipt.source = s.fromNumber
  | .makeCall .., _ => True
  | .lookupCarrier _, _ => True

/-- An answer that describes a message names no sender but the given one. -/
def HttpAnswer.EchoesOnly (answer : HttpAnswer) (origin : String) : Prop :=
  ∀ status body (envelope : Envelope MessagePayload), answer = .whole status body →
    Json.read (Envelope MessagePayload) body = some envelope →
      ∀ number ∈ envelope.data.senderNumber?, number = origin

/-- A send fails before a request is made. -/
def Dispatch.FailsEarly {α : Type} (d : Dispatch α) (e : DispatchError) : Prop :=
  d.requests = [] ∧ d.result = .error e

namespace Provider

variable {α : Type} {p : Provider} {s : Settings}

/-! ## Pretended operations -/

section Mock

variable (hmock : s.isMock = true)

include hmock

theorem postMessage_of_mock (origin destination text : String) :
    p.postMessage s origin destination text = .settled (.ok ⟨p.mockId, .sending, origin⟩) := by
  rw [postMessage, if_pos hmock]

theorem postCall_of_mock (origin destination callback : String) :
    p.postCall s origin destination callback =
      match Settings.require "connection_id" s.connectionId with
      | .error fault => .refused fault
      | .ok _ => .settled (.ok p.mockId) := by
  rw [postCall]
  cases Settings.require "connection_id" s.connectionId with
  | error fault => rfl
  | ok connectionId =>
    dsimp only
    rw [if_pos hmock]

/-- **How an operation is pretended**: it is refused for what stands against it with an account that
has a secret, and otherwise something is made up for it. -/
theorem perform_of_mock (base : String) {key : String} (hkey : Text.isBlankText key = false)
    (op : Operation α) :
    p.perform s op =
      match op.prepare (s.withAccount base key) with
      | .error fault => .refused fault
      | .ok _ => .settled (.ok (op.pretended p s)) := by
  have hsecret : Settings.require "api_key" (s.withAccount base key).apiKey = .ok key := by
    show Settings.require "api_key" key = _
    rw [Settings.require, hkey, if_neg Bool.false_ne_true]
  have hfrom : (s.withAccount base key).fromNumber = s.fromNumber := rfl
  have hconnection : (s.withAccount base key).connectionId = s.connectionId := rfl
  cases op with
  | sendText destination text =>
    rw [perform, sendText, Operation.prepare, hsecret, hfrom]
    cases horigin : Settings.require "from_number" s.fromNumber with
    | error fault => rfl
    | ok origin =>
      cases eq_of_require horigin
      exact postMessage_of_mock hmock ..
  | makeCall destination callback =>
    rw [perform, makeCall, Operation.prepare, hsecret, hfrom, hconnection]
    cases horigin : Settings.require "from_number" s.fromNumber with
    | error fault => rfl
    | ok origin =>
      cases eq_of_require horigin
      refine (postCall_of_mock hmock ..).trans ?_
      cases Settings.require "connection_id" s.connectionId <;> rfl
  | lookupCarrier number =>
    rw [perform, lookupCarrier, Operation.prepare, hsecret]
    cases Text.isBlankText number with
    | true => rfl
    | false => exact if_pos hmock
  | send destination channel n =>
    have hcallback : (s.withAccount base key).callbackUrl n = s.callbackUrl n := rfl
    rw [perform, send, Settings.buildRequest]
    cases horigin : Settings.require "from_number" s.fromNumber with
    | error fault => cases channel <;> rw [Operation.prepare, hfrom, horigin] <;> rfl
    | ok origin =>
      cases eq_of_require horigin
      cases channel with
      | sms =>
        rw [Operation.prepare, hfrom, horigin, hsecret]
        exact postMessage_of_mock hmock ..
      | voice =>
        rw [Operation.prepare, hfrom, horigin, hcallback, hconnection, hsecret]
        cases s.callbackUrl n with
        | error fault => rfl
        | ok callback =>
          show (p.postCall s s.fromNumber destination callback).andThen _ = _
          rw [postCall_of_mock hmock]
          cases Settings.require "connection_id" s.connectionId <;> rfl

end Mock

/-- No request is made with the stand-in. -/
theorem isMock_of_mem_requests {op : Operation α} {r : HttpRequest}
    (h : r ∈ (p.perform s op).requests) : s.isMock = false := by
  by_contra hmock
  have hkey : Text.isBlankText "KEY" = false := by decide
  rw [perform_of_mock (Bool.not_eq_false _ ▸ hmock) s.apiBase hkey op] at h
  cases hready : op.prepare (s.withAccount s.apiBase "KEY") <;> rw [hready] at h <;> cases h

/-- **Which request is made**: the one that the operation comes to, with the account of the provider
and if it can be sent. -/
theorem mem_requests_iff {op : Operation α} {r : HttpRequest} :
    r ∈ (p.perform s op).requests ↔
      s.isMock = false ∧ op.prepare s = .ok r ∧ r.isSendable = true := by
  constructor
  · intro h
    have hmock := isMock_of_mem_requests h
    rw [perform_eq hmock] at h
    cases hready : op.prepare s with
    | error fault =>
      rw [hready] at h
      cases h
    | ok r' =>
      rw [hready, requests_carryOut] at h
      obtain ⟨hmem, hsendable⟩ := List.mem_filter.1 h
      cases List.mem_singleton.1 hmem
      exact ⟨hmock, rfl, hsendable⟩
  · rintro ⟨hmock, hready, hsendable⟩
    rw [perform_eq hmock, hready, requests_carryOut, List.mem_filter]
    exact ⟨List.mem_singleton_self r, hsendable⟩

/-- What comes of a request is read off its answer. -/
theorem result_of_mem_requests {op : Operation α} {r : HttpRequest}
    (h : r ∈ (p.perform s op).requests) :
    (p.perform s op).result = (op.read s (p.unread op.kind) (p.answer r)).2 := by
  obtain ⟨hmock, hready, hsendable⟩ := mem_requests_iff.1 h
  rw [perform_eq hmock, hready, carryOut, attempt, if_pos hsendable]

/-! ## Addresses of requests -/

/-- An address, as it is written, is not too long to be a target. -/
def IsShort (address : String) : Prop :=
  ∀ u, Url.parse address = .ok u → u.text.utf8ByteSize ≤ Target.maxLength

/-- If an operation comes to a request, a request can go to its address. -/
def IsReachable (s : Settings) (op : Operation α) : Prop :=
  ∀ r, op.prepare s = .ok r → IsWebAddress r.address

/-- A request is made with the secret of the settings, and a path stands behind the base address. -/
theorem exists_rest_of_prepare {op : Operation α} {r : HttpRequest} (h : op.prepare s = .ok r) :
    r.apiKey = s.apiKey ∧ ∃ rest, r.address = String.ofList (s.baseFront ++ '/' :: rest) ∧
      ∀ c ∈ rest, Url.IsPathChar c := by
  have hmessage (destination text : String) : ∃ rest,
      (s.messageRequest destination text).address = String.ofList (s.baseFront ++ '/' :: rest) ∧
        ∀ c ∈ rest, Url.IsPathChar c := by
    have hname : Url.IsSegmentText "messages".toList := by decide
    exact ⟨"messages".toList, rfl, fun c hc => .inr (hname c hc)⟩
  have hcall (destination callback : String) : ∃ rest,
      (s.callRequest destination callback).address = String.ofList (s.baseFront ++ '/' :: rest) ∧
        ∀ c ∈ rest, Url.IsPathChar c :=
    ⟨_, s.address_callRequest .., fun c => Url.isPathChar_of_mem (by decide) _⟩
  cases op with
  | send destination channel n =>
    cases channel with
    | sms =>
      obtain ⟨-, -, h⟩ := bind_eq_ok.1 h
      obtain ⟨-, -, ⟨⟩⟩ := bind_eq_ok.1 h
      exact ⟨rfl, hmessage ..⟩
    | voice =>
      obtain ⟨-, -, h⟩ := bind_eq_ok.1 h
      obtain ⟨callback, -, h⟩ := bind_eq_ok.1 h
      obtain ⟨-, -, h⟩ := bind_eq_ok.1 h
      obtain ⟨-, -, ⟨⟩⟩ := bind_eq_ok.1 h
      exact ⟨rfl, hcall ..⟩
  | sendText destination text =>
    obtain ⟨-, -, h⟩ := bind_eq_ok.1 h
    obtain ⟨-, -, ⟨⟩⟩ := bind_eq_ok.1 h
    exact ⟨rfl, hmessage ..⟩
  | makeCall destination callback =>
    obtain ⟨-, -, h⟩ := bind_eq_ok.1 h
    obtain ⟨-, -, h⟩ := bind_eq_ok.1 h
    obtain ⟨-, -, ⟨⟩⟩ := bind_eq_ok.1 h
    exact ⟨rfl, hcall ..⟩
  | lookupCarrier number =>
    rw [Operation.prepare] at h
    split_ifs at h
    obtain ⟨-, -, ⟨⟩⟩ := bind_eq_ok.1 h
    exact ⟨rfl, _, s.address_lookupRequest _, fun c => Url.isPathChar_of_mem (by decide) _⟩

/-- **Which requests can be made with an account**: all whose address is not too long. -/
theorem isReachable_iff {base : Url} (hbase : Url.IsBase s.apiBase base)
    (hweb : IsWebAddress s.apiBase) (op : Operation α) :
    IsReachable s op ↔ ∀ r, op.prepare s = .ok r → IsShort r.address := by
  obtain ⟨_, hread, -, hok⟩ := hweb
  cases hbase.read.symm.trans hread
  refine forall_congr' fun r => forall_congr' fun hready => ?_
  obtain ⟨-, rest, haddress, hrest⟩ := exists_rest_of_prepare hready
  obtain ⟨n, hn⟩ := s.exists_apiBase_eq
  obtain ⟨names, hnames⟩ := Url.exists_atPath (hn ▸ hbase) hrest
  rw [← haddress] at hnames
  have htarget := Url.isOk_target_atPath_iff hbase hok hnames
  constructor
  · rintro ⟨u, hu, -, hok⟩ v hv
    cases hnames.symm.trans hu
    cases hnames.symm.trans hv
    exact htarget.1 hok
  · exact fun hshort => ⟨_, hnames, hbase.web.scheme, htarget.2 (hshort _ hnames)⟩

/-! ## Sources -/

theorem hasSource_pretended (op : Operation α) : op.HasSource s (op.pretended p s) := by
  cases op with
  | send destination channel n => cases channel <;> rfl
  | sendText destination text => rfl
  | makeCall destination callback => trivial
  | lookupCarrier number => trivial

/-- What is made of an answer has its source, unless the answer names another sender. -/
theorem hasSource_read {op : Operation α} {unread : Bytes → String} {answer : HttpAnswer} {a : α}
    (hecho : answer.EchoesOnly s.fromNumber) (h : (op.read s unread answer).2 = .ok a) :
    op.HasSource s a := by
  have hmessage {receipt : Receipt}
      (h : (answer.readThen unread fun envelope : Envelope MessagePayload =>
        .ok (messageReceipt s.fromNumber envelope.data)).2 = .ok receipt) :
      receipt.source = s.fromNumber := by
    obtain ⟨envelope, hread, ⟨⟩⟩ := bind_eq_ok.1 h
    obtain ⟨status, body, hanswer, -, hbody⟩ := HttpAnswer.exists_of_read hread
    have hsender := hecho status body envelope hanswer hbody
    show envelope.data.senderNumber?.getD s.fromNumber = _
    cases hnumber : envelope.data.senderNumber? with
    | none => rfl
    | some number => exact hsender number hnumber
  cases op with
  | send destination channel n =>
    cases channel with
    | sms => exact hmessage h
    | voice =>
      obtain ⟨envelope, -, h⟩ := bind_eq_ok.1 h
      obtain ⟨id, -, ⟨⟩⟩ := bind_eq_ok.1 h
      rfl
  | sendText destination text => exact hmessage h
  | makeCall destination callback => trivial
  | lookupCarrier number => trivial

/-! ## A stand-in and an account -/

/-- With a secret that can be used, the address decides whether a request can be made. -/
theorem isSendable_iff_of_key {r : HttpRequest} (hkey : IsUsableKey r.apiKey) :
    r.isSendable = true ↔ IsWebAddress r.address := by
  refine isSendable_iff.trans (and_iff_left fun b hb => ?_)
  refine List.all_eq_true.1 hkey.legal b ?_
  rw [Utf8.encode_append]
  exact List.mem_append_right _ hb

/-- **Pretended sends are refused as those of an account are.** An operation with a stand-in for the
provider makes no request and counts nothing. If it fails, then for the settings, and if a request
can go to its address, it fails exactly if it fails with an account before a request is made, and in
the same way. If none can, it succeeds, and with an account it fails as if nobody had answered. For
a base address to which requests can go that is so exactly if the address is too long. What comes of
it has the source that comes of an account, unless the provider names another sender. -/
theorem pretended_as_live {c : Settings} (hmock : c.isMock = true) {base key : String}
    (hlive : (c.withAccount base key).isMock = false) (hkey : IsUsableKey key) (op : Operation α)
    (p q : Provider) :
    (p.perform c op).requests = [] ∧ (p.perform c op).metrics = [] ∧
    (∀ e, (p.perform c op).result = .error e → ∃ fault, e = .setup fault) ∧
    (IsReachable (c.withAccount base key) op → ∀ e, (p.perform c op).result = .error e ↔
      (q.perform (c.withAccount base key) op).FailsEarly e) ∧
    (¬ IsReachable (c.withAccount base key) op →
      (∃ a, (p.perform c op).result = .ok a) ∧
        ∃ r, op.prepare (c.withAccount base key) = .ok r ∧
          q.perform (c.withAccount base key) op = q.unmade op.kind r) ∧
    (∀ u, Url.IsBase base u → IsWebAddress base → (IsReachable (c.withAccount base key) op ↔
      ∀ r, op.prepare (c.withAccount base key) = .ok r → IsShort r.address)) ∧
    (∀ a, (p.perform c op).result = .ok a → op.HasSource c a) ∧
    ∀ a, (q.perform (c.withAccount base key) op).result = .ok a →
      (∀ r ∈ (q.perform (c.withAccount base key) op).requests,
        (q.answer r).EchoesOnly c.fromNumber) → op.HasSource c a := by
  have hlength (u : Url) (hbase : Url.IsBase base u) (hweb : IsWebAddress base) :=
    isReachable_iff (s := c.withAccount base key) hbase hweb op
  rw [perform_of_mock hmock base hkey.notBlank op, perform_eq hlive]
  cases hready : op.prepare (c.withAccount base key) with
  | error fault =>
    have hreachable : IsReachable (c.withAccount base key) op := by
      intro r hr
      rw [hready] at hr
      cases hr
    refine ⟨rfl, rfl, ?_, ?_, fun hno => absurd hreachable hno, hready ▸ hlength, nofun, nofun⟩
    · rintro _ ⟨⟩
      exact ⟨fault, rfl⟩
    · exact fun _ e => ⟨fun h => ⟨rfl, h⟩, fun h => h.2⟩
  | ok r =>
    obtain ⟨hsecret, -⟩ := exists_rest_of_prepare hready
    have hsendable := isSendable_iff_of_key (r := r) (by rwa [hsecret])
    have hreachable : IsReachable (c.withAccount base key) op ↔ r.isSendable = true := by
      refine ⟨fun h => hsendable.2 (h r hready), fun h r' hr => ?_⟩
      rw [hready] at hr
      cases hr
      exact hsendable.1 h
    have hpretended (a : α) (h : Except.ok (op.pretended p c) = (.ok a : Except DispatchError α)) :
        op.HasSource c a := by
      cases h
      exact hasSource_pretended op
    refine ⟨rfl, rfl, nofun, fun h e => ?_, fun h => ?_, hready ▸ hlength, hpretended, ?_⟩
    · refine iff_of_false nofun fun hfails => ?_
      have hmade := hfails.1
      rw [requests_carryOut, List.filter_cons_of_pos (hreachable.1 h)] at hmade
      exact List.cons_ne_nil _ _ hmade
    · refine ⟨⟨_, rfl⟩, r, rfl, ?_⟩
      rw [carryOut, attempt, if_neg (hreachable.not.1 h)]
    · intro a h hecho
      rw [requests_carryOut] at hecho
      rw [carryOut, attempt] at h
      split_ifs at h with hr
      · exact hasSource_read (hecho r (List.mem_filter.2 ⟨List.mem_cons_self, hr⟩)) h
      · cases h

/-- Settings with a stand-in for the provider. -/
def standInLine : Settings :=
  { Settings.standard with apiBase := "mock://telnyx", fromNumber := "+15550009999" }

/-- With its account, the line can send texts. -/
theorem standInLine_withAccount :
    standInLine.withAccount Settings.standardApiBase "KEY" = textLine := rfl

theorem isUsableKey_key : IsUsableKey "KEY" := ⟨by decide, by decide⟩

/-- A call without a connection is refused with the stand-in as with the account. -/
theorem pretended_as_live_standInLine :
    standInLine.isMock = true ∧
      (silent.perform standInLine someCall).result = .error (.setup (.missing "connection_id")) ∧
      (silent.perform (standInLine.withAccount Settings.standardApiBase "KEY") someCall).FailsEarly
        (.setup (.missing "connection_id")) := by
  have hmock : standInLine.isMock = true := by decide
  have hlive : (standInLine.withAccount Settings.standardApiBase "KEY").isMock = false := by decide
  have hready : someCall.prepare (standInLine.withAccount Settings.standardApiBase "KEY") =
      .error (.missing "connection_id") := rfl
  have hresult : (silent.perform standInLine someCall).result =
      .error (.setup (.missing "connection_id")) := rfl
  obtain ⟨-, -, -, hearly, -⟩ :=
    pretended_as_live hmock hlive isUsableKey_key someCall silent silent
  refine ⟨hmock, hresult, (hearly (fun r hr => ?_) _).1 hresult⟩
  rw [hready] at hr
  cases hr

/-- The address of a lookup is as long as its number at least. -/
theorem not_isShort_of_lookup {base : Url} (hbase : Url.IsBase s.apiBase base) {number : String}
    (hdots : ¬ Url.IsDots (Text.trim number))
    (hlong : Target.maxLength < (Text.trim number).utf8ByteSize) :
    ¬ IsShort (s.lookupRequest number).address := by
  obtain ⟨n, hn⟩ := s.exists_apiBase_eq
  obtain ⟨front, k, -, hbehind⟩ := Url.exists_front_of_resources (hn ▸ hbase)
  have hread := hbehind ["number_lookup"] (Text.trim number) (List.cons_ne_nil _ _) (by decide)
  rw [← s.address_lookupRequest, Url.segmentsTo_of_not_dots hdots, ← List.append_assoc] at hread
  intro hshort
  refine absurd (hshort _ hread) (Nat.not_le_of_lt (hlong.trans_le ?_))
  exact (Percent.utf8ByteSize_le_encodeSegment _).trans (Url.utf8ByteSize_le_text rfl)

/-- A number of many digits. -/
def manyDigits (n : ℕ) : String := String.ofList (List.replicate n '1')

theorem trim_manyDigits (n : ℕ) : Text.trim (manyDigits n) = manyDigits n := by
  refine Text.trim_of_forall_not_blank fun c hc => ?_
  rw [manyDigits, String.toList_ofList] at hc
  rw [List.eq_of_mem_replicate hc]
  rfl

theorem utf8ByteSize_manyDigits (n : ℕ) : (manyDigits n).utf8ByteSize = n := by
  have hascii : ∀ c ∈ List.replicate n '1', c.toNat < 0x80 := fun c hc => by
    rw [List.eq_of_mem_replicate hc]
    decide
  rw [← Utf8.length_encode, manyDigits, Utf8.encode_ofList_of_lt hascii, List.length_map,
    List.length_replicate]

/-- A number of too many digits for an address is looked up with the stand-in. With the account of
the provider the lookup fails before a request is made, and not for the settings. -/
theorem manyDigits_pretended :
    Url.IsBase Settings.standardApiBase standardBase ∧ IsWebAddress Settings.standardApiBase ∧
      IsUsableKey "KEY" ∧
      (silent.lookupCarrier standInLine (manyDigits 65535)).result = .ok mockCarrier ∧
      (silent.lookupCarrier (standInLine.withAccount Settings.standardApiBase "KEY")
        (manyDigits 65535)).FailsEarly (.transport (.unsendable
          (textLine.lookupRequest (manyDigits 65535)).builderError)) := by
  have hbase : Url.IsBase Settings.standardApiBase standardBase :=
    ⟨by decide +kernel, ⟨.inr rfl, rfl, rfl⟩, by decide⟩
  have hweb : IsWebAddress Settings.standardApiBase :=
    ⟨standardBase, hbase.read, .inr rfl, by decide +kernel⟩
  have hlive : textLine.isMock = false := by decide
  have htrim := trim_manyDigits 65535
  have hsize := utf8ByteSize_manyDigits 65535
  generalize manyDigits 65535 = number at htrim hsize
  have hblank : Text.isBlankText number = false := by
    rw [← Text.isEmpty_trim, htrim, String.isEmpty_eq_false_iff]
    rintro rfl
    exact absurd hsize (by decide)
  have hdots : ¬ Url.IsDots (Text.trim number) := by
    rw [htrim]
    rintro (rfl | rfl) <;> exact absurd hsize (by decide)
  have hlong : ¬ IsShort (textLine.lookupRequest number).address := by
    refine not_isShort_of_lookup hbase hdots ?_
    rw [htrim, hsize]
    decide
  have hready : (Operation.lookupCarrier number).prepare textLine =
      .ok (textLine.lookupRequest number) := by
    rw [Operation.prepare, hblank, if_neg Bool.false_ne_true]
    rfl
  have hunsendable : ¬ (textLine.lookupRequest number).isSendable = true := fun hsendable => by
    have haddress := (isSendable_iff.1 hsendable).1
    refine hlong ((isReachable_iff hbase hweb (.lookupCarrier number)).1 ?_ _ hready)
    intro r hr
    rw [hready] at hr
    cases hr
    exact haddress
  refine ⟨hbase, hweb, isUsableKey_key, ?_, ?_⟩
  · rw [lookupCarrier, hblank, if_neg Bool.false_ne_true, if_pos (by decide)]
    rfl
  · rw [standInLine_withAccount]
    show (silent.perform textLine (.lookupCarrier number)).FailsEarly _
    have hwords : silent.unsent = HttpRequest.builderError := rfl
    rw [perform_eq hlive, hready, carryOut, attempt, if_neg hunsendable, unmade, hwords]
    exact ⟨rfl, rfl⟩

end Provider
end AlertLine
