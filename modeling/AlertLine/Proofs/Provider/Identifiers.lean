import AlertLine.Proofs.Provider.Outcomes
import AlertLine.Proofs.Provider.Sends

/-!
# Sends succeed by the id they are given

A send comes to the id that later reports on it carry, or fails. Which of the two is decided by the
ids in the answer (`Provider.decided_by_id`): the first one that is not empty is taken, and without
one the send fails. There are two exceptions. A message takes an empty id for one, and a call with
an empty first id does not look at the second.
-/

namespace AlertLine

/-! ## Ids -/

/-- The ids that the description of a message gives. -/
def MessagePayload.ids (m : MessagePayload) : List String := [m.id]

/-- The ids that the answer to a call gives, in the order in which they count. -/
def CallAnswer.ids (a : CallAnswer) : List String := a.sid.toList ++ a.callControlId.toList

/-- The first id that is not empty. -/
def usableId? (ids : List String) : Option String := ids.find? fun id => !id.isEmpty

/-- The ids in the document that a channel is answered with; nothing if it is another document. -/
def Channel.idsIn (body : Bytes) : Channel → Option (List String)
  | .sms => (Json.read (Envelope MessagePayload) body).map fun envelope => envelope.data.ids
  | .voice => (Json.read (Envelope CallAnswer) body).map fun envelope => envelope.data.ids

/-- The first id of a call decides, and an empty one is none. -/
theorem CallAnswer.callId?_eq (a : CallAnswer) :
    a.callId? = a.ids.head?.filter fun id => !id.isEmpty := by
  obtain ⟨sid, callControlId⟩ := a
  cases sid with
  | some id => rfl
  | none => cases callControlId <;> rfl

theorem usableId?_cons (id : String) (ids : List String) :
    usableId? (id :: ids) = if id = "" then usableId? ids else some id := by
  rw [usableId?, List.find?_cons]
  by_cases hempty : id = ""
  · rw [if_pos hempty, hempty]
    rfl
  · have hused : (!id.isEmpty) = true := by simpa using hempty
    rw [if_neg hempty, hused]

namespace Provider

variable {p : Provider} {s : Settings} {channel : Channel} {d : Dispatch String}

/-! ## What a send comes to -/

/-- What an answer with these ids makes of a send: a message takes its id, a call the first of its
ids, unless that one is empty. -/
def resultBy (ids : List String) : Channel → Except DispatchError String
  | .sms => .ok (ids.headD "")
  | .voice =>
    match ids.head?.filter fun id => !id.isEmpty with
    | some id => .ok id
    | none => .error (.decode .noCallId)

/-- **What a send comes to**, once its request is answered with the document that is expected. -/
theorem Posts.result_eq (h : Posts p s channel d) {r : HttpRequest} (hmade : r ∈ d.requests)
    {status : HttpStatus} {body : Bytes} (hanswer : p.answer r = .whole status body)
    (hsuccess : status.isSuccess = true) {ids : List String}
    (hids : channel.idsIn body = some ids) : d.result = resultBy ids channel := by
  cases h with
  | refused fault => cases hmade
  | message origin destination text =>
    obtain ⟨envelope, hbody, rfl⟩ := Option.map_eq_some_iff.1 hids
    rw [Dispatch.byId, Dispatch.andThen, result_postMessage hmade, hanswer,
      HttpAnswer.readThen_of_read hsuccess hbody]
    rfl
  | call origin destination callback =>
    obtain ⟨envelope, hbody, rfl⟩ := Option.map_eq_some_iff.1 hids
    rw [result_postCall hmade, hanswer, HttpAnswer.readThen_of_read hsuccess hbody, resultBy,
      ← CallAnswer.callId?_eq]
    rfl

/-! ## The id decides -/

/-- What a send comes to by the ids in its answer: the first one that is not empty, and where there
is none it fails, as the answer cannot be used. -/
def SettledBy (ids : List String) (result : Except DispatchError String) : Prop :=
  match usableId? ids with
  | some id => result = .ok id
  | none => ∃ fault, result = .error (.decode fault)

/-- What keeps a send from being settled by the ids in its answer: a message has an empty id, or a
call has an empty one in front of one that could be used. -/
def IsMisled (ids : List String) : Channel → Prop
  | .sms => usableId? ids = none
  | .voice => ids.head? = some "" ∧ usableId? ids ≠ none

/-- The id that a misled send comes to, or its failure. -/
def misledResult : Channel → Except DispatchError String
  | .sms => .ok ""
  | .voice => .error (.decode .noCallId)

theorem settledBy_message_iff (id : String) :
    (SettledBy [id] (.ok id) ↔ ¬ IsMisled [id] .sms) ∧ (IsMisled [id] .sms → id = "") := by
  rw [IsMisled, SettledBy, usableId?_cons]
  by_cases hempty : id = ""
  · rw [if_pos hempty]
    refine ⟨iff_of_false ?_ (not_not_intro rfl), fun _ => hempty⟩
    rintro ⟨fault, ⟨⟩⟩
  · rw [if_neg hempty]
    exact ⟨iff_of_true rfl nofun, nofun⟩

theorem settledBy_call_iff (ids : List String) :
    (SettledBy ids (resultBy ids .voice) ↔ ¬ IsMisled ids .voice) ∧
      (IsMisled ids .voice → resultBy ids .voice = .error (.decode .noCallId)) := by
  cases ids with
  | nil => exact ⟨iff_of_true ⟨_, rfl⟩ nofun, nofun⟩
  | cons id ids =>
    rw [IsMisled, SettledBy, usableId?_cons, List.head?_cons, Option.some_inj]
    by_cases hempty : id = ""
    · have hresult : resultBy (id :: ids) .voice = .error (.decode .noCallId) := by
        rw [hempty]
        rfl
      rw [if_pos hempty, hresult]
      -- the empty id hides those behind it, which does no harm if none of them could be used
      refine ⟨?_, fun _ => rfl⟩
      cases usableId? ids with
      | none => exact iff_of_true ⟨_, rfl⟩ fun h => h.2 rfl
      | some later => exact iff_of_false nofun (not_not_intro ⟨hempty, nofun⟩)
    · have hresult : resultBy (id :: ids) .voice = .ok id := by
        have hused : (!id.isEmpty) = true := by simpa using hempty
        rw [resultBy, List.head?_cons, Option.filter_some, hused]
        rfl
      rw [if_neg hempty, hresult]
      exact ⟨iff_of_true rfl fun h => hempty h.1, fun h => absurd h.1 hempty⟩

/-- **The id decides.** A send whose request is answered with a success, in the document that is
expected, comes to the first id in it that is not empty, and fails without one, unless a message has
an empty id, or a call an empty one in front of one that could be used. Such a message is taken for
sent under the empty id, and such a call for failed. -/
theorem decided_by_id (h : Sends p s channel d) {r : HttpRequest} (hmade : r ∈ d.requests)
    {status : HttpStatus} {body : Bytes} (hanswer : p.answer r = .whole status body)
    (hsuccess : status.isSuccess = true) {ids : List String}
    (hids : channel.idsIn body = some ids) :
    (SettledBy ids d.result ↔ ¬ IsMisled ids channel) ∧
      (IsMisled ids channel → d.result = misledResult channel) := by
  rw [h.posts.result_eq hmade hanswer hsuccess hids]
  cases channel with
  | sms =>
    obtain ⟨envelope, -, rfl⟩ := Option.map_eq_some_iff.1 hids
    obtain ⟨hsettled, hempty⟩ := settledBy_message_iff envelope.data.id
    exact ⟨hsettled, fun hmisled => congrArg Except.ok (hempty hmisled)⟩
  | voice => exact settledBy_call_iff ids

/-- What a call is answered with that is known under its second id only. -/
def takenOnControlled : Bytes :=
  Utf8.encode "\x7b\"data\":\x7b\"sid\":null,\"call_control_id\":\"v3:abc\"\x7d\x7d"

/-- What a call is answered with whose first id is empty. -/
def takenOnMisled : Bytes :=
  Utf8.encode "\x7b\"data\":\x7b\"sid\":\"\",\"call_control_id\":\"v3:abc\"\x7d\x7d"

/-- What a message is answered with whose id is empty. -/
def acceptedIdless : Bytes := Utf8.encode "\x7b\"data\":\x7b\"id\":\"\"\x7d\x7d"

/-- A call whose first id is missing comes to the second. -/
theorem decided_by_id_takenOnControlled :
    Channel.voice.idsIn takenOnControlled = some ["v3:abc"] ∧
      ((answering takenOnControlled).makeCall callLine "+15550000001"
        "https://hook.test/telnyx/voice").result = .ok "v3:abc" := by
  let request := callLine.callRequest "+15550000001" "https://hook.test/telnyx/voice"
  have hids : Channel.voice.idsIn takenOnControlled = some ["v3:abc"] := by decide +kernel
  have hmade : request ∈ ((answering takenOnControlled).makeCall callLine "+15550000001"
      "https://hook.test/telnyx/voice").requests := by
    rw [requests_makeCall (by decide) (by decide), if_neg (by decide)]
    exact Settings.mem_made (by decide) (by decide +kernel)
  obtain ⟨hsettled, -⟩ := decided_by_id (.call "+15550000001" "https://hook.test/telnyx/voice")
    hmade rfl rfl hids
  exact ⟨hids, hsettled.2 fun h => nomatch h.1⟩

/-- A call with an empty id in front of one that could be used fails, and a message with an empty id
is taken for sent. -/
theorem misled_by_empty_ids :
    Channel.voice.idsIn takenOnMisled = some ["", "v3:abc"] ∧
      ((answering takenOnMisled).makeCall callLine "+15550000001"
        "https://hook.test/telnyx/voice").result = .error (.decode .noCallId) ∧
      Channel.sms.idsIn acceptedIdless = some [""] ∧
      ((answering acceptedIdless).sendText callLine "+15550000001" "hello").byId.result =
        .ok "" := by
  refine ⟨?_, ?_, ?_, ?_⟩ <;> decide +kernel

end Provider
end AlertLine
