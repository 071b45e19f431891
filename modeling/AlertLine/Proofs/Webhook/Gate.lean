import AlertLine.Proofs.Webhook.Ledger

/-!
# The gate in front of the webhooks

Over a whole session nothing but a verified request leaves a trace beyond a count. A request to a
webhook whose body is too long or whose signature is refused is answered without a document and
counted under its reason, and the ledger stays as it was (`turnsAway_of_tooLong`,
`turnsAway_of_unverified`). So each write, reply and lookup of a session is that of a posted and
verified request (`genuine_of_deed`). Both sides come together in `ledger_behind_gate`.
-/

namespace AlertLine.Webhook

/-! ## Requests to webhooks -/

/-- The path of a webhook. -/
def IsWebhookPath (path : String) : Prop := path = "/telnyx/voice" ∨ path = "/telnyx/sms"

theorem isSome_routeOf?_iff {path : String} :
    (routeOf? path).isSome = true ↔ IsWebhookPath path := by
  rw [routeOf?.eq_def, IsWebhookPath]
  split
  · simp
  · simp
  case _ hvoice hsms =>
    refine ⟨?_, ?_⟩
    · rintro ⟨⟩
    · rintro (rfl | rfl)
      · exact absurd rfl hvoice
      · exact absurd rfl hsms

theorem ne_healthPath {path : String} (h : IsWebhookPath path) : path ≠ healthPath := by
  rcases h with rfl | rfl <;> decide

/-- A request is let through exactly when its body is short enough and its signature holds. -/
theorem rejection?_eq_none_iff {l : Line} {now : Int64} {r : Request} :
    rejection? l now r = none ↔
      r.body.length ≤ maxBodyLength ∧ l.verifier.verifyAt r.body r.headers now = .ok () := by
  rw [rejection?]
  by_cases hlong : maxBodyLength < r.body.length
  · rw [if_pos hlong]
    refine ⟨?_, fun h => absurd h.1 (Nat.not_le.2 hlong)⟩
    rintro ⟨⟩
  · rw [if_neg hlong]
    have hshort := Nat.not_lt.1 hlong
    cases hverdict : l.verifier.verifyAt r.body r.headers now with
    | ok _ => exact ⟨fun _ => ⟨hshort, rfl⟩, fun _ => rfl⟩
    | error e =>
      refine ⟨?_, ?_⟩
      · rintro ⟨⟩
      · rintro ⟨-, ⟨⟩⟩

/-! ## Requests that are turned away -/

/-- What becomes of a visit that is turned away behind others: no document, and a ledger with
nothing new but one count. -/
structure TurnsAway (l : Line) (visits : List Visit) (v : Visit) (status : HttpStatus)
    (reason : Rejection) : Prop where
  response : ∃ r, (v.answered l).1 = some r ∧ r.status = status ∧ r.body = "" ∧
    r.contentType = none
  ledger : Ledger.of (sessionEffects l (visits ++ [v])) =
    (Ledger.of (sessionEffects l visits)).counting (.rejected reason)

variable {l : Line} {v : Visit}

theorem turnsAway_of_rejection {reason : Rejection} (hpath : IsWebhookPath v.request.path)
    (hreason : rejection? l v.now v.request = some reason) (visits : List Visit) :
    TurnsAway l visits v (rejectionStatus reason) reason := by
  have hanswer : v.answered l =
      (some { Response.empty (rejectionStatus reason) with allow := allowed? v.request },
        [.counted (.rejected reason)]) := by
    rw [Visit.answered, answer, if_neg (ne_healthPath hpath), answerWebhook, hreason]
    rfl
  refine ⟨⟨_, by rw [hanswer], rfl, rfl, rfl⟩, ?_⟩
  rw [sessionEffects_append, sessionEffects_singleton, hanswer, Ledger.of_append_counted]

/-- A body beyond one mebibyte is turned away before its signature is looked at. -/
theorem turnsAway_of_tooLong (hpath : IsWebhookPath v.request.path)
    (hlong : 1048576 < v.request.body.length) (visits : List Visit) :
    TurnsAway l visits v 413 .bodyTooLarge := by
  show TurnsAway l visits v (rejectionStatus .bodyTooLarge) .bodyTooLarge
  refine turnsAway_of_rejection hpath ?_ visits
  rw [rejection?]
  exact if_pos hlong

/-- A signature that is refused turns a request away under the reason of the refusal. -/
theorem turnsAway_of_unverified {error : SignatureError} (hpath : IsWebhookPath v.request.path)
    (hshort : v.request.body.length ≤ 1048576)
    (herror : l.verifier.verifyAt v.request.body v.request.headers v.now = .error error)
    (visits : List Visit) : TurnsAway l visits v 401 (.unverified error) := by
  show TurnsAway l visits v (rejectionStatus (.unverified error)) (.unverified error)
  refine turnsAway_of_rejection hpath ?_ visits
  rw [rejection?, herror]
  exact if_neg (Nat.not_lt.2 hshort)

/-! ## Requests that are let through -/

/-- A posted request to a webhook that is short enough and whose signature holds. -/
structure Genuine (l : Line) (v : Visit) : Prop where
  isPost : v.request.method = "POST"
  isWebhook : IsWebhookPath v.request.path
  isShort : v.request.body.length ≤ 1048576
  isVerified : l.verifier.verifyAt v.request.body v.request.headers v.now = .ok ()

theorem genuine_of_verified (hpath : IsWebhookPath v.request.path)
    (hpost : v.request.method = "POST") (hverified : rejection? l v.now v.request = none) :
    Genuine l v :=
  ⟨hpost, hpath, (rejection?_eq_none_iff.1 hverified).1, (rejection?_eq_none_iff.1 hverified).2⟩

/-- A visit that is not genuine leaves no more behind than a count of its rejection. -/
theorem effects_of_not_genuine (h : ¬ Genuine l v) :
    (v.answered l).2 = [] ∨ ∃ reason, (v.answered l).2 = [.counted (.rejected reason)] := by
  rw [Visit.answered, answer]
  by_cases hhealth : v.request.path = healthPath
  · rw [if_pos hhealth]
    exact .inl rfl
  rw [if_neg hhealth, answerWebhook]
  cases hreason : rejection? l v.now v.request with
  | some reason => exact .inr ⟨reason, rfl⟩
  | none =>
    obtain ⟨hshort, hverified⟩ := rejection?_eq_none_iff.1 hreason
    refine .inl ?_
    show (answerVerified l v.host v.requestId v.request).2 = []
    rw [answerVerified]
    cases hroute : routeOf? v.request.path with
    | none => rfl
    | some route =>
      -- only a post gets to a handler
      have hmethod : v.request.method ≠ "POST" := fun hpost =>
        h ⟨hpost, isSome_routeOf?_iff.1 (by rw [hroute]; rfl), hshort, hverified⟩
      simp only [if_neg hmethod]

/-- A visit that does something is genuine. -/
theorem genuine_of_deed {e : Effect} (he : e ∈ (v.answered l).2) (hdeed : e.isDeed = true) :
    Genuine l v := by
  by_contra hgenuine
  rcases effects_of_not_genuine hgenuine with hnone | ⟨reason, hcounted⟩
  · rw [hnone] at he
    exact absurd he List.not_mem_nil
  · rw [hcounted] at he
    rw [List.mem_singleton.1 he] at hdeed
    cases hdeed

/-- What a session shows of its deeds is what a genuine visit shows. -/
theorem exists_genuine {α : Type} {view : Effect → Option α}
    (hview : ∀ {e entry}, view e = some entry → e.isDeed = true) {visits : List Visit} {entry : α}
    (hentry : entry ∈ (sessionEffects l visits).filterMap view) :
    ∃ v ∈ visits, Genuine l v ∧ entry ∈ (v.answered l).2.filterMap view := by
  obtain ⟨e, he, hentry⟩ := List.mem_filterMap.1 hentry
  obtain ⟨v, hv, he⟩ := mem_sessionEffects.1 he
  exact ⟨v, hv, genuine_of_deed he (hview hentry), List.mem_filterMap.2 ⟨e, he, hentry⟩⟩

/-! ## Sessions -/

/-- **The ledger behind the gate.** Whatever came before, a request to a webhook that is too long
or not verified changes nothing but its count, and each entry of a ledger is that of a genuine
visit. -/
theorem ledger_behind_gate (l : Line) (visits : List Visit) :
    (∀ v : Visit, IsWebhookPath v.request.path → 1048576 < v.request.body.length →
      TurnsAway l visits v 413 .bodyTooLarge) ∧
    (∀ (v : Visit) (error : SignatureError), IsWebhookPath v.request.path →
      v.request.body.length ≤ 1048576 →
      l.verifier.verifyAt v.request.body v.request.headers v.now = .error error →
      TurnsAway l visits v 401 (.unverified error)) ∧
    (∀ entry ∈ (Ledger.of (sessionEffects l visits)).actions,
      ∃ v ∈ visits, Genuine l v ∧ entry ∈ (Ledger.of (v.answered l).2).actions) ∧
    (∀ entry ∈ (Ledger.of (sessionEffects l visits)).statuses,
      ∃ v ∈ visits, Genuine l v ∧ entry ∈ (Ledger.of (v.answered l).2).statuses) ∧
    (∀ entry ∈ (Ledger.of (sessionEffects l visits)).replies,
      ∃ v ∈ visits, Genuine l v ∧ entry ∈ (Ledger.of (v.answered l).2).replies) ∧
    (∀ entry ∈ (Ledger.of (sessionEffects l visits)).lookups,
      ∃ v ∈ visits, Genuine l v ∧ entry ∈ (Ledger.of (v.answered l).2).lookups) := by
  refine ⟨?_, ?_, ?_, ?_, ?_, ?_⟩
  · intro v hpath hlong
    exact turnsAway_of_tooLong hpath hlong visits
  · intro v error hpath hshort herror
    exact turnsAway_of_unverified hpath hshort herror visits
  · intro entry hentry
    exact exists_genuine Effect.isDeed_of_action? hentry
  · intro entry hentry
    exact exists_genuine Effect.isDeed_of_status? hentry
  · intro entry hentry
    exact exists_genuine Effect.isDeed_of_reply? hentry
  · intro entry hentry
    exact exists_genuine Effect.isDeed_of_lookup? hentry

/-! ## A session -/

/-- A line with nothing set up but the key of a sender. -/
def keyedLine : Line where
  settings := .standard
  verifier.key :=
    (readKey "A6EHv/POEL4dcN0Y50vAmWfk1jCbpQ1fHdyGZBJVMbg=").toOption.get (by decide +kernel)
  verifier.tolerance := none

/-- Headers that carry a signature and a timestamp. -/
def signedWith (signature timestamp : String) : Headers :=
  [("X-Telnyx-Signature-Ed25519", Utf8.encode signature),
    ("X-Telnyx-Timestamp", Utf8.encode timestamp)]

/-- An alerting system that knows no alert and takes every write. -/
def writableHost : Host where
  findAlert alertId := .refused (.notFound alertId)
  recordAction _ := .done ()
  recordStatus _ := .done ()
  sendText _ _ := .ended (.refused .noNumber)

/-- A callback of a call about alert 42. -/
def callback (headers : Headers) (body : Bytes) : Visit where
  host := writableHost
  now := 1700000000
  requestId := "1"
  request := ⟨"POST", "/telnyx/voice", some "type=alert&alertID=42", headers, body⟩

/-- The key for acknowledging, pressed in a call and signed by the sender. -/
def keyPressed : Visit :=
  callback
    (signedWith
      "ZnQqpoFEou1NYBIFzLaxh/fZMTFC7OCF0CyqJ8m2FkBsUZOsCisSM/GqIJybd71F66kmEs30vbHMqFhCi3QKCQ=="
      "1700000000")
    (Utf8.encode "CallSid=CA42&CallStatus=in-progress&To=%2B15550000001&Digits=4")

/-- Behind an acknowledged alert a request without headers and one with a body that is one byte too
long change nothing, and the acknowledgement is that of a genuine visit. -/
theorem ledger_behind_gate_keyPressed :
    (Ledger.of (sessionEffects keyedLine [keyPressed])).actions =
        [(⟨.acknowledge, some 42, "+15550000001", .voice "CA42"⟩, true)] ∧
      TurnsAway keyedLine [keyPressed] (callback [] keyPressed.request.body) 401
        (.unverified .missingHeaders) ∧
      TurnsAway keyedLine [keyPressed]
        (callback keyPressed.request.headers (List.replicate 1048577 0)) 413 .bodyTooLarge ∧
      ∃ v ∈ [keyPressed], Genuine keyedLine v := by
  have hactions : (Ledger.of (sessionEffects keyedLine [keyPressed])).actions =
      [(⟨.acknowledge, some 42, "+15550000001", .voice "CA42"⟩, true)] := by decide +kernel
  obtain ⟨htooLong, hunverified, hgenuine, -, -, -⟩ := ledger_behind_gate keyedLine [keyPressed]
  refine ⟨hactions, hunverified _ _ (.inl rfl) (by decide +kernel) rfl,
    htooLong _ (.inl rfl) ?_, ?_⟩
  · show 1048576 < (List.replicate 1048577 0).length
    rw [List.length_replicate]
    decide
  · obtain ⟨v, hv, hv', -⟩ := hgenuine _ (hactions ▸ List.mem_singleton_self _)
    exact ⟨v, hv, hv'⟩

end AlertLine.Webhook
