import AlertLine.Proofs.Attempt
import AlertLine.Proofs.Webhook.Calls
import AlertLine.Proofs.Webhook.Gate

/-!
# What a signature holds for

The timestamp and the body are signed as one text, the body right behind the timestamp. Such a text
tells the two apart only up to the place where the timestamp ends: two requests with the same text
differ by bytes that moved from the front of the one body to the end of the other timestamp, and by
nothing else (`signedPayload_eq_iff`). A signature that holds for the one holds for the other, and
only the clock can still refuse it (`verifyAt_of_payload_eq`). What a handler is given is the body
behind the timestamp that was verified (`answered_of_genuine`). `payload_binding` brings these
together, and `boundary_moves` shows a request that is taken for another one in this way.
-/

namespace AlertLine.Webhook

/-! ## Timestamp and body as one text -/

/-- The front of the first body stands at the end of the second timestamp instead. -/
def IsMoved (timestamp₁ body₁ timestamp₂ body₂ : Bytes) : Prop :=
  ∃ moved, timestamp₂ = timestamp₁ ++ moved ∧ body₁ = moved ++ body₂

variable {t₁ t₂ b₁ b₂ : Bytes}

theorem signedPayload_eq_iff :
    signedPayload t₁ b₁ = signedPayload t₂ b₂ ↔ IsMoved t₁ b₁ t₂ b₂ ∨ IsMoved t₂ b₂ t₁ b₁ :=
  List.append_eq_append_iff

/-- Where the timestamps, or the bodies, are equally long, the text tells both. -/
theorem eq_of_signedPayload_eq (h : signedPayload t₁ b₁ = signedPayload t₂ b₂)
    (hlength : t₁.length = t₂.length ∨ b₁.length = b₂.length) : t₁ = t₂ ∧ b₁ = b₂ := by
  rcases hlength with ht | hb
  · exact List.append_inj h ht
  · exact List.append_inj' h hb

/-! ## Verification -/

/-- The signature is checked against the text as a whole. -/
theorem checkSignature_congr (h : signedPayload t₁ b₁ = signedPayload t₂ b₂)
    (key : Ed25519.PublicKey) (signature : Bytes) :
    checkSignature key signature t₁ b₁ = checkSignature key signature t₂ b₂ := by
  rw [checkSignature, checkSignature, h]

theorem verifyAt_eq {hs : Headers} {signature timestamp : Bytes}
    (h : signedHeaders hs = .ok (signature, timestamp)) (v : Verifier) (body : Bytes)
    (now : Int64) :
    v.verifyAt body hs now =
      (checkSignature v.key signature timestamp body >>= fun _ =>
        checkTime v.tolerance timestamp now) := by
  rw [Verifier.verifyAt, h]
  rfl

/-- Once a request is verified, only the clock can refuse one with the same signature and text. -/
theorem verifyAt_of_payload_eq {hs₁ hs₂ : Headers} {signature : Bytes}
    (h₁ : signedHeaders hs₁ = .ok (signature, t₁)) (h₂ : signedHeaders hs₂ = .ok (signature, t₂))
    (h : signedPayload t₁ b₁ = signedPayload t₂ b₂) {v : Verifier} {now₁ : Int64}
    (hverified : v.verifyAt b₁ hs₁ now₁ = .ok ()) (now₂ : Int64) :
    v.verifyAt b₂ hs₂ now₂ = checkTime v.tolerance t₂ now₂ := by
  rw [verifyAt_eq h₁] at hverified
  obtain ⟨u, hcheck, -⟩ := bind_eq_ok.1 hverified
  rw [verifyAt_eq h₂, ← checkSignature_congr h, hcheck]
  rfl

/-! ## What the handlers are given -/

/-- What the handler of a webhook makes of a visit with the given body. -/
def handled (l : Line) (v : Visit) (route : Route) (body : Bytes) :
    Option Response × List Effect :=
  match route with
  | .voice =>
    (handleCall l.settings v.host v.requestId (v.request.query.getD "") body).map some id
  | .sms => handleMessage v.host v.requestId body

/-- Neither handler tells which methods are served. -/
theorem allow_handled {l : Line} {v : Visit} {route : Route} {body : Bytes} {r : Response}
    (h : (handled l v route body).1 = some r) : r.allow = none := by
  cases route with
  | voice =>
    simp only [handled, handleCall_eq, Prod.map_apply, Option.some.injEq] at h
    rw [← h]
    rfl
  | sms =>
    rw [handled, handleMessage] at h
    cases hread : Json.read (Envelope MessageEvent) body with
    | none =>
      rw [hread] at h
      rw [← Option.some.inj h]
      rfl
    | some envelope =>
      rw [hread] at h
      obtain ⟨-, hr⟩ := Option.ite_none_right_eq_some.1 h
      rw [← Option.some.inj hr]
      rfl

/-- A genuine visit is answered by the handler of its webhook, and the body that the handler is
given is the one that was verified. -/
theorem answered_of_genuine {l : Line} {v : Visit} (h : Genuine l v) :
    ∃ route signature timestamp, routeOf? v.request.path = some route ∧
      signedHeaders v.request.headers = .ok (signature, timestamp) ∧
      checkSignature l.verifier.key signature timestamp v.request.body = .ok () ∧
      v.answered l = handled l v route v.request.body := by
  obtain ⟨route, hroute⟩ := Option.isSome_iff_exists.1 (isSome_routeOf?_iff.2 h.isWebhook)
  obtain ⟨⟨signature, timestamp⟩, hheaders, hcheck⟩ := bind_eq_ok.1 h.isVerified
  obtain ⟨u, hcheck, -⟩ := bind_eq_ok.1 hcheck
  refine ⟨route, signature, timestamp, hroute, hheaders, hcheck, ?_⟩
  have hreason : rejection? l v.now v.request = none :=
    rejection?_eq_none_iff.2 ⟨h.isShort, h.isVerified⟩
  have hallowed : allowed? v.request = none := by
    rw [allowed?, h.isPost]
    exact if_neg (by simp)
  have hhandled : answerVerified l v.host v.requestId v.request =
      handled l v route v.request.body := by
    rw [answerVerified, hroute]
    exact if_pos h.isPost
  rw [Visit.answered, answer, if_neg (ne_healthPath h.isWebhook), answerWebhook, hreason, hallowed]
  show ((answerVerified l v.host v.requestId v.request).1.map fun response =>
    { response with allow := none }, (answerVerified l v.host v.requestId v.request).2) = _
  rw [hhandled]
  refine Prod.ext ?_ rfl
  -- no methods are told behind a post, and the handler tells none either
  refine (Option.map_congr fun r hr => ?_).trans Option.map_id'
  rw [← allow_handled hr]

/-- A genuine visit to the webhook of calls is handed to their handler. -/
theorem answered_voice {l : Line} {v : Visit} (h : Genuine l v)
    (hpath : v.request.path = "/telnyx/voice") :
    v.answered l = (handleCall l.settings v.host v.requestId (v.request.query.getD "")
      v.request.body).map some id := by
  obtain ⟨route, -, -, hroute, -, -, hanswered⟩ := answered_of_genuine h
  rw [hpath] at hroute
  cases hroute
  exact hanswered

/-- A genuine visit to the webhook of messages is handed to their handler. -/
theorem answered_sms {l : Line} {v : Visit} (h : Genuine l v)
    (hpath : v.request.path = "/telnyx/sms") :
    v.answered l = handleMessage v.host v.requestId v.request.body := by
  obtain ⟨route, -, -, hroute, -, -, hanswered⟩ := answered_of_genuine h
  rw [hpath] at hroute
  cases hroute
  exact hanswered

/-! ## Two requests -/

/-- **What a signature binds.** For two requests that carry a signature and a timestamp, the texts
that are verified are the same exactly if bytes moved between the front of a body and the end of a
timestamp; with timestamps or bodies of one length nothing can have moved. A signature that is
verified for the one is refused for the other by the clock only. And what a handler acts on is the
body that was verified behind the timestamp. -/
theorem payload_binding {hs₁ hs₂ : Headers} {s₁ s₂ t₁ t₂ : Bytes}
    (h₁ : signedHeaders hs₁ = .ok (s₁, t₁)) (h₂ : signedHeaders hs₂ = .ok (s₂, t₂))
    (b₁ b₂ : Bytes) :
    (signedPayload t₁ b₁ = signedPayload t₂ b₂ ↔ IsMoved t₁ b₁ t₂ b₂ ∨ IsMoved t₂ b₂ t₁ b₁) ∧
    (signedPayload t₁ b₁ = signedPayload t₂ b₂ →
      t₁.length = t₂.length ∨ b₁.length = b₂.length → t₁ = t₂ ∧ b₁ = b₂) ∧
    (signedPayload t₁ b₁ = signedPayload t₂ b₂ → s₁ = s₂ →
      ∀ (v : Verifier) (now₁ now₂ : Int64), v.verifyAt b₁ hs₁ now₁ = .ok () →
        v.verifyAt b₂ hs₂ now₂ = checkTime v.tolerance t₂ now₂) ∧
    (∀ (l : Line) (v : Visit), v.request.headers = hs₁ → Genuine l v →
      checkSignature l.verifier.key s₁ t₁ v.request.body = .ok () ∧
      ∃ route, routeOf? v.request.path = some route ∧
        v.answered l = handled l v route v.request.body) := by
  refine ⟨signedPayload_eq_iff, eq_of_signedPayload_eq, ?_, ?_⟩
  · rintro h rfl v now₁ now₂ hverified
    exact verifyAt_of_payload_eq h₁ h₂ h hverified now₂
  · rintro l v rfl hgenuine
    obtain ⟨route, s, t, hroute, hheaders, hcheck, hanswered⟩ := answered_of_genuine hgenuine
    cases hheaders.symm.trans h₁
    exact ⟨hcheck, route, hroute, hanswered⟩

/-! ## A boundary that moves -/

/-- The signature under the report that call `CA42` has ended. -/
def reportSignature : String :=
  "abqPaqqbt4GBAFPJ6+UnDcmptTx4tVz5rzgWfvSd4kJXQO99tRf/f/DYEpSeNIMA/rhUJxqUF+faL9dpLQoYDw=="

/-- The report that a call has ended; the keys that were pressed in it no longer count. -/
def callReported : Visit :=
  callback (signedWith reportSignature "1700000000")
    (Utf8.encode "CallStatus=completed&CallSid=CA42&To=%2B15550000001&Digits=4")

/-- The same report with the status moved from the front of the body behind the timestamp. -/
def statusMoved : Visit :=
  callback (signedWith reportSignature "1700000000CallStatus=completed&")
    (Utf8.encode "CallSid=CA42&To=%2B15550000001&Digits=4")

theorem genuine_callReported : Genuine keyedLine callReported :=
  ⟨rfl, .inl rfl, by decide +kernel, by decide +kernel⟩

theorem signedHeaders_callReported :
    signedHeaders callReported.request.headers =
      .ok (Utf8.encode reportSignature, Utf8.encode "1700000000") := by
  decide +kernel

theorem signedHeaders_statusMoved :
    signedHeaders statusMoved.request.headers =
      .ok (Utf8.encode reportSignature, Utf8.encode "1700000000CallStatus=completed&") := by
  decide +kernel

/-- What is signed does not tell the two requests apart. -/
theorem signedPayload_statusMoved :
    signedPayload (Utf8.encode "1700000000") callReported.request.body =
      signedPayload (Utf8.encode "1700000000CallStatus=completed&") statusMoved.request.body := by
  decide +kernel

/-- **The boundary is not bound.** One signature holds for two requests with other timestamps and
other bodies; the first reports that a call has ended and writes no action, the second acknowledges
an alert. -/
theorem boundary_moves :
    signedHeaders callReported.request.headers =
        .ok (Utf8.encode reportSignature, Utf8.encode "1700000000") ∧
      signedHeaders statusMoved.request.headers =
        .ok (Utf8.encode reportSignature, Utf8.encode "1700000000CallStatus=completed&") ∧
      signedPayload (Utf8.encode "1700000000") callReported.request.body =
        signedPayload (Utf8.encode "1700000000CallStatus=completed&") statusMoved.request.body ∧
      Utf8.encode "1700000000" ≠ Utf8.encode "1700000000CallStatus=completed&" ∧
      callReported.request.body ≠ statusMoved.request.body ∧
      (Ledger.of (callReported.answered keyedLine).2).actions = [] ∧
      (Ledger.of (statusMoved.answered keyedLine).2).actions =
        [(⟨.acknowledge, some 42, "+15550000001", .voice "CA42"⟩, true)] :=
  ⟨signedHeaders_callReported, signedHeaders_statusMoved, signedPayload_statusMoved,
    by decide +kernel, by decide +kernel, by decide +kernel, by decide +kernel⟩

/-- The two requests differ by the status that moved, and the verdict on the first is that on the
second. -/
theorem payload_binding_callReported :
    IsMoved (Utf8.encode "1700000000") callReported.request.body
        (Utf8.encode "1700000000CallStatus=completed&") statusMoved.request.body ∧
      keyedLine.verifier.verifyAt statusMoved.request.body statusMoved.request.headers 1700000000 =
        .ok () ∧
      ∃ route, callReported.answered keyedLine =
        handled keyedLine callReported route callReported.request.body := by
  obtain ⟨hiff, -, hverdict, hhandled⟩ :=
    payload_binding signedHeaders_callReported signedHeaders_statusMoved
      callReported.request.body statusMoved.request.body
  refine ⟨?_, ?_, ?_⟩
  · rcases hiff.1 signedPayload_statusMoved with hmoved | ⟨moved, htimestamp, -⟩
    · exact hmoved
    · -- the first timestamp is the shorter one
      have hlength := congrArg List.length htimestamp
      rw [List.length_append] at hlength
      have hshort : (Utf8.encode "1700000000").length <
          (Utf8.encode "1700000000CallStatus=completed&").length := by decide
      omega
  · exact hverdict signedPayload_statusMoved rfl _ _ _ genuine_callReported.isVerified
  · obtain ⟨-, route, -, hanswered⟩ := hhandled keyedLine callReported rfl genuine_callReported
    exact ⟨route, hanswered⟩

end AlertLine.Webhook
