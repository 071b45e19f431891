import AlertLine.Proofs.Voice.Documents
import AlertLine.Proofs.Webhook.Alike
import AlertLine.Proofs.Webhook.Messages
import AlertLine.Proofs.Webhook.Payload

/-!
# Nothing is remembered between webhooks

The alerting system may remember what was done (`Backend`), and a session is then a run through the
states of its memory. That memory is all that a later request sees of an earlier one
(`Webhook.Backend.session_append`). As long as the alerting system answers alike in all states of it
(`Backend.IsSteady`), each request is answered as it would be alone
(`Webhook.Backend.session_eq_map`), because an answer depends on the answers that are given and on
nothing else (`Webhook.answer_congr`). A request that comes again is answered as before, but for its
id, unless it comes too late (`Webhook.answers_again`, `Webhook.rejection?_again`). A verified post
to a webhook is answered with a document, however the alerting system answers; only a confirmation
whose sender never comes back leaves it without (`Webhook.sessions_keep_nothing`). That this, the
clock and a memory make a difference is shown by `Webhook.unsteady_sessions`.
-/

namespace AlertLine

/-! ## Like answers -/

/-- Two alerting systems answer alike. A text may get another receipt, if it goes out in both, is
counted alike and keeps waiting in both or in neither. -/
structure Host.AnswersAlike (h h' : Host) : Prop where
  findAlert : ∀ alertId, h.findAlert alertId = h'.findAlert alertId
  recordAction : ∀ a, h.recordAction a = h'.recordAction a
  recordStatus : ∀ u, h.recordStatus u = h'.recordStatus u
  goesOut : ∀ destination text,
    (h.sendText destination text).succeeded = (h'.sendText destination text).succeeded
  metrics : ∀ destination text,
    (h.sendText destination text).metrics = (h'.sendText destination text).metrics
  comesBack : h.ComesBackAlike h'

theorem Host.AnswersAlike.failsAlike {h h' : Host} (halike : h.AnswersAlike h') :
    FailsAlike (fun _ => true) h h' where
  findAlert alertId := by rw [halike.findAlert]
  recordAction a := by rw [halike.recordAction]
  recordStatus u := by rw [halike.recordStatus]
  goesOut := halike.goesOut
  metrics destination text := by rw [halike.metrics]

namespace Webhook

/-- **An answer depends on nothing but the answers of the alerting system.** -/
theorem answer_congr {h h' : Host} (halike : h.AnswersAlike h') (l : Line) (now : Int64)
    (requestId : String) (r : Request) : answer l h now requestId r = answer l h' now requestId r :=
  (answer_congr_of_failsAlike halike.failsAlike l now requestId r).eq halike.comesBack

/-! ## Sessions with a memory -/

/-- An alerting system with a memory: how it answers, and what it remembers of what is done. -/
structure Backend (σ : Type) where
  /-- How it answers at a state of its memory. -/
  host : σ → Host
  /-- Its memory behind what was done. -/
  after : σ → List Effect → σ

/-- An alerting system answers alike at all states of its memory. -/
def Backend.IsSteady {σ : Type} (b : Backend σ) : Prop :=
  ∀ memory memory', (b.host memory).AnswersAlike (b.host memory')

/-- A request as it arrives, with the clock and the id that it is given. -/
structure Arrival where
  /-- The clock, in seconds. -/
  now : Int64
  /-- The id of the request. -/
  requestId : String
  /-- The request. -/
  request : Request

namespace Backend

variable {σ : Type}

/-- The visits that arrivals make, each at the memory that those before it have left. -/
def visits (b : Backend σ) (l : Line) : σ → List Arrival → List Visit
  | _, [] => []
  | memory, a :: arrivals =>
    let v : Visit := ⟨b.host memory, a.now, a.requestId, a.request⟩
    v :: b.visits l (b.after memory (v.answered l).2) arrivals

/-- The session of arrivals, from a state of the memory on. -/
def session (b : Backend σ) (l : Line) (memory : σ) (arrivals : List Arrival) :
    List (Option Response × List Effect) :=
  Webhook.session l (b.visits l memory arrivals)

/-- The effects of a session in their order. -/
def effects (b : Backend σ) (l : Line) (memory : σ) (arrivals : List Arrival) : List Effect :=
  sessionEffects l (b.visits l memory arrivals)

/-- What the alerting system remembers behind a session. -/
def memoryAfter (b : Backend σ) (l : Line) (memory : σ) (arrivals : List Arrival) : σ :=
  arrivals.foldl (fun memory a =>
    b.after memory (answer l (b.host memory) a.now a.requestId a.request).2) memory

variable {b : Backend σ}

theorem visits_append (l : Line) (memory : σ) (arrivals later : List Arrival) :
    b.visits l memory (arrivals ++ later) =
      b.visits l memory arrivals ++ b.visits l (b.memoryAfter l memory arrivals) later := by
  induction arrivals generalizing memory with
  | nil => rfl
  | cons a arrivals ih =>
    have hrest := ih (b.after memory (answer l (b.host memory) a.now a.requestId a.request).2)
    exact congrArg (List.cons _) hrest

/-- **A session goes on from what the alerting system remembers**, and from nothing else. -/
theorem session_append (l : Line) (memory : σ) (arrivals later : List Arrival) :
    b.session l memory (arrivals ++ later) =
      b.session l memory arrivals ++ b.session l (b.memoryAfter l memory arrivals) later := by
  rw [session, visits_append, Webhook.session, List.map_append]
  rfl

theorem effects_append (l : Line) (memory : σ) (arrivals later : List Arrival) :
    b.effects l memory (arrivals ++ later) =
      b.effects l memory arrivals ++ b.effects l (b.memoryAfter l memory arrivals) later := by
  rw [effects, visits_append, sessionEffects_append]
  rfl

/-- **Each arrival is answered as it would be alone**, whatever came before it. -/
theorem session_eq_map (hsteady : b.IsSteady) (l : Line) (memory fresh : σ)
    (arrivals : List Arrival) :
    b.session l memory arrivals =
      arrivals.map fun a => answer l (b.host fresh) a.now a.requestId a.request := by
  induction arrivals generalizing memory with
  | nil => rfl
  | cons a arrivals ih =>
    have hrest := ih (b.after memory (answer l (b.host memory) a.now a.requestId a.request).2)
    rw [List.map_cons, ← hrest, ← answer_congr (hsteady memory fresh)]
    rfl

theorem effects_eq_flatMap (hsteady : b.IsSteady) (l : Line) (memory fresh : σ)
    (arrivals : List Arrival) :
    b.effects l memory arrivals =
      arrivals.flatMap fun a => (answer l (b.host fresh) a.now a.requestId a.request).2 := by
  have hsession := session_eq_map hsteady l memory fresh arrivals
  show (b.session l memory arrivals).flatMap Prod.snd = _
  rw [hsession, List.flatMap_map]

/-- So the effects of two sessions are those that each has from scratch. -/
theorem effects_append_of_isSteady (hsteady : b.IsSteady) (l : Line) (memory fresh fresh' : σ)
    (arrivals later : List Arrival) :
    b.effects l memory (arrivals ++ later) =
      b.effects l fresh arrivals ++ b.effects l fresh' later := by
  rw [effects_eq_flatMap hsteady l memory memory, effects_eq_flatMap hsteady l fresh memory,
    effects_eq_flatMap hsteady l fresh' memory, List.flatMap_append]

/-- In another order arrivals are answered the same in that order. -/
theorem perm_session (hsteady : b.IsSteady) (l : Line) (memory fresh : σ)
    {arrivals reordered : List Arrival} (hperm : arrivals.Perm reordered) :
    (b.session l memory arrivals).Perm (b.session l fresh reordered) := by
  rw [session_eq_map hsteady l memory memory, session_eq_map hsteady l fresh memory]
  exact hperm.map _

theorem perm_effects (hsteady : b.IsSteady) (l : Line) (memory fresh : σ)
    {arrivals reordered : List Arrival} (hperm : arrivals.Perm reordered) :
    (b.effects l memory arrivals).Perm (b.effects l fresh reordered) :=
  (perm_session hsteady l memory fresh hperm).flatMap_right _

end Backend

/-! ## Requests that come again -/

/-- Two answers tell and leave behind the same, but for the ids in two acknowledgements. -/
def SameButId (path requestId requestId' : String) (once again : Option Response × List Effect) :
    Prop :=
  Ledger.of once.2 = Ledger.of again.2 ∧
    (once.1 = again.1 ∨ path = "/telnyx/sms" ∧
      once.1 = some (.acknowledgement (some requestId)) ∧
      again.1 = some (.acknowledgement (some requestId')))

theorem SameButId.refl (path requestId requestId' : String)
    (once : Option Response × List Effect) : SameButId path requestId requestId' once once :=
  ⟨rfl, .inl rfl⟩

/-- Only acknowledgements have an id. -/
theorem SameButId.response_voice {path requestId requestId' : String}
    {once again : Option Response × List Effect}
    (h : SameButId path requestId requestId' once again) (hpath : path = "/telnyx/voice") :
    once.1 = again.1 := by
  rcases h.2 with hsame | ⟨hsms, -⟩
  · exact hsame
  · rw [hpath] at hsms
    exact absurd hsms (by decide)

theorem ledger_handleMessage (h : Host) (requestId requestId' : String) (body : Bytes) :
    Ledger.of (handleMessage h requestId body).2 =
      Ledger.of (handleMessage h requestId' body).2 := by
  unfold handleMessage
  cases Json.read (Envelope MessageEvent) body with
  | none => rfl
  | some envelope => exact (Ledger.of_traced _ _).trans (Ledger.of_traced _ _).symm

/-- An event is acknowledged if the sender comes back from the reply to it. -/
theorem response_handleMessage (h : Host) (requestId : String) (body : Bytes) :
    (handleMessage h requestId body).1 =
      if h.comesBack (Ledger.of (handleMessage h requestId body).2) then
        some (.acknowledgement (some requestId))
      else none := by
  unfold handleMessage
  cases Json.read (Envelope MessageEvent) body with
  | none => rfl
  | some envelope =>
    have hends := (outcome_handleEvent h envelope.data).ends_eq
    -- what is noted in front of the work is no reply
    have hreplies (es : List Effect) :
        (Ledger.of es).replies =
          (Ledger.of (.traced (eventSpan requestId envelope.data) ::
            .counted (.accepted .sms) :: es)).replies := rfl
    simp only [Handling.answering, Handling.ends_after, hends]
    rw [h.comesBack_of_replies (hreplies _)]
    rfl

/-- The same event is acknowledged again, if it was before. -/
theorem sameButId_handleMessage (h : Host) (requestId requestId' : String) (body : Bytes) :
    SameButId "/telnyx/sms" requestId requestId' (handleMessage h requestId body)
      (handleMessage h requestId' body) := by
  have hledger := ledger_handleMessage h requestId requestId' body
  refine ⟨hledger, ?_⟩
  rw [response_handleMessage, response_handleMessage, hledger]
  split
  · exact .inr ⟨rfl, rfl, rfl⟩
  · exact .inl rfl

theorem allowed?_of_post {r : Request} (hpost : r.method = "POST") : allowed? r = none := by
  rw [allowed?, hpost]
  exact if_neg (by simp)

theorem path_of_sms {path : String} (hroute : routeOf? path = some .sms) :
    path = "/telnyx/sms" := by
  rw [routeOf?.eq_def] at hroute
  split at hroute
  · cases hroute
  · rfl
  · cases hroute

/-- An acknowledgement tells no methods. -/
theorem SameButId.withoutMethods {path requestId requestId' : String}
    {once again : Option Response × List Effect}
    (h : SameButId path requestId requestId' once again) :
    SameButId path requestId requestId'
      (once.1.map fun response => { response with allow := none }, once.2)
      (again.1.map fun response => { response with allow := none }, again.2) := by
  obtain ⟨hledger, hsame | ⟨hpath, honce, hagain⟩⟩ := h
  · exact ⟨hledger, .inl (by rw [hsame])⟩
  · exact ⟨hledger, .inr ⟨hpath, by rw [honce]; rfl, by rw [hagain]; rfl⟩⟩

/-- **A request that comes again is answered as before**, if the verdict on it is the same. -/
theorem answers_again {l : Line} {r : Request} {now now' : Int64}
    (hverdict : rejection? l now r = rejection? l now' r) (h : Host)
    (requestId requestId' : String) :
    SameButId r.path requestId requestId' (answer l h now requestId r)
      (answer l h now' requestId' r) := by
  unfold answer
  by_cases hhealth : r.path = healthPath
  · simp only [hhealth, if_true]
    exact .refl ..
  simp only [hhealth, if_false]
  unfold answerWebhook
  rw [← hverdict]
  cases rejection? l now r with
  | some reason => exact .refl ..
  | none =>
    unfold answerVerified
    cases hroute : routeOf? r.path with
    | none => exact .refl ..
    | some route =>
      by_cases hpost : r.method = "POST"
      · simp only [hpost, if_true, allowed?_of_post hpost]
        cases route with
        | voice =>
          simp only [handleCall_eq]
          exact ⟨(Ledger.of_traced _ _).trans (Ledger.of_traced _ _).symm, .inl rfl⟩
        | sms =>
          rw [path_of_sms hroute]
          exact (sameButId_handleMessage h requestId requestId' r.body).withoutMethods
      · simp only [hpost, if_false]
        exact .refl ..

/-- The verdict is one on the body and the headers. -/
theorem rejection?_congr {r r' : Request} (hbody : r.body = r'.body)
    (hheaders : r.headers = r'.headers) (l : Line) (now : Int64) :
    rejection? l now r = rejection? l now r' := by
  simp only [rejection?, hbody, hheaders]

/-- Without a tolerance the clock has no part in the verdict. -/
theorem rejection?_of_no_tolerance {l : Line} (hclock : l.verifier.tolerance = none)
    (now now' : Int64) (r : Request) : rejection? l now r = rejection? l now' r := by
  simp only [rejection?, Verifier.verifyAt, hclock, checkTime]

/-- What is not in time is stale. -/
theorem checkTime_cases (tolerance : Option UInt64) (timestamp : Bytes) (now : Int64) :
    checkTime tolerance timestamp now = .ok () ∨
      checkTime tolerance timestamp now = .error .stale := by
  rw [checkTime.eq_def]
  cases tolerance with
  | none => exact .inl rfl
  | some seconds =>
    cases timeOf? timestamp with
    | none => exact .inr rfl
    | some sent =>
      dsimp only
      split
      · exact .inr rfl
      · exact .inl rfl

/-- **A request that was verified is verified again, or comes too late.** -/
theorem rejection?_again {l : Line} {r : Request} {now : Int64}
    (hverified : rejection? l now r = none) (now' : Int64) :
    rejection? l now' r = none ∨ rejection? l now' r = some (.unverified .stale) := by
  obtain ⟨hshort, hverified⟩ := rejection?_eq_none_iff.1 hverified
  obtain ⟨⟨signature, timestamp⟩, hheaders, -⟩ := bind_eq_ok.1 hverified
  have hverdict := verifyAt_of_payload_eq hheaders hheaders rfl hverified now'
  rw [rejection?, if_neg (Nat.not_lt.2 hshort), hverdict]
  rcases checkTime_cases l.verifier.tolerance timestamp now' with htime | htime
  · rw [htime]
    exact .inl rfl
  · rw [htime]
    exact .inr rfl

/-! ## Verified posts -/

/-- Every menu ends with the end of the call. -/
theorem prompt_ends (keys : MenuKeys) (menu : CallMenu) :
    ∃ front, menu.prompt keys = ⟨front ++ [.hangup]⟩ := by
  rcases menu.kinds with hkeys | rfl | hfarewell
  · obtain ⟨children, hprompt⟩ := CallMenu.prompt_of_takesKeys keys hkeys
    exact ⟨[.gather 1 CallMenu.keyTimeoutSeconds children, .say "Goodbye."], hprompt⟩
  · exact ⟨[], rfl⟩
  · obtain ⟨text, htext⟩ := CallMenu.exists_farewell hfarewell
    exact ⟨[.say text], CallMenu.prompt_of_farewell htext⟩

theorem render_ne_empty (speaker : Speaker) (p : Prompt) : p.render speaker ≠ "" := by
  intro hempty
  have hchars := congrArg String.toList hempty
  rw [Prompt.render, String.toList_ofList, List.append_assoc] at hchars
  exact absurd (List.append_eq_nil_iff.1 hchars).1 (by decide)

theorem print_ne_empty (entries : List (String × Json)) : (Json.obj entries).print ≠ "" := by
  intro hempty
  have hchars := congrArg String.toList hempty
  rw [Json.print, String.toList_ofList, Json.obj, Json.chars] at hchars
  exact absurd hchars (List.cons_ne_nil _ _)

/-- The handler of calls answers with a document of which the last instruction ends the call. -/
theorem response_handleCall (s : Settings) (h : Host) (requestId query : String) (body : Bytes) :
    ∃ front, (handleCall s h requestId query body).1 =
      ⟨200, some "application/xml", none,
        (⟨front ++ [.hangup]⟩ : Prompt).render ⟨s.voiceName, s.voiceLanguage⟩⟩ := by
  obtain ⟨front, hends⟩ :=
    prompt_ends s.keys (callMenu s h (.ofQuery query) (.ofForm body)).1
  refine ⟨front, ?_⟩
  rw [handleCall_eq, respondToCall_eq, CallMenu.render, hends]
  rfl

section Verified

variable {l : Line} {v : Visit}

/-- **A verified post to the webhook of calls is answered with a document** that ends the call. -/
theorem document_of_verified (hpath : v.request.path = "/telnyx/voice")
    (hpost : v.request.method = "POST") (hverified : rejection? l v.now v.request = none) :
    ∃ r front, (v.answered l).1 = some r ∧ r.body ≠ "" ∧
      r = ⟨200, some "application/xml", none,
        (⟨front ++ [.hangup]⟩ : Prompt).render
          ⟨l.settings.voiceName, l.settings.voiceLanguage⟩⟩ := by
  obtain ⟨front, hresponse⟩ := response_handleCall l.settings v.host v.requestId
    (v.request.query.getD "") v.request.body
  rw [answered_voice (genuine_of_verified (.inl hpath) hpost hverified) hpath, Prod.map_fst,
    hresponse]
  exact ⟨_, front, rfl, render_ne_empty _ _, rfl⟩

/-- **One to the webhook of messages is acknowledged**, if the sender comes back from its reply. -/
theorem acknowledgement_of_verified (hpath : v.request.path = "/telnyx/sms")
    (hpost : v.request.method = "POST") (hverified : rejection? l v.now v.request = none) :
    ∃ r, (v.answered l).1 =
          (if v.host.comesBack (Ledger.of (v.answered l).2) then some r else none) ∧
        r.body ≠ "" ∧
        r = ⟨200, some "application/json", none,
          (Json.obj [("ok", .bool true), ("request_id", .ofString v.requestId)]).print⟩ := by
  refine ⟨.acknowledgement (some v.requestId), ?_, print_ne_empty _, rfl⟩
  rw [answered_sms (genuine_of_verified (.inr hpath) hpost hverified) hpath]
  exact response_handleMessage v.host v.requestId v.request.body

end Verified

/-! ## Sessions -/

/-- **Nothing is remembered between webhooks.** All that a session knows of an earlier one is what
the alerting system remembers. If this answers alike whatever it remembers, the effects of one
session behind another are those of the two from scratch, each arrival is answered as it would be
alone, and arrivals in another order are answered the same in that order. A request on which the
verdict is the same is answered the same whenever it comes, but for the id in an acknowledgement;
the verdict on a verified request can only become that it is stale, and without a tolerance it
stays. And however the alerting system answers, a verified post to the webhook of calls is answered
with a document that ends the call, and one to the webhook of messages is acknowledged, if the
sender comes back from its reply. -/
theorem sessions_keep_nothing {σ : Type} (l : Line) (b : Backend σ) :
    (∀ memory arrivals later,
      b.session l memory (arrivals ++ later) =
          b.session l memory arrivals ++ b.session l (b.memoryAfter l memory arrivals) later ∧
        b.effects l memory (arrivals ++ later) =
          b.effects l memory arrivals ++ b.effects l (b.memoryAfter l memory arrivals) later) ∧
    (b.IsSteady →
      (∀ memory fresh fresh' arrivals later,
        b.effects l memory (arrivals ++ later) =
          b.effects l fresh arrivals ++ b.effects l fresh' later) ∧
      (∀ memory fresh arrivals,
        b.session l memory arrivals = arrivals.flatMap fun a => b.session l fresh [a]) ∧
      (∀ memory fresh arrivals reordered, arrivals.Perm reordered →
        (b.session l memory arrivals).Perm (b.session l fresh reordered) ∧
          (b.effects l memory arrivals).Perm (b.effects l fresh reordered)) ∧
      ∀ r now now', rejection? l now r = rejection? l now' r →
        ∀ memory memory' requestId requestId',
          let once := answer l (b.host memory) now requestId r
          let again := answer l (b.host memory') now' requestId' r
          SameButId r.path requestId requestId' once again ∧
            (r.path = "/telnyx/voice" → once.1 = again.1)) ∧
    (∀ r now now', (l.verifier.tolerance = none → rejection? l now r = rejection? l now' r) ∧
      (rejection? l now r = none →
        rejection? l now' r = none ∨ rejection? l now' r = some (.unverified .stale))) ∧
    (∀ v : Visit, v.request.method = "POST" → rejection? l v.now v.request = none →
      (v.request.path = "/telnyx/voice" → ∃ r front, (v.answered l).1 = some r ∧ r.body ≠ "" ∧
        r = ⟨200, some "application/xml", none,
          (⟨front ++ [.hangup]⟩ : Prompt).render
            ⟨l.settings.voiceName, l.settings.voiceLanguage⟩⟩) ∧
      (v.request.path = "/telnyx/sms" → ∃ r,
        (v.answered l).1 =
            (if v.host.comesBack (Ledger.of (v.answered l).2) then some r else none) ∧
          r.body ≠ "" ∧
          r = ⟨200, some "application/json", none,
            (Json.obj [("ok", .bool true), ("request_id", .ofString v.requestId)]).print⟩)) := by
  refine ⟨?visits, ?steady, ?verdict, ?verified⟩
  case visits =>
    intro memory arrivals later
    exact ⟨Backend.session_append l memory arrivals later,
      Backend.effects_append l memory arrivals later⟩
  case steady =>
    intro hsteady
    refine ⟨?effects, ?alone, ?reordered, ?again⟩
    case effects =>
      intro memory fresh fresh' arrivals later
      exact Backend.effects_append_of_isSteady hsteady l memory fresh fresh' arrivals later
    case alone =>
      intro memory fresh arrivals
      rw [Backend.session_eq_map hsteady l memory fresh]
      exact List.map_eq_flatMap
    case reordered =>
      intro memory fresh arrivals reordered hperm
      exact ⟨Backend.perm_session hsteady l memory fresh hperm,
        Backend.perm_effects hsteady l memory fresh hperm⟩
    case again =>
      intro r now now' hverdict memory memory' requestId requestId'
      rw [answer_congr (hsteady memory memory')]
      have hagain := answers_again hverdict (b.host memory') requestId requestId'
      exact ⟨hagain, fun hpath => hagain.response_voice hpath⟩
  case verdict =>
    intro r now now'
    exact ⟨fun hnone => rejection?_of_no_tolerance hnone now now' r,
      fun hverified => rejection?_again hverified now'⟩
  case verified =>
    intro v hpost hverified
    exact ⟨fun hpath => document_of_verified hpath hpost hverified,
      fun hpath => acknowledgement_of_verified hpath hpost hverified⟩

/-! ## An alerting system that remembers everything -/

/-- An alerting system that remembers every effect and numbers its receipts by them. -/
def recorder : Backend (List Effect) where
  host memory :=
    { writableHost with
      sendText := fun destination _ =>
        .ended (.settled (.ok ⟨Nat.repr memory.length, .sending, destination⟩)) }
  after memory es := memory ++ es

/-- The key for acknowledging, as it arrives. -/
def keyArrival : Arrival := ⟨keyPressed.now, keyPressed.requestId, keyPressed.request⟩

theorem rejection?_keyPressed : rejection? keyedLine keyPressed.now keyPressed.request = none := by
  decide +kernel

/-- A key that is pressed twice is answered twice as it is once, and under another id the same. A
text is acknowledged when its sender has come back. -/
theorem sessions_keep_nothing_recorder :
    recorder.IsSteady ∧
      recorder.session keyedLine [] [keyArrival, keyArrival] =
        recorder.session keyedLine [] [keyArrival] ++
          recorder.session keyedLine [] [keyArrival] ∧
      (∀ memory, (answer keyedLine (recorder.host memory) 0 "2" keyPressed.request).1 =
        (answer keyedLine (recorder.host []) 1700000000 "1" keyPressed.request).1) ∧
      rejection? keyedLine keyPressed.now keyPressed.request = none ∧
      (∃ r, (keyPressed.answered keyedLine).1 = some r ∧ r.body ≠ "") ∧
      ∃ r, ((textReceived writableHost).answered keyedLine).1 = some r ∧ r.body ≠ "" := by
  have hsteady : recorder.IsSteady := by
    intro memory memory'
    exact ⟨fun _ => rfl, fun _ => rfl, fun _ => rfl, fun _ _ => rfl, fun _ _ => rfl, fun _ _ => rfl⟩
  obtain ⟨-, hsessions, hverdict, hanswered⟩ := sessions_keep_nothing keyedLine recorder
  obtain ⟨-, halone, -, hagain⟩ := hsessions hsteady
  refine ⟨hsteady, halone [] [] [keyArrival, keyArrival], ?_, rejection?_keyPressed, ?_, ?_⟩
  · intro memory
    have hsame := (hverdict keyPressed.request 0 1700000000).1 rfl
    exact (hagain keyPressed.request 0 1700000000 hsame memory [] "2" "1").2 rfl
  · obtain ⟨r, -, hr, hbody, -⟩ := (hanswered keyPressed rfl rejection?_keyPressed).1 rfl
    exact ⟨r, hr, hbody⟩
  · obtain ⟨r, hr, hbody, -⟩ := (hanswered (textReceived writableHost) rfl
      rejection?_textRequest).2 rfl
    have hcomesBack (ledger : Ledger) :
        (textReceived writableHost).host.comesBack ledger = true :=
      writableHost.comesBack_of_ends (fun _ _ => rfl) ledger
    rw [if_pos (hcomesBack _)] at hr
    exact ⟨r, hr, hbody⟩

/-! ## Sessions that keep something -/

/-- An alerting system that takes no action once something was done. -/
def takesFirst : Backend (List Effect) where
  host memory :=
    { writableHost with
      recordAction := fun _ => if memory.isEmpty then .done () else .refused ⟨"full"⟩ }
  after memory es := memory ++ es

/-- The line with a key, for webhooks that are at most five minutes old. -/
def timedLine : Line :=
  { keyedLine with verifier := { keyedLine.verifier with tolerance := some 300 } }

/-- The same request, posted somewhere else. -/
def Visit.elsewhere (v : Visit) : Visit :=
  { v with request := { v.request with path := "/telnyx/other" } }

theorem rejection?_elsewhere (l : Line) (v : Visit) :
    rejection? l v.elsewhere.now v.elsewhere.request = rejection? l v.now v.request :=
  rejection?_congr rfl rfl l v.now

/-- **What sessions do keep.** A verified text is not acknowledged while its sender does not come
back. A key that is pressed twice is not taken twice by an alerting system that takes the first one
only, and a verified callback that comes again too late is turned away. A verified post to no
webhook gets no document. -/
theorem unsteady_sessions :
    (rejection? keyedLine (textReceived stalledSender).now (textReceived stalledSender).request =
        none ∧
      ((textReceived stalledSender).answered keyedLine).1 = none) ∧
    takesFirst.effects keyedLine [] ([keyArrival] ++ [keyArrival]) ≠
      takesFirst.effects keyedLine [] [keyArrival] ++
        takesFirst.effects keyedLine [] [keyArrival] ∧
    (rejection? timedLine 1700000000 keyPressed.request = none ∧
      (answer timedLine writableHost 1700000000 "1" keyPressed.request).1 ≠
        (answer timedLine writableHost 1700000301 "1" keyPressed.request).1) ∧
    (rejection? keyedLine keyPressed.elsewhere.now keyPressed.elsewhere.request = none ∧
      (keyPressed.elsewhere.answered keyedLine).1 = some (.empty 404)) := by
  have hgenuine : Genuine keyedLine (textReceived stalledSender) :=
    genuine_of_verified (.inr rfl) rfl rejection?_textRequest
  have helsewhere := (rejection?_elsewhere keyedLine keyPressed).trans rejection?_keyPressed
  refine ⟨⟨rejection?_textRequest, ?stalled⟩, by decide +kernel, ⟨by decide +kernel,
    by decide +kernel⟩, helsewhere, ?elsewhere⟩
  case stalled =>
    rw [answered_sms hgenuine rfl]
    decide +kernel
  case elsewhere =>
    rw [Visit.answered, answer, answerWebhook, helsewhere]
    rfl

end Webhook
end AlertLine
