import AlertLine.Proofs.Provider.Dispatch
import AlertLine.Proofs.Voice.Spoken
import AlertLine.Proofs.Webhook.Payload
import AlertLine.Proofs.Webhook.Speech
import AlertLine.Proofs.Webhook.Tally

/-!
# Counts tell the truth

Each visit counts what it should, besides its failed writes and what its sender counts
(`Webhook.exists_tallies`), and by induction a session counts what its visits count
(`Webhook.count_session`). What should be counted is read off the requests, the answers of the
alerting system and the documents that callers hear (`Webhook.counts_tell_the_truth`).
-/

namespace AlertLine.Webhook

/-! ## What a visit counts -/

section Visits

variable {l : Line} {v : Visit}

instance : Decidable (Genuine l v) :=
  decidable_of_iff
    (v.request.method = "POST" ∧ (routeOf? v.request.path).isSome = true ∧
      v.request.body.length ≤ 1048576 ∧
      l.verifier.verifyAt v.request.body v.request.headers v.now = .ok ())
    ⟨fun h => ⟨h.1, isSome_routeOf?_iff.1 h.2.1, h.2.2.1, h.2.2.2⟩,
      fun h => ⟨h.isPost, isSome_routeOf?_iff.2 h.isWebhook, h.isShort, h.isVerified⟩⟩

/-- A verified post to the webhook of calls. -/
def IsCallback (l : Line) (v : Visit) : Prop :=
  Genuine l v ∧ v.request.path = "/telnyx/voice"

/-- A verified post to the webhook of messages whose body can be read. -/
def IsEvent (l : Line) (v : Visit) : Prop :=
  Genuine l v ∧ v.request.path = "/telnyx/sms" ∧
    (Json.read (Envelope MessageEvent) v.request.body).isSome = true

instance : Decidable (IsCallback l v) := inferInstanceAs (Decidable (_ ∧ _))

instance : Decidable (IsEvent l v) := inferInstanceAs (Decidable (_ ∧ _))

/-- A verified post to the webhook of calls that is answered with the menu without details. -/
def IsAnsweredWithout (l : Line) (v : Visit) : Prop :=
  IsCallback l v ∧ ∃ r ∈ (v.answered l).1, CallMenu.fallbackText ∈ Markup.spoken r.body

/-- A verified post about a call that goes on and should tell a code, but has none. -/
def IsUncodedCallback (l : Line) (v : Visit) : Prop :=
  IsCallback l v ∧
    IsUncoded (.ofQuery (v.request.query.getD "")) (.ofForm v.request.body)

instance : Decidable (IsAnsweredWithout l v) := inferInstanceAs (Decidable (_ ∧ _))

instance : Decidable (IsUncodedCallback l v) := inferInstanceAs (Decidable (_ ∧ _))

/-- What a visit should count, besides failed writes and what its sender counts. -/
structure Tallies (l : Line) (v : Visit) (ms : List Metric) : Prop where
  callback : ms.count (.accepted .voice) = if IsCallback l v then 1 else 0
  event : ms.count (.accepted .sms) = if IsEvent l v then 1 else 0
  answeredWithout : ms.count (.lookupFailed .alert) = if IsAnsweredWithout l v then 1 else 0
  uncoded : ms.count (.lookupFailed .verification) = if IsUncodedCallback l v then 1 else 0
  writes : ∀ kind, ms.count (.writeFailed kind) = 0

/-- A visit to the one webhook is none to the other. -/
theorem IsCallback.not_isEvent (h : IsCallback l v) : ¬IsEvent l v := by
  rintro ⟨-, hsms, -⟩
  rw [h.2] at hsms
  revert hsms
  decide

/-- A callback is taken in, and it is counted where there was nothing to tell. -/
theorem exists_tallies_of_callback (h : IsCallback l v) :
    ∃ ms, v.host.Counts (v.answered l).2 ms ∧ Tallies l v ms := by
  have hanswered := answered_voice h.1 h.2
  rw [handleCall_eq, respondToCall_eq, Prod.map_apply, id_eq] at hanswered
  set c := CallContext.ofQuery (v.request.query.getD "")
  set e := CallEvent.ofForm v.request.body
  dsimp only at hanswered
  have hwithout : IsAnsweredWithout l v ↔
      (callMenu l.settings v.host c e).1.isUnavailable = true := by
    rw [IsAnsweredWithout, hanswered, CallMenu.isUnavailable_iff,
      ← @CallMenu.fallbackText_mem_spoken_iff l.settings]
    simp only [Option.mem_some_iff, exists_eq_left']
    exact and_iff_right h
  have huncoded : IsUncodedCallback l v ↔ IsUncoded c e := and_iff_right h
  -- the menu is told by the document, so the count of lookups agrees with what is heard
  refine ⟨.accepted .voice ::
    menuMetrics (callMenu l.settings v.host c e).1 (decide (IsUncoded c e)), ?_, ?_⟩
  · rw [hanswered]
    exact counts_callMenu.accepted _ .voice
  · constructor
    · simp [count_menuMetrics, h]
    · simp [count_menuMetrics, h.not_isEvent]
    · simp [count_menuMetrics, hwithout]
    · simp [count_menuMetrics, huncoded]
    · simp [count_menuMetrics]

/-- Whatever is no callback counts nothing of what a callback counts. -/
theorem tallies_of_not_callback {ms : List Metric} (h : ¬IsCallback l v)
    (hcallback : ms.count (.accepted .voice) = 0)
    (hevent : ms.count (.accepted .sms) = if IsEvent l v then 1 else 0)
    (hlookups : ∀ intent, ms.count (.lookupFailed intent) = 0)
    (hwrites : ∀ kind, ms.count (.writeFailed kind) = 0) : Tallies l v ms where
  callback := by rw [hcallback, if_neg h]
  event := hevent
  answeredWithout := by rw [hlookups, if_neg fun hwithout => h hwithout.1]
  uncoded := by rw [hlookups, if_neg fun huncoded => h huncoded.1]
  writes := hwrites

/-- A visit to the webhook of messages is taken in if its event can be read. -/
theorem exists_tallies_of_event (h : Genuine l v) (hpath : v.request.path = "/telnyx/sms") :
    ∃ ms, v.host.Counts (v.answered l).2 ms ∧ Tallies l v ms := by
  have hanswered := answered_sms h hpath
  have hcallback : ¬IsCallback l v := by
    rintro ⟨-, hvoice⟩
    rw [hpath] at hvoice
    revert hvoice
    decide
  rw [handleMessage] at hanswered
  cases hread : Json.read (Envelope MessageEvent) v.request.body with
  | none =>
    rw [hread] at hanswered
    have hevent : ¬IsEvent l v := by
      rintro ⟨-, -, hsome⟩
      rw [hread] at hsome
      cases hsome
    rw [hanswered]
    exact ⟨[], Host.counts_nil, tallies_of_not_callback hcallback rfl (by rw [if_neg hevent]; rfl)
      (fun _ => rfl) fun _ => rfl⟩
  | some envelope =>
    rw [hread] at hanswered
    have hevent : IsEvent l v := ⟨h, hpath, by rw [hread]; rfl⟩
    rw [hanswered]
    exact ⟨[.accepted .sms], (counts_handleEvent _).accepted _ .sms,
      tallies_of_not_callback hcallback rfl (by rw [if_pos hevent]; rfl) (fun _ => rfl)
        fun _ => rfl⟩

/-- A visit that is not genuine counts its rejection at most. -/
theorem exists_tallies_of_not_genuine (h : ¬Genuine l v) :
    ∃ ms, v.host.Counts (v.answered l).2 ms ∧ Tallies l v ms := by
  have hcallback : ¬IsCallback l v := fun hcallback => h hcallback.1
  have hevent : ¬IsEvent l v := fun hevent => h hevent.1
  rcases effects_of_not_genuine h with hnone | ⟨reason, hcounted⟩
  · rw [hnone]
    exact ⟨[], Host.counts_nil, tallies_of_not_callback hcallback rfl (by rw [if_neg hevent]; rfl)
      (fun _ => rfl) fun _ => rfl⟩
  · rw [hcounted]
    exact ⟨[.rejected reason], Host.counts_counted _, tallies_of_not_callback hcallback rfl
      (by rw [if_neg hevent]; rfl) (fun _ => rfl) fun _ => rfl⟩

/-- **What a visit counts**: what it should, its failed writes, and what its sender counts. -/
theorem exists_tallies (l : Line) (v : Visit) :
    ∃ ms, v.host.Counts (v.answered l).2 ms ∧ Tallies l v ms := by
  by_cases h : Genuine l v
  · rcases h.isWebhook with hpath | hpath
    · exact exists_tallies_of_callback ⟨h, hpath⟩
    · exact exists_tallies_of_event h hpath
  · exact exists_tallies_of_not_genuine h

end Visits

/-! ## What a session counts -/

/-- What the senders of a session count themselves. -/
def senderMetrics (l : Line) (visits : List Visit) : List Metric :=
  visits.flatMap fun v => v.host.senderMetrics (Ledger.of (v.answered l).2)

/-- How many writes of a session failed, by the metric that counts them. -/
def failures (l : Line) (visits : List Visit) (m : Metric) : ℕ :=
  (visits.map fun v => v.host.failures (Ledger.of (v.answered l).2) m).sum

variable {l : Line}

theorem senderMetrics_cons (v : Visit) (visits : List Visit) :
    senderMetrics l (v :: visits) =
      v.host.senderMetrics (Ledger.of (v.answered l).2) ++ senderMetrics l visits := rfl

theorem failures_cons (v : Visit) (visits : List Visit) (m : Metric) :
    failures l (v :: visits) m =
      v.host.failures (Ledger.of (v.answered l).2) m + failures l visits m := by
  rw [failures, List.map_cons, List.sum_cons]
  rfl

/-- **A session counts what its visits count.** -/
theorem count_session {m : Metric} {p : Visit → Prop} [DecidablePred p]
    (hstep : ∀ v, ∃ ms, v.host.Counts (v.answered l).2 ms ∧ ms.count m = if p v then 1 else 0)
    (visits : List Visit) :
    (Ledger.of (sessionEffects l visits)).count m =
      visits.countP p + failures l visits m + (senderMetrics l visits).count m := by
  induction visits with
  | nil => rfl
  | cons v visits ih =>
    obtain ⟨ms, hcounts, hms⟩ := hstep v
    -- the first visit counts what it should, and the others by induction
    have hvisit := hcounts m
    rw [hms] at hvisit
    rw [← List.singleton_append, sessionEffects_append, sessionEffects_singleton,
      Ledger.count_append, hvisit, ih, List.singleton_append, List.countP_cons, failures_cons,
      senderMetrics_cons, List.count_append]
    simp only [decide_eq_true_eq]
    omega

theorem failures_eq_zero {m : Metric} (hm : ∀ kind, m ≠ .writeFailed kind) (visits : List Visit) :
    failures l visits m = 0 := by
  induction visits with
  | nil => rfl
  | cons v visits ih =>
    rw [failures_cons, ih, Host.failures.eq_def]
    split
    · exact absurd rfl (hm .action)
    · exact absurd rfl (hm .status)
    · rfl

/-- A count that is made once for certain visits. -/
theorem count_session_of_visits {m : Metric} {p : Visit → Prop} [DecidablePred p]
    (hm : ∀ kind, m ≠ .writeFailed kind)
    (htally : ∀ v ms, Tallies l v ms → ms.count m = if p v then 1 else 0) (visits : List Visit) :
    (Ledger.of (sessionEffects l visits)).count m =
      visits.countP p + (senderMetrics l visits).count m := by
  have hstep (v : Visit) :
      ∃ ms, v.host.Counts (v.answered l).2 ms ∧ ms.count m = if p v then 1 else 0 := by
    obtain ⟨ms, hcounts, htallies⟩ := exists_tallies l v
    exact ⟨ms, hcounts, htally v ms htallies⟩
  rw [count_session hstep, failures_eq_zero hm, Nat.add_zero]

/-- A count that is made once for each failed write. -/
theorem count_session_of_writes (kind : WriteKind) (visits : List Visit) :
    (Ledger.of (sessionEffects l visits)).count (.writeFailed kind) =
      failures l visits (.writeFailed kind) +
        (senderMetrics l visits).count (.writeFailed kind) := by
  have hstep (v : Visit) : ∃ ms, v.host.Counts (v.answered l).2 ms ∧
      ms.count (.writeFailed kind) = if False then 1 else 0 := by
    obtain ⟨ms, hcounts, htallies⟩ := exists_tallies l v
    exact ⟨ms, hcounts, htallies.writes kind⟩
  have hnone : visits.countP (fun _ => decide False) = 0 :=
    List.countP_eq_zero.2 fun _ _ => by decide
  rw [count_session hstep, hnone, Nat.zero_add]

/-! ## Senders -/

/-- Whether a sender counts nothing but its requests to the provider. -/
def CountsRequestsOnly (h : Host) : Prop :=
  ∀ destination text, ∀ m ∈ (h.sendText destination text).metrics, m.isRequest = true

theorem count_senderMetrics_eq_zero {visits : List Visit}
    (hsenders : ∀ v ∈ visits, CountsRequestsOnly v.host) {m : Metric} (hm : m.isRequest = false) :
    (senderMetrics l visits).count m = 0 := by
  rw [List.count_eq_zero]
  intro hmem
  obtain ⟨v, hv, hmem⟩ := List.mem_flatMap.1 hmem
  obtain ⟨reply, -, hmem⟩ := List.mem_flatMap.1 hmem
  rw [hsenders v hv _ _ m hmem] at hm
  cases hm

/-- **Counts tell the truth.** Over every session the callbacks and events that are counted are the
verified posts to the two webhooks, of messages only those that can be read; lookups are counted as
failed as often as a caller hears that details are missing, and as often as a call that goes on has
no code to tell; and writes are counted as failed as often as one was refused or not answered in
time. A sender may count under these names too, if it likes; one that counts nothing but its
requests does not, and the line's own is one of these. It makes no difference whether someone
refuses or stays silent: requests have the same effects and counts, and are answered alike as long
as the senders come back from the same texts. This goes for the provider behind the line's own
sender too, but for what is counted of its requests; that sender always comes back. -/
theorem counts_tell_the_truth (l : Line) (visits : List Visit) :
    (Ledger.of (sessionEffects l visits)).count (.accepted .voice) =
        visits.countP (fun v => IsCallback l v) +
          (senderMetrics l visits).count (.accepted .voice) ∧
    (Ledger.of (sessionEffects l visits)).count (.accepted .sms) =
        visits.countP (fun v => IsEvent l v) +
          (senderMetrics l visits).count (.accepted .sms) ∧
    (Ledger.of (sessionEffects l visits)).count (.lookupFailed .alert) =
        visits.countP (fun v => IsAnsweredWithout l v) +
          (senderMetrics l visits).count (.lookupFailed .alert) ∧
    (Ledger.of (sessionEffects l visits)).count (.lookupFailed .verification) =
        visits.countP (fun v => IsUncodedCallback l v) +
          (senderMetrics l visits).count (.lookupFailed .verification) ∧
    (Ledger.of (sessionEffects l visits)).count (.writeFailed .action) =
        (visits.map fun v => (Ledger.of (v.answered l).2).actions.countP fun entry =>
          (v.host.recordAction entry.1).fails).sum +
          (senderMetrics l visits).count (.writeFailed .action) ∧
    (Ledger.of (sessionEffects l visits)).count (.writeFailed .status) =
        (visits.map fun v => (Ledger.of (v.answered l).2).statuses.countP fun entry =>
          (v.host.recordStatus entry.1).fails).sum +
          (senderMetrics l visits).count (.writeFailed .status) ∧
    ((∀ v ∈ visits, CountsRequestsOnly v.host) → ∀ m : Metric, m.isRequest = false →
      (senderMetrics l visits).count m = 0) ∧
    (∀ (p : Provider) (s : Settings) (destination text : String),
      ∀ m ∈ (p.sendText s destination text).metrics, m.isRequest = true) ∧
    (∀ sees (h h' : Host), Host.FailsAlike sees h h' → ∀ now requestId r,
      SeenAlike sees (h.ComesBackAlike h') (answer l h now requestId r)
        (answer l h' now requestId r)) ∧
    (∀ (h : Host) (s : Settings) (p p' : Provider),
      (h.withProvider p s).ComesBackAlike (h.withProvider p' s) ∧
      ((∀ r, (p.answer r).fails = true) → (∀ r, (p'.answer r).fails = true) →
        Host.FailsAlike (fun m => !m.isRequest) (h.withProvider p s) (h.withProvider p' s))) := by
  refine ⟨?_, ?_, ?_, ?_, count_session_of_writes .action visits,
    count_session_of_writes .status visits, fun hsenders m => count_senderMetrics_eq_zero hsenders,
    fun p s destination text m => p.isRequest_of_mem_sendText s,
    fun sees h h' halike => answer_congr_of_failsAlike halike l,
    fun h s p p' => ⟨Host.comesBackAlike_withProvider h s p p',
      Host.failsAlike_withProvider h s⟩⟩
  · exact count_session_of_visits (p := IsCallback l) (fun _ h => by cases h)
      (fun v ms htallies => htallies.callback) visits
  · exact count_session_of_visits (p := IsEvent l) (fun _ h => by cases h)
      (fun v ms htallies => htallies.event) visits
  · exact count_session_of_visits (p := IsAnsweredWithout l) (fun _ h => by cases h)
      (fun v ms htallies => htallies.answeredWithout) visits
  · exact count_session_of_visits (p := IsUncodedCallback l) (fun _ h => by cases h)
      (fun v ms htallies => htallies.uncoded) visits

/-! ## A session with failures -/

/-- An alerting system that refuses every action. -/
def refusingHost : Host := { writableHost with recordAction := fun _ => .refused ⟨"full"⟩ }

/-- A provider from which nothing comes back. -/
def silentProvider : Provider := .replying HttpRequest.unanswered

/-- A provider that is not available. -/
def refusingProvider : Provider := .replying fun _ => .whole 503 []

/-- The key for acknowledging, which nobody takes in time. -/
def keyUntaken : Visit := { keyPressed with host := silentHost }

/-- The same post as a callback of a call that should tell a code. -/
def codeMissing : Visit :=
  { keyPressed with request := { keyPressed.request with query := some "type=verify" } }

theorem isCallback_keyUntaken : IsCallback keyedLine keyUntaken :=
  ⟨⟨rfl, .inl rfl, by decide +kernel, by decide +kernel⟩, rfl⟩

/-- The query is no part of what is signed. -/
theorem isCallback_codeMissing : IsCallback keyedLine codeMissing :=
  ⟨⟨rfl, .inl rfl, isCallback_keyUntaken.1.isShort, isCallback_keyUntaken.1.isVerified⟩, rfl⟩

theorem isEvent_textReceived (h : Host) : IsEvent keyedLine (textReceived h) := by
  have hread : (Json.read (Envelope MessageEvent) textRequest.body).isSome = true := by
    decide +kernel
  exact ⟨genuine_of_verified (.inr rfl) rfl rejection?_textRequest, rfl, hread⟩

/-- Two callbacks are counted, the one for an action that was not taken and the other for a code
that was not there, and a text, although its sender never comes back. A refusal would have been
answered as silence was, and so would be texts that no provider takes on. -/
theorem counts_tell_the_truth_keyUntaken :
    let visits := [keyUntaken, codeMissing, textReceived stalledSender]
    (Ledger.of (sessionEffects keyedLine visits)).count (.accepted .voice) = 2 ∧
      (Ledger.of (sessionEffects keyedLine visits)).count (.accepted .sms) = 1 ∧
      (Ledger.of (sessionEffects keyedLine visits)).count (.lookupFailed .verification) = 1 ∧
      (Ledger.of (sessionEffects keyedLine visits)).count (.writeFailed .action) = 1 ∧
      keyUntaken.answered keyedLine =
        ({ keyUntaken with host := refusingHost } : Visit).answered keyedLine ∧
      Host.FailsAlike (fun m => !m.isRequest) (writableHost.withProvider silentProvider .standard)
        (writableHost.withProvider refusingProvider .standard) := by
  intro visits
  obtain ⟨hcallbacks, hevents, -, huncoded, hactions, -, hsenders, -, halike, hproviders⟩ :=
    counts_tell_the_truth keyedLine visits
  have hzero (m : Metric) (hm : m.isRequest = false) :
      (senderMetrics keyedLine visits).count m = 0 := by
    refine hsenders (fun v hv => ?_) m hm
    have hhost : v.host = silentHost ∨ v.host = writableHost ∨ v.host = stalledSender := by
      simp only [visits, List.mem_cons, List.not_mem_nil, or_false] at hv
      rcases hv with rfl | rfl | rfl
      · exact .inl rfl
      · exact .inr (.inl rfl)
      · exact .inr (.inr rfl)
    rcases hhost with hhost | hhost | hhost <;> rw [hhost] <;> exact fun _ _ _ => nofun
  have hevent := isEvent_textReceived stalledSender
  have hcoded : ¬IsUncodedCallback keyedLine keyUntaken := fun h => absurd h.2 (by decide +kernel)
  have hmissing : IsUncodedCallback keyedLine codeMissing :=
    ⟨isCallback_codeMissing, by decide +kernel⟩
  have htext : ¬IsCallback keyedLine (textReceived stalledSender) :=
    fun h => h.not_isEvent hevent
  have huncodedText : ¬IsUncodedCallback keyedLine (textReceived stalledSender) :=
    fun h => htext h.1
  refine ⟨?_, ?_, ?_, ?_, ?_, (hproviders _ _ _ _).2 (fun _ => rfl) fun _ => rfl⟩
  · rw [hcallbacks, hzero _ rfl]
    simp [visits, isCallback_keyUntaken, isCallback_codeMissing, htext]
  · rw [hevents, hzero _ rfl]
    simp [visits, isCallback_keyUntaken.not_isEvent, isCallback_codeMissing.not_isEvent, hevent]
  · rw [huncoded, hzero _ rfl]
    simp [visits, hcoded, hmissing, huncodedText]
  · rw [hactions, hzero _ rfl]
    simp only [visits, List.map_cons, List.map_nil]
    rw [answered_voice isCallback_keyUntaken.1 rfl, answered_voice isCallback_codeMissing.1 rfl,
      answered_sms hevent.1 rfl]
    decide +kernel
  · have hrefused : Host.FailsAlike (fun _ => true) silentHost refusingHost :=
      ⟨fun _ => rfl, fun _ => rfl, fun _ => rfl, fun _ _ => rfl, fun _ _ => rfl⟩
    exact (halike _ _ _ hrefused _ _ _).eq fun _ _ => rfl

/-- **A sender that stalls is not answered for like one that fails.** With a sender that comes back
with an error the text is acknowledged; with one that never comes back there is no response. -/
theorem stalled_sender_unanswered :
    Host.FailsAlike (fun _ => true) writableHost stalledSender ∧
      IsEvent keyedLine (textReceived writableHost) ∧
      ((textReceived writableHost).answered keyedLine).1 = some (.acknowledgement (some "1")) ∧
      IsEvent keyedLine (textReceived stalledSender) ∧
      ((textReceived stalledSender).answered keyedLine).1 = none := by
  have halike : Host.FailsAlike (fun _ => true) writableHost stalledSender :=
    ⟨fun _ => rfl, fun _ => rfl, fun _ => rfl, fun _ _ => rfl, fun _ _ => rfl⟩
  have hevent (h : Host) := isEvent_textReceived h
  refine ⟨halike, hevent _, ?fails, hevent _, ?stalls⟩
  case fails =>
    rw [answered_sms (hevent _).1 rfl]
    decide +kernel
  case stalls =>
    rw [answered_sms (hevent _).1 rfl]
    decide +kernel

end AlertLine.Webhook
