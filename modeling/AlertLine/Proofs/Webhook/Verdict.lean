import AlertLine.Proofs.Encoding.Base64
import AlertLine.Proofs.Text.Decimal
import AlertLine.Proofs.Webhook.Gate

/-!
# What the verifier decides

The checks of a verifier come in a fixed order, and which of its five answers it gives can be told
from the webhook alone: from the headers that are there, from their values and from the clock.
`Verdict` says so without the checks, and `Verdict.verifyAt_eq_iff` is the agreement of both;
`Webhook.verifier_decides` adds what follows for a key that is given as a text and for another
tolerance.

Each check has a lemma that says what passes it: `Webhook.isSigned_iff` for the headers,
`Webhook.readSignature_eq_ok_iff` for the signature and `Webhook.timeOf?_eq_some_iff` for the
timestamp, whose distance from the clock is taken without a wrap-around (`Webhook.toNat_distance`).
-/

namespace AlertLine

/-! ## Headers -/

namespace Headers

/-- No field has a name. -/
def Lacks (hs : Headers) (name : String) : Prop :=
  ∀ h ∈ hs, Text.asciiLower h.1 ≠ Text.asciiLower name

/-- A value is that of the first field with a name. -/
def IsFirst (hs : Headers) (name : String) (value : Bytes) : Prop :=
  ∃ front field back, hs = front ++ (field, value) :: back ∧
    Text.asciiLower field = Text.asciiLower name ∧ Lacks front name

variable {hs : Headers} {name : String} {value : Bytes}

theorem first?_eq_none_iff : hs.first? name = none ↔ hs.Lacks name := by
  rw [first?, Option.map_eq_none_iff, List.find?_eq_none, Lacks]
  simp only [beq_iff_eq, ne_eq]

theorem first?_eq_some_iff : hs.first? name = some value ↔ hs.IsFirst name value := by
  rw [first?, Option.map_eq_some_iff, IsFirst]
  simp only [List.find?_eq_some_iff_append, beq_iff_eq, Bool.not_eq_true', beq_eq_false_iff_ne]
  constructor
  · rintro ⟨⟨field, _⟩, ⟨hname, front, back, rfl, hfront⟩, rfl⟩
    exact ⟨front, field, back, rfl, hname, hfront⟩
  · rintro ⟨front, field, back, rfl, hname, hfront⟩
    exact ⟨(field, value), ⟨hname, front, back, rfl, hfront⟩, rfl⟩

/-- A value is carried under one of two names: it is not empty, and it is that of the first field
with the long name or, where no field has that, with the short one. -/
def IsCarried (hs : Headers) (long short : String) (value : Bytes) : Prop :=
  value ≠ [] ∧ (hs.IsFirst long value ∨ hs.Lacks long ∧ hs.IsFirst short value)

/-- A webhook comes with a signature and with a timestamp. -/
def IsSigned (hs : Headers) (signature timestamp : Bytes) : Prop :=
  hs.IsCarried "x-telnyx-signature-ed25519" "telnyx-signature-ed25519" signature ∧
    hs.IsCarried "x-telnyx-timestamp" "telnyx-timestamp" timestamp

end Headers

namespace Webhook

theorem headerValue?_eq_some_iff {hs : Headers} {names : String × String} {value : Bytes} :
    headerValue? hs names = some value ↔ hs.IsCarried names.1 names.2 value := by
  rw [headerValue?, Option.filter_eq_some_iff, Option.or_eq_some_iff, Headers.first?_eq_some_iff,
    Headers.first?_eq_none_iff, Headers.first?_eq_some_iff, and_comm, Bool.not_eq_true',
    List.isEmpty_eq_false_iff, Headers.IsCarried]

theorem isSigned_iff {hs : Headers} {signature timestamp : Bytes} :
    hs.IsSigned signature timestamp ↔
      headerValue? hs signatureNames = some signature ∧
        headerValue? hs timestampNames = some timestamp := by
  rw [headerValue?_eq_some_iff, headerValue?_eq_some_iff]
  rfl

theorem signedHeaders_of_isSigned {hs : Headers} {signature timestamp : Bytes}
    (h : hs.IsSigned signature timestamp) : signedHeaders hs = .ok (signature, timestamp) := by
  obtain ⟨hsignature, htimestamp⟩ := isSigned_iff.1 h
  rw [signedHeaders, hsignature, htimestamp]

theorem signedHeaders_of_not_isSigned {hs : Headers} (h : ¬ ∃ s t, hs.IsSigned s t) :
    signedHeaders hs = .error .missingHeaders := by
  rw [signedHeaders]
  split
  · next signature timestamp hsignature htimestamp =>
    exact absurd ⟨signature, timestamp, isSigned_iff.2 ⟨hsignature, htimestamp⟩⟩ h
  · rfl

/-! ## Signatures -/

theorem readSignature_eq_ok_iff {value : Bytes} {signature : Ed25519.Signature} :
    readSignature value = .ok signature ↔ value = Base64.encode signature.bytes := by
  rw [readSignature, ← Base64.decode_eq_some_iff]
  cases hdecoded : Base64.decode value with
  | none => exact iff_of_false nofun nofun
  | some bs =>
    rw [Option.bind_some, Ed25519.Signature.ofBytes?]
    constructor
    · split_ifs
      · rintro ⟨⟩
        rfl
      · rintro ⟨⟩
    · rintro ⟨⟩
      rw [dif_pos signature.length_eq]

/-- A signature is refused for one reason only. -/
theorem readSignature_of_not_coded {value : Bytes}
    (h : ∀ signature : Ed25519.Signature, value ≠ Base64.encode signature.bytes) :
    readSignature value = .error .badEncoding := by
  cases hread : readSignature value with
  | ok signature => exact absurd (readSignature_eq_ok_iff.1 hread) (h signature)
  | error e =>
    rw [readSignature] at hread
    split at hread <;> cases hread
    rfl

/-! ## Timestamps -/

/-- A timestamp tells a time: between blanks, a decimal numeral of it. -/
def Tells (timestamp : Bytes) (time : ℤ) : Prop :=
  ∃ front numeral back, timestamp = Utf8.encode (.ofList (front ++ numeral ++ back)) ∧
    (∀ c ∈ front, Text.isBlank c = true) ∧ (∀ c ∈ back, Text.isBlank c = true) ∧
    Decimal.IsNumeral time numeral

/-- The times that are read off timestamps are the ones that they tell. -/
theorem timeOf?_eq_some_iff {timestamp : Bytes} {sent : Int64} :
    timeOf? timestamp = some sent ↔ Tells timestamp sent.toInt := by
  rw [timeOf?, Option.bind_eq_some_iff]
  constructor
  · rintro ⟨text, htext, hsent⟩
    obtain ⟨front, back, hfront, hback, hcs⟩ := Text.exists_trimChars text.toList
    have hnumeral := Decimal.readInt64_eq_ok_iff.1 (toOption_eq_some.1 hsent)
    rw [Text.trim, String.toList_ofList] at hnumeral
    refine ⟨front, _, back, ?_, hfront, hback, hnumeral⟩
    rw [← hcs, String.ofList_toList]
    exact Utf8.decode?_eq_some_iff.1 htext
  · rintro ⟨front, numeral, back, rfl, hfront, hback, hnumeral⟩
    refine ⟨_, Utf8.decode?_encode _, toOption_eq_some.2 ?_⟩
    rw [Decimal.readInt64_eq_ok_iff, Text.trim, String.toList_ofList, String.toList_ofList,
      Text.trimChars_append hfront hnumeral.not_isBlank hback]
    exact hnumeral

theorem timeOf?_eq_none_iff {timestamp : Bytes} :
    timeOf? timestamp = none ↔ ¬ ∃ sent : Int64, Tells timestamp sent.toInt := by
  simp only [Option.eq_none_iff_forall_ne_some, ne_eq, timeOf?_eq_some_iff, not_exists]

theorem toInt_eq_ite (a : Int64) :
    a.toInt = if a.toUInt64.toNat < 2 ^ 63 then (a.toUInt64.toNat : ℤ)
      else a.toUInt64.toNat - 2 ^ 64 := by
  have hword : a.toBitVec.toNat = a.toUInt64.toNat := rfl
  show a.toBitVec.toInt = _
  rw [BitVec.toInt_eq_toNat_cond, hword]
  split_ifs <;> omega

/-- The distance of two times is taken in words without a wrap-around. -/
theorem toNat_distance (a b : Int64) : (distance a b).toNat = (a.toInt - b.toInt).natAbs := by
  have ha := toInt_eq_ite a
  have hb := toInt_eq_ite b
  have hwordA := a.toUInt64.toNat_lt
  have hwordB := b.toUInt64.toNat_lt
  rw [distance]
  by_cases hearlier : a < b
  · rw [if_pos hearlier, UInt64.toNat_sub]
    rw [Int64.lt_iff_toInt_lt] at hearlier
    split_ifs at ha hb <;> omega
  · rw [if_neg hearlier, UInt64.toNat_sub]
    rw [Int64.lt_iff_toInt_lt] at hearlier
    split_ifs at ha hb <;> omega

/-- The ends of the range lie as far apart as a word can say. -/
example : distance Int64.minValue Int64.maxValue = 18446744073709551615 := by decide

/-- A timestamp is refused by a clock: there is a tolerance, and either no time of 64 bits is told
or one that is farther from the clock than the tolerance. -/
def IsStale (tolerance : Option UInt64) (timestamp : Bytes) (now : Int64) : Prop :=
  ∃ seconds ∈ tolerance, (¬ ∃ sent : Int64, Tells timestamp sent.toInt) ∨
    ∃ sent : Int64, Tells timestamp sent.toInt ∧
      seconds.toNat < (now.toInt - sent.toInt).natAbs

section Clock

variable {tolerance : Option UInt64} {timestamp : Bytes} {now : Int64}

theorem lt_distance_iff {seconds : UInt64} {sent : Int64} :
    seconds < distance now sent ↔ seconds.toNat < (now.toInt - sent.toInt).natAbs := by
  rw [UInt64.lt_iff_toNat_lt, toNat_distance]

theorem checkTime_of_isStale (h : IsStale tolerance timestamp now) :
    checkTime tolerance timestamp now = .error .stale := by
  obtain ⟨seconds, ⟨⟩, hnone | ⟨sent, htells, hfar⟩⟩ := h
  · rw [checkTime, timeOf?_eq_none_iff.2 hnone]
  · rw [checkTime, timeOf?_eq_some_iff.2 htells]
    exact if_pos (lt_distance_iff.2 hfar)

theorem checkTime_of_not_isStale (h : ¬ IsStale tolerance timestamp now) :
    checkTime tolerance timestamp now = .ok () := by
  cases tolerance with
  | none => rfl
  | some seconds =>
    cases hsent : timeOf? timestamp with
    | none => exact absurd ⟨seconds, rfl, .inl (timeOf?_eq_none_iff.1 hsent)⟩ h
    | some sent =>
      have hnear : ¬ seconds < distance now sent := fun hlt =>
        h ⟨seconds, rfl, .inr ⟨sent, timeOf?_eq_some_iff.1 hsent, lt_distance_iff.1 hlt⟩⟩
      rw [checkTime, hsent]
      exact if_neg hnear

end Clock

end Webhook

/-! ## The decision -/

open Webhook

/-- What a verifier has to answer, told from the headers, their values and the clock. Of each
answer but the last there is a condition that is looked at only where those before it fail. -/
inductive Verdict (v : Verifier) (body : Bytes) (hs : Headers) (now : Int64) :
    Except SignatureError Unit → Prop
  /-- The signature or the timestamp is not there. -/
  | missingHeaders (hmissing : ¬ ∃ s t, hs.IsSigned s t) :
    Verdict v body hs now (.error .missingHeaders)
  /-- The signature is not the base64 form of sixty-four bytes. -/
  | badEncoding {s t : Bytes} (hsigned : hs.IsSigned s t)
    (hcoded : ∀ signature : Ed25519.Signature, s ≠ Base64.encode signature.bytes) :
    Verdict v body hs now (.error .badEncoding)
  /-- The signature does not hold for the timestamp with the body behind it. -/
  | invalid {t : Bytes} {signature : Ed25519.Signature}
    (hsigned : hs.IsSigned (Base64.encode signature.bytes) t)
    (hholds : Ed25519.verify v.key (t ++ body) signature = false) :
    Verdict v body hs now (.error .invalid)
  /-- The clock refuses the timestamp. -/
  | stale {t : Bytes} {signature : Ed25519.Signature}
    (hsigned : hs.IsSigned (Base64.encode signature.bytes) t)
    (hholds : Ed25519.verify v.key (t ++ body) signature = true)
    (hstale : IsStale v.tolerance t now) : Verdict v body hs now (.error .stale)
  /-- There is nothing against the webhook. -/
  | ok {t : Bytes} {signature : Ed25519.Signature}
    (hsigned : hs.IsSigned (Base64.encode signature.bytes) t)
    (hholds : Ed25519.verify v.key (t ++ body) signature = true)
    (hfresh : ¬ IsStale v.tolerance t now) : Verdict v body hs now (.ok ())

namespace Verdict

variable {v : Verifier} {body : Bytes} {hs : Headers} {now : Int64}
  {r : Except SignatureError Unit}

/-- There is a verdict for every webhook. -/
theorem exists_verdict (v : Verifier) (body : Bytes) (hs : Headers) (now : Int64) :
    ∃ r, Verdict v body hs now r := by
  by_cases hmissing : ∃ s t, hs.IsSigned s t
  case neg => exact ⟨_, .missingHeaders hmissing⟩
  obtain ⟨s, t, hsigned⟩ := hmissing
  by_cases hcoded : ∃ signature : Ed25519.Signature, s = Base64.encode signature.bytes
  case neg => exact ⟨_, .badEncoding hsigned fun signature h => hcoded ⟨signature, h⟩⟩
  obtain ⟨signature, rfl⟩ := hcoded
  cases hholds : Ed25519.verify v.key (t ++ body) signature with
  | false => exact ⟨_, .invalid hsigned hholds⟩
  | true =>
    by_cases hstale : IsStale v.tolerance t now
    · exact ⟨_, .stale hsigned hholds hstale⟩
    · exact ⟨_, .ok hsigned hholds hstale⟩

/-- A well-formed signature is held against the payload before the clock is asked. -/
theorem verifyAt_of_coded {t : Bytes} {signature : Ed25519.Signature}
    (hsigned : hs.IsSigned (Base64.encode signature.bytes) t) :
    v.verifyAt body hs now =
      (if Ed25519.verify v.key (t ++ body) signature then .ok () else .error .invalid) >>=
        fun _ => checkTime v.tolerance t now := by
  rw [Verifier.verifyAt, signedHeaders_of_isSigned hsigned]
  show checkSignature v.key _ t body >>= _ = _
  rw [checkSignature, readSignature_eq_ok_iff.2 rfl]
  rfl

/-- The checks come to the verdict. -/
theorem verifyAt_eq (h : Verdict v body hs now r) : v.verifyAt body hs now = r := by
  cases h with
  | missingHeaders hmissing =>
    rw [Verifier.verifyAt, signedHeaders_of_not_isSigned hmissing]
    rfl
  | badEncoding hsigned hcoded =>
    rw [Verifier.verifyAt, signedHeaders_of_isSigned hsigned]
    show checkSignature v.key _ _ body >>= _ = _
    rw [checkSignature, readSignature_of_not_coded hcoded]
    rfl
  | invalid hsigned hholds =>
    rw [verifyAt_of_coded hsigned, hholds]
    rfl
  | stale hsigned hholds hstale =>
    rw [verifyAt_of_coded hsigned, hholds]
    exact checkTime_of_isStale hstale
  | ok hsigned hholds hfresh =>
    rw [verifyAt_of_coded hsigned, hholds]
    exact checkTime_of_not_isStale hfresh

/-- **The checks of a verifier come to its verdict**, whatever the webhook and the clock. -/
theorem verifyAt_eq_iff : v.verifyAt body hs now = r ↔ Verdict v body hs now r := by
  constructor
  · intro h
    obtain ⟨other, hother⟩ := exists_verdict v body hs now
    rw [← h, hother.verifyAt_eq]
    exact hother
  · exact verifyAt_eq

/-- A verdict in favour stands under every tolerance that allows as much. -/
theorem ok_of_looser {w : Verifier} (hkey : w.key = v.key)
    (hlooser : ∀ seconds ∈ w.tolerance, ∃ fewer ∈ v.tolerance, fewer ≤ seconds)
    (h : Verdict v body hs now (.ok ())) : Verdict w body hs now (.ok ()) := by
  cases h with
  | ok hsigned hholds hfresh =>
    refine .ok hsigned (hkey ▸ hholds) ?_
    rintro ⟨seconds, hseconds, hstale⟩
    obtain ⟨fewer, hfewer, hle⟩ := hlooser seconds hseconds
    rw [UInt64.le_iff_toNat_le] at hle
    refine hfresh ⟨fewer, hfewer, hstale.imp_right ?_⟩
    rintro ⟨sent, htells, hfar⟩
    exact ⟨sent, htells, hle.trans_lt hfar⟩

end Verdict

/-! ## Keys as texts -/

namespace Webhook

variable {body : Bytes} {hs : Headers} {key : String}

theorem ofKey_eq_ok_iff {tolerance : Option UInt64} {v : Verifier} :
    Verifier.ofKey key tolerance = .ok v ↔ readKey key = .ok v.key ∧ v.tolerance = tolerance := by
  rw [Verifier.ofKey, bind_eq_ok]
  constructor
  · rintro ⟨_, hkey, ⟨⟩⟩
    exact ⟨hkey, rfl⟩
  · rintro ⟨hkey, rfl⟩
    exact ⟨v.key, hkey, rfl⟩

/-- A verifier without a tolerance does not look at the clock. -/
theorem verify_eq_verifyAt {v : Verifier} (h : Verifier.ofKey key none = .ok v) (now : Int64) :
    verify body hs key = v.verifyAt body hs now := by
  obtain ⟨hkey, htolerance⟩ := ofKey_eq_ok_iff.1 h
  rw [verify, Verifier.verifyAt, hkey, htolerance]
  cases signedHeaders hs with
  | error e => rfl
  | ok signed =>
    show checkSignature v.key signed.1 signed.2 body =
      checkSignature v.key signed.1 signed.2 body >>= fun _ => .ok ()
    cases checkSignature v.key signed.1 signed.2 body <;> rfl

/-- A key that is not readable is reported where the headers are there. -/
theorem verify_of_unreadable (h : ∀ v, Verifier.ofKey key none ≠ .ok v) :
    verify body hs key = signedHeaders hs >>= fun _ => .error .badEncoding := by
  have hkey : readKey key = .error .badEncoding := by
    cases hread : readKey key with
    | ok k => exact absurd (ofKey_eq_ok_iff (v := ⟨k, none⟩) |>.2 ⟨hread, rfl⟩) (h _)
    | error e =>
      rw [readKey] at hread
      split at hread <;> cases hread
      rfl
  rw [verify, hkey]
  rfl

/-- **What a verifier decides.** Its answer is the verdict on the webhook. A text that is read as a
key verifies as the verifier without a tolerance does, by any clock, and one that is not is reported
behind missing headers. And a larger tolerance, or none, takes no acceptance back. -/
theorem verifier_decides (body : Bytes) (hs : Headers) (key : String) (now : Int64) :
    (∀ v r, v.verifyAt body hs now = r ↔ Verdict v body hs now r) ∧
    (∀ v, Verifier.ofKey key none = .ok v → verify body hs key = v.verifyAt body hs now) ∧
    ((∀ v, Verifier.ofKey key none ≠ .ok v) →
      ((¬ ∃ s t, hs.IsSigned s t) → verify body hs key = .error .missingHeaders) ∧
      ((∃ s t, hs.IsSigned s t) → verify body hs key = .error .badEncoding)) ∧
    (∀ v w : Verifier, w.key = v.key →
      (∀ seconds ∈ w.tolerance, ∃ fewer ∈ v.tolerance, fewer ≤ seconds) →
      v.verifyAt body hs now = .ok () → w.verifyAt body hs now = .ok ()) := by
  refine ⟨?verdict, ?readable, ?unreadable, ?looser⟩
  case verdict => exact fun v r => Verdict.verifyAt_eq_iff
  case readable => exact fun v hkey => verify_eq_verifyAt hkey now
  case unreadable =>
    intro hkey
    rw [verify_of_unreadable hkey]
    refine ⟨fun hmissing => ?_, ?_⟩
    · rw [signedHeaders_of_not_isSigned hmissing]
      rfl
    · rintro ⟨s, t, hsigned⟩
      rw [signedHeaders_of_isSigned hsigned]
      rfl
  case looser =>
    intro v w hkey hlooser hok
    exact ((Verdict.verifyAt_eq_iff.1 hok).ok_of_looser hkey hlooser).verifyAt_eq

/-- The key pressed in a call was signed 301 seconds before the clock: a tolerance of 300 seconds
refuses it and one of 301 does not, so that neither does a verifier without one, and neither does
the key as a text. -/
theorem verifier_decides_keyPressed :
    Verdict ⟨keyedLine.verifier.key, some 300⟩ keyPressed.request.body keyPressed.request.headers
        1700000301 (.error .stale) ∧
      Verdict ⟨keyedLine.verifier.key, some 301⟩ keyPressed.request.body
        keyPressed.request.headers 1700000301 (.ok ()) ∧
      verify keyPressed.request.body keyPressed.request.headers
        "A6EHv/POEL4dcN0Y50vAmWfk1jCbpQ1fHdyGZBJVMbg=" = .ok () := by
  obtain ⟨hverdict, hreadable, -, hlooser⟩ := verifier_decides keyPressed.request.body
    keyPressed.request.headers "A6EHv/POEL4dcN0Y50vAmWfk1jCbpQ1fHdyGZBJVMbg=" 1700000301
  have hread : readKey "A6EHv/POEL4dcN0Y50vAmWfk1jCbpQ1fHdyGZBJVMbg=" =
      .ok keyedLine.verifier.key := by
    rw [← toOption_eq_some]
    simp only [keyedLine, Option.some_get]
  have hfar : (⟨keyedLine.verifier.key, some 300⟩ : Verifier).verifyAt keyPressed.request.body
      keyPressed.request.headers 1700000301 = .error .stale := by decide +kernel
  have hnear : (⟨keyedLine.verifier.key, some 301⟩ : Verifier).verifyAt keyPressed.request.body
      keyPressed.request.headers 1700000301 = .ok () := by decide +kernel
  -- from here on nothing of the key is computed any more
  generalize keyedLine.verifier.key = k at hread hfar hnear ⊢
  refine ⟨(hverdict _ _).1 hfar, (hverdict _ _).1 hnear, ?_⟩
  rw [hreadable ⟨k, none⟩ (ofKey_eq_ok_iff.2 ⟨hread, rfl⟩)]
  exact hlooser ⟨k, some 301⟩ ⟨k, none⟩ rfl nofun hnear

end Webhook
end AlertLine
