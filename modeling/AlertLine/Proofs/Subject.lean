import AlertLine.Proofs.Text.Blank
import AlertLine.Subject
import Mathlib.Data.Option.Basic

/-!
# Subjects for orders

A token has something in it, no separator, and no blank at its ends (`IsToken`). Every text is made
into a token, and what is one already is left alone (`token_eq_self_iff`). So the subject for a
destination has four tokens, whatever the destination is (`tokens_outbound`): it falls under the
pattern for orders, stands for itself only, and is the subject for its own last token
(`isOrderSubject_outbound`, `outbound_token`).
-/

namespace AlertLine.Subject

/-! ## Tokens -/

/-- A text that is one token of a subject, and no wildcard. -/
structure IsToken (s : String) : Prop where
  nonempty : s ≠ ""
  plain : ∀ c ∈ s.toList, isSeparator c = false
  opening : ∀ c ∈ s.toList.head?, Text.isBlank c = false
  closing : ∀ c ∈ s.toList.getLast?, Text.isBlank c = false

/-- A dash for a separator. -/
def dashed (c : Char) : Char := if isSeparator c then '-' else c

theorem isSeparator_dashed (c : Char) : isSeparator (dashed c) = false := by
  by_cases hc : isSeparator c = true
  · rw [dashed, if_pos hc]
    decide
  · rw [dashed, if_neg hc]
    exact eq_false_of_ne_true hc

/-- A separator becomes a dash, which is no blank, and nothing else changes. -/
theorem not_isBlank_dashed {c : Char} (h : Text.isBlank c = false) :
    Text.isBlank (dashed c) = false := by
  by_cases hc : isSeparator c = true
  · rw [dashed, if_pos hc]
    decide
  · rwa [dashed, if_neg hc]

theorem toList_token (s : String) :
    (token s).toList =
      if Text.trimChars s.toList = [] then "unknown".toList
      else (Text.trimChars s.toList).map dashed := by
  rw [token]
  cases htrimmed : Text.trimChars s.toList with
  | nil => rfl
  | cons c cs =>
    rw [if_neg (List.cons_ne_nil c cs)]
    exact String.toList_ofList

theorem isToken_unknown : IsToken "unknown" where
  nonempty := by decide
  plain := List.forall_iff_forall_mem.1 (by decide)
  opening := by
    rintro c ⟨⟩
    decide
  closing := by
    rintro c ⟨⟩
    decide

/-- Every text is made into a token. -/
theorem isToken_token (s : String) : IsToken (token s) := by
  have htoken := toList_token s
  by_cases hblank : Text.trimChars s.toList = []
  · rw [if_pos hblank, String.toList_inj] at htoken
    rw [htoken]
    exact isToken_unknown
  · rw [if_neg hblank] at htoken
    constructor
    case nonempty =>
      rw [Ne, ← String.toList_eq_nil_iff, htoken, List.map_eq_nil_iff]
      exact hblank
    case plain =>
      rw [htoken, List.forall_mem_map]
      exact fun c _ => isSeparator_dashed c
    case opening =>
      rw [htoken, List.head?_map, Option.forall_mem_map]
      exact fun c hc => not_isBlank_dashed (Text.head?_trimChars s.toList c hc)
    case closing =>
      rw [htoken, List.getLast?_map, Option.forall_mem_map]
      exact fun c hc => not_isBlank_dashed (Text.getLast?_trimChars s.toList c hc)

/-- A token is left alone. -/
theorem IsToken.token_eq {s : String} (h : IsToken s) : token s = s := by
  have htrimmed := Text.trimChars_of_ends h.opening h.closing
  have hnonempty : s.toList ≠ [] := fun hnil => h.nonempty (String.toList_eq_nil_iff.1 hnil)
  have hplain : s.toList.map dashed = s.toList := by
    refine (List.map_congr_left fun c hc => ?_).trans (List.map_id s.toList)
    rw [dashed, if_neg (ne_true_of_eq_false (h.plain c hc)), id]
  rw [← String.toList_inj, toList_token, htrimmed, if_neg hnonempty, hplain]

/-- **A text is its own token exactly if it is one.** -/
theorem token_eq_self_iff {s : String} : token s = s ↔ IsToken s :=
  ⟨fun h => h ▸ isToken_token s, IsToken.token_eq⟩

instance (s : String) : Decidable (IsToken s) := decidable_of_iff _ token_eq_self_iff

theorem IsToken.not_mem {s : String} (h : IsToken s) {c : Char} (hc : isSeparator c = true) :
    c ∉ s.toList := by
  intro hmem
  rw [h.plain c hmem] at hc
  cases hc

/-- A token stands for itself: the wildcards are separators. -/
theorem IsToken.ne_wildcard {s : String} (h : IsToken s) : s ≠ "*" ∧ s ≠ ">" := by
  constructor
  · rintro rfl
    exact h.not_mem rfl List.mem_cons_self
  · rintro rfl
    exact h.not_mem rfl List.mem_cons_self

/-! ## Subjects -/

/-- A subject that is put together has the tokens of its parts. -/
theorem tokens_append_dot (front back : String) :
    tokens (front ++ "." ++ back) = tokens front ++ tokens back := by
  have hchars : (front ++ "." ++ back).toList = front.toList ++ '.' :: back.toList := by
    rw [String.toList_append, String.toList_append, List.append_assoc]
    rfl
  rw [tokens, hchars, List.splitOnP_append_cons _ _ rfl, List.map_append]
  rfl

theorem IsToken.tokens_eq {s : String} (h : IsToken s) : tokens s = [s] := by
  have hdotless : ∀ c ∈ s.toList, (c == '.') = false := by
    intro c hc
    rw [beq_eq_false_iff_ne]
    rintro rfl
    exact h.not_mem rfl hc
  rw [tokens, List.splitOnP_eq_singleton hdotless, List.map_singleton, String.ofList_toList]

/-- A subject is known by its tokens. -/
theorem tokens_injective : Function.Injective tokens := by
  intro s t h
  have hparts := List.map_injective_iff.2 (fun _ _ => String.ofList_inj.1) h
  have hchars := congrArg (List.intercalate ['.']) hparts
  rw [← String.toList_inj]
  exact (List.intercalate_splitOn '.').symm.trans (hchars.trans (List.intercalate_splitOn '.'))

/-- The subject for a destination has four tokens. -/
theorem tokens_outbound (channel : Channel) (destination : String) :
    tokens (outbound channel destination) =
      ["telnyx", "out", channel.name, token destination] := by
  have hstem : tokens ("telnyx.out." ++ channel.name) = ["telnyx", "out", channel.name] := by
    cases channel <;> rfl
  rw [outbound, tokens_append_dot, hstem, (isToken_token destination).tokens_eq]
  rfl

theorem isToken_of_mem_tokens_outbound {channel : Channel} {destination : String} :
    ∀ t ∈ tokens (outbound channel destination), IsToken t := by
  have hname : IsToken channel.name := by cases channel <;> decide
  rw [tokens_outbound]
  simp only [List.forall_mem_cons]
  exact ⟨by decide, by decide, hname, isToken_token destination, List.forall_mem_nil _⟩

example : outbound .voice " \t\u00a0" = "telnyx.out.voice.unknown" := by decide

/-- The subject for the last token of a subject is the subject for the destination. -/
theorem outbound_token (channel : Channel) (destination : String) :
    outbound channel (token destination) = outbound channel destination := by
  rw [outbound, outbound, (isToken_token destination).token_eq]

/-! ## Patterns -/

/-- Whether tokens are those of a pattern, where `*` stands for any one of them and `>`, at the end,
for all that are left, at least one. -/
def covers : List String → List String → Bool
  | [], ts => ts.isEmpty
  | _ :: _, [] => false
  | p :: ps, t :: ts => (p == ">" && ps.isEmpty) || ((p == "*" || p == t) && covers ps ts)

/-- Whether a subject falls under a pattern. -/
def takesIn (pattern subject : String) : Bool := covers (tokens pattern) (tokens subject)

/-- The pattern that the worker has orders by. -/
def orderPattern : String := "telnyx.out.>"

theorem covers_cons_cons {p t : String} {ps ts : List String} (hp : p ≠ "*" ∧ p ≠ ">") :
    covers (p :: ps) (t :: ts) = (p == t && covers ps ts) := by
  rw [covers, beq_eq_false_iff_ne.2 hp.1, beq_eq_false_iff_ne.2 hp.2, Bool.false_and,
    Bool.false_or, Bool.false_or]

/-- A pattern without wildcards but for one at its end covers what goes on behind its stem. -/
theorem covers_append_rest {stem ts : List String} (h : ∀ p ∈ stem, p ≠ "*" ∧ p ≠ ">") :
    covers (stem ++ [">"]) ts = (stem.isPrefixOf ts && decide (stem.length < ts.length)) := by
  induction stem generalizing ts with
  | nil => cases ts <;> simp [covers]
  | cons p stem ih =>
    obtain ⟨hp, hrest⟩ := List.forall_mem_cons.1 h
    cases ts with
    | nil => rfl
    | cons t ts =>
      rw [List.cons_append, covers_cons_cons hp, ih hrest, List.isPrefixOf_cons_cons,
        Bool.and_assoc]
      simp

/-- A pattern without wildcards covers its own tokens only. -/
theorem covers_iff_eq {ps ts : List String} (h : ∀ p ∈ ps, p ≠ "*" ∧ p ≠ ">") :
    covers ps ts = true ↔ ts = ps := by
  induction ps generalizing ts with
  | nil => exact List.isEmpty_iff
  | cons p ps ih =>
    obtain ⟨hp, hrest⟩ := List.forall_mem_cons.1 h
    cases ts with
    | nil => exact iff_of_false nofun nofun
    | cons t ts =>
      rw [covers_cons_cons hp, Bool.and_eq_true, beq_iff_eq, ih hrest, List.cons.injEq,
        eq_comm (a := p)]

/-- What the worker hears as orders is what falls under the pattern for them. -/
theorem isOutbound_eq_takesIn (subject : String) :
    isOutbound subject = takesIn orderPattern subject := by
  have hpattern : tokens orderPattern = outboundStem ++ [">"] := by decide
  have hstem : ∀ p ∈ outboundStem, p ≠ "*" ∧ p ≠ ">" := List.forall_iff_forall_mem.1 (by decide)
  rw [takesIn, hpattern, covers_append_rest hstem, isOutbound]

theorem takesIn_iff_eq {pattern subject : String}
    (h : ∀ p ∈ tokens pattern, p ≠ "*" ∧ p ≠ ">") :
    takesIn pattern subject = true ↔ subject = pattern := by
  rw [takesIn, covers_iff_eq h, tokens_injective.eq_iff]

/-! ## Subjects for orders -/

/-- A subject for orders over a channel, with its last token: four tokens, none of them empty, of
which the last has no character that means something in a subject; as a pattern it takes in nothing
else. -/
structure IsOrderSubject (channel : Channel) (subject last : String) : Prop where
  tokens_eq : tokens subject = ["telnyx", "out", channel.name, last]
  nonempty : ∀ t ∈ tokens subject, t ≠ ""
  plain : ∀ c ∈ [' ', '\t', '\n', '\r', '.', '/', '*', '>'], c ∉ last.toList
  literal : ∀ other, takesIn subject other = true ↔ other = subject

theorem isOrderSubject_outbound (channel : Channel) (destination : String) :
    IsOrderSubject channel (outbound channel destination) (token destination) where
  tokens_eq := tokens_outbound channel destination
  nonempty t ht := (isToken_of_mem_tokens_outbound t ht).nonempty
  plain := by
    have hseparators : [' ', '\t', '\n', '\r', '.', '/', '*', '>'].Forall
        (isSeparator · = true) := by decide
    intro c hc
    exact (isToken_token destination).not_mem (List.forall_iff_forall_mem.1 hseparators c hc)
  literal _ := takesIn_iff_eq fun t ht => (isToken_of_mem_tokens_outbound t ht).ne_wildcard

/-- The subject for a destination falls under the pattern for orders. -/
theorem isOutbound_outbound (channel : Channel) (destination : String) :
    isOutbound (outbound channel destination) = true := by
  rw [isOutbound, tokens_outbound]
  rfl

/-- A subject is none of those that something other than an order is found under. -/
structure IsApart (subject : String) : Prop where
  outcome : subject ≠ Subject.outcome
  alertLookup : subject ≠ Subject.alertLookup
  carrierLookup : subject ≠ Subject.carrierLookup
  action : ∀ kind, subject ≠ Subject.action kind
  status : ∀ state, subject ≠ Subject.status state

theorem isApart_outbound (channel : Channel) (destination : String) :
    IsApart (outbound channel destination) := by
  -- the other subjects are shorter
  have hother {subject : String} (hlength : (tokens subject).length ≠ 4) :
      outbound channel destination ≠ subject := by
    rintro rfl
    rw [tokens_outbound] at hlength
    exact hlength rfl
  constructor
  case outcome => exact hother (by decide)
  case alertLookup => exact hother (by decide)
  case carrierLookup => exact hother (by decide)
  case action => exact fun kind => hother (by cases kind <;> decide)
  case status => exact fun state => hother (by cases state <;> decide)

end AlertLine.Subject
