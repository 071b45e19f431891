import AlertLine.Proofs.Reply.Grammar
import AlertLine.Provider.Sender

/-!
# The line does not understand itself

Every text that the line sends opens with a word that begins no reply (`IsOwnText.opens`), and a
text that opens so is never understood (`Reply.ofText_of_opening`). Blanks around the words and the
case of ASCII letters make no difference (`Reply.ofText_of_respelled`).
-/

namespace AlertLine

open Text

/-! ## Texts that come back -/

/-- Whether a text has the words of another, but for the case of ASCII letters. The blanks around
the words and between them do not matter. -/
def Respelled (text body : String) : Prop :=
  ∃ ws, Spaced ws body.toList ∧
    ws.map (List.map Char.toLower) = (wordsOf text.toList).map (List.map Char.toLower)

theorem Respelled.refl (text : String) : Respelled text text := ⟨_, spaced_wordsOf _, rfl⟩

namespace Reply

variable {text body : String}

theorem normalForm_of_respelled (h : Respelled text body) : normalForm body = normalForm text := by
  obtain ⟨ws, hspaced, hwords⟩ := h
  -- lowering forgets the case that ASCII lowering has already forgotten
  have hlower (vs : List (List Char)) :
      (vs.map (List.map Char.toLower)).map lowerChars = vs.map lowerChars := by
    rw [List.map_map]
    exact List.map_congr_left fun v _ => lowerChars_toLower v
  rw [← String.toList_inj, toList_normalForm, toList_normalForm, wordsOf_of_spaced hspaced,
    ← hlower ws, hwords, hlower]

/-- A text is understood however it is respelled. -/
theorem ofText_of_respelled (h : Respelled text body) : ofText body = ofText text := by
  rw [ofText_eq, ofText_eq, normalForm_of_respelled h]

/-! ## Openings -/

/-- Words that begin no reply. -/
def openings : List String :=
  ["Acknowledged", "Acknowledged.", "Closed", "Closed.", "Resubscribed.", "Sorry,", "Test",
    "Alert", "Your"]

/-- Whether a text begins with a word: it is the word, or a space stands behind the word. -/
def OpensWith (w cs : List Char) : Prop := cs = w ∨ ∃ rest, cs = w ++ ' ' :: rest

theorem isWord_of_opening : ∀ w ∈ openings, IsWord w.toList := by
  decide

/-- In lower case an opening begins no word of the grammar, and no number. -/
theorem lowered_opening :
    ∀ w ∈ openings,
      (∀ word ∈ stopWords ++ startWords ++ acknowledgeWords ++ closeWords,
        ¬ lowerChars w.toList <+: word.toList) ∧
      (lowerChars w.toList).head?.any Decimal.isDigit = false := by
  decide +kernel

/-- What begins a text and has no space begins the part in front of the first space. -/
theorem prefix_of_append_space {v w rest : List Char} (h : v <+: w ++ ' ' :: rest)
    (hv : ' ' ∉ v) : v <+: w := by
  induction w generalizing v with
  | nil =>
    cases v with
    | nil => exact List.nil_prefix
    | cons c v =>
      rw [List.nil_append, List.cons_prefix_cons] at h
      rw [h.1] at hv
      exact absurd List.mem_cons_self hv
  | cons d w ih =>
    cases v with
    | nil => exact List.nil_prefix
    | cons c v =>
      rw [List.cons_append, List.cons_prefix_cons] at h
      rw [List.cons_prefix_cons]
      exact ⟨h.1, ih h.2 fun hspace => hv (List.mem_cons_of_mem c hspace)⟩

theorem prefix_intercalate (v : List Char) (vs : List (List Char)) :
    v <+: [' '].intercalate (v :: vs) := by
  cases vs with
  | nil => exact ⟨[], by rw [List.append_nil, List.intercalate_singleton]⟩
  | cons v' vs =>
    rw [List.intercalate_cons_cons, List.append_assoc]
    exact List.prefix_append _ _

/-- **A text that opens so is not understood.** -/
theorem ofText_of_opening {w : String} (hw : w ∈ openings)
    (hopens : OpensWith w.toList body.toList) : ofText body = .unknown := by
  have hword := isWord_of_opening w hw
  obtain ⟨hstrange, hdigit⟩ := lowered_opening w hw
  have hwords : ∃ ws, wordsOf body.toList = w.toList :: ws := by
    rcases hopens with heq | ⟨rest, heq⟩
    · exact ⟨[], by rw [heq, wordsOf_of_isWord hword]⟩
    · rw [heq, wordsOf_append_blank _ _ (by decide), wordsOf_of_isWord hword]
      exact ⟨_, List.singleton_append⟩
  obtain ⟨ws, hwords⟩ := hwords
  have hlowered := isWord_lowered hword
  have hbegins : lowerChars w.toList <+: (normalForm body).toList := by
    rw [toList_normalForm, hwords, List.map_cons]
    exact prefix_intercalate _ _
  have hspace : ' ' ∉ lowerChars w.toList := fun hmem => by
    have hblank := hlowered.2 ' ' hmem
    cases hblank
  by_contra hknown
  rcases known_of_means (means_ofText body) hknown with hmem | ⟨n, hn⟩
  · exact hstrange _ hmem hbegins
  · obtain ⟨k, hk⟩ := exists_isNumbered_iff.2 hn
    obtain ⟨word, hmem, ds, hds, -, hplace⟩ := beside_of_isNumbered hk
    -- the number stands in front, or the word does
    have hfront : (∃ rest, (normalForm body).toList = ds ++ rest) ∨
        (normalForm body).toList = word.toList ++ ' ' :: ds := by
      rcases hplace with h | h | h
      · exact .inl ⟨_, h⟩
      · exact .inl ⟨_, h⟩
      · exact .inr h
    rcases hfront with ⟨rest, hfront⟩ | hfront
    · obtain ⟨d, ds, rfl⟩ := List.exists_cons_of_ne_nil hds.1
      obtain ⟨c, cs, hcs⟩ := List.exists_cons_of_ne_nil hlowered.1
      rw [hfront, hcs, List.cons_append, List.cons_prefix_cons] at hbegins
      rw [hcs, List.head?_cons, Option.any_some, hbegins.1, hds.2 d List.mem_cons_self] at hdigit
      cases hdigit
    · rw [hfront] at hbegins
      refine hstrange word ?_ (prefix_of_append_space hbegins hspace)
      rw [List.append_assoc]
      exact List.mem_append_right _ (exists_command_iff.1 ⟨k, hmem⟩)

end Reply

/-! ## The line's own texts -/

/-- Whether the line itself sends a text: it confirms a reply, or it is the text of a notification,
cut to the length of a message. -/
inductive IsOwnText : String → Prop
  | confirmation {r : Reply} {text : String} (h : r.confirmation = some text) : IsOwnText text
  | notification (n : Notification) : IsOwnText (cutToSms n.smsText)

/-- The beginning of a text is not cut. -/
theorem prefix_cutToSms {text : String} {front : List Char} (hlength : front.length ≤ 157)
    (h : front <+: text.toList) : front <+: (cutToSms text).toList := by
  rw [cutToSms]
  split_ifs
  · exact h
  · rw [String.toList_append, String.toList_ofList]
    exact (List.prefix_take_iff.2 ⟨h, hlength⟩).trans (List.prefix_append _ _)

/-- The word that a text opens with is not cut. -/
theorem cutToSms_opening {text : String} {w rest : List Char} (hw : w.length < 157)
    (h : text.toList = w ++ ' ' :: rest) :
    ∃ rest', (cutToSms text).toList = w ++ ' ' :: rest' := by
  have hlength : (w ++ [' ']).length ≤ 157 := by
    rw [List.length_append, List.length_singleton]
    omega
  have hfront : w ++ [' '] <+: text.toList :=
    ⟨rest, by rw [h, List.append_assoc, List.singleton_append]⟩
  obtain ⟨rest', hrest'⟩ := prefix_cutToSms hlength hfront
  exact ⟨rest', by rw [← hrest', List.append_assoc, List.singleton_append]⟩

/-- A confirmation is not cut. -/
theorem cutToSms_confirmation {r : Reply} {text : String} (h : r.confirmation = some text) :
    cutToSms text = text := by
  have hid (front : String) (id : Int64) (hfront : front.length ≤ 100) :
      (front ++ Decimal.ofInt64 id ++ ".").length ≤ smsLimit := by
    have hlength := Decimal.length_ofInt64 id
    have hdot : ".".length = 1 := rfl
    have hlimit : smsLimit = 160 := rfl
    rw [String.length_append, String.length_append, hdot]
    omega
  have hlength : text.length ≤ smsLimit := by
    cases r with
    | acknowledge id =>
      cases id with
      | none => cases h; decide
      | some id => cases h; exact hid "Acknowledged alert #" id (by decide)
    | close id =>
      cases id with
      | none => cases h; decide
      | some id => cases h; exact hid "Closed alert #" id (by decide)
    | unsubscribe => cases h
    | resubscribe => cases h; decide
    | badReference => cases h; decide +kernel
    | unknown => cases h
  rw [cutToSms, if_pos hlength]

theorem opensWith_append {front : String} {w : List Char}
    (h : ∃ rest, front.toList = w ++ ' ' :: rest) (text : String) :
    ∃ rest, (front ++ text).toList = w ++ ' ' :: rest := by
  obtain ⟨rest, hrest⟩ := h
  rw [String.toList_append, hrest, List.append_assoc, List.cons_append]
  exact ⟨_, rfl⟩

/-- **The line's own texts open with words that begin no reply.** -/
theorem IsOwnText.opens {text : String} (h : IsOwnText text) :
    ∃ w ∈ Reply.openings, Reply.OpensWith w.toList text.toList := by
  cases h with
  | @confirmation r text h =>
    cases r with
    | acknowledge id =>
      cases id with
      | none =>
        cases h
        exact ⟨"Acknowledged.", by decide, .inl rfl⟩
      | some id =>
        cases h
        exact ⟨"Acknowledged", by decide,
          .inr (opensWith_append (opensWith_append ⟨_, rfl⟩ _) _)⟩
    | close id =>
      cases id with
      | none =>
        cases h
        exact ⟨"Closed.", by decide, .inl rfl⟩
      | some id =>
        cases h
        exact ⟨"Closed", by decide, .inr (opensWith_append (opensWith_append ⟨_, rfl⟩ _) _)⟩
    | unsubscribe => cases h
    | resubscribe =>
      cases h
      exact ⟨"Resubscribed.", by decide, .inr ⟨_, rfl⟩⟩
    | badReference =>
      cases h
      exact ⟨"Sorry,", by decide, .inr (opensWith_append ⟨_, rfl⟩ _)⟩
    | unknown => cases h
  | notification n =>
    cases n with
    | test => exact ⟨"Test", by decide, .inr ⟨_, rfl⟩⟩
    | alert id summary details =>
      obtain ⟨rest, hrest⟩ : ∃ rest, (Notification.alert id summary details).smsText.toList =
          "Alert".toList ++ ' ' :: rest :=
        opensWith_append (opensWith_append (opensWith_append ⟨_, rfl⟩ _) _) _
      exact ⟨"Alert", by decide, .inr (cutToSms_opening (by decide) hrest)⟩
    | verification code =>
      obtain ⟨rest, hrest⟩ : ∃ rest, (Notification.verification code).smsText.toList =
          "Your".toList ++ ' ' :: rest :=
        opensWith_append ⟨_, rfl⟩ _
      exact ⟨"Your", by decide, .inr (cutToSms_opening (by decide) hrest)⟩

/-- The line does not understand its own texts, however they are respelled. -/
theorem IsOwnText.ofText_eq_unknown {text body : String} (h : IsOwnText text)
    (hbody : Respelled text body) : Reply.ofText body = .unknown := by
  obtain ⟨w, hw, hopens⟩ := h.opens
  rw [Reply.ofText_of_respelled hbody, Reply.ofText_of_opening hw hopens]

end AlertLine
