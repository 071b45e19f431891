import AlertLine.Proofs.Reply.Splitting

/-!
# The grammar of replies

A reply is one of the words, or a command with a number beside it (`Means`). Every text is taken for
what its normal form means, and a normal form has one meaning only (`ofText_eq_iff`). So an action
without an alert comes from one of the words alone, and the text has no digits (`reply_grammar`).
-/

namespace AlertLine.Reply

open Text Decimal

/-! ## The grammar -/

/-- A word with a number beside it: in front of it, glued or apart, or behind it. -/
def IsNumbered (words : List String) (text : String) (n : ℕ) : Prop :=
  ∃ word ∈ words, ∃ digits : String, digits ≠ "" ∧ (∀ d ∈ digits.toList, isDigit d = true) ∧
    value digits.toList = n ∧
    (text = digits ++ " " ++ word ∨ text = digits ++ word ∨ text = word ++ " " ++ digits)

/-- What a text in normal form has to be to mean a reply. -/
inductive Means (text : String) : Reply → Prop
  | stop (h : text ∈ stopWords) : Means text .unsubscribe
  | start (h : text ∈ startWords) : Means text .resubscribe
  | acknowledge (h : text ∈ acknowledgeWords) : Means text (.acknowledge none)
  | close (h : text ∈ closeWords) : Means text (.close none)
  /-- The number is that of an alert. -/
  | acknowledgeAlert {id : Int64} {n : ℕ} (hn : n ≤ 9223372036854775807) (hid : id.toInt = n)
      (h : IsNumbered acknowledgeWords text n) : Means text (.acknowledge (some id))
  | closeAlert {id : Int64} {n : ℕ} (hn : n ≤ 9223372036854775807) (hid : id.toInt = n)
      (h : IsNumbered closeWords text n) : Means text (.close (some id))
  /-- The number is beyond those of alerts. -/
  | badReference {n : ℕ} (hn : 9223372036854775807 < n)
      (h : IsNumbered (acknowledgeWords ++ closeWords) text n) : Means text .badReference
  /-- All the rest. -/
  | unknown (hword : text ∉ stopWords ++ startWords ++ acknowledgeWords ++ closeWords)
      (hnumber : ∀ n, ¬ IsNumbered (acknowledgeWords ++ closeWords) text n) : Means text .unknown

/-- The two commands about one alert. -/
inductive Command where
  | acknowledge
  | close

namespace Command

/-- The words of a command. -/
def words : Command → List String
  | acknowledge => acknowledgeWords
  | close => closeWords

/-- The reply that a command makes. -/
def reply : Command → Option Int64 → Reply
  | acknowledge => .acknowledge
  | close => .close

/-- The reply that a command makes with what stands beside it. -/
def replyTo (k : Command) : Reference → Reply
  | .absent => k.reply none
  | .id n => k.reply (some n)
  | .unreadable => .badReference

end Command

variable {k : Command} {text word body : String} {ds : List Char}

theorem Means.reply_none (h : text ∈ k.words) : Means text (k.reply none) := by
  cases k with
  | acknowledge => exact .acknowledge h
  | close => exact .close h

theorem Means.reply_some {id : Int64} {n : ℕ} (hn : n ≤ 9223372036854775807) (hid : id.toInt = n)
    (h : IsNumbered k.words text n) : Means text (k.reply (some id)) := by
  cases k with
  | acknowledge => exact .acknowledgeAlert hn hid h
  | close => exact .closeAlert hn hid h

theorem exists_command_iff :
    (∃ k : Command, word ∈ k.words) ↔ word ∈ acknowledgeWords ++ closeWords := by
  rw [List.mem_append]
  refine ⟨?_, ?_⟩
  · rintro ⟨k, hk⟩
    cases k with
    | acknowledge => exact .inl hk
    | close => exact .inr hk
  · rintro (h | h)
    · exact ⟨.acknowledge, h⟩
    · exact ⟨.close, h⟩

theorem exists_isNumbered_iff {n : ℕ} :
    (∃ k : Command, IsNumbered k.words text n) ↔
      IsNumbered (acknowledgeWords ++ closeWords) text n := by
  refine ⟨?_, ?_⟩
  · rintro ⟨k, word, hword, h⟩
    exact ⟨word, exists_command_iff.1 ⟨k, hword⟩, h⟩
  · rintro ⟨word, hword, h⟩
    obtain ⟨k, hk⟩ := exists_command_iff.2 hword
    exact ⟨k, word, hk, h⟩

/-! ## Commands -/

/-- The words that the grammar knows are letters. -/
theorem isLetters_of_mem :
    ∀ w ∈ stopWords ++ startWords ++ acknowledgeWords ++ closeWords, IsLetters w.toList := by
  decide

theorem isLetters_of_command (h : word ∈ k.words) : IsLetters word.toList := by
  have hwords := exists_command_iff.1 ⟨k, h⟩
  refine isLetters_of_mem word ?_
  rw [List.append_assoc]
  exact List.mem_append_right _ hwords

theorem ofCommand_of_mem (h : word ∈ k.words) (reference : Reference) :
    ofCommand reference word = k.replyTo reference := by
  cases k with
  | acknowledge =>
    have hword : word ∈ acknowledgeWords := h
    cases reference <;> simp [ofCommand, hword, Command.replyTo, Command.reply]
  | close =>
    have hword : word ∈ closeWords := h
    have hother : ∀ word ∈ closeWords, word ∉ acknowledgeWords := by decide
    cases reference <;>
      simp [ofCommand, hword, hother word hword, Command.replyTo, Command.reply]

theorem ofCommand_of_not_mem (h : word ∉ acknowledgeWords ++ closeWords) (reference : Reference) :
    ofCommand reference word = .unknown := by
  rw [List.mem_append, not_or] at h
  cases reference <;> simp [ofCommand, h.1, h.2]

/-- A text is compared with the words that stand alone first; an empty one is none of them. -/
theorem ofText_eq (body : String) :
    ofText body =
      if normalForm body ∈ stopWords then .unsubscribe
      else if normalForm body ∈ startWords then .resubscribe
      else ofCommand (splitReference (normalForm body).toList).1
        (String.ofList (splitReference (normalForm body).toList).2) := by
  by_cases hempty : (normalForm body).isEmpty = true
  · rw [ofText, if_pos hempty, String.isEmpty_iff.1 hempty]
    decide
  · rw [ofText, if_neg hempty]

/-! ## Meanings -/

theorem beside_of_isNumbered {n : ℕ} (h : IsNumbered k.words text n) :
    ∃ word ∈ k.words, ∃ ds, IsNumber ds ∧ value ds = n ∧ Beside ds word.toList text.toList := by
  obtain ⟨word, hword, digits, hne, hdigits, hvalue, hplace⟩ := h
  refine ⟨word, hword, digits.toList, ⟨?_, hdigits⟩, hvalue, ?_⟩
  · rwa [Ne, String.toList_eq_nil_iff]
  · have hspace : " ".toList = [' '] := rfl
    rcases hplace with rfl | rfl | rfl
    · left
      rw [String.toList_append, String.toList_append, hspace, List.append_assoc,
        List.singleton_append]
    · right; left
      rw [String.toList_append]
    · right; right
      rw [String.toList_append, String.toList_append, hspace, List.append_assoc,
        List.singleton_append]

theorem isNumbered_of_beside (hword : word ∈ k.words) (hds : IsNumber ds)
    (h : Beside ds word.toList text.toList) : IsNumbered k.words text (value ds) := by
  refine ⟨word, hword, String.ofList ds, ?_, ?_, ?_, ?_⟩
  · rw [Ne, ← String.toList_eq_nil_iff, String.toList_ofList]
    exact hds.1
  · rw [String.toList_ofList]
    exact hds.2
  · rw [String.toList_ofList]
  · simp only [← String.toList_inj, String.toList_append, String.toList_ofList]
    simpa [Beside] using h

/-- A text that is known is one of the words, or a command with a number. -/
theorem known_of_means {r : Reply} (h : Means text r) (hr : r ≠ .unknown) :
    text ∈ stopWords ++ startWords ++ acknowledgeWords ++ closeWords ∨
      ∃ n, IsNumbered (acknowledgeWords ++ closeWords) text n := by
  have hword (k : Command) (hk : text ∈ k.words) :
      text ∈ stopWords ++ startWords ++ acknowledgeWords ++ closeWords := by
    rw [List.append_assoc]
    exact List.mem_append_right _ (exists_command_iff.1 ⟨k, hk⟩)
  cases h with
  | stop h =>
    exact .inl (List.mem_append_left _ (List.mem_append_left _ (List.mem_append_left _ h)))
  | start h =>
    exact .inl (List.mem_append_left _ (List.mem_append_left _ (List.mem_append_right _ h)))
  | acknowledge h => exact .inl (hword .acknowledge h)
  | close h => exact .inl (hword .close h)
  | acknowledgeAlert _ _ h => exact .inr ⟨_, exists_isNumbered_iff.1 ⟨.acknowledge, h⟩⟩
  | closeAlert _ _ h => exact .inr ⟨_, exists_isNumbered_iff.1 ⟨.close, h⟩⟩
  | badReference _ h => exact .inr ⟨_, h⟩
  | unknown _ _ => exact absurd rfl hr

/-- A word of a command alone is understood. -/
theorem ofText_of_mem (h : normalForm body ∈ k.words) : ofText body = k.reply none := by
  have hother : ∀ k : Command, ∀ word ∈ k.words, word ∉ stopWords ∧ word ∉ startWords := by
    intro k
    cases k <;> decide
  rw [ofText_eq, if_neg (hother k _ h).1, if_neg (hother k _ h).2,
    splitReference_of_isLetters (isLetters_of_command h), String.ofList_toList,
    ofCommand_of_mem h, Command.replyTo]

/-- A command with a number beside it is understood if the number is. -/
theorem ofText_of_isNumbered {n : ℕ} (h : IsNumbered k.words (normalForm body) n) :
    ofText body =
      if n ≤ 9223372036854775807 then k.reply (some (Int64.ofInt n)) else .badReference := by
  obtain ⟨word, hword, ds, hds, rfl, hplace⟩ := beside_of_isNumbered h
  have hletters := isLetters_of_command hword
  -- a text with a digit is none of the words that stand alone
  have hother : normalForm body ∉ stopWords ++ startWords := by
    intro hmem
    obtain ⟨d, hd⟩ := List.exists_mem_of_ne_nil ds hds.1
    have hin : d ∈ (normalForm body).toList := by
      rcases hplace with hcs | hcs | hcs <;> rw [hcs] <;> simp [hd]
    have hknown := List.mem_append_left closeWords (List.mem_append_left acknowledgeWords hmem)
    have hsmall := (isLetters_of_mem _ hknown).2 d hin
    have hdigit := hds.2 d hd
    rw [isDigit_of_isSmallLetter hsmall] at hdigit
    cases hdigit
  rw [List.mem_append, not_or] at hother
  rw [ofText_eq, if_neg hother.1, if_neg hother.2, splitReference_of_beside hds hletters hplace,
    String.ofList_toList, ofCommand_of_mem hword, ofDigits_eq hds]
  split_ifs <;> rfl

theorem toInt_ofInt {n : ℕ} (h : n ≤ 9223372036854775807) : (Int64.ofInt n).toInt = n :=
  Int64.toInt_ofInt_of_le (by omega) (by omega)

/-- What stands in a tidy text is what it means, unless it is one of the words that are no
commands. -/
theorem means_ofCommand (htidy : IsTidy text.toList) (hother : text ∉ stopWords ++ startWords) :
    Means text (ofCommand (splitReference text.toList).1
      (String.ofList (splitReference text.toList).2)) := by
  by_cases hword : String.ofList (splitReference text.toList).2 ∈ acknowledgeWords ++ closeWords
  · obtain ⟨k, hk⟩ := exists_command_iff.2 hword
    rw [ofCommand_of_mem hk]
    rcases splitReference_cases htidy with habsent | ⟨ds, hds, hnumber, hplace⟩
    · rw [habsent, String.ofList_toList] at hk
      rw [habsent]
      exact .reply_none hk
    · have hbeside : IsNumbered k.words text (value ds) :=
        isNumbered_of_beside hk hds (by rwa [String.toList_ofList])
      rw [hnumber, ofDigits_eq hds]
      split_ifs with hvalue
      · exact .reply_some hvalue (toInt_ofInt hvalue) hbeside
      · exact .badReference (Nat.lt_of_not_le hvalue) (exists_isNumbered_iff.1 ⟨k, hbeside⟩)
  · rw [ofCommand_of_not_mem hword]
    refine .unknown ?_ ?_
    · rw [List.append_assoc, List.mem_append, not_or]
      refine ⟨hother, fun hmem => hword ?_⟩
      obtain ⟨k, hk⟩ := exists_command_iff.2 hmem
      rwa [splitReference_of_isLetters (isLetters_of_command hk), String.ofList_toList]
    · intro n hn
      obtain ⟨k, hk⟩ := exists_isNumbered_iff.2 hn
      obtain ⟨word, hmem, ds, hds, -, hplace⟩ := beside_of_isNumbered hk
      rw [splitReference_of_beside hds (isLetters_of_command hmem) hplace,
        String.ofList_toList] at hword
      exact hword (exists_command_iff.1 ⟨k, hmem⟩)

/-- What a text is taken for is what its normal form means. -/
theorem means_ofText (body : String) : Means (normalForm body) (ofText body) := by
  rw [ofText_eq]
  split_ifs with hstop hstart
  · exact .stop hstop
  · exact .start hstart
  · refine means_ofCommand (isTidy_normalForm body) ?_
    rw [List.mem_append, not_or]
    exact ⟨hstop, hstart⟩

/-- A text is taken for whatever its normal form means. -/
theorem ofText_of_means {r : Reply} (h : Means (normalForm body) r) : ofText body = r := by
  have hnumbered (k : Command) {id : Int64} {n : ℕ} (hn : n ≤ 9223372036854775807)
      (hid : id.toInt = n) (h : IsNumbered k.words (normalForm body) n) :
      ofText body = k.reply (some id) := by
    rw [ofText_of_isNumbered h, if_pos hn, ← hid, Int64.ofInt_toInt]
  cases h with
  | stop h => rw [ofText_eq, if_pos h]
  | start h =>
    have hother : ∀ word ∈ startWords, word ∉ stopWords := by decide
    rw [ofText_eq, if_neg (hother _ h), if_pos h]
  | acknowledge h => exact ofText_of_mem (k := .acknowledge) h
  | close h => exact ofText_of_mem (k := .close) h
  | acknowledgeAlert hn hid h => exact hnumbered .acknowledge hn hid h
  | closeAlert hn hid h => exact hnumbered .close hn hid h
  | badReference hn h =>
    obtain ⟨k, hk⟩ := exists_isNumbered_iff.2 h
    rw [ofText_of_isNumbered hk, if_neg (Nat.not_le.2 hn)]
  | unknown hword hnumber =>
    by_contra hknown
    rcases known_of_means (means_ofText body) hknown with hmem | ⟨n, hn⟩
    · exact hword hmem
    · exact hnumber n hn

/-- **Every text has the one meaning that its normal form spells.** -/
theorem ofText_eq_iff {r : Reply} : ofText body = r ↔ Means (normalForm body) r := by
  refine ⟨?_, ofText_of_means⟩
  rintro rfl
  exact means_ofText body

/-! ## Actions without an alert -/

/-- An action without an alert comes from one of the words alone. -/
theorem mem_of_action {kind : ActionKind} (h : (ofText body).action = some (kind, none)) :
    normalForm body ∈ stopWords ++ startWords ++ acknowledgeWords ++ closeWords := by
  have hmeans := means_ofText body
  have hknown : ofText body ≠ .unknown := by
    intro hunknown
    rw [hunknown] at h
    cases h
  rcases known_of_means hmeans hknown with hword | ⟨n, hn⟩
  · exact hword
  · obtain ⟨k, hk⟩ := exists_isNumbered_iff.2 hn
    rw [ofText_of_isNumbered hk] at h
    cases k <;> split_ifs at h <;> cases h

/-- **The grammar of replies.** What a text is taken for is what its normal form spells, and nothing
else is known. A text that leads to an action without an alert has no digits; all its characters
are letters of commands, of which the Kelvin sign can be one, and blanks. -/
theorem reply_grammar (body : String) :
    (∀ r, ofText body = r ↔ Means (normalForm body) r) ∧
    (∀ kind, (ofText body).action = some (kind, none) → ∀ c ∈ body.toList,
      isDigit c = false ∧ (isBlank c = true ∨ c.isAlpha = true ∨ c = '\u212A')) := by
  refine ⟨fun r => ofText_eq_iff, fun kind hkind c hc => ?_⟩
  have hletters := isLetters_of_mem _ (mem_of_action hkind)
  have hclass : isBlank c = true ∨ c.isAlpha = true ∨ c = '\u212A' := by
    by_cases hblank : isBlank c = true
    · exact .inl hblank
    · obtain ⟨front, back, hform⟩ := subset_normalForm hc (Bool.not_eq_true _ ▸ hblank)
      exact .inr (isAlpha_or_kelvin fun d hd => hletters.2 d (hform hd))
  refine ⟨?_, hclass⟩
  rcases hclass with hblank | halpha | rfl
  · by_contra hdigit
    rw [Bool.not_eq_false] at hdigit
    rw [not_isBlank_of_isDigit hdigit] at hblank
    cases hblank
  · rw [← Bool.not_eq_true]
    intro hdigit
    have hrange := isDigit_iff.1 hdigit
    rcases isAlpha_iff.1 halpha with ⟨hfirst, -⟩ | ⟨hfirst, -⟩ <;> omega
  · decide

/-- A Kelvin sign spells a word, and a number may begin with zeros. -/
theorem reply_grammar_kelvin :
    (ofText "Ac\u212A").action = some (.acknowledge, none) ∧
      (∀ c ∈ "Ac\u212A".toList,
        isDigit c = false ∧ (isBlank c = true ∨ c.isAlpha = true ∨ c = '\u212A')) ∧
      Means (normalForm "\tClose  0042") (.close (some 42)) := by
  have haction : (ofText "Ac\u212A").action = some (.acknowledge, none) := by decide +kernel
  have hclose : ofText "\tClose  0042" = .close (some 42) := by decide +kernel
  exact ⟨haction, (reply_grammar _).2 _ haction, ((reply_grammar _).1 _).1 hclose⟩

end AlertLine.Reply
