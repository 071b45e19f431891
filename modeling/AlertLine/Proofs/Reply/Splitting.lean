import AlertLine.Proofs.Text.Decimal
import AlertLine.Proofs.Text.Words
import AlertLine.Reply

/-!
# How a reply is taken apart

A text is compared in its normal form, which is tidy (`isTidy_normalForm`). There the alert number
of a command is looked for in three places: in front of the word, glued or apart, and behind it. It
is found in each of them (`splitReference_of_beside`) and nowhere else (`splitReference_cases`).
-/

namespace AlertLine.Reply

open Text Decimal

/-! ## Normal forms -/

theorem toList_normalForm (body : String) :
    (normalForm body).toList =
      [' '].intercalate ((wordsOf body.toList).map lowerChars) := by
  have hwords : (Text.words body).map String.toList = wordsOf body.toList := by
    rw [Text.words, List.map_map]
    exact List.map_id'' (fun w => String.toList_ofList) _
  rw [normalForm, lower, String.toList_ofList, String.toList_intercalate, hwords]
  exact lowerChars_intercalate _

/-- A normal form is tidy. -/
theorem isTidy_normalForm (body : String) : IsTidy (normalForm body).toList := by
  rw [toList_normalForm]
  refine isTidy_intercalate fun w hw => ?_
  obtain ⟨v, hv, rfl⟩ := List.mem_map.1 hw
  exact isWord_lowered (isWord_of_mem_wordsOf hv)

/-- A character that is no blank leaves a lower-case form in the normal form, by where it stands. -/
theorem subset_normalForm {body : String} {c : Char} (hc : c ∈ body.toList)
    (hblank : isBlank c = false) :
    ∃ front back, lowerBetween front c back ⊆ (normalForm body).toList := by
  have hflat : c ∈ (wordsOf body.toList).flatten := by
    rw [flatten_wordsOf, List.mem_filter]
    exact ⟨hc, by rw [hblank]; rfl⟩
  obtain ⟨w, hw, hcw⟩ := List.mem_flatten.1 hflat
  obtain ⟨front, back, hlowered⟩ := subset_lowerBehind hcw []
  refine ⟨front, back, fun d hd => ?_⟩
  rw [toList_normalForm]
  have hjoined (ws : List (List Char)) (v : List Char) (hv : v ∈ ws) (hdv : d ∈ v) :
      d ∈ [' '].intercalate ws := by
    induction ws with
    | nil => cases hv
    | cons u us ih =>
      cases us with
      | nil =>
        rw [List.intercalate_singleton]
        rwa [← List.mem_singleton.1 hv]
      | cons u' us =>
        rw [List.intercalate_cons_cons, List.mem_append]
        rcases List.mem_cons.1 hv with rfl | hv
        · exact .inl (List.mem_append_left _ hdv)
        · exact .inr (ih hv)
  exact hjoined _ _ (List.mem_map_of_mem hw) (hlowered hd)

/-! ## Letters and digits -/

/-- Small letters, at least one. -/
def IsLetters (w : List Char) : Prop := w ≠ [] ∧ ∀ c ∈ w, IsSmallLetter c

instance : DecidablePred IsLetters := fun w =>
  decidable_of_iff (w ≠ [] ∧ w.all (fun c => IsSmallLetter c) = true) (by simp [IsLetters])

/-- Digits, at least one. -/
def IsNumber (ds : List Char) : Prop := ds ≠ [] ∧ ∀ d ∈ ds, isDigit d = true

theorem isDigit_of_isSmallLetter {c : Char} (h : IsSmallLetter c) : isDigit c = false := by
  rw [← Bool.not_eq_true, isDigit_iff]
  have hfirst := h.1
  omega

theorem ne_space_of_isSmallLetter {c : Char} (h : IsSmallLetter c) : c ≠ ' ' := by
  rintro rfl
  exact absurd h (by decide)

theorem ne_space_of_isDigit {c : Char} (h : isDigit c = true) : c ≠ ' ' := by
  rintro rfl
  exact absurd h (by decide)

/-- Letters are not trimmed. -/
theorem trimChars_of_isLetters {w : List Char} (h : IsLetters w) : trimChars w = w := by
  have hblank : ∀ c ∈ w, isBlank c = false := by
    intro c hc
    obtain ⟨hfirst, hlast⟩ := h.2 c hc
    simp only [isBlank, Bool.or_eq_false_iff, Bool.and_eq_false_iff, decide_eq_false_iff_not,
      beq_eq_false_iff_ne]
    omega
  exact trimChars_of_ends (fun c hc => hblank c (List.mem_of_mem_head? hc))
    fun c hc => hblank c (List.mem_of_mem_getLast? hc)

/-! ## The last space -/

theorem splitAtLastSpace_append (front : List Char) {last : List Char} (h : ' ' ∉ last) :
    splitAtLastSpace (front ++ ' ' :: last) = some (front, last) := by
  have hlast : ∀ c ∈ last.reverse, (c != ' ') = true := by
    intro c hc
    rw [bne_iff_ne]
    rintro rfl
    exact h (List.mem_reverse.1 hc)
  have hrev : (front ++ ' ' :: last).reverse = last.reverse ++ ' ' :: front.reverse := by
    rw [List.reverse_append, List.reverse_cons, List.append_assoc, List.singleton_append]
  have htake : (' ' :: front.reverse).takeWhile (· != ' ') = [] := rfl
  have hdrop : (' ' :: front.reverse).dropWhile (· != ' ') = ' ' :: front.reverse := rfl
  rw [splitAtLastSpace, hrev, List.takeWhile_append_of_pos hlast,
    List.dropWhile_append_of_pos hlast, htake, hdrop, List.append_nil, List.reverse_reverse]
  simp only [List.reverse_reverse]

theorem splitAtLastSpace_of_not_mem {cs : List Char} (h : ' ' ∉ cs) :
    splitAtLastSpace cs = none := by
  have hdrop : cs.reverse.dropWhile (· != ' ') = [] := by
    rw [List.dropWhile_eq_nil_iff]
    intro c hc
    rw [bne_iff_ne]
    rintro rfl
    exact h (List.mem_reverse.1 hc)
  rw [splitAtLastSpace, hdrop]

/-- The text behind the last space has none. -/
theorem eq_of_splitAtLastSpace {cs front last : List Char}
    (h : splitAtLastSpace cs = some (front, last)) : cs = front ++ ' ' :: last := by
  by_cases hspace : ' ' ∈ cs
  · obtain ⟨before, after, hcs, hafter⟩ := List.eq_append_cons_of_mem (List.mem_reverse.2 hspace)
    have hcs' : cs = after.reverse ++ ' ' :: before.reverse := by
      rw [← List.reverse_reverse cs, hcs, List.reverse_append, List.reverse_cons,
        List.append_assoc, List.singleton_append]
    rw [hcs', splitAtLastSpace_append _ fun hmem => hafter (List.mem_reverse.1 hmem)] at h
    cases h
    exact hcs'
  · rw [splitAtLastSpace_of_not_mem hspace] at h
    cases h

/-! ## The number beside a word -/

/-- Digits beside a word, in front of it, glued or apart, or behind it. -/
def Beside (digits word text : List Char) : Prop :=
  text = digits ++ ' ' :: word ∨ text = digits ++ word ∨ text = word ++ ' ' :: digits

variable {cs w ds : List Char}

theorem splitReference_of_digits {rest : List Char} (hds : IsNumber ds)
    (hrest : ∀ c ∈ rest.head?, isDigit c = false) :
    splitReference (ds ++ rest) = (.ofDigits ds, trimChars rest) := by
  have htake : rest.takeWhile isDigit = [] := by
    cases rest with
    | nil => rfl
    | cons c rest => rw [List.takeWhile_cons_of_neg]; simp [hrest c rfl]
  have hdrop : rest.dropWhile isDigit = rest := by
    cases rest with
    | nil => rfl
    | cons c rest => rw [List.dropWhile_cons_of_neg]; simp [hrest c rfl]
  rw [splitReference, List.takeWhile_append_of_pos hds.2, List.dropWhile_append_of_pos hds.2,
    htake, hdrop, List.append_nil]
  exact if_pos (by simpa using hds.1)

theorem splitReference_of_no_digits (hhead : ∀ c ∈ cs.head?, isDigit c = false) :
    splitReference cs =
      match splitAtLastSpace cs with
      | some (front, last) =>
        if !last.isEmpty && last.all isDigit then (.ofDigits last, trimChars front)
        else (.absent, cs)
      | none => (.absent, cs) := by
  have htake : cs.takeWhile isDigit = [] := by
    cases cs with
    | nil => rfl
    | cons c cs => rw [List.takeWhile_cons_of_neg]; simp [hhead c rfl]
  rw [splitReference, htake]
  rfl

theorem not_isDigit_head (hw : IsLetters w) (rest : List Char) :
    ∀ c ∈ (w ++ rest).head?, isDigit c = false := by
  obtain ⟨d, w, rfl⟩ := List.exists_cons_of_ne_nil hw.1
  intro c hc
  cases hc
  exact isDigit_of_isSmallLetter (hw.2 d List.mem_cons_self)

/-- A word alone has no number. -/
theorem splitReference_of_isLetters (hw : IsLetters w) : splitReference w = (.absent, w) := by
  have hspace : ' ' ∉ w := fun h => ne_space_of_isSmallLetter (hw.2 _ h) rfl
  have hhead := not_isDigit_head hw []
  rw [List.append_nil] at hhead
  rw [splitReference_of_no_digits hhead, splitAtLastSpace_of_not_mem hspace]

/-- **The number is found in each of the three places.** -/
theorem splitReference_of_beside (hds : IsNumber ds) (hw : IsLetters w) (h : Beside ds w cs) :
    splitReference cs = (.ofDigits ds, w) := by
  rcases h with rfl | rfl | rfl
  · rw [splitReference_of_digits hds, trimChars_cons_blank (by decide), trimChars_of_isLetters hw]
    intro c hc
    cases hc
    decide
  · have hhead := not_isDigit_head hw []
    rw [List.append_nil] at hhead
    rw [splitReference_of_digits hds hhead, trimChars_of_isLetters hw]
  · have hspace : ' ' ∉ ds := fun h => ne_space_of_isDigit (hds.2 _ h) rfl
    have hnumber : (!ds.isEmpty && ds.all isDigit) = true := by
      rw [Bool.and_eq_true, List.all_eq_true]
      exact ⟨by simpa using hds.1, hds.2⟩
    rw [splitReference_of_no_digits (not_isDigit_head hw _), splitAtLastSpace_append w hspace]
    simp only [hnumber, if_true, trimChars_of_isLetters hw]

/-- **The number of a tidy text is found nowhere else.** -/
theorem splitReference_cases (htidy : IsTidy cs) :
    splitReference cs = (.absent, cs) ∨
      ∃ ds, IsNumber ds ∧ (splitReference cs).1 = .ofDigits ds ∧
        Beside ds (splitReference cs).2 cs := by
  by_cases hds : cs.takeWhile isDigit = []
  · -- no digits in front: the number may stand behind the last space
    have hhead : ∀ c ∈ cs.head?, isDigit c = false := by
      intro c hc
      cases cs with
      | nil => cases hc
      | cons d cs =>
        cases hc
        rw [← Bool.not_eq_true]
        intro hdigit
        rw [List.takeWhile_cons_of_pos hdigit] at hds
        cases hds
    rw [splitReference_of_no_digits hhead]
    cases hsplit : splitAtLastSpace cs with
    | none => exact .inl rfl
    | some parts =>
      obtain ⟨front, last⟩ := parts
      have hcs := eq_of_splitAtLastSpace hsplit
      by_cases hnumber : (!last.isEmpty && last.all isDigit) = true
      · right
        simp only [hnumber, if_true]
        rw [Bool.and_eq_true, List.all_eq_true] at hnumber
        refine ⟨last, ⟨by simpa using hnumber.1, hnumber.2⟩, rfl, .inr (.inr ?_)⟩
        rw [hcs] at htidy
        rw [trimChars_front htidy]
        exact hcs
      · left
        simp only [hnumber]
        rfl
  · -- digits in front: one space at most is trimmed behind them
    right
    have hcs : cs.takeWhile isDigit ++ cs.dropWhile isDigit = cs := List.takeWhile_append_dropWhile
    have hnumber : IsNumber (cs.takeWhile isDigit) := ⟨hds, fun d hd => List.mem_takeWhile_imp hd⟩
    have hsplit : splitReference cs =
        (.ofDigits (cs.takeWhile isDigit), trimChars (cs.dropWhile isDigit)) := by
      rw [splitReference]
      exact if_pos (by simpa using hds)
    rw [hsplit]
    refine ⟨_, hnumber, rfl, ?_⟩
    rw [← hcs] at htidy
    rcases trimChars_of_isTidy htidy with htrim | htrim
    · refine .inr (.inl ?_)
      rw [htrim]
      exact hcs.symm
    · refine .inl ?_
      rw [← htrim]
      exact hcs.symm

/-- Digits name an alert exactly if their value is that of a signed number of 64 bits. -/
theorem ofDigits_eq (hds : IsNumber ds) :
    Reference.ofDigits ds =
      if value ds ≤ 9223372036854775807 then .id (Int64.ofInt (value ds)) else .unreadable := by
  obtain ⟨d, rest, hcons⟩ := List.exists_cons_of_ne_nil hds.1
  have hd : isDigit d = true := hds.2 d (by rw [hcons]; exact List.mem_cons_self)
  rw [Reference.ofDigits, readInt64_of_digits ((String.toList_ofList).trans hcons) hd,
    String.toList_ofList, readNat_eq_of_digits _ _ hds.1 hds.2]
  by_cases hvalue : value ds ≤ 9223372036854775807
  · rw [if_pos hvalue, if_pos (show value ds ≤ UInt64.size / 2 - 1 from hvalue)]
    rfl
  · rw [if_neg hvalue, if_neg (show ¬ value ds ≤ UInt64.size / 2 - 1 from hvalue)]
    rfl

end AlertLine.Reply
