import AlertLine.Proofs.Text.Blank
import AlertLine.Proofs.Text.LetterCase
import Mathlib.Data.List.Chain

/-!
# Words and the spaces between them

A text is its words with blanks around them (`Spaced`, `spaced_wordsOf`), and no other words are
read off it (`wordsOf_of_spaced`). Words that are joined by single spaces make a tidy text
(`IsTidy`): trimming the back of a tidy text takes one space at most (`trimChars_of_isTidy`), and
trimming what stands in front of a space takes nothing (`trimChars_front`). Lowering words leaves
them words (`isWord_lowered`).
-/

namespace AlertLine.Text

/-- A run of characters without blanks that is not empty. -/
def IsWord (w : List Char) : Prop := w ≠ [] ∧ ∀ c ∈ w, isBlank c = false

instance : DecidablePred IsWord := fun w =>
  decidable_of_iff (w ≠ [] ∧ w.all (fun c => !isBlank c) = true) (by simp [IsWord])

/-! ## Reading words -/

theorem wordsOf_of_isWord {w : List Char} (h : IsWord w) : wordsOf w = [w] := by
  rw [wordsOf, List.splitOnP_eq_singleton h.2, List.filter_cons_of_pos (by simpa using h.1),
    List.filter_nil]

/-- A blank parts the words in front of it from those behind it. -/
theorem wordsOf_append_blank (front back : List Char) {c : Char} (h : isBlank c = true) :
    wordsOf (front ++ c :: back) = wordsOf front ++ wordsOf back := by
  rw [wordsOf, List.splitOnP_append_cons front back h, List.filter_append]
  rfl

theorem wordsOf_append_of_blanks {gap : List Char} (h : ∀ c ∈ gap, isBlank c = true)
    (cs : List Char) : wordsOf (gap ++ cs) = wordsOf cs := by
  induction gap with
  | nil => rfl
  | cons c gap ih =>
    have hrest := ih fun d hd => h d (List.mem_cons_of_mem c hd)
    rw [List.cons_append, ← List.nil_append (c :: (gap ++ cs)),
      wordsOf_append_blank [] _ (h c List.mem_cons_self), hrest]
    rfl

theorem wordsOf_append_word_blanks {w gap : List Char} (hw : IsWord w)
    (hgap : ∀ c ∈ gap, isBlank c = true) : wordsOf (w ++ gap) = [w] := by
  cases gap with
  | nil => rw [List.append_nil, wordsOf_of_isWord hw]
  | cons c gap =>
    have hrest : wordsOf gap = [] := by
      rw [← List.append_nil gap,
        wordsOf_append_of_blanks fun d hd => hgap d (List.mem_cons_of_mem c hd)]
      rfl
    rw [wordsOf_append_blank w gap (hgap c List.mem_cons_self), wordsOf_of_isWord hw, hrest,
      List.append_nil]

/-- Words with blanks around them, at least one between two words. -/
inductive Spaced : List (List Char) → List Char → Prop
  /-- No words. -/
  | none {gap : List Char} (hgap : ∀ c ∈ gap, isBlank c = true) : Spaced [] gap
  /-- One word. -/
  | one {gap w gap' : List Char} (hgap : ∀ c ∈ gap, isBlank c = true) (hw : IsWord w)
      (hgap' : ∀ c ∈ gap', isBlank c = true) : Spaced [w] (gap ++ (w ++ gap'))
  /-- A word with others behind it. -/
  | cons {gap w cs : List Char} {c : Char} {ws : List (List Char)}
      (hgap : ∀ c ∈ gap, isBlank c = true) (hw : IsWord w) (hc : isBlank c = true)
      (hcs : Spaced ws cs) : Spaced (w :: ws) (gap ++ (w ++ c :: cs))

/-- **The words of a text are those that it is made of.** -/
theorem wordsOf_of_spaced {ws : List (List Char)} {cs : List Char} (h : Spaced ws cs) :
    wordsOf cs = ws := by
  induction h with
  | @none gap hgap =>
    rw [← List.append_nil gap, wordsOf_append_of_blanks hgap]
    rfl
  | one hgap hw hgap' =>
    rw [wordsOf_append_of_blanks hgap, wordsOf_append_word_blanks hw hgap']
  | cons hgap hw hc _ ih =>
    rw [wordsOf_append_of_blanks hgap, wordsOf_append_blank _ _ hc, wordsOf_of_isWord hw, ih,
      List.singleton_append]

/-- Words that are joined by single spaces are read as they are. -/
theorem wordsOf_intercalate {ws : List (List Char)} (h : ∀ w ∈ ws, IsWord w) :
    wordsOf ([' '].intercalate ws) = ws := by
  induction ws with
  | nil => rfl
  | cons w ws ih =>
    rw [List.forall_mem_cons] at h
    cases ws with
    | nil => rw [List.intercalate_singleton, wordsOf_of_isWord h.1]
    | cons w' ws =>
      rw [List.intercalate_cons_cons, List.append_assoc, List.singleton_append,
        wordsOf_append_blank w _ (by decide), wordsOf_of_isWord h.1, ih h.2, List.singleton_append]

/-- A blank in front changes no words. -/
theorem Spaced.cons_blank {ws : List (List Char)} {cs : List Char} {c : Char} (h : Spaced ws cs)
    (hc : isBlank c = true) : Spaced ws (c :: cs) := by
  have hcons {gap : List Char} (hgap : ∀ d ∈ gap, isBlank d = true) :
      ∀ d ∈ c :: gap, isBlank d = true := by
    simpa [hc] using hgap
  cases h with
  | none hgap => exact .none (hcons hgap)
  | one hgap hw hgap' => exact .one (hcons hgap) hw hgap'
  | cons hgap hw hd hcs => exact .cons (hcons hgap) hw hd hcs

/-- Another character in front begins the first word, or is a word of its own. -/
theorem Spaced.cons_of_not_blank {ws : List (List Char)} {cs : List Char} {c : Char}
    (h : Spaced ws cs) (hc : isBlank c = false) : ∃ ws', Spaced ws' (c :: cs) := by
  have hnone : ∀ d ∈ ([] : List Char), isBlank d = true := by simp
  have halone : IsWord [c] := by simpa [IsWord] using hc
  have hlonger {w : List Char} (hw : IsWord w) : IsWord (c :: w) := by
    simpa [IsWord, hc] using hw.2
  cases h with
  | @none gap hgap => exact ⟨_, .one hnone halone hgap⟩
  | @one gap w gap' hgap hw hgap' =>
    cases gap with
    | nil => exact ⟨_, .one hnone (hlonger hw) hgap'⟩
    | cons d gap =>
      rw [List.forall_mem_cons] at hgap
      exact ⟨_, .cons hnone halone hgap.1 (.one hgap.2 hw hgap')⟩
  | @cons gap w cs d ws hgap hw hd hcs =>
    cases gap with
    | nil => exact ⟨_, .cons hnone (hlonger hw) hd hcs⟩
    | cons d' gap =>
      rw [List.forall_mem_cons] at hgap
      exact ⟨_, .cons hnone halone hgap.1 (.cons hgap.2 hw hd hcs)⟩

/-- **Every text is made of the words that are read off it.** -/
theorem spaced_wordsOf (cs : List Char) : Spaced (wordsOf cs) cs := by
  have hexists : ∃ ws, Spaced ws cs := by
    induction cs with
    | nil => exact ⟨[], .none (by simp)⟩
    | cons c cs ih =>
      obtain ⟨ws, hws⟩ := ih
      cases hc : isBlank c with
      | false => exact hws.cons_of_not_blank hc
      | true => exact ⟨ws, hws.cons_blank hc⟩
  obtain ⟨ws, hws⟩ := hexists
  rwa [wordsOf_of_spaced hws]

/-! ## The words that are read -/

theorem not_isBlank_of_mem_splitOnP {cs part : List Char} (h : part ∈ cs.splitOnP isBlank) :
    ∀ c ∈ part, isBlank c = false := by
  induction cs generalizing part with
  | nil =>
    rw [List.splitOnP_nil, List.mem_singleton] at h
    rw [h]
    intro c hc
    cases hc
  | cons d cs ih =>
    rw [List.splitOnP_cons_eq_if_modifyHead] at h
    obtain ⟨first, others, hsplit⟩ :=
      List.exists_cons_of_ne_nil (List.splitOnP_ne_nil isBlank cs)
    rw [hsplit] at h ih
    split_ifs at h with hblank
    · rcases List.mem_cons.1 h with rfl | h
      · intro c hc
        cases hc
      · exact ih h
    · rcases List.mem_cons.1 h with rfl | h
      · intro c hc
        rcases List.mem_cons.1 hc with rfl | hc
        · exact Bool.not_eq_true _ ▸ hblank
        · exact ih List.mem_cons_self c hc
      · exact ih (List.mem_cons_of_mem first h)

theorem isWord_of_mem_wordsOf {cs w : List Char} (h : w ∈ wordsOf cs) : IsWord w := by
  obtain ⟨hpart, hne⟩ := List.mem_filter.1 h
  refine ⟨?_, not_isBlank_of_mem_splitOnP hpart⟩
  rintro rfl
  cases hne

/-- The words hold every character that is no blank. -/
theorem flatten_wordsOf (cs : List Char) :
    (wordsOf cs).flatten = cs.filter fun c => !isBlank c := by
  have hdrop (parts : List (List Char)) :
      (parts.filter fun w => !w.isEmpty).flatten = parts.flatten := by
    induction parts with
    | nil => rfl
    | cons part parts ih => cases part <;> simp [ih]
  rw [wordsOf, hdrop]
  induction cs with
  | nil => rfl
  | cons c cs ih =>
    obtain ⟨first, others, hsplit⟩ :=
      List.exists_cons_of_ne_nil (List.splitOnP_ne_nil isBlank cs)
    rw [hsplit] at ih
    rw [List.splitOnP_cons_eq_if_modifyHead, hsplit, List.filter_cons, ← ih]
    cases isBlank c <;> rfl

/-! ## Tidy texts -/

/-- What follows a blank in a tidy text. -/
def FollowsTidily (c d : Char) : Prop := isBlank c = true → c = ' ' ∧ isBlank d = false

/-- Characters whose blanks are single spaces between other characters. The space in front stands
for their beginning. -/
structure IsTidy (cs : List Char) : Prop where
  spaces : (' ' :: cs).IsChain FollowsTidily
  last : ∀ c ∈ cs.getLast?, isBlank c = false

theorem IsTidy.of_isWord {w : List Char} (h : IsWord w) : IsTidy w := by
  refine ⟨?_, fun c hc => h.2 c (List.mem_of_mem_getLast? hc)⟩
  have hchain : ∀ c, ∀ cs : List Char, (∀ d ∈ cs, isBlank d = false) →
      (isBlank c = true → c = ' ') → (c :: cs).IsChain FollowsTidily := by
    intro c cs
    induction cs generalizing c with
    | nil => exact fun _ _ => List.IsChain.singleton c
    | cons d cs ih =>
      intro hcs hc
      have hd := hcs d List.mem_cons_self
      refine List.IsChain.cons_cons (fun hblank => ⟨hc hblank, hd⟩)
        (ih d (fun e he => hcs e (List.mem_cons_of_mem d he)) fun hblank => ?_)
      rw [hd] at hblank
      cases hblank
  exact hchain ' ' w h.2 fun _ => rfl

/-- **Words joined by single spaces are tidy.** -/
theorem isTidy_intercalate {ws : List (List Char)} (h : ∀ w ∈ ws, IsWord w) :
    IsTidy ([' '].intercalate ws) := by
  induction ws with
  | nil =>
    refine ⟨List.IsChain.singleton ' ', ?_⟩
    intro c hc
    cases hc
  | cons w ws ih =>
    have hw := h w List.mem_cons_self
    cases ws with
    | nil =>
      rw [List.intercalate_singleton]
      exact .of_isWord hw
    | cons w' ws =>
      have hrest := ih fun v hv => h v (List.mem_cons_of_mem w hv)
      have hne : [' '].intercalate (w' :: ws) ≠ [] := by
        have hw' := (h w' (List.mem_cons_of_mem w List.mem_cons_self)).1
        cases ws <;> simp [hw']
      rw [List.intercalate_cons_cons, List.append_assoc, List.singleton_append]
      refine ⟨?_, ?_⟩
      · rw [← List.cons_append]
        refine List.IsChain.append (IsTidy.of_isWord hw).spaces hrest.spaces ?_
        -- a word ends in no blank
        intro c hc d _ hblank
        rw [List.getLast?_cons_of_ne_nil hw.1] at hc
        rw [hw.2 c (List.mem_of_mem_getLast? hc)] at hblank
        cases hblank
      · rw [List.getLast?_append_cons, List.getLast?_cons_of_ne_nil hne]
        exact hrest.last

theorem trimChars_cons_blank {c : Char} (h : isBlank c = true) (cs : List Char) :
    trimChars (c :: cs) = trimChars cs := by
  rw [trimChars, List.dropWhile_cons_of_pos h]
  rfl

/-- **Trimming the back of a tidy text takes one space at most.** -/
theorem trimChars_of_isTidy {front back : List Char} (h : IsTidy (front ++ back)) :
    trimChars back = back ∨ back = ' ' :: trimChars back := by
  have hchain : back.IsChain FollowsTidily := by
    have hspaces := h.spaces
    rw [← List.cons_append] at hspaces
    exact hspaces.right_of_append
  have hlast : ∀ c ∈ back.getLast?, isBlank c = false := fun c hc =>
    h.last c (List.mem_getLast?_append_of_mem_getLast? hc)
  cases back with
  | nil => exact .inl rfl
  | cons c cs =>
    by_cases hblank : isBlank c = true
    · right
      cases cs with
      | nil =>
        rw [hlast c rfl] at hblank
        cases hblank
      | cons d cs =>
        obtain ⟨hspace, hd⟩ := (List.isChain_cons_cons.1 hchain).1 hblank
        rw [trimChars_cons_blank hblank, trimChars_of_ends, hspace]
        · intro e he
          cases he
          exact hd
        · exact fun e he => hlast e (List.mem_getLast?_cons he)
    · left
      refine trimChars_of_ends ?_ hlast
      intro d hd
      cases hd
      exact Bool.not_eq_true _ ▸ hblank

/-- What stands in front of a space in a tidy text is trimmed. -/
theorem trimChars_front {front back : List Char} (h : IsTidy (front ++ ' ' :: back)) :
    trimChars front = front := by
  have hspaces := h.spaces
  refine trimChars_of_ends ?_ ?_
  · intro c hc
    cases front with
    | nil => cases hc
    | cons d front =>
      cases hc
      exact ((List.isChain_cons_cons.1 hspaces).1 (by decide)).2
  · intro c hc
    rw [← List.cons_append] at hspaces
    have hlast := (List.isChain_append.1 hspaces).2.2 c (List.mem_getLast?_cons hc) ' ' rfl
    by_contra hblank
    rw [Bool.not_eq_false] at hblank
    exact absurd (hlast hblank).2 (by decide)

/-! ## Lowered words -/

theorem isWord_lowered {w : List Char} (h : IsWord w) : IsWord (lowerChars w) := by
  refine ⟨?_, ?_⟩
  · obtain ⟨c, cs, rfl⟩ := List.exists_cons_of_ne_nil h.1
    exact List.append_ne_nil_of_left_ne_nil (lowerBetween_ne_nil [] c cs) _
  · intro d hd
    obtain ⟨c, hc, front, back, hdc⟩ := mem_lowerBehind hd
    exact not_isBlank_lowerBetween (h.2 c hc) d hdc

/-- Words that are joined by single spaces are lowered one by one. -/
theorem lowerChars_intercalate (ws : List (List Char)) :
    lowerChars ([' '].intercalate ws) = [' '].intercalate (ws.map lowerChars) := by
  induction ws with
  | nil => rfl
  | cons w ws ih =>
    cases ws with
    | nil => rw [List.map_singleton, List.intercalate_singleton, List.intercalate_singleton]
    | cons w' ws =>
      rw [List.map_cons] at ih
      rw [List.map_cons, List.map_cons, List.intercalate_cons_cons, List.intercalate_cons_cons,
        List.append_assoc, List.singleton_append, lowerChars, lowerBehind_append_space, ih,
        List.append_assoc, List.singleton_append]
      rfl

end AlertLine.Text
