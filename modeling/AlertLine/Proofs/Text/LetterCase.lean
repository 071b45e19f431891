import AlertLine.Text.LetterCase
import Mathlib.Tactic.Common

/-!
# What lower case keeps

Lowering characters depends on their ASCII case in no way (`lowerChars_toLower`). It makes no blank
out of another character (`not_isBlank_lowerBetween`), and an ASCII letter only out of an ASCII
letter or the Kelvin sign (`isAlpha_or_kelvin`). The last two are read off the table of runs: no run
ends in a blank or, but for the Kelvin sign, in an ASCII letter. Where a character stands matters to
a sigma only, and not beyond the next space (`lowerBehind_append_space`).
-/

namespace AlertLine.Text

/-! ## ASCII letters -/

/-- One of the letters `A` to `Z`. -/
def IsCapital (c : Char) : Prop := 0x41 ≤ c.toNat ∧ c.toNat ≤ 0x5A

/-- One of the letters `a` to `z`. -/
def IsSmallLetter (c : Char) : Prop := 0x61 ≤ c.toNat ∧ c.toNat ≤ 0x7A

instance : DecidablePred IsCapital := fun _ => inferInstanceAs (Decidable (_ ∧ _))

instance : DecidablePred IsSmallLetter := fun _ => inferInstanceAs (Decidable (_ ∧ _))

theorem isAlpha_iff {c : Char} : c.isAlpha = true ↔ IsCapital c ∨ IsSmallLetter c := by
  show (decide (c.val ≥ 'A'.val ∧ c.val ≤ 'Z'.val) ||
    decide (c.val ≥ 'a'.val) && decide (c.val ≤ 'z'.val)) = true ↔ _
  simp only [Bool.or_eq_true, Bool.and_eq_true, decide_eq_true_eq, ge_iff_le,
    UInt32.le_iff_toNat_le]
  exact Iff.rfl

theorem toLower_of_not_capital {c : Char} (h : ¬ IsCapital c) : c.toLower = c := by
  refine dif_neg ?_
  rwa [ge_iff_le, UInt32.le_iff_toNat_le, UInt32.le_iff_toNat_le]

/-- The small letters stand 32 places behind the capitals. -/
theorem toNat_toLower {c : Char} (h : IsCapital c) : c.toLower.toNat = c.toNat + 32 := by
  have hval : c.val ≥ 'A'.val ∧ c.val ≤ 'Z'.val := by
    rwa [ge_iff_le, UInt32.le_iff_toNat_le, UInt32.le_iff_toNat_le]
  have hc := h.2
  have hlower : c.toLower.val = c.val + 32 := congrArg Char.val (dif_pos hval)
  show c.toLower.val.toNat = c.val.toNat + 32
  rw [hlower]
  rw [UInt32.toNat_add]
  exact Nat.mod_eq_of_lt (Nat.lt_of_le_of_lt (Nat.add_le_add_right hc 32) (by decide))

/-- Lowering a lowered character changes nothing. -/
theorem toLower_toLower (c : Char) : c.toLower.toLower = c.toLower := by
  by_cases hcapital : IsCapital c
  · have hlower := toNat_toLower hcapital
    refine toLower_of_not_capital fun hstill => ?_
    have hlast := hstill.2
    have hfirst := hcapital.1
    omega
  · rw [toLower_of_not_capital hcapital, toLower_of_not_capital hcapital]

/-- Lowering a letter gives a letter, and nothing else does. -/
theorem isAlpha_toLower (c : Char) : c.toLower.isAlpha = c.isAlpha := by
  by_cases hcapital : IsCapital c
  · have hsmall : IsSmallLetter c.toLower := by
      have hlower := toNat_toLower hcapital
      obtain ⟨hfirst, hlast⟩ := hcapital
      refine ⟨?_, ?_⟩ <;> omega
    rw [isAlpha_iff.2 (.inl hcapital), isAlpha_iff.2 (.inr hsmall)]
  · rw [toLower_of_not_capital hcapital]

/-- Blanks have no case. -/
theorem isBlank_toLower (c : Char) : isBlank c.toLower = isBlank c := by
  have hletter (d : Char) (hd : 0x41 ≤ d.toNat ∧ d.toNat ≤ 0x7A) : isBlank d = false := by
    simp only [isBlank, Bool.or_eq_false_iff, Bool.and_eq_false_iff, decide_eq_false_iff_not,
      beq_eq_false_iff_ne]
    omega
  by_cases hcapital : IsCapital c
  · have hlower := toNat_toLower hcapital
    obtain ⟨hfirst, hlast⟩ := hcapital
    rw [hletter c (by omega), hletter c.toLower (by omega)]
  · rw [toLower_of_not_capital hcapital]

/-- A lowered character does not depend on its ASCII case. -/
theorem lowerChar_toLower (c : Char) : lowerChar c.toLower = lowerChar c := by
  by_cases hcapital : IsCapital c
  · have hlower := toNat_toLower hcapital
    obtain ⟨hfirst, hlast⟩ := hcapital
    rw [lowerChar_of_ascii c (by omega), lowerChar_of_ascii c.toLower (by omega), toLower_toLower]
  · rw [toLower_of_not_capital hcapital]

/-! ## The table of runs -/

/-- No character of a run has its lower-case form between two code points. -/
def CaseRun.Misses (r : CaseRun) (low high : ℕ) : Prop :=
  (r.last : Int) + r.shift < low ∨ (high : Int) < r.first + r.shift

instance (r : CaseRun) (low high : ℕ) : Decidable (r.Misses low high) :=
  inferInstanceAs (Decidable (_ ∨ _))

/-- The blanks, by ranges of code points. -/
def blankRanges : List (ℕ × ℕ) :=
  [(0x09, 0x0D), (0x20, 0x20), (0x85, 0x85), (0xA0, 0xA0), (0x1680, 0x1680), (0x2000, 0x200A),
    (0x2028, 0x2029), (0x202F, 0x202F), (0x205F, 0x205F), (0x3000, 0x3000)]

theorem isBlank_iff {c : Char} :
    isBlank c = true ↔ ∃ range ∈ blankRanges, range.1 ≤ c.toNat ∧ c.toNat ≤ range.2 := by
  simp only [isBlank, blankRanges, List.mem_cons, List.not_mem_nil, or_false, Bool.or_eq_true,
    Bool.and_eq_true, decide_eq_true_eq, beq_iff_eq, exists_eq_or_imp, exists_eq_left]
  omega

theorem misses_blankRanges :
    ∀ r ∈ caseRuns, ∀ range ∈ blankRanges, r.Misses range.1 range.2 := by
  decide +kernel

/-- Of the runs beyond ASCII only that of the Kelvin sign ends in ASCII letters. -/
theorem misses_smallLetters :
    ∀ r ∈ caseRuns, r.last < 0x80 ∨ (r.first = 0x212A ∧ r.last = 0x212A) ∨ r.Misses 0x61 0x7A := by
  decide +kernel

/-- The code point that a run of characters gives. -/
theorem toNat_shifted {r : CaseRun} {c : Char} (hc : r.first ≤ c.toNat ∧ c.toNat ≤ r.last)
    {low high : ℕ} (hlow : 0 < low) (hmisses : r.Misses low high) :
    ¬ (low ≤ (Char.ofNat ((c.toNat : Int) + r.shift).toNat).toNat ∧
      (Char.ofNat ((c.toNat : Int) + r.shift).toNat).toNat ≤ high) := by
  rw [Char.ofNat]
  by_cases hvalid : ((c.toNat : Int) + r.shift).toNat.isValidChar
  · rw [dif_pos hvalid]
    show ¬ (low ≤ ((c.toNat : Int) + r.shift).toNat ∧ ((c.toNat : Int) + r.shift).toNat ≤ high)
    rcases hmisses with h | h <;> omega
  · -- what is no character becomes the null character
    rw [dif_neg hvalid]
    show ¬ (low ≤ 0 ∧ 0 ≤ high)
    omega

/-- **The characters of a lower-case form.** -/
theorem mem_lowerChar {c d : Char} (h : d ∈ lowerChar c) :
    (c.toNat < 0x80 ∧ d = c.toLower) ∨ (0x80 ≤ c.toNat ∧ d = c) ∨
      (c.toNat = 0x130 ∧ (d = 'i' ∨ d = '\u0307')) ∨
      (0x80 ≤ c.toNat ∧ ∃ r ∈ caseRuns, (r.first ≤ c.toNat ∧ c.toNat ≤ r.last) ∧
        d = Char.ofNat ((c.toNat : Int) + r.shift).toNat) := by
  rw [lowerChar] at h
  split_ifs at h with hascii hdotted
  · exact .inl ⟨hascii, List.mem_singleton.1 h⟩
  · rw [List.mem_cons, List.mem_singleton] at h
    exact .inr (.inr (.inl ⟨beq_iff_eq.1 hdotted, h⟩))
  · cases hrun : caseRuns.find? fun r => r.contains c.toNat with
    | none =>
      rw [hrun] at h
      exact .inr (.inl ⟨by omega, List.mem_singleton.1 h⟩)
    | some r =>
      rw [hrun] at h
      have hcontains := List.find?_some hrun
      simp only [CaseRun.contains, Bool.and_eq_true, decide_eq_true_eq] at hcontains
      exact .inr (.inr (.inr ⟨by omega, r, List.mem_of_find?_eq_some hrun, hcontains.1,
        List.mem_singleton.1 h⟩))

/-! ## What is kept -/

theorem lowerChar_ne_nil (c : Char) : lowerChar c ≠ [] := by
  rw [lowerChar]
  split_ifs
  · exact List.cons_ne_nil _ _
  · exact List.cons_ne_nil _ _
  · split <;> exact List.cons_ne_nil _ _

/-- **A blank comes from a blank.** -/
theorem isBlank_of_mem_lowerChar {c d : Char} (hd : d ∈ lowerChar c) (hblank : isBlank d = true) :
    isBlank c = true := by
  rcases mem_lowerChar hd with ⟨-, rfl⟩ | ⟨-, rfl⟩ | ⟨-, rfl | rfl⟩ | ⟨-, r, hr, hc, rfl⟩
  · rwa [isBlank_toLower] at hblank
  · exact hblank
  · exact absurd hblank (by decide)
  · exact absurd hblank (by decide)
  · obtain ⟨range, hrange, hin⟩ := isBlank_iff.1 hblank
    have hlow : ∀ range ∈ blankRanges, 0 < range.1 := by decide
    exact absurd hin (toNat_shifted hc (hlow range hrange) (misses_blankRanges r hr range hrange))

theorem not_isBlank_lowerChar {c : Char} (h : isBlank c = false) :
    ∀ d ∈ lowerChar c, isBlank d = false := by
  intro d hd
  by_contra hblank
  rw [Bool.not_eq_false] at hblank
  rw [isBlank_of_mem_lowerChar hd hblank] at h
  cases h

/-- What becomes ASCII letters alone is an ASCII letter or the Kelvin sign. The capital I with a dot
has a second character that is none. -/
theorem isAlpha_or_kelvin_of_lowerChar {c : Char} (h : ∀ d ∈ lowerChar c, IsSmallLetter d) :
    c.isAlpha = true ∨ c = '\u212A' := by
  obtain ⟨d, ds, hds⟩ := List.exists_cons_of_ne_nil (lowerChar_ne_nil c)
  have hmem : d ∈ lowerChar c := by
    rw [hds]
    exact List.mem_cons_self
  have hd := h d hmem
  rcases mem_lowerChar hmem with ⟨-, rfl⟩ | ⟨-, rfl⟩ | ⟨hdotted, -⟩ | ⟨hbeyond, r, hr, hc, rfl⟩
  · left
    rw [← isAlpha_toLower]
    exact isAlpha_iff.2 (.inr hd)
  · exact .inl (isAlpha_iff.2 (.inr hd))
  · have hmark : '\u0307' ∈ lowerChar c := by
      rw [lowerChar, if_neg (by omega), if_pos (beq_iff_eq.2 hdotted)]
      decide
    exact absurd (h _ hmark) (by decide)
  · rcases misses_smallLetters r hr with hlast | ⟨hfirst, hlast⟩ | hmisses
    · omega
    · right
      rw [← Char.ofNat_toNat c, show c.toNat = 0x212A by omega]
    · exact absurd hd (toNat_shifted hc (by decide) hmisses)

/-! ## Characters in their places -/

theorem smallSigma_cases (before after : List Char) :
    smallSigma before after = '\u03C2' ∨ smallSigma before after = '\u03C3' := by
  rw [smallSigma]
  split_ifs
  · exact .inl rfl
  · exact .inr rfl

theorem lowerBetween_ne_nil (before : List Char) (c : Char) (after : List Char) :
    lowerBetween before c after ≠ [] := by
  rw [lowerBetween]
  split_ifs
  · exact List.cons_ne_nil _ _
  · exact lowerChar_ne_nil c

/-- A character that is no blank becomes no blank, wherever it stands. -/
theorem not_isBlank_lowerBetween {before after : List Char} {c : Char} (h : isBlank c = false) :
    ∀ d ∈ lowerBetween before c after, isBlank d = false := by
  intro d hd
  rw [lowerBetween] at hd
  split_ifs at hd
  · rw [List.mem_singleton.1 hd]
    rcases smallSigma_cases before after with hsmall | hsmall <;> rw [hsmall] <;> decide
  · exact not_isBlank_lowerChar h d hd

/-- **An ASCII letter comes from an ASCII letter or the Kelvin sign**, wherever it stands. -/
theorem isAlpha_or_kelvin {before after : List Char} {c : Char}
    (h : ∀ d ∈ lowerBetween before c after, IsSmallLetter d) : c.isAlpha = true ∨ c = '\u212A' := by
  rw [lowerBetween] at h
  split_ifs at h
  · have hsmall := h _ (List.mem_singleton.2 rfl)
    rcases smallSigma_cases before after with heq | heq <;> rw [heq] at hsmall <;>
      exact absurd hsmall (by decide)
  · exact isAlpha_or_kelvin_of_lowerChar h

/-- What becomes of characters is what becomes of each in its place. -/
theorem mem_lowerBehind {before cs : List Char} {d : Char} (h : d ∈ lowerBehind before cs) :
    ∃ c ∈ cs, ∃ front back, d ∈ lowerBetween front c back := by
  induction cs generalizing before with
  | nil => cases h
  | cons c cs ih =>
    rcases List.mem_append.1 h with h | h
    · exact ⟨c, List.mem_cons_self, before, cs, h⟩
    · obtain ⟨c', hc', hd⟩ := ih h
      exact ⟨c', List.mem_cons_of_mem c hc', hd⟩

theorem subset_lowerBehind {cs : List Char} {c : Char} (hc : c ∈ cs) (before : List Char) :
    ∃ front back, lowerBetween front c back ⊆ lowerBehind before cs := by
  induction cs generalizing before with
  | nil => cases hc
  | cons c' cs ih =>
    rcases List.mem_cons.1 hc with rfl | hc
    · exact ⟨before, cs, List.subset_append_left _ _⟩
    · obtain ⟨front, back, hsub⟩ := ih hc (c' :: before)
      exact ⟨front, back, List.Subset.trans hsub (List.subset_append_right _ _)⟩

/-! ### The ASCII case -/

/-- What does not tell the capitals from their small letters does not depend on the ASCII case. -/
theorem eq_toLower_of_capitals {α : Type} {f : Char → α}
    (h : ∀ n < 26, f (Char.ofNat (0x41 + n)).toLower = f (Char.ofNat (0x41 + n))) (c : Char) :
    f c.toLower = f c := by
  by_cases hcapital : IsCapital c
  · obtain ⟨hfirst, hlast⟩ := hcapital
    have hsmall := h (c.toNat - 0x41) (by omega)
    rwa [Nat.add_sub_cancel' hfirst, Char.ofNat_toNat] at hsmall
  · rw [toLower_of_not_capital hcapital]

theorem isCased_toLower (c : Char) : isCased c.toLower = isCased c :=
  eq_toLower_of_capitals (by decide +kernel) c

theorem isCaseIgnorable_toLower (c : Char) : isCaseIgnorable c.toLower = isCaseIgnorable c :=
  eq_toLower_of_capitals (by decide +kernel) c

theorem meetsCased_map_toLower (cs : List Char) :
    meetsCased (cs.map Char.toLower) = meetsCased cs := by
  have hskips : isCaseIgnorable ∘ Char.toLower = isCaseIgnorable := funext isCaseIgnorable_toLower
  simp only [meetsCased, List.dropWhile_map, hskips, List.head?_map, Option.any_map,
    isCased_toLower]

/-- A lowered character does not depend on its ASCII case, nor on that of the others. -/
theorem lowerBetween_toLower (before : List Char) (c : Char) (after : List Char) :
    lowerBetween (before.map Char.toLower) c.toLower (after.map Char.toLower) =
      lowerBetween before c after := by
  have hsigma : (c.toLower == capitalSigma) = (c == capitalSigma) :=
    eq_toLower_of_capitals (f := fun d => d == capitalSigma) (by decide) c
  rw [Bool.eq_iff_iff, beq_iff_eq, beq_iff_eq] at hsigma
  simp only [lowerBetween, smallSigma, meetsCased_map_toLower, hsigma, lowerChar_toLower]

theorem lowerBehind_toLower (before cs : List Char) :
    lowerBehind (before.map Char.toLower) (cs.map Char.toLower) = lowerBehind before cs := by
  induction cs generalizing before with
  | nil => rfl
  | cons c cs ih =>
    rw [List.map_cons, lowerBehind, lowerBehind, lowerBetween_toLower, ← ih (c :: before)]
    rfl

/-- **Lowered characters do not depend on their ASCII case.** -/
theorem lowerChars_toLower (cs : List Char) : lowerChars (cs.map Char.toLower) = lowerChars cs :=
  lowerBehind_toLower [] cs

/-! ### Spaces -/

/-- No cased character is looked for beyond a space. -/
theorem meetsCased_append_space (cs rest : List Char) :
    meetsCased (cs ++ ' ' :: rest) = meetsCased cs := by
  induction cs with
  | nil =>
    have hstays : isCaseIgnorable ' ' = false := by decide +kernel
    have hcaseless : isCased ' ' = false := by decide +kernel
    simp [meetsCased, hstays, hcaseless]
  | cons c cs ih =>
    simp only [meetsCased] at ih ⊢
    rw [List.cons_append, List.dropWhile_cons, List.dropWhile_cons]
    split_ifs
    · exact ih
    · rfl

theorem lowerBetween_space (before after : List Char) : lowerBetween before ' ' after = [' '] := by
  have hother : ' ' ≠ capitalSigma := by decide
  rw [lowerBetween, if_neg hother]
  exact lowerChar_of_ascii ' ' (by decide)

/-- What stands in front of a space does not matter behind it. -/
theorem lowerBehind_behind_space (before front cs : List Char) :
    lowerBehind (before ++ ' ' :: front) cs = lowerBehind before cs := by
  induction cs generalizing before with
  | nil => rfl
  | cons c cs ih =>
    have hrest := ih (c :: before)
    rw [lowerBehind, lowerBehind, ← hrest]
    simp only [lowerBetween, smallSigma, meetsCased_append_space, List.cons_append]

/-- **Characters in front of a space are lowered by themselves**, and so are those behind it. -/
theorem lowerBehind_append_space (before cs rest : List Char) :
    lowerBehind before (cs ++ ' ' :: rest) = lowerBehind before cs ++ ' ' :: lowerChars rest := by
  induction cs generalizing before with
  | nil =>
    show lowerBetween before ' ' rest ++ lowerBehind (' ' :: before) rest = _
    rw [lowerBetween_space, lowerChars, ← lowerBehind_behind_space [] before rest]
    rfl
  | cons c cs ih =>
    rw [List.cons_append, lowerBehind, lowerBehind, ih, List.append_assoc]
    simp only [lowerBetween, smallSigma, meetsCased_append_space]

end AlertLine.Text
