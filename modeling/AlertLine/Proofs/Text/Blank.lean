import AlertLine.Text.Blank
import Mathlib.Data.List.Basic
import Mathlib.Data.List.TakeWhile
import Mathlib.Tactic.Common

/-!
# Trimming

A text without blanks at its ends is left alone (`trimChars_of_ends`), what is left of any text has
none there (`head?_trimChars`, `getLast?_trimChars`), and nothing is left of a text exactly if it is
blank (`isEmpty_trim`).
-/

namespace AlertLine.Text

/-- Characters that begin and end with no blank are trimmed. -/
theorem trimChars_of_ends {cs : List Char} (hhead : ∀ c ∈ cs.head?, isBlank c = false)
    (hlast : ∀ c ∈ cs.getLast?, isBlank c = false) : trimChars cs = cs := by
  have dropWhile_of_head {ds : List Char} (h : ∀ c ∈ ds.head?, isBlank c = false) :
      ds.dropWhile isBlank = ds := by
    cases ds with
    | nil => rfl
    | cons d ds => rw [List.dropWhile_cons_of_neg]; simp [h d rfl]
  rw [trimChars, dropWhile_of_head hhead, dropWhile_of_head, List.reverse_reverse]
  rwa [List.head?_reverse]

theorem not_isBlank_of_mem_head?_dropWhile {cs : List Char} :
    ∀ c ∈ (cs.dropWhile isBlank).head?, isBlank c = false := by
  intro c hc
  have hhead := List.head?_dropWhile_not isBlank cs
  rw [Option.mem_def.1 hc] at hhead
  exact hhead

/-- What is left begins with no blank. -/
theorem head?_trimChars (cs : List Char) : ∀ c ∈ (trimChars cs).head?, isBlank c = false := by
  intro c hc
  rw [trimChars, List.head?_reverse] at hc
  -- dropping the blanks at the end leaves the first character where it is
  have hsuffix : (cs.dropWhile isBlank).reverse.dropWhile isBlank <:+
      (cs.dropWhile isBlank).reverse := List.dropWhile_suffix isBlank
  obtain ⟨blanks, hblanks⟩ := hsuffix
  have hfirst : c ∈ (cs.dropWhile isBlank).reverse.getLast? := by
    rw [← hblanks]
    exact List.mem_getLast?_append_of_mem_getLast? hc
  rw [List.getLast?_reverse] at hfirst
  exact not_isBlank_of_mem_head?_dropWhile c hfirst

/-- What is left ends in no blank. -/
theorem getLast?_trimChars (cs : List Char) :
    ∀ c ∈ (trimChars cs).getLast?, isBlank c = false := by
  rw [trimChars, List.getLast?_reverse]
  exact not_isBlank_of_mem_head?_dropWhile

/-- A text without blanks is trimmed. -/
theorem trim_of_forall_not_blank {s : String} (h : ∀ c ∈ s.toList, isBlank c = false) :
    trim s = s := by
  rw [trim, trimChars_of_ends, String.ofList_toList]
  · exact fun c hc => h c (List.mem_of_mem_head? hc)
  · exact fun c hc => h c (List.mem_of_mem_getLast? hc)

/-- Trimming takes the blanks off both ends. -/
theorem trimChars_append {front cs back : List Char} (hfront : ∀ c ∈ front, isBlank c = true)
    (hcs : ∀ c ∈ cs, isBlank c = false) (hback : ∀ c ∈ back, isBlank c = true) :
    trimChars (front ++ cs ++ back) = cs := by
  have hends := trimChars_of_ends (fun c hc => hcs c (List.mem_of_mem_head? hc))
    fun c hc => hcs c (List.mem_of_mem_getLast? hc)
  rw [trimChars, List.append_assoc, List.dropWhile_append_of_pos hfront]
  cases cs with
  | nil => rw [List.nil_append, List.dropWhile_eq_nil_iff.2 hback]; rfl
  | cons c cs =>
    have hc := hcs c List.mem_cons_self
    have hback' : ∀ d ∈ back.reverse, isBlank d = true := by simpa using hback
    rw [trimChars, List.dropWhile_cons_of_neg (by simp [hc])] at hends
    rw [List.cons_append, List.dropWhile_cons_of_neg (by simp [hc]), ← List.cons_append,
      List.reverse_append, List.dropWhile_append_of_pos hback', hends]

/-- A text is what is left of it when it is trimmed, with blanks at its ends. -/
theorem exists_trimChars (cs : List Char) :
    ∃ front back, (∀ c ∈ front, isBlank c = true) ∧ (∀ c ∈ back, isBlank c = true) ∧
      cs = front ++ trimChars cs ++ back := by
  refine ⟨cs.takeWhile isBlank, ((cs.dropWhile isBlank).reverse.takeWhile isBlank).reverse,
    fun c => List.mem_takeWhile_imp, ?_, ?_⟩
  · intro c hc
    exact List.mem_takeWhile_imp (List.mem_reverse.1 hc)
  · rw [trimChars, List.append_assoc, ← List.reverse_append, List.takeWhile_append_dropWhile,
      List.reverse_reverse, List.takeWhile_append_dropWhile]

/-- Trimming leaves nothing of a text exactly if it is blank. -/
theorem isEmpty_trim (s : String) : (trim s).isEmpty = isBlankText s := by
  rw [Bool.eq_iff_iff, String.isEmpty_iff, ← String.toList_eq_nil_iff, trim, isBlankText,
    trimChars, String.toList_ofList, List.reverse_eq_nil_iff, List.dropWhile_eq_nil_iff,
    List.all_eq_true]
  refine ⟨fun hdropped c hc => ?_, fun hblank c hc => ?_⟩
  · rw [← List.takeWhile_append_dropWhile (p := isBlank) (l := s.toList),
      List.mem_append] at hc
    exact hc.elim List.mem_takeWhile_imp fun hc => hdropped c (List.mem_reverse.2 hc)
  · exact hblank c (List.dropWhile_subset _ (List.mem_reverse.1 hc))

end AlertLine.Text
