import AlertLine.Delivery
import AlertLine.Proofs.Text.Words

/-!
# The statuses of calls

Two tables read the status of a call: whether the call is over, and where it stands. Both read it
without the blanks around it and in whatever case. A call is over exactly for five words
(`callHasEnded_iff`), and for each of them the second table has a state in which nothing moves any
more (`exists_final_state`).
-/

namespace AlertLine

open Text

/-! ## Keywords -/

theorem toList_keyword (s : String) :
    (keyword s).toList = (trimChars s.toList).map Char.toLower := by
  rw [keyword, asciiLower, trim, String.toList_ofList, String.toList_ofList]

/-- A text is compared without the blanks at its ends, and in whatever case. -/
theorem keyword_eq_iff {s word : String} (hword : ∀ c ∈ word.toList, isBlank c = false) :
    keyword s = word ↔ ∃ front core back, (∀ c ∈ front, isBlank c = true) ∧
      (∀ c ∈ back, isBlank c = true) ∧ s.toList = front ++ core ++ back ∧
      core.map Char.toLower = word.toList := by
  rw [← String.toList_inj, toList_keyword]
  refine ⟨fun h => ?_, ?_⟩
  · obtain ⟨front, back, hfront, hback, hs⟩ := exists_trimChars s.toList
    exact ⟨front, _, back, hfront, hback, hs, h⟩
  · rintro ⟨front, core, back, hfront, hback, hs, hcore⟩
    have hblank : ∀ c ∈ core, isBlank c = false := by
      intro c hc
      rw [← isBlank_toLower]
      refine hword _ ?_
      rw [← hcore]
      exact List.mem_map_of_mem hc
    rw [hs, trimChars_append hfront hblank hback, hcore]

/-! ## Calls that are over -/

/-- The words for a call that is over. -/
def endedWords : List String := ["completed", "busy", "no-answer", "failed", "canceled"]

/-- Whether a status is one of the words for a call that is over, in whatever case and with blanks
around it or not. -/
def IsEnded (status : String) : Prop :=
  ∃ word ∈ endedWords, ∃ front core back, (∀ c ∈ front, isBlank c = true) ∧
    (∀ c ∈ back, isBlank c = true) ∧ status.toList = front ++ core ++ back ∧
    core.map Char.toLower = word.toList

theorem callHasEnded_iff_keyword {status : String} :
    callHasEnded status = true ↔ keyword status ∈ endedWords := by
  unfold callHasEnded
  split <;> simp_all [endedWords]

/-- **A call is over for the words for it, and for nothing else.** -/
theorem callHasEnded_iff {status : String} : callHasEnded status = true ↔ IsEnded status := by
  have hwords : ∀ word ∈ endedWords, IsWord word.toList := by decide
  rw [callHasEnded_iff_keyword]
  refine ⟨fun h => ?_, ?_⟩
  · exact ⟨_, h, (keyword_eq_iff (hwords _ h).2).1 rfl⟩
  · rintro ⟨word, hword, hstatus⟩
    rwa [(keyword_eq_iff (hwords word hword).2).2 hstatus]

/-- **A call that is over stands where nothing moves any more.** -/
theorem exists_final_state {status : String} (h : callHasEnded status = true) :
    ∃ state ∈ [DeliveryState.delivered, .failedTransient, .failedPermanent],
      DeliveryState.ofCallStatus? status = some state := by
  rw [callHasEnded_iff_keyword] at h
  unfold DeliveryState.ofCallStatus?
  rw [endedWords] at h
  simp only [List.mem_cons, List.not_mem_nil, or_false] at h
  rcases h with h | h | h | h | h <;> simp [h]

end AlertLine
