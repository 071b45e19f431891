import AlertLine.Proofs.Voice.ReadBack

/-!
# What is said aloud

The texts that a caller hears, read off the document of an answer. A menu says the texts that it was
made of (`CallMenu.spoken_render`), so a code is said as it comes through
(`CallMenu.spoken_verification`). The text in which details are missing is said by the menus of an
alert that could not be had, and by no other (`CallMenu.fallbackText_mem_spoken_iff`).
-/

namespace AlertLine

namespace Markup

mutual

/-- The texts that an instruction says. -/
def Heard.texts : Heard → List String
  | .say _ _ text => [text]
  | .gather _ _ children => Heard.allTexts children
  | .pause _ => []
  | .hangup => []

/-- The texts that instructions say, in order. -/
def Heard.allTexts : List Heard → List String
  | [] => []
  | v :: vs => v.texts ++ Heard.allTexts vs

end

/-- The texts that a document says, in order. -/
def spoken (document : String) : List String :=
  ((read? document).map Heard.allTexts).getD []

theorem plain_append (text text' : String) : plain (text ++ text') = plain text ++ plain text' := by
  rw [← String.toList_inj, String.toList_append, plain, plain, plain, String.toList_map,
    String.toList_map, String.toList_map, String.toList_append, List.map_append]

/-- A text comes through as it is if each of its characters does. -/
theorem plain_eq_self {text : String} (h : text.toList.map plainChar = text.toList) :
    plain text = text := by
  rw [← String.toList_inj, plain, String.toList_map, h]

/-- Another beginning makes another text. -/
theorem plain_ne {text text' : String} {front back : List Char}
    (htext : text.toList = front ++ back)
    (h : (front.map plainChar).isPrefixOf text'.toList = false) : plain text ≠ text' := by
  rintro rfl
  rw [plain, String.toList_map, htext, List.map_append, ← Bool.not_eq_true,
    List.isPrefixOf_iff_prefix] at h
  exact h (List.prefix_append _ _)

end Markup

namespace CallMenu

/-- The texts of a menu, in order. -/
def texts (keys : MenuKeys) : CallMenu → List String
  | .alert a => [alertText a, instructions keys, "Goodbye."]
  | .alertUnavailable (some _) => [fallbackText, instructions keys, "Goodbye."]
  | .alertUnavailable none => [fallbackText]
  | .confirmation kind => [confirmationText kind]
  | .verification code =>
    [codeText code, "Press any key to hear the code again.", "Goodbye."]
  | .test => [testText]
  | .generic => [genericText]
  | .actionFailed => [apologyText]
  | .hangup => []

/-- **A menu says its texts**, as they come through. -/
theorem spoken_render (s : Settings) (m : CallMenu) :
    Markup.spoken (m.render s) = (m.texts s.keys).map Markup.plain := by
  rw [Markup.spoken, render, Markup.read?_render, Option.map_some, Option.getD_some]
  cases m with
  | alertUnavailable alertId => cases alertId <;> rfl
  | _ => rfl

/-! ## Codes and tests -/

/-- What is said of a code; only the code itself may come through as another. -/
theorem spoken_verification (s : Settings) (code : String) :
    Markup.spoken ((verification code).render s) =
      ["Your verification code is: " ++ Markup.plain code ++ ". Repeat: " ++ Markup.plain code ++
        ".", "Press any key to hear the code again.", "Goodbye."] := by
  have hopening : Markup.plain "Your verification code is: " = "Your verification code is: " :=
    Markup.plain_eq_self (by decide +kernel)
  have hrepeat : Markup.plain ". Repeat: " = ". Repeat: " :=
    Markup.plain_eq_self (by decide +kernel)
  have hend : Markup.plain "." = "." := Markup.plain_eq_self (by decide +kernel)
  have hcode : Markup.plain (codeText code) =
      "Your verification code is: " ++ Markup.plain code ++ ". Repeat: " ++ Markup.plain code ++
        "." := by
    show Markup.plain ("Your verification code is: " ++ code ++ ". Repeat: " ++ code ++ ".") = _
    rw [Markup.plain_append, Markup.plain_append, Markup.plain_append, Markup.plain_append,
      hopening, hrepeat, hend]
  have hagain : Markup.plain "Press any key to hear the code again." =
      "Press any key to hear the code again." := Markup.plain_eq_self (by decide +kernel)
  have hgoodbye : Markup.plain "Goodbye." = "Goodbye." := Markup.plain_eq_self (by decide +kernel)
  rw [spoken_render, texts, List.map_cons, List.map_cons, List.map_cons, List.map_nil, hcode,
    hagain, hgoodbye]

theorem spoken_test (s : Settings) :
    Markup.spoken (test.render s) =
      ["This is a test message from your alerting system. If you are hearing this, your voice " ++
        "configuration is correct."] := by
  have htest : Markup.plain testText =
      "This is a test message from your alerting system. If you are hearing this, your voice " ++
        "configuration is correct." := by
    rw [Markup.plain_eq_self (by decide +kernel)]
    decide +kernel
  rw [spoken_render, texts, List.map_singleton, htest]

/-! ## The menu without details -/

theorem plain_fallbackText : Markup.plain fallbackText = fallbackText :=
  Markup.plain_eq_self (by decide +kernel)

theorem plain_alertText_ne (a : Alert) : Markup.plain (alertText a) ≠ fallbackText := by
  have hopening (rest : String) : Markup.plain ("Alert " ++ rest) ≠ fallbackText :=
    Markup.plain_ne String.toList_append (by decide)
  unfold alertText
  dsimp only
  split_ifs
  · rw [String.append_assoc, String.append_assoc, String.append_assoc]
    exact hopening _
  · rw [String.append_assoc, String.append_assoc, String.append_assoc, String.append_assoc,
      String.append_assoc]
    exact hopening _

theorem plain_instructions_ne (keys : MenuKeys) :
    Markup.plain (instructions keys) ≠ fallbackText := by
  rw [instructions, String.append_assoc, String.append_assoc, String.append_assoc,
    String.append_assoc, String.append_assoc, String.append_assoc]
  exact Markup.plain_ne String.toList_append (by decide)

theorem plain_codeText_ne (code : String) : Markup.plain (codeText code) ≠ fallbackText := by
  show Markup.plain ("Your verification code is: " ++ code ++ ". Repeat: " ++ code ++ ".") ≠ _
  rw [String.append_assoc, String.append_assoc, String.append_assoc]
  exact Markup.plain_ne String.toList_append (by decide)

/-- The texts that are the same in every call. -/
def fixedTexts : List String :=
  ["Goodbye.", "Press any key to hear the code again.", testText, genericText, apologyText] ++
    ActionKind.all.map confirmationText

theorem plain_fixedTexts_ne :
    ∀ text ∈ fixedTexts, Markup.plain text ≠ fallbackText := by
  have hchars : ∀ text ∈ fixedTexts,
      (text.toList.map Markup.plainChar).isPrefixOf fallbackText.toList = false := by decide +kernel
  exact fun text htext => Markup.plain_ne (List.append_nil _).symm (hchars text htext)

/-- The other menus say something else. -/
theorem plain_ne_of_mem_texts {keys : MenuKeys} {m : CallMenu} {text : String}
    (hm : ∀ alertId, m ≠ .alertUnavailable alertId) (htext : text ∈ m.texts keys) :
    Markup.plain text ≠ fallbackText := by
  cases m with
  | alert a =>
    simp only [texts, List.mem_cons, List.not_mem_nil, or_false] at htext
    rcases htext with rfl | rfl | rfl
    · exact plain_alertText_ne a
    · exact plain_instructions_ne keys
    · exact plain_fixedTexts_ne _ (by simp [fixedTexts])
  | alertUnavailable alertId => exact absurd rfl (hm alertId)
  | confirmation kind =>
    rw [List.mem_singleton.1 htext]
    refine plain_fixedTexts_ne _ (List.mem_append_right _ (List.mem_map_of_mem ?_))
    cases kind <;> decide
  | verification code =>
    simp only [texts, List.mem_cons, List.not_mem_nil, or_false] at htext
    rcases htext with rfl | rfl | rfl
    · exact plain_codeText_ne code
    · exact plain_fixedTexts_ne _ (by simp [fixedTexts])
    · exact plain_fixedTexts_ne _ (by simp [fixedTexts])
  | test =>
    rw [List.mem_singleton.1 htext]
    exact plain_fixedTexts_ne _ (by simp [fixedTexts])
  | generic =>
    rw [List.mem_singleton.1 htext]
    exact plain_fixedTexts_ne _ (by simp [fixedTexts])
  | actionFailed =>
    rw [List.mem_singleton.1 htext]
    exact plain_fixedTexts_ne _ (by simp [fixedTexts])
  | hangup => cases htext

/-- **Who hears that details are missing**: the caller for whom an alert could not be had. -/
theorem fallbackText_mem_spoken_iff {s : Settings} {m : CallMenu} :
    fallbackText ∈ Markup.spoken (m.render s) ↔ ∃ alertId, m = .alertUnavailable alertId := by
  rw [spoken_render, List.mem_map]
  refine ⟨?_, ?_⟩
  · rintro ⟨text, htext, hplain⟩
    by_contra hm
    exact plain_ne_of_mem_texts (fun alertId h => hm ⟨alertId, h⟩) htext hplain
  · rintro ⟨alertId, rfl⟩
    refine ⟨fallbackText, ?_, plain_fallbackText⟩
    cases alertId with
    | none => exact List.mem_singleton_self _
    | some alertId => exact List.mem_cons_self

end CallMenu
end AlertLine
