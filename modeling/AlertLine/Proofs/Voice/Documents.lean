import AlertLine.Voice.Menu
import Mathlib.Tactic.Common

/-!
# What a document tells

A document opens with a text, with keys being taken, or with the end of the call, and which of them
it is can be read off its second character. The texts behind which a call ends are fixed, and their
escaped forms differ. So a document that takes no keys tells which menu it is of, whatever is said
in the others (`CallMenu.render_eq_iff`).
-/

namespace AlertLine

namespace Markup

variable {speaker : Speaker}

/-! ## Elements

By computation: Lean's own equations for the two definitions take too long to make.
-/

theorem verbsChars_cons (v : Verb) (vs : List Verb) :
    verbsChars speaker (v :: vs) = verbChars speaker v ++ verbsChars speaker vs := rfl

theorem verbChars_say (text : String) :
    verbChars speaker (.say text) =
      "<Say".toList ++ attributeChars "voice" (escaped speaker.voice) ++
        attributeChars "language" (escaped speaker.language) ++ '>' :: escaped text ++
        "</Say>".toList := rfl

/-! ## Documents -/

/-- What stands in a document between its opening and its close decides which document it is. -/
theorem render_eq_iff {p p' : Prompt} :
    p.render speaker = p'.render speaker ↔
      verbsChars speaker p.verbs = verbsChars speaker p'.verbs := by
  refine ⟨fun h => ?_, fun h => ?_⟩
  · rw [Prompt.render, Prompt.render] at h
    exact List.append_cancel_left (List.append_cancel_right (String.ofList_injective h))
  · rw [Prompt.render, Prompt.render, h]

/-- A text behind which the call ends can be read off the document in its escaped form. -/
theorem sayAndHangup_eq_iff {text text' : String} :
    (CallMenu.sayAndHangup text).render speaker = (CallMenu.sayAndHangup text').render speaker ↔
      escaped text = escaped text' := by
  rw [render_eq_iff]
  simp only [CallMenu.sayAndHangup, verbsChars_cons, verbChars_say, List.append_assoc,
    List.append_cancel_left_eq, List.cons_append, List.cons.injEq, true_and,
    List.append_cancel_right_eq]

/-! ## Openings -/

/-- The character behind the first bracket of a document's contents. -/
def opening (speaker : Speaker) (p : Prompt) : Option Char := (verbsChars speaker p.verbs)[1]?

theorem opening_sayAndHangup (text : String) :
    opening speaker (CallMenu.sayAndHangup text) = some 'S' := rfl

theorem opening_takingKey (children : List Verb) :
    opening speaker (CallMenu.takingKey children) = some 'G' := rfl

theorem opening_hangup : opening speaker ⟨[.hangup]⟩ = some 'H' := rfl

theorem opening_eq {p p' : Prompt} (h : p.render speaker = p'.render speaker) :
    opening speaker p = opening speaker p' := by
  rw [opening, opening, render_eq_iff.1 h]

end Markup

/-! ## Menus -/

namespace CallMenu

variable {m m' : CallMenu} {keys : MenuKeys}

/-- The text behind which the call ends, if a menu is one. -/
def farewell? : CallMenu → Option String
  | .alertUnavailable none => some fallbackText
  | .confirmation kind => some (confirmationText kind)
  | .test => some testText
  | .generic => some genericText
  | .actionFailed => some apologyText
  | _ => none

/-- Whether a menu offers keys to act on an alert. -/
def offersKeys : CallMenu → Bool
  | .alert _ => true
  | .alertUnavailable alertId => alertId.isSome
  | _ => false

/-- Whether keys are taken while a menu plays: those for an alert, or any key behind a code. -/
def takesKeys : CallMenu → Bool
  | .verification _ => true
  | m => m.offersKeys

theorem prompt_of_farewell {text : String} (h : m.farewell? = some text) :
    m.prompt keys = sayAndHangup text := by
  cases m with
  | alertUnavailable alertId => cases alertId <;> cases h; rfl
  | confirmation kind => cases h; rfl
  | test => cases h; rfl
  | generic => cases h; rfl
  | actionFailed => cases h; rfl
  | alert a => cases h
  | verification code => cases h
  | hangup => cases h

theorem prompt_of_takesKeys (keys : MenuKeys) (h : m.takesKeys = true) :
    ∃ children, m.prompt keys = takingKey children := by
  cases m with
  | alert a => exact ⟨_, rfl⟩
  | alertUnavailable alertId =>
    cases alertId with
    | none => cases h
    | some alertId => exact ⟨_, rfl⟩
  | verification code => exact ⟨_, rfl⟩
  | confirmation kind => cases h
  | test => cases h
  | generic => cases h
  | actionFailed => cases h
  | hangup => cases h

/-- The menus behind which a call ends with a text. -/
def farewells : List CallMenu :=
  [.alertUnavailable none, .confirmation .acknowledge, .confirmation .close,
    .confirmation .unsubscribe, .confirmation .resubscribe, .test, .generic, .actionFailed]

/-- A menu takes keys, or ends the call without a text or with one. -/
theorem kinds (m : CallMenu) : m.takesKeys = true ∨ m = .hangup ∨ m ∈ farewells := by
  cases m with
  | alert a => exact .inl rfl
  | alertUnavailable alertId =>
    cases alertId with
    | none => exact .inr (.inr (by decide))
    | some alertId => exact .inl rfl
  | verification code => exact .inl rfl
  | confirmation kind => cases kind <;> exact .inr (.inr (by decide))
  | test => exact .inr (.inr (by decide))
  | generic => exact .inr (.inr (by decide))
  | actionFailed => exact .inr (.inr (by decide))
  | hangup => exact .inr (.inl rfl)

theorem exists_farewell (h : m ∈ farewells) : ∃ text, m.farewell? = some text := by
  have hsome : ∀ m ∈ farewells, m.farewell?.isSome := by decide
  exact Option.isSome_iff_exists.1 (hsome m h)

/-- No two of these menus are said alike. -/
theorem eq_of_escaped_eq :
    ∀ m ∈ farewells, ∀ m' ∈ farewells,
      m.farewell?.map Markup.escaped = m'.farewell?.map Markup.escaped → m = m' := by
  decide +kernel

section Opening

variable {speaker : Speaker}

theorem opening_of_takesKeys (h : m.takesKeys = true) :
    Markup.opening speaker (m.prompt keys) = some 'G' := by
  obtain ⟨children, hprompt⟩ := prompt_of_takesKeys keys h
  rw [hprompt, Markup.opening_takingKey]

theorem opening_of_hangup : Markup.opening speaker (hangup.prompt keys) = some 'H' :=
  Markup.opening_hangup

theorem opening_of_farewell (h : m ∈ farewells) :
    Markup.opening speaker (m.prompt keys) = some 'S' := by
  obtain ⟨text, htext⟩ := exists_farewell h
  rw [prompt_of_farewell htext, Markup.opening_sayAndHangup]

end Opening

/-- **A document that takes no keys tells which menu it is of.** -/
theorem render_eq_iff (s : Settings) (h : m'.takesKeys = false) :
    m.render s = m'.render s ↔ m = m' := by
  refine ⟨fun heq => ?_, fun heq => by rw [heq]⟩
  have hopening := Markup.opening_eq heq
  rcases kinds m' with hkeys' | rfl | hm'
  · rw [h] at hkeys'
    cases hkeys'
  · rw [opening_of_hangup] at hopening
    rcases kinds m with hkeys | rfl | hm
    · rw [opening_of_takesKeys hkeys] at hopening
      exact absurd hopening (by decide)
    · rfl
    · rw [opening_of_farewell hm] at hopening
      exact absurd hopening (by decide)
  · rw [opening_of_farewell hm'] at hopening
    rcases kinds m with hkeys | rfl | hm
    · rw [opening_of_takesKeys hkeys] at hopening
      exact absurd hopening (by decide)
    · rw [opening_of_hangup] at hopening
      exact absurd hopening (by decide)
    · obtain ⟨text, htext⟩ := exists_farewell hm
      obtain ⟨text', htext'⟩ := exists_farewell hm'
      rw [render, render, prompt_of_farewell htext, prompt_of_farewell htext',
        Markup.sayAndHangup_eq_iff] at heq
      refine eq_of_escaped_eq m hm m' hm' ?_
      rw [htext, htext', Option.map_some, Option.map_some, heq]

end CallMenu
end AlertLine
