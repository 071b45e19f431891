import AlertLine.Proofs.Settings.Accepted
import AlertLine.Proofs.Text.Words
import AlertLine.Proofs.Voice.Documents

/-!
# What the keys of a menu do

A menu announces its keys in a sentence, and a key can be told from the words behind it
(`CallMenu.Announces`). With keys that are accepted the sentence names one key for each action that
a menu offers (`CallMenu.announces_iff`), and this is the key that is acted on: whichever way the
settings came about, every pressed text does what was announced for it, and nothing if nothing was
(`Settings.keypad_as_announced`).
-/

namespace AlertLine

/-! ## Announcements -/

namespace CallMenu

/-- The text that is spoken last while keys are taken. -/
def announcement? (p : Prompt) : Option String :=
  match p.verbs with
  | .gather _ _ children :: _ =>
    match children.getLast? with
    | some (.say text) => some text
    | _ => none
  | _ => none

/-- The words behind the key for an action. -/
def wordsForKey : ActionKind → Option (List String)
  | .acknowledge => some ["to", "acknowledge,"]
  | .close => some ["to", "close,"]
  | .unsubscribe => some ["to", "stop", "all", "calls"]
  | .resubscribe => none

/-- A prompt announces a key for an action: the key stands in front of the words for it. -/
def Announces (p : Prompt) (kind : ActionKind) (key : String) : Prop :=
  ∃ text ∈ announcement? p, ∃ words ∈ wordsForKey kind, key :: words <:+: Text.words text

/-- The words in which keys are announced. -/
def announcedWords (keys : MenuKeys) : List String :=
  ["Press", keys.acknowledge, "to", "acknowledge,", keys.close, "to", "close,", "or",
    keys.unsubscribe, "to", "stop", "all", "calls", "to", "this", "number.", "Press", "any",
    "other", "key", "to", "repeat", "this", "message."]

end CallMenu

/-- The key for an action. -/
def MenuKeys.keyFor? (keys : MenuKeys) : ActionKind → Option String
  | .acknowledge => some keys.acknowledge
  | .close => some keys.close
  | .unsubscribe => some keys.unsubscribe
  | .resubscribe => none

theorem IsKey.isWord {key : String} (h : IsKey key) : Text.IsWord key.toList := by
  obtain ⟨c, hc, rfl⟩ := h
  rw [String.toList_singleton]
  exact ⟨List.cons_ne_nil c [], List.forall_mem_singleton.2 (not_isBlank_of_mem_keypad hc)⟩

namespace CallMenu

variable {keys : MenuKeys} {kind : ActionKind} {key : String}

theorem toList_instructions (keys : MenuKeys) :
    (instructions keys).toList = [' '].intercalate ((announcedWords keys).map String.toList) := by
  simp [instructions, announcedWords]

theorem words_instructions (hkeys : ∀ key ∈ keys.toList, IsKey key) :
    Text.words (instructions keys) = announcedWords keys := by
  have hwords : ∀ w ∈ (announcedWords keys).map String.toList, Text.IsWord w := by
    simp only [MenuKeys.toList, List.forall_mem_cons] at hkeys
    obtain ⟨hacknowledge, hclose, hunsubscribe, -⟩ := hkeys
    simp only [announcedWords, List.map_cons, List.map_nil, List.forall_mem_cons,
      hacknowledge.isWord, hclose.isWord, hunsubscribe.isWord, true_and]
    decide
  rw [Text.words, toList_instructions, Text.wordsOf_intercalate hwords, List.map_map]
  simp

/-- The sentence has the words for an action once, behind the key for it. -/
theorem isInfix_announcedWords_iff :
    (∃ words ∈ wordsForKey kind, key :: words <:+: announcedWords keys) ↔
      keys.keyFor? kind = some key := by
  rw [@eq_comm _ (keys.keyFor? kind)]
  -- wherever the words are found, the word in front of them is the key
  cases kind <;>
    simp [wordsForKey, announcedWords, MenuKeys.keyFor?, List.infix_cons_iff]

theorem announces_withKeys_iff (hkeys : ∀ key ∈ keys.toList, IsKey key) (text : String) :
    Announces (withKeys keys text) kind key ↔ keys.keyFor? kind = some key := by
  have hannounced : announcement? (withKeys keys text) = some (instructions keys) := rfl
  rw [← isInfix_announcedWords_iff, Announces, hannounced]
  simp only [Option.mem_some_iff, exists_eq_left', words_instructions hkeys]

/-- **Which keys a menu announces**: those of the settings. -/
theorem announces_iff (hkeys : ∀ key ∈ keys.toList, IsKey key) {menu : CallMenu}
    (hoffers : menu.offersKeys = true) :
    Announces (menu.prompt keys) kind key ↔ keys.keyFor? kind = some key := by
  cases menu with
  | alert a => exact announces_withKeys_iff hkeys (alertText a)
  | alertUnavailable alertId =>
    cases alertId with
    | none => cases hoffers
    | some alertId => exact announces_withKeys_iff hkeys fallbackText
  | verification code => cases hoffers
  | confirmation kind => cases hoffers
  | test => cases hoffers
  | generic => cases hoffers
  | actionFailed => cases hoffers
  | hangup => cases hoffers

end CallMenu

/-! ## Pressed keys -/

namespace MenuKeys

variable {keys : MenuKeys} {kind : ActionKind} {pressed : String}

/-- **Which keys act**: where no two are alike, each of them for its own action. -/
theorem action?_eq_some_iff (hdistinct : keys.toList.Nodup) :
    keys.action? pressed = some kind ↔ keys.keyFor? kind = some (Text.trim pressed) := by
  have hdiffer : keys.acknowledge ≠ keys.close ∧ keys.acknowledge ≠ keys.unsubscribe ∧
      keys.close ≠ keys.unsubscribe := by
    simpa [toList, and_assoc] using hdistinct
  obtain ⟨hclose, hunsubscribe, hother⟩ := hdiffer
  constructor
  · intro h
    rw [action?] at h
    -- the keys are tried in order, and the one that is met is the one that was pressed
    split_ifs at h with hpressed hpressed hpressed
    all_goals
      cases h
      exact congrArg some hpressed.symm
  · intro h
    cases kind with
    | acknowledge => rw [action?, ← Option.some.inj h, if_pos rfl]
    | close => rw [action?, ← Option.some.inj h, if_neg hclose.symm, if_pos rfl]
    | unsubscribe =>
      rw [action?, ← Option.some.inj h, if_neg hunsubscribe.symm, if_neg hother.symm, if_pos rfl]
    | resubscribe => cases h

theorem exists_keyFor? (keys : MenuKeys) (hkind : kind ≠ .resubscribe) :
    ∃ key ∈ keys.toList, keys.keyFor? kind = some key := by
  cases kind with
  | acknowledge => exact ⟨_, by simp [toList], rfl⟩
  | close => exact ⟨_, by simp [toList], rfl⟩
  | unsubscribe => exact ⟨_, by simp [toList], rfl⟩
  | resubscribe => exact absurd rfl hkind

end MenuKeys

namespace Settings

/-- Settings with which a call can be made and its menu be used. -/
structure IsUsable (s : Settings) : Prop where
  apiBase : Text.isBlankText s.apiBase = false
  voiceName : Text.isBlankText s.voiceName = false
  voiceLanguage : Text.isBlankText s.voiceLanguage = false
  keys : ∀ key ∈ s.keys.toList, IsKey key
  distinct : s.keys.toList.Nodup

theorem isUsable_of_accepted {given s : Settings} (h : given.accepted = .ok s) : s.IsUsable := by
  obtain ⟨rfl, hcheck⟩ := accepted_eq_ok_iff.1 h
  obtain ⟨hkeys, hdistinct⟩ := MenuKeys.check_eq_ok_iff.1 hcheck
  exact ⟨isBlankText_orIfBlank (by decide), isBlankText_orIfBlank (by decide),
    isBlankText_orIfBlank (by decide), hkeys, hdistinct⟩

/-- **The keys of a menu do what is announced.** However settings come about, what has to be filled
is not blank, and the keys are three different keys of a keypad. Whatever is pressed acts as every
menu with keys announces it, and not at all if it is not announced; so for each action that is
offered there is one key. -/
theorem keypad_as_announced {s : Settings} (h : s.IsLoaded) :
    s.IsUsable ∧
    (∀ menu : CallMenu, menu.offersKeys = true → ∀ pressed,
      (∀ kind, s.keys.action? pressed = some kind ↔
        CallMenu.Announces (menu.prompt s.keys) kind (Text.trim pressed)) ∧
      ((∀ kind, ¬ CallMenu.Announces (menu.prompt s.keys) kind (Text.trim pressed)) →
        s.keys.action? pressed = none)) ∧
    (∀ kind ∈ [ActionKind.acknowledge, .close, .unsubscribe], ∃ key ∈ keypad, ∀ pressed,
      s.keys.action? pressed = some kind ↔ Text.trim pressed = String.singleton key) := by
  obtain ⟨given, haccepted⟩ := h.exists_given
  have husable := isUsable_of_accepted haccepted
  have hacts : ∀ menu : CallMenu, menu.offersKeys = true → ∀ pressed kind,
      s.keys.action? pressed = some kind ↔
        CallMenu.Announces (menu.prompt s.keys) kind (Text.trim pressed) := by
    intro menu hoffers pressed kind
    rw [MenuKeys.action?_eq_some_iff husable.distinct, CallMenu.announces_iff husable.keys hoffers]
  refine ⟨husable, fun menu hoffers pressed => ⟨hacts menu hoffers pressed, ?_⟩, ?_⟩
  · intro hsilent
    rw [Option.eq_none_iff_forall_ne_some]
    intro kind hkind
    exact hsilent kind ((hacts menu hoffers pressed kind).1 hkind)
  · intro kind hkind
    have hoffered : kind ≠ .resubscribe := by
      rintro rfl
      simp at hkind
    obtain ⟨key, hkey, hfor⟩ := s.keys.exists_keyFor? hoffered
    obtain ⟨c, hc, rfl⟩ := husable.keys key hkey
    refine ⟨c, hc, fun pressed => ?_⟩
    rw [MenuKeys.action?_eq_some_iff husable.distinct, hfor, Option.some.injEq, eq_comm]

/-- The standard settings with the star as the key for acknowledging. -/
def starred : Settings := { standard with keys := ⟨"*", "5", "1"⟩ }

/-- An environment that sets the star, and leaves the voice blank. -/
def starredEnvironment : Environment :=
  [("TELNYX_ACK_DIGIT", Utf8.encode "*"), ("TELNYX_VOICE_NAME", Utf8.encode " ")]

/-- The star is announced for acknowledging and acknowledges; the key that it takes the place of
does nothing more. -/
theorem keypad_as_announced_starred :
    load starredEnvironment (fun _ => .error "") = .ok starred ∧ starred.IsUsable ∧
      CallMenu.Announces ((CallMenu.alertUnavailable (some 42)).prompt starred.keys) .acknowledge
        "*" ∧
      starred.keys.action? " *\n" = some .acknowledge ∧ starred.keys.action? "4" = none := by
  have hload : load starredEnvironment (fun _ => .error "") = .ok starred := by decide +kernel
  obtain ⟨husable, hacts, -⟩ := keypad_as_announced (.load hload)
  have hstar : starred.keys.action? "*" = some .acknowledge := by decide +kernel
  refine ⟨hload, husable, ?_, by decide +kernel, by decide +kernel⟩
  have hannounced := ((hacts (.alertUnavailable (some 42)) rfl "*").1 .acknowledge).1 hstar
  rwa [show Text.trim "*" = "*" by decide +kernel] at hannounced

end Settings
end AlertLine
