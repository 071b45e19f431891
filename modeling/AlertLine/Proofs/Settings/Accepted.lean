import AlertLine.Proofs.Attempt
import AlertLine.Proofs.Text.Blank
import AlertLine.Settings.File
import Mathlib.Data.List.Basic
import Mathlib.Tactic.IntervalCases

/-!
# Settings that are accepted

Settings are accepted exactly if each menu key is one keypad key and no two of them are alike
(`Settings.accepted_eq_ok_iff`); what is blank and has a default gets it. However settings come
about, from the environment or from a file, they have been accepted in this form
(`Settings.IsLoaded.exists_given`).
-/

namespace AlertLine

/-! ## Keypad keys -/

/-- The characters on a telephone keypad. -/
def keypad : List Char := "0123456789*#".toList

theorem isKeypadKey_iff {c : Char} : isKeypadKey c = true ↔ c ∈ keypad := by
  constructor
  · intro h
    rw [isKeypadKey, Bool.or_eq_true, Bool.or_eq_true, beq_iff_eq, beq_iff_eq] at h
    rcases h with (hdigit | rfl) | rfl
    · rw [Decimal.isDigit, Bool.and_eq_true, decide_eq_true_eq, decide_eq_true_eq] at hdigit
      have hlow : 48 ≤ c.toNat := hdigit.1
      have hhigh : c.toNat ≤ 57 := hdigit.2
      rw [← Char.ofNat_toNat c]
      interval_cases c.toNat <;> decide
    · decide
    · decide
  · have hkeys : ∀ c ∈ keypad, isKeypadKey c = true := List.forall_iff_forall_mem.1 (by decide)
    exact hkeys c

/-- A keypad key is no blank. -/
theorem not_isBlank_of_mem_keypad {c : Char} (h : c ∈ keypad) : Text.isBlank c = false := by
  have hkeys : ∀ c ∈ keypad, Text.isBlank c = false := List.forall_iff_forall_mem.1 (by decide)
  exact hkeys c h

/-- A text that is one keypad key. -/
def IsKey (key : String) : Prop := ∃ c ∈ keypad, key = String.singleton c

theorem isKeypadText_iff {key : String} : isKeypadText key = true ↔ IsKey key := by
  rw [isKeypadText.eq_def]
  constructor
  · intro h
    split at h
    case _ c hchars =>
      refine ⟨c, isKeypadKey_iff.1 h, ?_⟩
      rw [← String.toList_inj, hchars, String.toList_singleton]
    · cases h
  · rintro ⟨c, hc, rfl⟩
    rw [String.toList_singleton]
    exact isKeypadKey_iff.2 hc

/-- A key is read as it stands. -/
theorem IsKey.trim {key : String} (h : IsKey key) : Text.trim key = key := by
  obtain ⟨c, hc, rfl⟩ := h
  apply Text.trim_of_forall_not_blank
  intro d hd
  rw [String.toList_singleton, List.mem_singleton] at hd
  rw [hd]
  exact not_isBlank_of_mem_keypad hc

theorem IsKey.isEmpty {key : String} (h : IsKey key) : key.isEmpty = false := by
  obtain ⟨c, -, rfl⟩ := h
  rw [← Bool.not_eq_true, String.isEmpty_iff, ← String.toList_eq_nil_iff, String.toList_singleton]
  exact List.cons_ne_nil c []

/-! ## Menu keys -/

namespace MenuKeys

/-- The keys of the menu in the order in which they are announced. -/
def toList (keys : MenuKeys) : List String := [keys.acknowledge, keys.close, keys.unsubscribe]

theorem checkKey_eq_ok_iff {setting key : String} : checkKey setting key = .ok () ↔ IsKey key := by
  rw [checkKey, ← isKeypadText_iff]
  split_ifs with hkey
  · exact iff_of_true rfl hkey
  · exact iff_of_false nofun hkey

/-- **Which menu keys can be used**: keypad keys, no two of them alike. -/
theorem check_eq_ok_iff {keys : MenuKeys} :
    keys.check = .ok () ↔ (∀ key ∈ keys.toList, IsKey key) ∧ keys.toList.Nodup := by
  have hdistinct : keys.toList.Nodup ↔ ¬ (keys.acknowledge = keys.close ∨
      keys.acknowledge = keys.unsubscribe ∨ keys.close = keys.unsubscribe) := by
    simp [toList, not_or, and_assoc]
  have hlast : (if keys.acknowledge = keys.close ∨ keys.acknowledge = keys.unsubscribe ∨
      keys.close = keys.unsubscribe then .error (.invalid "digits" .keysAlike)
      else .ok () : Except SettingsError Unit) = .ok () ↔ keys.toList.Nodup := by
    rw [hdistinct]
    split_ifs with halike
    · exact iff_of_false nofun (not_not.2 halike)
    · exact iff_of_true rfl halike
  rw [check, bind_unit_eq_ok, bind_unit_eq_ok, bind_unit_eq_ok, hlast]
  simp [checkKey_eq_ok_iff, toList, and_assoc]

end MenuKeys

/-! ## Acceptance -/

theorem isBlankText_orIfBlank {value standard : String} (h : Text.isBlankText standard = false) :
    Text.isBlankText (orIfBlank value standard) = false := by
  rw [orIfBlank]
  split_ifs with hblank
  · exact h
  · exact Bool.not_eq_true _ ▸ hblank

namespace Settings

variable {given s : Settings}

theorem accepted_eq_ok_iff :
    given.accepted = .ok s ↔ s = given.completed ∧ s.keys.check = .ok () := by
  rw [accepted, bind_eq_ok]
  constructor
  · rintro ⟨_, hcheck, ⟨⟩⟩
    exact ⟨rfl, hcheck⟩
  · rintro ⟨rfl, hcheck⟩
    exact ⟨(), hcheck, rfl⟩

/-- How settings come about. -/
inductive IsLoaded : Settings → Prop
  /-- From the file that the environment names, or else from the environment. -/
  | load {env : Environment} {fileContent : String → Except String Bytes} {s : Settings}
    (h : load env fileContent = .ok s) : IsLoaded s
  /-- From the environment. -/
  | ofEnvironment {env : Environment} {s : Settings} (h : ofEnvironment env = .ok s) : IsLoaded s
  /-- From a file. -/
  | ofFile {path : String} {content : Except String Bytes} {s : Settings}
    (h : ofFile path content = .ok s) : IsLoaded s
  /-- From whatever a reader of files gives, once it is accepted. -/
  | ofReader {given s : Settings} (h : given.accepted = .ok s) : IsLoaded s

theorem exists_given_of_environment {env : Environment} (h : ofEnvironment env = .ok s) :
    ∃ given : Settings, given.accepted = .ok s := by
  simp only [ofEnvironment, bind_eq_ok] at h
  obtain ⟨requestTimeoutMs, -, lookupTimeoutMs, -, tolerance, -, h⟩ := h
  exact ⟨_, h⟩

theorem exists_given_of_file {path : String} {content : Except String Bytes}
    (h : ofFile path content = .ok s) : ∃ given : Settings, given.accepted = .ok s := by
  unfold ofFile at h
  split at h
  · cases h
  · split at h
    · cases h
    · split at h
      · cases h
      · exact ⟨_, h⟩

/-- **However settings come about, they have been accepted.** -/
theorem IsLoaded.exists_given (h : s.IsLoaded) : ∃ given : Settings, given.accepted = .ok s := by
  cases h with
  | load h =>
    unfold Settings.load at h
    split at h
    · exact exists_given_of_file h
    · exact exists_given_of_environment h
  | ofEnvironment h => exact exists_given_of_environment h
  | ofFile h => exact exists_given_of_file h
  | ofReader h => exact ⟨_, h⟩

end Settings
end AlertLine
