import AlertLine.Json.Printer
import AlertLine.Proofs.Text.Utf8
import Mathlib.Algebra.BigOperators.Group.List.Basic

/-!
# How long a printed document is

Nothing is lost in print: a text is no longer than its literal, a value no longer than an object
that holds it, and a document has at least one byte for each of its characters.
-/

namespace AlertLine.Json

theorem length_le_flatMap {α β : Type} {f : α → List β} (h : ∀ a, f a ≠ []) (as : List α) :
    as.length ≤ (as.flatMap f).length := by
  have hpositive : ∀ n ∈ as.map fun a => (f a).length, 1 ≤ n := by
    intro n hn
    obtain ⟨a, -, rfl⟩ := List.mem_map.1 hn
    exact List.length_pos_iff.2 (h a)
  calc as.length
      = (as.map fun a => (f a).length).length := (List.length_map _).symm
    _ ≤ (as.map fun a => (f a).length).sum := List.length_le_sum_of_one_le _ hpositive
    _ = (as.flatMap f).length := List.length_flatMap.symm

theorem length_le_chars_ofString (s : String) : s.length ≤ (chars (ofString s)).length := by
  have hescaped : ∀ c, escapedChar c ≠ [] := by
    intro c
    unfold escapedChar
    split_ifs <;> simp
  have hle := length_le_flatMap hescaped s.toList
  rw [String.length_toList] at hle
  simp only [ofString, chars, literal, List.length_cons, List.length_append]
  omega

theorem length_chars_le_entriesChars {e : Reading × Json} {entries : List (Reading × Json)}
    (h : e ∈ entries) : (chars e.2).length ≤ (entriesChars entries).length := by
  induction entries with
  | nil => exact absurd h List.not_mem_nil
  | cons first rest ih =>
    cases rest with
    | nil =>
      rw [List.mem_singleton.1 h]
      simp only [entriesChars, List.length_append, List.length_cons]
      omega
    | cons second rest =>
      simp only [entriesChars, List.length_append, List.length_cons] at ih ⊢
      rcases List.mem_cons.1 h with rfl | hrest
      · omega
      · have hle := ih hrest
        omega

/-- An object is no shorter than each of its entries. -/
theorem length_chars_le_obj {e : String × Json} {entries : List (String × Json)} (h : e ∈ entries) :
    (chars e.2).length ≤ (chars (obj entries)).length := by
  have hentry : (some e.1, e.2) ∈ entries.map fun e => ((some e.1, e.2) : Reading × Json) :=
    List.mem_map.2 ⟨e, h, rfl⟩
  have hle := length_chars_le_entriesChars hentry
  dsimp only at hle
  simp only [obj, chars, List.length_cons, List.length_append]
  omega

/-- A document has at least one byte for each of its characters. -/
theorem length_chars_le_bytes (v : Json) : (chars v).length ≤ (bytes v).length := by
  have hencoded : ∀ c, String.utf8EncodeChar c ≠ [] := by
    intro c hempty
    have hlength := String.length_utf8EncodeChar c
    rw [hempty] at hlength
    exact absurd hlength.symm (Nat.ne_of_gt c.utf8Size_pos)
  rw [bytes, print, Utf8.encode_eq_flatMap, String.toList_ofList]
  exact length_le_flatMap hencoded (chars v)

end AlertLine.Json
