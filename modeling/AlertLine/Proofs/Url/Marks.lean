import AlertLine.Proofs.Encoding.Form
import AlertLine.Proofs.Text.Decimal
import AlertLine.Url.Parser

/-!
# Texts without marks

Two marks cut an address into its parts: the question mark in front of the query and the number sign
in front of the fragment. A text with neither of them (`IsUnmarked`) can stand in front of a query
without being taken for the end of the address. Joining, reversing and cutting keep texts so, and
escaping makes them so (`isUnmarked_encodeBytes`).
-/

namespace AlertLine

/-! ## Texts without marks -/

/-- Neither a question mark nor a number sign. -/
def IsUnmarked (cs : List Char) : Prop := ∀ c ∈ cs, c ≠ '?' ∧ c ≠ '#'

instance (cs : List Char) : Decidable (IsUnmarked cs) :=
  decidable_of_iff (cs.all fun c => c != '?' && c != '#') (by simp [IsUnmarked])

namespace IsUnmarked

variable {a b : List Char}

theorem nil : IsUnmarked [] := fun _ h => absurd h List.not_mem_nil

theorem append (ha : IsUnmarked a) (hb : IsUnmarked b) : IsUnmarked (a ++ b) := fun c hc =>
  (List.mem_append.1 hc).elim (ha c) (hb c)

theorem mono (hb : IsUnmarked b) (h : ∀ c ∈ a, c ∈ b) : IsUnmarked a := fun c hc => hb c (h c hc)

theorem reverse (ha : IsUnmarked a) : IsUnmarked a.reverse :=
  ha.mono fun _ => List.mem_reverse.1

/-- Texts without marks, joined by one without marks. -/
theorem intercalate {sep : String} {parts : List String} (hsep : IsUnmarked sep.toList)
    (hparts : ∀ part ∈ parts, IsUnmarked part.toList) :
    IsUnmarked (sep.intercalate parts).toList := by
  induction parts with
  | nil => exact nil
  | cons p ps ih =>
    have hp := hparts p List.mem_cons_self
    have hps := ih fun q hq => hparts q (List.mem_cons_of_mem p hq)
    cases ps with
    | nil => rwa [String.intercalate_singleton]
    | cons q ps =>
      rw [String.intercalate_cons_cons, String.toList_append, String.toList_append]
      exact (hp.append hsep).append hps

end IsUnmarked

/-- A digit is no mark. -/
theorem isUnmarked_of_digits {cs : List Char} (h : ∀ c ∈ cs, Decimal.isDigit c = true) :
    IsUnmarked cs := by
  intro c hc
  refine ⟨?_, ?_⟩ <;>
  · rintro rfl
    exact absurd (h _ hc) (by decide)

/-! ## Escaped texts -/

/-- A character of a text with escapes is a byte that stands alone, or part of an escape and then no
mark. -/
theorem mem_encodeBytes {alone : UInt8 → Bool} {bs : Bytes} {c : Char}
    (h : c ∈ Percent.encodeBytes alone bs) :
    (∃ b ∈ bs, alone b = true ∧ c = Char.ofNat b.toNat) ∨ (c ≠ '?' ∧ c ≠ '#') := by
  obtain ⟨b, hb, hc⟩ := List.mem_flatMap.1 h
  split_ifs at hc with halone
  · exact .inl ⟨b, hb, halone, List.mem_singleton.1 hc⟩
  · have hdigit : ∀ n < 16, Percent.hexDigit n ≠ '?' ∧ Percent.hexDigit n ≠ '#' := by decide
    rcases Percent.mem_escape hc with rfl | ⟨n, hn, rfl⟩
    · exact .inr (by decide)
    · exact .inr (hdigit n hn)

/-- Bytes written with escapes hold no mark, if none of those that stand alone is one. -/
theorem isUnmarked_encodeBytes {alone : UInt8 → Bool} {bs : Bytes}
    (h : ∀ b ∈ bs, alone b = true → Char.ofNat b.toNat ≠ '?' ∧ Char.ofNat b.toNat ≠ '#') :
    IsUnmarked (Percent.encodeBytes alone bs) := by
  intro c hc
  rcases mem_encodeBytes hc with ⟨b, hb, halone, rfl⟩ | hne
  · exact h b hb halone
  · exact hne

/-- Escaping brings no mark into a text, if all that may stand alone is ASCII. -/
theorem isUnmarked_encode {alone : UInt8 → Bool} {s : String} (h : IsUnmarked s.toList)
    (hascii : ∀ b, alone b = true → b.toNat < 0x80) :
    IsUnmarked (Percent.encode alone s).toList := by
  rw [Percent.encode, String.toList_ofList]
  exact isUnmarked_encodeBytes fun b hb halone =>
    h _ (Utf8.mem_toList_of_mem_encode hb (hascii b halone))

theorem Host.toNat_lt_of_isPlain {b : UInt8} (h : Host.isPlain b = true) : b.toNat < 0x80 := by
  have hlt : b < 0x7F := of_decide_eq_true (Bool.and_eq_true_iff.1 h).2
  exact Nat.lt_of_lt_of_le (UInt8.lt_iff_toNat_lt.1 hlt) (by decide)

namespace Url

/-- A byte that stands alone in an escaped text is none of the escaped characters. -/
theorem not_mem_of_alone {escapes : String} {b : UInt8}
    (h : (Host.isPlain b && !escapes.toList.contains (Char.ofNat b.toNat)) = true) :
    Char.ofNat b.toNat ∉ escapes.toList := by
  simpa using (Bool.and_eq_true_iff.1 h).2

/-- A text in which both marks are escaped holds none. -/
theorem isUnmarked_escaped {escapes : String} (hask : '?' ∈ escapes.toList)
    (hhash : '#' ∈ escapes.toList) (cs : List Char) :
    IsUnmarked (escaped escapes cs).toList := by
  rw [escaped, Percent.encode, String.toList_ofList]
  refine isUnmarked_encodeBytes fun b _ halone => ?_
  have hnot := not_mem_of_alone halone
  exact ⟨fun h => hnot (h ▸ hask), fun h => hnot (h ▸ hhash)⟩

/-- A text in which the number sign is escaped holds none. -/
theorem hash_not_mem_escaped {escapes : String} (hhash : '#' ∈ escapes.toList) (cs : List Char) :
    '#' ∉ (escaped escapes cs).toList := by
  rw [escaped, Percent.encode, String.toList_ofList]
  intro hmem
  rcases mem_encodeBytes hmem with ⟨b, -, halone, hb⟩ | ⟨-, hne⟩
  · exact not_mem_of_alone halone (hb ▸ hhash)
  · exact hne rfl

/-- A text without marks is escaped to one without marks. -/
theorem isUnmarked_escaped_of_isUnmarked (escapes : String) {cs : List Char} (h : IsUnmarked cs) :
    IsUnmarked (escaped escapes cs).toList := by
  refine isUnmarked_encode (by rwa [String.toList_ofList]) fun b halone => ?_
  exact Host.toNat_lt_of_isPlain (Bool.and_eq_true_iff.1 halone).1

end Url
end AlertLine
