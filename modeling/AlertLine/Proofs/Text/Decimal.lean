import AlertLine.Proofs.Attempt
import AlertLine.Proofs.Text.Blank
import AlertLine.Text.Decimal
import Mathlib.Data.Nat.Digits.Defs

/-!
# Decimal numbers read back what they wrote

Reading digits within a limit gives their value or overflows, and nothing else
(`readDigits_eq_of_digits`). So the decimal text of every signed number of 64 bits is read as that
number (`readInt64_ofInt64`), and trimming leaves such a text alone (`trim_ofInt64`). What is read
at all is a numeral with a value of 64 bits (`readInt64_eq_ok_iff`).
-/

namespace AlertLine

namespace Decimal

/-! ## Digits -/

theorem isDigit_iff {c : Char} : isDigit c = true ↔ 0x30 ≤ c.toNat ∧ c.toNat ≤ 0x39 := by
  simp only [isDigit, Bool.and_eq_true, decide_eq_true_eq, Char.le_def, UInt32.le_iff_toNat_le]
  exact Iff.rfl

/-- The digits of a number are digit characters. -/
theorem isDigit_of_mem_repr {n : ℕ} {c : Char} (h : c ∈ n.repr.toList) : isDigit c = true := by
  rw [Nat.toList_repr] at h
  exact Nat.isDigit_of_mem_toDigits (by decide) (by decide) h

/-- The digits of a number denote it. -/
theorem value_repr (n : ℕ) : value n.repr.toList = n := by
  rw [Nat.toList_repr]
  exact Nat.ofDigitChars_ten_toDigits

/-- The value of digits behind a number. -/
def valueFrom (n : ℕ) (ds : List Char) : ℕ :=
  ds.foldl (fun n d => 10 * n + digitValue d) n

theorem le_valueFrom (n : ℕ) (ds : List Char) : n ≤ valueFrom n ds := by
  induction ds generalizing n with
  | nil => exact Nat.le_refl n
  | cons d ds ih => exact Nat.le_trans (by omega) (ih (10 * n + digitValue d))

/-- Digits are read as their value, unless that is beyond the limit. -/
theorem readDigits_eq_of_digits (limit : ℕ) (overflow : ReadError) (n : ℕ) (hn : n ≤ limit)
    {ds : List Char} (h : ∀ d ∈ ds, isDigit d = true) :
    readDigits limit overflow n ds =
      if valueFrom n ds ≤ limit then .ok (valueFrom n ds) else .error overflow := by
  induction ds generalizing n with
  | nil => rw [readDigits, valueFrom, List.foldl_nil, if_pos hn]
  | cons d ds ih =>
    have hstep : valueFrom n (d :: ds) = valueFrom (10 * n + digitValue d) ds := rfl
    have hds : ∀ e ∈ ds, isDigit e = true := fun e he => h e (List.mem_cons_of_mem d he)
    rw [readDigits, if_pos (h d List.mem_cons_self), hstep]
    by_cases hlimit : 10 * n + digitValue d ≤ limit
    · rw [if_pos hlimit, ih _ hlimit hds]
    · -- the value only grows, so an overflow is never made good by later digits
      have hgrow := le_valueFrom (10 * n + digitValue d) ds
      rw [if_neg hlimit, if_neg (by omega)]

/-- Digits are read as their value, unless that is beyond the limit. -/
theorem readNat_eq_of_digits (limit : ℕ) (overflow : ReadError) {ds : List Char} (hne : ds ≠ [])
    (h : ∀ d ∈ ds, isDigit d = true) :
    readNat limit overflow ds =
      if value ds ≤ limit then .ok (value ds) else .error overflow := by
  rw [readNat, if_neg (by simpa using hne)]
  exact readDigits_eq_of_digits limit overflow 0 (Nat.zero_le limit) h

/-- The decimal text of a number within the limit is read as that number. -/
theorem readNat_repr (limit : ℕ) (overflow : ReadError) {n : ℕ} (h : n ≤ limit) :
    readNat limit overflow n.repr.toList = .ok n := by
  have hne : n.repr.toList ≠ [] := by simp
  rw [readNat_eq_of_digits limit overflow hne fun d => isDigit_of_mem_repr, value_repr, if_pos h]

/-- Only digits are read. -/
theorem isDigit_of_readDigits {limit : ℕ} {overflow : ReadError} {n m : ℕ} {ds : List Char}
    (h : readDigits limit overflow n ds = .ok m) : ∀ d ∈ ds, isDigit d = true := by
  induction ds generalizing n with
  | nil => exact fun d hd => absurd hd List.not_mem_nil
  | cons d ds ih =>
    rw [readDigits] at h
    split_ifs at h with hdigit
    dsimp only at h
    split_ifs at h with hlimit
    exact List.forall_mem_cons.2 ⟨hdigit, ih h⟩

/-- What is read as a number: digits, one at least, whose value is within the limit. -/
theorem readNat_eq_ok_iff {limit : ℕ} {overflow : ReadError} {ds : List Char} {n : ℕ} :
    readNat limit overflow ds = .ok n ↔
      ds ≠ [] ∧ (∀ d ∈ ds, isDigit d = true) ∧ value ds = n ∧ n ≤ limit := by
  constructor
  · intro h
    have hne : ds ≠ [] := by
      rintro rfl
      cases h
    have hdigits : ∀ d ∈ ds, isDigit d = true := by
      rw [readNat, if_neg (by simpa using hne)] at h
      exact isDigit_of_readDigits h
    rw [readNat_eq_of_digits _ _ hne hdigits] at h
    split_ifs at h with hlimit
    cases h
    exact ⟨hne, hdigits, rfl, hlimit⟩
  · rintro ⟨hne, hdigits, rfl, hlimit⟩
    rw [readNat_eq_of_digits _ _ hne hdigits, if_pos hlimit]

/-! ## Signed numbers -/

/-- A text without a sign is read as its digits. -/
theorem readInt64_of_no_sign {s : String} {d : Char} {ds : List Char} (hs : s.toList = d :: ds)
    (hminus : d ≠ '-') (hplus : d ≠ '+') :
    readInt64 s =
      (readNat (UInt64.size / 2 - 1) .tooLarge s.toList).map fun n : ℕ => Int64.ofInt n := by
  rw [readInt64, hs]
  split
  · simp_all
  · simp_all
  · simp_all
  · cases readNat (UInt64.size / 2 - 1) .tooLarge (d :: ds) <;> rfl

/-- A text that begins with a digit is read without a sign. -/
theorem readInt64_of_digits {s : String} {d : Char} {ds : List Char} (hs : s.toList = d :: ds)
    (hd : isDigit d = true) :
    readInt64 s =
      (readNat (UInt64.size / 2 - 1) .tooLarge s.toList).map fun n : ℕ => Int64.ofInt n := by
  refine readInt64_of_no_sign hs ?_ ?_
  · rintro rfl
    cases hd
  · rintro rfl
    cases hd

/-- A text that begins with a minus sign is read as the opposite of the digits behind it. -/
theorem readInt64_of_minus {s : String} {ds : List Char} (hs : s.toList = '-' :: ds) :
    readInt64 s =
      (readNat (UInt64.size / 2) .tooSmall ds).map fun n : ℕ => Int64.ofInt (-n) := by
  rw [readInt64, hs]
  show Except.map _ (readNat (UInt64.size / 2) .tooSmall ds >>= _) = _
  cases readNat (UInt64.size / 2) .tooSmall ds <;> rfl

/-- A text that begins with a plus sign is read as the digits behind it. -/
theorem readInt64_of_plus {s : String} {ds : List Char} (hs : s.toList = '+' :: ds) :
    readInt64 s =
      (readNat (UInt64.size / 2 - 1) .tooLarge ds).map fun n : ℕ => Int64.ofInt n := by
  rw [readInt64, hs]
  show Except.map _ (readNat (UInt64.size / 2 - 1) .tooLarge ds >>= _) = _
  cases readNat (UInt64.size / 2 - 1) .tooLarge ds <;> rfl

/-- **The decimal text of a signed number is read as that number.** -/
theorem readInt64_ofInt64 (n : Int64) : readInt64 (ofInt64 n) = .ok n := by
  have hlow := n.le_toInt
  have hhigh := n.toInt_lt
  rw [ofInt64, Int.repr_eq_if]
  split_ifs with hn
  · have hne : n.toInt.toNat.repr.toList ≠ [] := by simp
    obtain ⟨d, ds, hds⟩ := List.exists_cons_of_ne_nil hne
    have hd : isDigit d = true := isDigit_of_mem_repr (by rw [hds]; exact List.mem_cons_self)
    have hle : n.toInt.toNat ≤ UInt64.size / 2 - 1 := by
      simp only [UInt64.size]; omega
    rw [readInt64_of_digits hds hd, readNat_repr _ _ hle]
    show Except.ok (Int64.ofInt (n.toInt.toNat : Int)) = Except.ok n
    rw [Int.toNat_of_nonneg hn, Int64.ofInt_toInt]
  · have hle : (-n.toInt).toNat ≤ UInt64.size / 2 := by
      simp only [UInt64.size]; omega
    have hs : ("-" ++ (-n.toInt).toNat.repr).toList = '-' :: (-n.toInt).toNat.repr.toList := by
      rw [String.toList_append]; rfl
    have hneg : -(((-n.toInt).toNat : ℕ) : Int) = n.toInt := by omega
    rw [readInt64_of_minus hs, readNat_repr _ _ hle]
    show Except.ok (Int64.ofInt (-(((-n.toInt).toNat : ℕ) : Int))) = Except.ok n
    rw [hneg, Int64.ofInt_toInt]

/-- The characters of the decimal text of a signed number are digits and a minus sign. -/
theorem mem_ofInt64 {n : Int64} {c : Char} (h : c ∈ (ofInt64 n).toList) :
    c = '-' ∨ isDigit c = true := by
  rw [ofInt64, Int.repr_eq_if] at h
  split_ifs at h
  · exact .inr (isDigit_of_mem_repr h)
  · rw [String.toList_append, List.mem_append] at h
    rcases h with h | h
    · exact .inl (List.mem_singleton.1 h)
    · exact .inr (isDigit_of_mem_repr h)

/-- The decimal text of a signed number has a sign and nineteen digits at most. -/
theorem length_ofInt64 (n : Int64) : (ofInt64 n).length ≤ 20 := by
  have hlow := n.le_toInt
  have hhigh := n.toInt_lt
  rw [ofInt64, Int.repr_eq_if]
  split_ifs
  · have hdigits := Nat.repr_length n.toInt.toNat 19 (by decide) (by omega)
    omega
  · have hdigits := Nat.repr_length (-n.toInt).toNat 19 (by decide) (by omega)
    have hsign : "-".length = 1 := rfl
    rw [String.length_append, hsign]
    omega

/-- A digit is no blank. -/
theorem not_isBlank_of_isDigit {c : Char} (h : isDigit c = true) : Text.isBlank c = false := by
  have hrange := isDigit_iff.1 h
  simp only [Text.isBlank, Bool.or_eq_false_iff, Bool.and_eq_false_iff, decide_eq_false_iff_not,
    beq_eq_false_iff_ne]
  omega

/-- Trimming leaves the decimal text of a signed number alone. -/
theorem trim_ofInt64 (n : Int64) : Text.trim (ofInt64 n) = ofInt64 n := by
  refine Text.trim_of_forall_not_blank fun c hc => ?_
  rcases mem_ofInt64 hc with rfl | hdigit
  · decide
  · exact not_isBlank_of_isDigit hdigit

/-! ## Numerals -/

/-- A decimal numeral of a value: digits, with a sign in front of them or without one. -/
inductive IsNumeral (v : ℤ) : List Char → Prop
  /-- Without a sign. -/
  | unsigned {ds : List Char} (hne : ds ≠ []) (hdigits : ∀ d ∈ ds, isDigit d = true)
    (hv : v = value ds) : IsNumeral v ds
  /-- With a plus sign. -/
  | plus {ds : List Char} (hne : ds ≠ []) (hdigits : ∀ d ∈ ds, isDigit d = true)
    (hv : v = value ds) : IsNumeral v ('+' :: ds)
  /-- With a minus sign. -/
  | minus {ds : List Char} (hne : ds ≠ []) (hdigits : ∀ d ∈ ds, isDigit d = true)
    (hv : v = -value ds) : IsNumeral v ('-' :: ds)

/-- No character of a numeral is a blank. -/
theorem IsNumeral.not_isBlank {v : ℤ} {cs : List Char} (h : IsNumeral v cs) :
    ∀ c ∈ cs, Text.isBlank c = false := by
  cases h with
  | unsigned hne hdigits hv => exact fun c hc => not_isBlank_of_isDigit (hdigits c hc)
  | plus hne hdigits hv =>
    exact List.forall_mem_cons.2 ⟨rfl, fun c hc => not_isBlank_of_isDigit (hdigits c hc)⟩
  | minus hne hdigits hv =>
    exact List.forall_mem_cons.2 ⟨rfl, fun c hc => not_isBlank_of_isDigit (hdigits c hc)⟩

section Read

variable {overflow : ReadError} {ds : List Char} {n : Int64}

theorem map_ofInt_eq_ok_iff :
    ((readNat (UInt64.size / 2 - 1) overflow ds).map fun n : ℕ => Int64.ofInt n) = .ok n ↔
      ds ≠ [] ∧ (∀ d ∈ ds, isDigit d = true) ∧ n.toInt = value ds := by
  have hhigh := n.toInt_lt
  rw [map_eq_ok]
  constructor
  · rintro ⟨m, hm, rfl⟩
    obtain ⟨hne, hdigits, rfl, hlimit⟩ := readNat_eq_ok_iff.1 hm
    simp only [UInt64.size] at hlimit
    exact ⟨hne, hdigits, Int64.toInt_ofInt_of_le (by omega) (by omega)⟩
  · rintro ⟨hne, hdigits, hn⟩
    refine ⟨value ds, readNat_eq_ok_iff.2 ⟨hne, hdigits, rfl, ?_⟩, ?_⟩
    · simp only [UInt64.size]
      omega
    · rw [← hn, Int64.ofInt_toInt]

theorem map_ofInt_neg_eq_ok_iff :
    ((readNat (UInt64.size / 2) overflow ds).map fun n : ℕ => Int64.ofInt (-n)) = .ok n ↔
      ds ≠ [] ∧ (∀ d ∈ ds, isDigit d = true) ∧ n.toInt = -value ds := by
  have hlow := n.le_toInt
  rw [map_eq_ok]
  constructor
  · rintro ⟨m, hm, rfl⟩
    obtain ⟨hne, hdigits, rfl, hlimit⟩ := readNat_eq_ok_iff.1 hm
    simp only [UInt64.size] at hlimit
    exact ⟨hne, hdigits, Int64.toInt_ofInt_of_le (by omega) (by omega)⟩
  · rintro ⟨hne, hdigits, hn⟩
    refine ⟨value ds, readNat_eq_ok_iff.2 ⟨hne, hdigits, rfl, ?_⟩, ?_⟩
    · simp only [UInt64.size]
      omega
    · rw [← hn, Int64.ofInt_toInt]

end Read

/-- **What is read as a signed number of 64 bits**: the numerals of such a number. -/
theorem readInt64_eq_ok_iff {s : String} {n : Int64} :
    readInt64 s = .ok n ↔ IsNumeral n.toInt s.toList := by
  cases hs : s.toList with
  | nil =>
    rw [readInt64, hs]
    refine iff_of_false nofun ?_
    rintro (⟨hne, -, -⟩ | _ | _)
    exact hne rfl
  | cons d ds =>
    by_cases hminus : d = '-'
    · subst hminus
      rw [readInt64_of_minus hs, map_ofInt_neg_eq_ok_iff]
      constructor
      · rintro ⟨hne, hdigits, hn⟩
        exact .minus hne hdigits hn
      · rintro (⟨-, hdigits, -⟩ | - | ⟨hne, hdigits, hn⟩)
        · exact absurd (hdigits _ List.mem_cons_self) (by decide)
        · exact ⟨hne, hdigits, hn⟩
    by_cases hplus : d = '+'
    · subst hplus
      rw [readInt64_of_plus hs, map_ofInt_eq_ok_iff]
      constructor
      · rintro ⟨hne, hdigits, hn⟩
        exact .plus hne hdigits hn
      · rintro (⟨-, hdigits, -⟩ | ⟨hne, hdigits, hn⟩ | -)
        · exact absurd (hdigits _ List.mem_cons_self) (by decide)
        · exact ⟨hne, hdigits, hn⟩
    · rw [readInt64_of_no_sign hs hminus hplus, hs, map_ofInt_eq_ok_iff]
      constructor
      · rintro ⟨hne, hdigits, hn⟩
        exact .unsigned hne hdigits hn
      · intro h
        cases h with
        | unsigned hne hdigits hn => exact ⟨hne, hdigits, hn⟩
        | plus => exact absurd rfl hplus
        | minus => exact absurd rfl hminus

end Decimal
end AlertLine
