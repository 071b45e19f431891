import AlertLine.Encoding.Base64
import AlertLine.Proofs.Text.Utf8
import Mathlib.Tactic.Common

/-!
# Base64 is read strictly

A text is read as bytes exactly if it is their coded form (`decode_eq_some_iff`): every byte
sequence has one coded form, and nothing else is read.
-/

namespace AlertLine.Base64

/-! ## Characters -/

theorem value?_character {n : ℕ} (h : n < 64) : value? (character n) = some n := by
  have hall : ∀ n < 64, value? (character n) = some n := by decide +kernel
  exact hall n h

/-- A character with a value is the character for that value, and no padding. -/
theorem eq_character_of_value? {b : UInt8} {n : ℕ} (h : value? b = some n) :
    n < 64 ∧ b = character n ∧ b ≠ pad := by
  have hall : ∀ m < 256, ∀ n ∈ value? (UInt8.ofNat m),
      n < 64 ∧ UInt8.ofNat m = character n ∧ UInt8.ofNat m ≠ pad := by decide +kernel
  have hb := hall b.toNat b.toNat_lt n
  rw [UInt8.ofNat_toNat] at hb
  exact hb h

theorem character_ne_pad {n : ℕ} (h : n < 64) : character n ≠ pad :=
  (eq_character_of_value? (value?_character h)).2.2

theorem encode_ne_nil (x : UInt8) (bs : Bytes) : encode (x :: bs) ≠ [] := by
  match bs with
  | [] => exact List.cons_ne_nil _ _
  | [_] => exact List.cons_ne_nil _ _
  | _ :: _ :: _ => exact List.cons_ne_nil _ _

theorem toNat_ofNat {n : ℕ} (h : n < 256) : (UInt8.ofNat n).toNat = n :=
  UInt8.toNat_ofNat_of_lt' h

/-! ## Groups -/

/-- A last group is read as the bytes that it is the coded form of. -/
theorem decodeLast_encode {bs : Bytes} {a b c d : UInt8} (h : [a, b, c, d] = encode bs) :
    decodeLast a b c d = some bs := by
  match bs with
  | [] => cases h
  | [x] =>
    cases h
    have hx := x.toNat_lt
    have hpad : (pad == pad && pad == pad) = true := rfl
    have hzero : (x.toNat % 4 * 16 % 16 == 0) = true := by rw [beq_iff_eq]; omega
    rw [decodeLast, value?_character (by omega), value?_character (by omega)]
    simp only [Option.bind_eq_bind, Option.bind_some, hpad, hzero, if_true]
    rw [Utf8.ofNat_eq (by omega : x.toNat = _)]
  | [x, y] =>
    cases h
    have hx := x.toNat_lt
    have hy := y.toNat_lt
    have hpad : (pad == pad) = true := rfl
    have hne := beq_false_of_ne (character_ne_pad (by omega : y.toNat % 16 * 4 < 64))
    have hzero : (y.toNat % 16 * 4 % 4 == 0) = true := by rw [beq_iff_eq]; omega
    rw [decodeLast, value?_character (by omega), value?_character (by omega),
      value?_character (by omega)]
    simp only [Option.bind_eq_bind, Option.bind_some, hpad, hne, hzero, Bool.false_and,
      Bool.false_eq_true, if_true, if_false]
    rw [Utf8.ofNat_eq (by omega : x.toNat = _), Utf8.ofNat_eq (by omega : y.toNat = _)]
  | [x, y, z] =>
    cases h
    have hx := x.toNat_lt
    have hy := y.toNat_lt
    have hz := z.toNat_lt
    have hne := beq_false_of_ne
      (character_ne_pad (by omega : y.toNat % 16 * 4 + z.toNat / 64 < 64))
    have hne' := beq_false_of_ne (character_ne_pad (by omega : z.toNat % 64 < 64))
    rw [decodeLast, value?_character (by omega), value?_character (by omega),
      value?_character (by omega), value?_character (by omega)]
    simp only [Option.bind_eq_bind, Option.bind_some, hne, hne', Bool.false_and,
      Bool.false_eq_true, if_false]
    rw [Utf8.ofNat_eq (by omega : x.toNat = _), Utf8.ofNat_eq (by omega : y.toNat = _),
      Utf8.ofNat_eq (by omega : z.toNat = _)]
  | x :: y :: z :: w :: rest =>
    -- behind the first group there would be another one
    have hrest : [] = encode (w :: rest) := congrArg (List.drop 4) h
    exact absurd hrest.symm (encode_ne_nil w rest)

/-- What a last group is read as has it for its coded form. -/
theorem encode_of_decodeLast {bs : Bytes} {a b c d : UInt8} (h : decodeLast a b c d = some bs) :
    [a, b, c, d] = encode bs := by
  rw [decodeLast] at h
  simp only [Option.bind_eq_bind, Option.bind_eq_some_iff] at h
  obtain ⟨x, hx, y, hy, h⟩ := h
  obtain ⟨hx, rfl, -⟩ := eq_character_of_value? hx
  obtain ⟨hy, rfl, -⟩ := eq_character_of_value? hy
  split at h
  · next hpad =>
    rw [Bool.and_eq_true, beq_iff_eq, beq_iff_eq] at hpad
    obtain ⟨rfl, rfl⟩ := hpad
    split at h
    · next hzero =>
      cases h
      rw [beq_iff_eq] at hzero
      rw [encode, toNat_ofNat (by omega), show (x * 4 + y / 16) / 4 = x by omega,
        show (x * 4 + y / 16) % 4 * 16 = y by omega]
    · cases h
  · rw [Option.bind_eq_some_iff] at h
    obtain ⟨z, hz, h⟩ := h
    obtain ⟨hz, rfl, -⟩ := eq_character_of_value? hz
    split at h
    · next hpad =>
      rw [beq_iff_eq] at hpad
      subst hpad
      split at h
      · next hzero =>
        cases h
        rw [beq_iff_eq] at hzero
        rw [encode, toNat_ofNat (by omega), toNat_ofNat (by omega),
          show (x * 4 + y / 16) / 4 = x by omega,
          show (x * 4 + y / 16) % 4 * 16 + (y % 16 * 16 + z / 4) / 16 = y by omega,
          show (y % 16 * 16 + z / 4) % 16 * 4 = z by omega]
      · cases h
    · rw [Option.bind_eq_some_iff] at h
      obtain ⟨w, hw, h⟩ := h
      obtain ⟨hw, rfl, -⟩ := eq_character_of_value? hw
      cases h
      rw [encode, toNat_ofNat (by omega), toNat_ofNat (by omega),
        toNat_ofNat (by omega), show (x * 4 + y / 16) / 4 = x by omega,
        show (x * 4 + y / 16) % 4 * 16 + (y % 16 * 16 + z / 4) / 16 = y by omega,
        show (y % 16 * 16 + z / 4) % 16 * 4 + (z % 4 * 64 + w) / 64 = z by omega,
        show (z % 4 * 64 + w) % 64 = w by omega, encode]

/-- A group that others follow has three bytes. -/
theorem exists_of_decodeGroup {bs : Bytes} {a b c d : UInt8}
    (h : decodeGroup a b c d = some bs) :
    ∃ x y z, bs = [x, y, z] ∧ [a, b, c, d] = encode [x, y, z] := by
  rw [decodeGroup] at h
  split at h
  · cases h
  · next hpad =>
    have hlast := encode_of_decodeLast h
    match bs with
    | [] => cases hlast
    | [x] =>
      cases hlast
      exact absurd rfl hpad
    | [x, y] =>
      cases hlast
      exact absurd (Bool.or_true _) hpad
    | [x, y, z] => exact ⟨x, y, z, rfl, hlast⟩
    | x :: y :: z :: w :: rest =>
      have hrest : [] = encode (w :: rest) := congrArg (List.drop 4) hlast
      exact absurd hrest.symm (encode_ne_nil w rest)

theorem decodeGroup_encode {x y z a b c d : UInt8} (h : [a, b, c, d] = encode [x, y, z]) :
    decodeGroup a b c d = some [x, y, z] := by
  have hlast := decodeLast_encode h
  cases h
  have hy := y.toNat_lt
  have hz := z.toNat_lt
  have hc := beq_false_of_ne
    (character_ne_pad (by omega : y.toNat % 16 * 4 + z.toNat / 64 < 64))
  have hd := beq_false_of_ne (character_ne_pad (by omega : z.toNat % 64 < 64))
  rw [decodeGroup, hc, hd]
  exact hlast

/-! ## Texts -/

theorem decodeFrom_encode (done bs : Bytes) :
    decodeFrom done (encode bs) = some (done.reverse ++ bs) := by
  induction bs using encode.induct generalizing done with
  | case1 => rw [encode, decodeFrom, List.append_nil]
  | case2 x =>
    have hlast := decodeLast_encode (rfl : _ = encode [x])
    rw [encode, decodeFrom, hlast, Option.map_some]
  | case3 x y =>
    have hlast := decodeLast_encode (rfl : _ = encode [x, y])
    rw [encode, decodeFrom, hlast, Option.map_some]
  | case4 x y z rest ih =>
    cases rest with
    | nil =>
      have hlast := decodeLast_encode (rfl : _ = encode [x, y, z])
      rw [encode, encode, decodeFrom, hlast, Option.map_some]
    | cons w rest =>
      have hgroup := decodeGroup_encode (rfl : _ = encode [x, y, z])
      rw [encode, decodeFrom.eq_3 _ _ _ _ _ _ (encode_ne_nil w rest), hgroup]
      show decodeFrom ([x, y, z].reverse ++ done) (encode (w :: rest)) = _
      rw [ih, List.reverse_append, List.reverse_reverse, List.append_assoc, List.cons_append,
        List.cons_append, List.singleton_append]

theorem eq_encode_of_decodeFrom {done v bs : Bytes} (h : decodeFrom done v = some bs) :
    ∃ cs, v = encode cs ∧ bs = done.reverse ++ cs := by
  fun_induction decodeFrom done v with
  | case1 done =>
    cases h
    exact ⟨[], rfl, (List.append_nil _).symm⟩
  | case2 done a b c d =>
    obtain ⟨last, hlast, rfl⟩ := Option.map_eq_some_iff.1 h
    exact ⟨last, encode_of_decodeLast hlast, rfl⟩
  | case3 done a b c d rest hrest group hgroup ih =>
    obtain ⟨cs, rfl, rfl⟩ := ih h
    obtain ⟨x, y, z, rfl, hcoded⟩ := exists_of_decodeGroup hgroup
    refine ⟨x :: y :: z :: cs, ?_, ?_⟩
    · rw [encode] at hcoded ⊢
      cases hcoded
      rfl
    · simp
  | case4 done a b c d rest hrest hgroup => cases h
  | case5 => cases h

/-- **Which texts are read**: the coded forms, each as the bytes that it is the coded form of. -/
theorem decode_eq_some_iff {v bs : Bytes} : decode v = some bs ↔ v = encode bs := by
  constructor
  · intro h
    obtain ⟨cs, rfl, rfl⟩ := eq_encode_of_decodeFrom h
    rfl
  · rintro rfl
    exact decodeFrom_encode [] bs

end AlertLine.Base64
