import AlertLine.Text.Utf8
import Mathlib.Tactic.Common

/-!
# UTF-8 reads back what it wrote

The scanner takes the encoding of a character as one reading and goes on behind it
(`scanFrom_encodeChar`), so the strict and the lenient decoder both give back every text that was
encoded (`decode?_encode`, `decodeLossy_encode`). The strict one reads nothing else
(`decode?_eq_some_iff`). The bytes below `0x80` of an encoding are the ASCII characters of the text
(`mem_toList_of_mem_encode`).
-/

namespace AlertLine.Utf8

/-! ## The encoding, character by character -/

/-- The bytes of a text are the bytes of its characters in order. -/
theorem encode_eq_flatMap (s : String) : encode s = s.toList.flatMap String.utf8EncodeChar := by
  rw [encode, String.toUTF8_eq_toByteArray, ← String.utf8Encode_toList, List.utf8Encode,
    List.data_toByteArray]

theorem length_encode (s : String) : (encode s).length = s.utf8ByteSize := rfl

@[simp] theorem encode_append (s t : String) : encode (s ++ t) = encode s ++ encode t := by
  simp only [encode_eq_flatMap, String.toList_append, List.flatMap_append]

/-- An ASCII character is encoded as one byte. -/
theorem utf8EncodeChar_of_lt {c : Char} (h : c.toNat < 0x80) :
    String.utf8EncodeChar c = [UInt8.ofNat c.toNat] := by
  have hle : c.val.toNat ≤ 0x7f := by
    have : c.toNat = c.val.toNat := rfl
    omega
  simp only [String.utf8EncodeChar, hle, if_true]
  rfl

/-- An ASCII text is encoded character by character. -/
theorem encode_ofList_of_lt {cs : List Char} (h : ∀ c ∈ cs, c.toNat < 0x80) :
    encode (String.ofList cs) = cs.map fun c => UInt8.ofNat c.toNat := by
  rw [encode_eq_flatMap, String.toList_ofList]
  induction cs with
  | nil => rfl
  | cons c cs ih =>
    have hc := h c List.mem_cons_self
    have hcs := ih fun d hd => h d (List.mem_cons_of_mem c hd)
    rw [List.flatMap_cons, utf8EncodeChar_of_lt hc, hcs, List.map_cons, List.singleton_append]

/-! ## The scanner over one character -/

/-- The second byte of a longer sequence, with the narrowed ranges spelled out. -/
theorem isSecond_iff {lead b : UInt8} :
    isSecond lead b = true ↔ 0x80 ≤ b.toNat ∧ b.toNat ≤ 0xBF ∧
      (lead.toNat = 0xE0 → 0xA0 ≤ b.toNat) ∧ (lead.toNat = 0xED → b.toNat ≤ 0x9F) ∧
      (lead.toNat = 0xF0 → 0x90 ≤ b.toNat) ∧ (lead.toNat = 0xF4 → b.toNat ≤ 0x8F) := by
  simp only [isSecond, isTail, beq_iff_eq, ← UInt8.toNat_inj, UInt8.le_iff_toNat_le,
    UInt8.reduceToNat]
  split_ifs <;> simp only [Bool.and_eq_true, decide_eq_true_eq] <;> omega

theorem isTail_iff {b : UInt8} : isTail b = true ↔ 0x80 ≤ b.toNat ∧ b.toNat ≤ 0xBF := by
  simp only [isTail, UInt8.le_iff_toNat_le, UInt8.reduceToNat, Bool.and_eq_true, decide_eq_true_eq]

/-- How many bytes follow a lead byte, by its value. -/
theorem tailCount_eq (lead : UInt8) :
    tailCount lead =
      if lead.toNat < 0x80 then some 0
      else if 0xC2 ≤ lead.toNat ∧ lead.toNat ≤ 0xDF then some 1
      else if 0xE0 ≤ lead.toNat ∧ lead.toNat ≤ 0xEF then some 2
      else if 0xF0 ≤ lead.toNat ∧ lead.toNat ≤ 0xF4 then some 3
      else none := by
  simp only [tailCount, UInt8.lt_iff_toNat_lt, UInt8.le_iff_toNat_le, UInt8.reduceToNat,
    Bool.and_eq_true, decide_eq_true_eq]

theorem readFirst_one {lead : UInt8} (rest : Bytes) (h : lead.toNat < 0x80) :
    readFirst lead rest = (some (Char.ofNat lead.toNat), 0) := by
  have ht : tailCount lead = some 0 := by rw [tailCount_eq, if_pos h]
  simp only [readFirst, ht]

theorem readFirst_two {lead b : UInt8} (rest : Bytes) (h : 0xC2 ≤ lead.toNat ∧ lead.toNat ≤ 0xDF)
    (hb : isSecond lead b = true) :
    readFirst lead (b :: rest) =
      (some (Char.ofNat (lead.toNat % 32 * 64 + tailBits b)), 1) := by
  have ht : tailCount lead = some 1 := by rw [tailCount_eq, if_neg (by omega), if_pos h]
  simp only [readFirst, ht, hb, if_true]

theorem readFirst_three {lead b c : UInt8} (rest : Bytes)
    (h : 0xE0 ≤ lead.toNat ∧ lead.toNat ≤ 0xEF) (hb : isSecond lead b = true)
    (hc : isTail c = true) :
    readFirst lead (b :: c :: rest) =
      (some (Char.ofNat ((lead.toNat % 16 * 64 + tailBits b) * 64 + tailBits c)), 2) := by
  have ht : tailCount lead = some 2 := by
    rw [tailCount_eq, if_neg (by omega), if_neg (by omega), if_pos h]
  simp only [readFirst, ht, hb, hc, if_true]

theorem readFirst_four {lead b c d : UInt8} (rest : Bytes)
    (h : 0xF0 ≤ lead.toNat ∧ lead.toNat ≤ 0xF4) (hb : isSecond lead b = true)
    (hc : isTail c = true) (hd : isTail d = true) :
    readFirst lead (b :: c :: d :: rest) =
      (some (Char.ofNat
        (((lead.toNat % 8 * 64 + tailBits b) * 64 + tailBits c) * 64 + tailBits d)), 3) := by
  have ht : tailCount lead = some 3 := by
    rw [tailCount_eq, if_neg (by omega), if_neg (by omega), if_neg (by omega), if_pos h]
  simp only [readFirst, ht, hb, hc, hd, if_true]

/-- A code point is no surrogate and lies below the end of Unicode. -/
theorem toNat_isScalar (c : Char) :
    c.toNat < 0xD800 ∨ (0xDFFF < c.toNat ∧ c.toNat < 0x110000) :=
  c.valid

/-- The reading of the first sequence is the character that was encoded, and it takes in just the
bytes of that character. -/
theorem readFirst_encodeChar (c : Char) (rest : Bytes) :
    ∃ lead tail, String.utf8EncodeChar c = lead :: tail ∧
      readFirst lead (tail ++ rest) = (some c, tail.length) := by
  have hv := toNat_isScalar c
  have hc := Char.ofNat_toNat c
  have hval : c.val.toNat = c.toNat := rfl
  simp only [String.utf8EncodeChar, hval]
  -- one case for each length of an encoding; the narrowed ranges of the second byte are the bounds
  -- of that length and the gap of the surrogates
  split_ifs with h1 h2 h3
  · refine ⟨_, [], rfl, ?_⟩
    have hl : (UInt8.ofNat c.toNat).toNat = c.toNat := by
      rw [UInt8.toNat_ofNat']; omega
    rw [readFirst_one _ (by omega), hl, hc]
    rfl
  · refine ⟨_, [_], rfl, ?_⟩
    have hl : (UInt8.ofNat (c.toNat / 64 % 32 + 192)).toNat = c.toNat / 64 + 192 := by
      rw [UInt8.toNat_ofNat']; omega
    have hb : (UInt8.ofNat (c.toNat % 64 + 128)).toNat = c.toNat % 64 + 128 := by
      rw [UInt8.toNat_ofNat']; omega
    rw [List.singleton_append, readFirst_two _ (by omega) (isSecond_iff.2 (by omega)), tailBits, hl,
      hb, show (c.toNat / 64 + 192) % 32 * 64 + (c.toNat % 64 + 128) % 64 = c.toNat by omega, hc]
    rfl
  · refine ⟨_, [_, _], rfl, ?_⟩
    have hl : (UInt8.ofNat (c.toNat / 4096 % 16 + 224)).toNat = c.toNat / 4096 + 224 := by
      rw [UInt8.toNat_ofNat']; omega
    have hb : (UInt8.ofNat (c.toNat / 64 % 64 + 128)).toNat = c.toNat / 64 % 64 + 128 := by
      rw [UInt8.toNat_ofNat']; omega
    have hd : (UInt8.ofNat (c.toNat % 64 + 128)).toNat = c.toNat % 64 + 128 := by
      rw [UInt8.toNat_ofNat']; omega
    rw [List.cons_append, List.singleton_append, readFirst_three _ (by omega)
        (isSecond_iff.2 (by omega)) (isTail_iff.2 (by omega)), tailBits, tailBits, hl, hb, hd,
      show ((c.toNat / 4096 + 224) % 16 * 64 + (c.toNat / 64 % 64 + 128) % 64) * 64 +
        (c.toNat % 64 + 128) % 64 = c.toNat by omega, hc]
    rfl
  · refine ⟨_, [_, _, _], rfl, ?_⟩
    have hl : (UInt8.ofNat (c.toNat / 262144 % 8 + 240)).toNat = c.toNat / 262144 + 240 := by
      rw [UInt8.toNat_ofNat']; omega
    have hb : (UInt8.ofNat (c.toNat / 4096 % 64 + 128)).toNat = c.toNat / 4096 % 64 + 128 := by
      rw [UInt8.toNat_ofNat']; omega
    have hd : (UInt8.ofNat (c.toNat / 64 % 64 + 128)).toNat = c.toNat / 64 % 64 + 128 := by
      rw [UInt8.toNat_ofNat']; omega
    have he : (UInt8.ofNat (c.toNat % 64 + 128)).toNat = c.toNat % 64 + 128 := by
      rw [UInt8.toNat_ofNat']; omega
    rw [List.cons_append, List.cons_append, List.singleton_append, readFirst_four _ (by omega)
        (isSecond_iff.2 (by omega)) (isTail_iff.2 (by omega)) (isTail_iff.2 (by omega)),
      tailBits, tailBits, tailBits, hl, hb, hd, he,
      show (((c.toNat / 262144 + 240) % 8 * 64 + (c.toNat / 4096 % 64 + 128) % 64) * 64 +
        (c.toNat / 64 % 64 + 128) % 64) * 64 + (c.toNat % 64 + 128) % 64 = c.toNat by omega, hc]
    rfl

/-! ## The scanner over a whole text -/

/-- The scanner goes on behind the encoding of a character. -/
theorem scanFrom_encodeChar (done : List (Option Char)) (c : Char) (rest : Bytes) :
    scanFrom done (String.utf8EncodeChar c ++ rest) = scanFrom (some c :: done) rest := by
  obtain ⟨lead, tail, henc, hread⟩ := readFirst_encodeChar c rest
  rw [henc, List.cons_append, scanFrom, hread, List.drop_left]

theorem scanFrom_flatMap_encodeChar (done : List (Option Char)) (cs : List Char) :
    scanFrom done (cs.flatMap String.utf8EncodeChar) = done.reverse ++ cs.map some := by
  induction cs generalizing done with
  | nil => rw [List.flatMap_nil, scanFrom, List.map_nil, List.append_nil]
  | cons c cs ih =>
    rw [List.flatMap_cons, scanFrom_encodeChar, ih, List.reverse_cons, List.append_assoc,
      List.singleton_append, List.map_cons]

/-- Every reading of an encoded text is one of its characters, in order. -/
theorem scan_encode (s : String) : scan (encode s) = s.toList.map some := by
  rw [scan, encode_eq_flatMap, scanFrom_flatMap_encodeChar, List.reverse_nil, List.nil_append]

/-- **The lenient decoder gives back what was encoded.** -/
theorem decodeLossy_encode (s : String) : decodeLossy (encode s) = s := by
  have hread : ((fun c : Option Char => c.getD '\uFFFD') ∘ some) = id := rfl
  rw [decodeLossy, scan_encode, List.map_map, hread, List.map_id, String.ofList_toList]

/-- **The strict decoder gives back what was encoded.** -/
theorem decode?_encode (s : String) : decode? (encode s) = some s := by
  have hread (cs : List Char) : (cs.map some).mapM id = some cs := by
    induction cs with
    | nil => rfl
    | cons c cs ih => rw [List.map_cons, List.mapM_cons, ih]; rfl
  rw [decode?, scan_encode, hread, Option.map_some, String.ofList_toList]

/-! ## What is read as a character -/

theorem ofNat_eq {b : UInt8} {n : ℕ} (h : b.toNat = n) : UInt8.ofNat n = b := by
  rw [← h, UInt8.ofNat_toNat]

theorem toNat_ofNat_scalar {n : ℕ} (h : n < 0xD800 ∨ (0xDFFF < n ∧ n < 0x110000)) :
    (Char.ofNat n).toNat = n := by
  rw [Char.ofNat, dif_pos h]
  rfl

/-- A well-formed sequence of two bytes is the encoding of the character that it is read as. -/
theorem encodeChar_two {lead b : UInt8} (hlead : 0xC2 ≤ lead.toNat ∧ lead.toNat ≤ 0xDF)
    (hb : isSecond lead b = true) :
    String.utf8EncodeChar (Char.ofNat (lead.toNat % 32 * 64 + tailBits b)) = [lead, b] := by
  rw [isSecond_iff] at hb
  rw [tailBits]
  have hval : (Char.ofNat (lead.toNat % 32 * 64 + b.toNat % 64)).val.toNat =
      lead.toNat % 32 * 64 + b.toNat % 64 := toNat_ofNat_scalar (by omega)
  rw [String.utf8EncodeChar, hval, if_neg (by omega), if_pos (by omega),
    ofNat_eq (b := lead) (by omega), ofNat_eq (b := b) (by omega)]

theorem encodeChar_three {lead b c : UInt8} (hlead : 0xE0 ≤ lead.toNat ∧ lead.toNat ≤ 0xEF)
    (hb : isSecond lead b = true) (hc : isTail c = true) :
    String.utf8EncodeChar
        (Char.ofNat ((lead.toNat % 16 * 64 + tailBits b) * 64 + tailBits c)) = [lead, b, c] := by
  rw [isSecond_iff] at hb
  rw [isTail_iff] at hc
  rw [tailBits, tailBits]
  have hval : (Char.ofNat
      ((lead.toNat % 16 * 64 + b.toNat % 64) * 64 + c.toNat % 64)).val.toNat =
        (lead.toNat % 16 * 64 + b.toNat % 64) * 64 + c.toNat % 64 := toNat_ofNat_scalar (by omega)
  rw [String.utf8EncodeChar, hval, if_neg (by omega), if_neg (by omega), if_pos (by omega),
    ofNat_eq (b := lead) (by omega), ofNat_eq (b := b) (by omega), ofNat_eq (b := c) (by omega)]

theorem encodeChar_four {lead b c d : UInt8} (hlead : 0xF0 ≤ lead.toNat ∧ lead.toNat ≤ 0xF4)
    (hb : isSecond lead b = true) (hc : isTail c = true) (hd : isTail d = true) :
    String.utf8EncodeChar
        (Char.ofNat (((lead.toNat % 8 * 64 + tailBits b) * 64 + tailBits c) * 64 + tailBits d)) =
      [lead, b, c, d] := by
  rw [isSecond_iff] at hb
  rw [isTail_iff] at hc hd
  rw [tailBits, tailBits, tailBits]
  have hval : (Char.ofNat
      (((lead.toNat % 8 * 64 + b.toNat % 64) * 64 + c.toNat % 64) * 64 + d.toNat % 64)).val.toNat =
        ((lead.toNat % 8 * 64 + b.toNat % 64) * 64 + c.toNat % 64) * 64 + d.toNat % 64 :=
    toNat_ofNat_scalar (by omega)
  rw [String.utf8EncodeChar, hval, if_neg (by omega), if_neg (by omega), if_neg (by omega),
    ofNat_eq (b := lead) (by omega), ofNat_eq (b := b) (by omega), ofNat_eq (b := c) (by omega),
    ofNat_eq (b := d) (by omega)]

theorem tailCount_eq_some_iff {lead : UInt8} {n : ℕ} :
    tailCount lead = some n ↔ (n = 0 ∧ lead.toNat < 0x80) ∨
      (n = 1 ∧ 0xC2 ≤ lead.toNat ∧ lead.toNat ≤ 0xDF) ∨
      (n = 2 ∧ 0xE0 ≤ lead.toNat ∧ lead.toNat ≤ 0xEF) ∨
      (n = 3 ∧ 0xF0 ≤ lead.toNat ∧ lead.toNat ≤ 0xF4) := by
  rw [tailCount_eq]
  split_ifs <;> simp <;> omega

/-- A reading is the character whose bytes it takes in. -/
theorem encodeChar_of_readFirst {lead : UInt8} {rest : Bytes} {c : Char} {n : ℕ}
    (h : readFirst lead rest = (some c, n)) : String.utf8EncodeChar c = lead :: rest.take n := by
  unfold readFirst at h
  split at h
  · cases h
  · next ht =>
    cases h
    have hlead : lead.toNat < 0x80 := by have := tailCount_eq_some_iff.1 ht; omega
    have hval := toNat_ofNat_scalar (.inl (by omega : lead.toNat < 0xD800))
    rw [utf8EncodeChar_of_lt (by omega), hval, UInt8.ofNat_toNat, List.take_zero]
  · next ht =>
    have hlead : 0xC2 ≤ lead.toNat ∧ lead.toNat ≤ 0xDF := by
      have := tailCount_eq_some_iff.1 ht
      omega
    split at h
    · next b rest =>
      split at h
      · next hb =>
        cases h
        exact encodeChar_two hlead hb
      · cases h
    · cases h
  · next ht =>
    have hlead : 0xE0 ≤ lead.toNat ∧ lead.toNat ≤ 0xEF := by
      have := tailCount_eq_some_iff.1 ht
      omega
    split at h
    · next b c rest =>
      split at h
      · next hb =>
        split at h
        · next hc =>
          cases h
          exact encodeChar_three hlead hb hc
        · cases h
      · cases h
    · cases h
    · cases h
  · next k hzero hone htwo ht =>
    have hlead : 0xF0 ≤ lead.toNat ∧ lead.toNat ≤ 0xF4 := by
      have hk : k ≠ 0 ∧ k ≠ 1 ∧ k ≠ 2 := ⟨hzero, hone, htwo⟩
      have := tailCount_eq_some_iff.1 ht
      omega
    split at h
    · next b c d rest =>
      split at h
      · next hb =>
        split at h
        · next hc =>
          split at h
          · next hd =>
            cases h
            exact encodeChar_four hlead hb hc hd
          · cases h
        · cases h
      · cases h
    · cases h
    · cases h
    · cases h

/-! ## The scanner over well-formed bytes -/

/-- Readings without an ill-formed part are those of the characters whose bytes were scanned. -/
theorem eq_flatMap_of_scanFrom {done : List (Option Char)} {bs : Bytes} {cs : List Char}
    (h : scanFrom done bs = cs.map some) :
    ∃ front back, cs = front ++ back ∧ done.reverse = front.map some ∧
      bs = back.flatMap String.utf8EncodeChar := by
  fun_induction scanFrom done bs with
  | case1 done => exact ⟨cs, [], (List.append_nil cs).symm, h, rfl⟩
  | case2 done lead rest first ih =>
    obtain ⟨front, back, rfl, hdone, hrest⟩ := ih h
    rw [List.reverse_cons, eq_comm, List.map_eq_append_iff] at hdone
    obtain ⟨front, last, rfl, hfront, hlast⟩ := hdone
    obtain ⟨c, rfl, hc⟩ := List.map_eq_singleton_iff.1 hlast
    have hread : readFirst lead rest = (some c, first.2) := Prod.ext hc.symm rfl
    refine ⟨front, c :: back, ?_, hfront.symm, ?_⟩
    · rw [List.append_assoc, List.singleton_append]
    · rw [List.flatMap_cons, encodeChar_of_readFirst hread, ← hrest, List.cons_append,
        List.take_append_drop]

/-- Readings are all characters exactly if none of them is ill-formed. -/
theorem mapM_id_eq_some_iff {rs : List (Option Char)} {cs : List Char} :
    rs.mapM id = some cs ↔ rs = cs.map some := by
  induction rs generalizing cs with
  | nil =>
    rw [List.mapM_nil, eq_comm (b := cs.map some), List.map_eq_nil_iff]
    exact Option.some_inj.trans eq_comm
  | cons r rs ih =>
    simp only [List.mapM_cons, id, Option.bind_eq_bind, Option.bind_eq_some_iff, Option.pure_def,
      Option.some_inj, eq_comm (b := cs.map some), List.map_eq_cons_iff, ih]
    constructor
    · rintro ⟨c, rfl, ds, rfl, rfl⟩
      exact ⟨c, ds, rfl, rfl, rfl⟩
    · rintro ⟨c, ds, rfl, rfl, rfl⟩
      exact ⟨c, rfl, ds, rfl, rfl⟩

/-- **What the strict decoder reads**: the bytes of texts, and nothing else. -/
theorem decode?_eq_some_iff {bs : Bytes} {s : String} : decode? bs = some s ↔ bs = encode s := by
  constructor
  · intro h
    obtain ⟨cs, hcs, rfl⟩ := Option.map_eq_some_iff.1 h
    obtain ⟨front, back, rfl, hfront, rfl⟩ := eq_flatMap_of_scanFrom (mapM_id_eq_some_iff.1 hcs)
    rw [List.reverse_nil, eq_comm, List.map_eq_nil_iff] at hfront
    rw [hfront, encode_eq_flatMap, List.nil_append, String.toList_ofList]
  · rintro rfl
    exact decode?_encode s

/-! ## ASCII bytes -/

/-- A byte below `0x80` in the encoding of a character is that character. -/
theorem eq_of_mem_encodeChar {c : Char} {b : UInt8} (hb : b ∈ String.utf8EncodeChar c)
    (hlt : b.toNat < 0x80) : Char.ofNat b.toNat = c := by
  have hval : c.val.toNat = c.toNat := rfl
  simp only [String.utf8EncodeChar, hval] at hb
  split_ifs at hb <;> simp only [List.mem_cons, List.not_mem_nil, or_false] at hb
  · subst hb
    rw [UInt8.toNat_ofNat', Nat.mod_eq_of_lt (by omega), Char.ofNat_toNat]
  -- all bytes of a longer encoding are at least `0x80`
  all_goals
    exfalso
    rcases hb with rfl | rfl | rfl | rfl <;> rw [UInt8.toNat_ofNat'] at hlt <;> omega

/-- The ASCII bytes of an encoding are the ASCII characters of the text. -/
theorem mem_toList_of_mem_encode {s : String} {b : UInt8} (hb : b ∈ encode s)
    (hlt : b.toNat < 0x80) : Char.ofNat b.toNat ∈ s.toList := by
  rw [encode_eq_flatMap, List.mem_flatMap] at hb
  obtain ⟨c, hc, hbc⟩ := hb
  rwa [eq_of_mem_encodeChar hbc hlt]

end AlertLine.Utf8
