import AlertLine.Encoding.Form
import AlertLine.Proofs.Text.Utf8

/-!
# Form coding reads back what it wrote

Every list of pairs survives being written as a form and read again (`parseQuery_encode`): names and
values may be empty, repeated, and hold any character. Two coded texts with an ampersand between
them are read one after the other (`parse_append_amp`), which is what it means to add pairs to a
query.

A component is read byte by byte: the decoder of escapes goes on behind each coded byte
(`decodeFrom_encodeByte`), and what is left is the UTF-8 of the component. Marks that separate pairs
never stand in a coded component (`mem_encodeByte`).
-/

namespace AlertLine

/-! ## Escapes -/

namespace Percent

/-- A byte other than the percent sign stands for itself. -/
theorem decodeFrom_cons_of_ne (done : Bytes) {b : UInt8} (h : b ≠ 0x25) (rest : Bytes) :
    decodeFrom done (b :: rest) = decodeFrom (b :: done) rest := by
  rw [decodeFrom.eq_def]
  exact if_neg (by simpa using h)

/-- The byte of a hexadecimal digit has the digit's value. -/
theorem hexValue?_hexDigit {n : ℕ} (h : n < 16) :
    hexValue? (UInt8.ofNat (hexDigit n).toNat) = some n := by
  revert n
  decide

/-- The decoder goes on behind an escape with the byte that it stands for. -/
theorem decodeFrom_escape (done : Bytes) (b : UInt8) (rest : Bytes) :
    decodeFrom done ((escape b).map (fun c => UInt8.ofNat c.toNat) ++ rest) =
      decodeFrom (b :: done) rest := by
  have hb := b.toNat_lt
  have hhigh : b.toNat / 16 < 16 := by omega
  have hlow : b.toNat % 16 < 16 := by omega
  have hbyte : UInt8.ofNat (16 * (b.toNat / 16) + b.toNat % 16) = b := by
    rw [Nat.div_add_mod, UInt8.ofNat_toNat]
  simp only [escape, List.map_cons, List.map_nil, List.cons_append, List.nil_append]
  rw [decodeFrom, if_pos (by decide)]
  simp only [hexValue?_hexDigit hhigh, hexValue?_hexDigit hlow, hbyte]

/-- The characters of an escape. -/
theorem mem_escape {b : UInt8} {c : Char} (h : c ∈ escape b) :
    c = '%' ∨ ∃ n < 16, c = hexDigit n := by
  have hb := b.toNat_lt
  simp only [escape, List.mem_cons, List.not_mem_nil, or_false] at h
  rcases h with rfl | rfl | rfl
  · exact .inl rfl
  · exact .inr ⟨_, by omega, rfl⟩
  · exact .inr ⟨_, by omega, rfl⟩

end Percent

namespace Form

open Percent

/-! ## Coded bytes -/

/-- The bytes that are no plain ones, among those with a meaning in a form or an address. -/
theorem isPlain_ne {b : UInt8} (h : isPlain b = true) :
    b < 0x80 ∧ b ≠ 0x23 ∧ b ≠ 0x25 ∧ b ≠ 0x26 ∧ b ≠ 0x2B ∧ b ≠ 0x3D ∧ b ≠ 0x3F := by
  refine ⟨?_, ?_, ?_, ?_, ?_, ?_, ?_⟩
  · simp only [isPlain, Bool.and_eq_true, decide_eq_true_eq] at h
    exact h.1
  all_goals
    rintro rfl
    exact absurd h (by decide)

/-- An ASCII byte is the byte of the character with its number. -/
theorem ofNat_toNat_ofNat {b : UInt8} (h : b < 0x80) :
    (Char.ofNat b.toNat).toNat = b.toNat := by
  have hlt : b.toNat < 0x80 := UInt8.lt_iff_toNat_lt.1 h
  rw [Char.ofNat, dif_pos (.inl (by omega))]
  rfl

/-- The characters of a coded byte are ASCII, and none of them separates pairs, names or parts of
an address. -/
theorem mem_encodeByte {b : UInt8} {c : Char} (h : c ∈ encodeByte b) :
    c.toNat < 0x80 ∧ c ≠ '&' ∧ c ≠ '=' ∧ c ≠ '#' ∧ c ≠ '?' := by
  unfold encodeByte at h
  split_ifs at h with hspace hplain
  · rw [List.mem_singleton.1 h]
    decide
  · obtain ⟨hlt, hhash, -, hamp, -, heq, hask⟩ := isPlain_ne hplain
    have hval := ofNat_toNat_ofNat hlt
    have hne {d : Char} (hd : b ≠ UInt8.ofNat d.toNat) : Char.ofNat b.toNat ≠ d := by
      rintro rfl
      rw [hval, UInt8.ofNat_toNat] at hd
      exact hd rfl
    rw [List.mem_singleton.1 h, hval]
    exact ⟨UInt8.lt_iff_toNat_lt.1 hlt, hne hamp, hne heq, hne hhash, hne hask⟩
  · have hdigit : ∀ n < 16, (hexDigit n).toNat < 0x80 ∧ hexDigit n ≠ '&' ∧ hexDigit n ≠ '=' ∧
        hexDigit n ≠ '#' ∧ hexDigit n ≠ '?' := by decide
    rcases mem_escape h with rfl | ⟨n, hn, rfl⟩
    · decide
    · exact hdigit n hn

/-- **The decoder of a component goes on behind each coded byte.** -/
theorem decodeFrom_encodeByte (done : Bytes) (b : UInt8) (rest : Bytes) :
    decodeFrom done (((encodeByte b).map fun c => UInt8.ofNat c.toNat).map plusToSpace ++ rest) =
      decodeFrom (b :: done) rest := by
  unfold encodeByte
  split_ifs with hspace hplain
  · -- a plus sign is read as a space
    rw [eq_of_beq hspace]
    exact decodeFrom_cons_of_ne done (by decide) rest
  · obtain ⟨hlt, -, hpercent, -, hplus, -⟩ := isPlain_ne hplain
    have hbyte : plusToSpace (UInt8.ofNat (Char.ofNat b.toNat).toNat) = b := by
      rw [ofNat_toNat_ofNat hlt, UInt8.ofNat_toNat, plusToSpace, if_neg (by simpa using hplus)]
    rw [List.map_singleton, List.map_singleton, hbyte]
    exact decodeFrom_cons_of_ne done hpercent rest
  · -- no character of an escape is a plus sign
    have hsame : ((escape b).map fun c => UInt8.ofNat c.toNat).map plusToSpace =
        (escape b).map fun c => UInt8.ofNat c.toNat := by
      rw [List.map_map]
      refine List.map_congr_left fun c hc => ?_
      have hdigit : ∀ n < 16, plusToSpace (UInt8.ofNat (hexDigit n).toNat) =
          UInt8.ofNat (hexDigit n).toNat := by decide
      rcases mem_escape hc with rfl | ⟨n, hn, rfl⟩
      · rfl
      · exact hdigit n hn
    rw [hsame]
    exact decodeFrom_escape done b rest

/-! ## Components -/

/-- The characters of a coded component. -/
theorem mem_encodeComponent {s : String} {c : Char} (h : c ∈ (encodeComponent s).toList) :
    c.toNat < 0x80 ∧ c ≠ '&' ∧ c ≠ '=' ∧ c ≠ '#' ∧ c ≠ '?' := by
  rw [encodeComponent, String.toList_ofList, List.mem_flatMap] at h
  obtain ⟨b, -, hc⟩ := h
  exact mem_encodeByte hc

/-- The bytes of a coded component. -/
theorem encode_encodeComponent (s : String) :
    Utf8.encode (encodeComponent s) =
      (Utf8.encode s).flatMap fun b => (encodeByte b).map fun c => UInt8.ofNat c.toNat := by
  rw [encodeComponent, Utf8.encode_ofList_of_lt, List.map_flatMap]
  intro c hc
  obtain ⟨b, -, hb⟩ := List.mem_flatMap.1 hc
  exact (mem_encodeByte hb).1

theorem decodeFrom_flatMap_encodeByte (done bs : Bytes) :
    decodeFrom done
        ((bs.flatMap fun b => (encodeByte b).map fun c => UInt8.ofNat c.toNat).map plusToSpace) =
      done.reverse ++ bs := by
  induction bs generalizing done with
  | nil => rw [List.flatMap_nil, List.map_nil, decodeFrom, List.append_nil]
  | cons b bs ih =>
    rw [List.flatMap_cons, List.map_append, decodeFrom_encodeByte, ih, List.reverse_cons,
      List.append_assoc, List.singleton_append]

/-- **A coded component is read as the text that was coded.** -/
theorem decodeComponent_encodeComponent (s : String) :
    decodeComponent (Utf8.encode (encodeComponent s)) = s := by
  rw [decodeComponent, encode_encodeComponent, Percent.decode, decodeFrom_flatMap_encodeByte,
    List.reverse_nil, List.nil_append, Utf8.decodeLossy_encode]

/-! ## Pairs -/

/-- An ASCII character that is not in a text has no byte in it. -/
theorem not_mem_encode {s : String} {d : Char} (hd : d.toNat < 0x80) (h : d ∉ s.toList) :
    UInt8.ofNat d.toNat ∉ Utf8.encode s := by
  intro hmem
  have hval : (UInt8.ofNat d.toNat).toNat = d.toNat := by
    rw [UInt8.toNat_ofNat']; omega
  have := Utf8.mem_toList_of_mem_encode hmem (by omega)
  rw [hval, Char.ofNat_toNat] at this
  exact h this

/-- A text around an equals sign is split there, if the part in front has none. -/
theorem splitPair_append {a b : Bytes} (h : 0x3D ∉ a) : splitPair (a ++ 0x3D :: b) = (a, b) := by
  have hne : ∀ x ∈ a, (x != 0x3D) = true := fun x hx => by
    simpa using fun heq : x = 0x3D => h (heq ▸ hx)
  rw [splitPair, List.takeWhile_append_of_pos hne, List.dropWhile_append_of_pos hne]
  simp

/-- A coded pair is read as the pair that was coded. -/
theorem decodePair_encodePair (p : Pair) : decodePair (Utf8.encode (encodePair p)) = p := by
  have heq : 0x3D ∉ Utf8.encode (encodeComponent p.1) :=
    not_mem_encode (d := '=') (by decide) fun hc => (mem_encodeComponent hc).2.2.1 rfl
  have hsign : Utf8.encode "=" = [0x3D] := by decide
  rw [encodePair, Utf8.encode_append, Utf8.encode_append, hsign, List.append_assoc,
    List.singleton_append, decodePair, splitPair_append heq]
  simp only [decodeComponent_encodeComponent]

/-- **Texts with an ampersand between them are read one after the other.** -/
theorem parse_append_amp (a b : Bytes) : parse (a ++ 0x26 :: b) = parse a ++ parse b := by
  rw [parse, List.splitOnP_append_cons a b (by decide), List.filter_append, List.map_append]
  rfl

/-- The characters of a coded pair. -/
theorem mem_encodePair {p : Pair} {c : Char} (h : c ∈ (encodePair p).toList) :
    c ≠ '&' ∧ c ≠ '#' ∧ c ≠ '?' := by
  rw [encodePair, String.toList_append, String.toList_append, List.mem_append, List.mem_append] at h
  rcases h with (h | h) | h
  · obtain ⟨-, hamp, -, hhash, hask⟩ := mem_encodeComponent h
    exact ⟨hamp, hhash, hask⟩
  · rw [List.mem_singleton.1 h]
    decide
  · obtain ⟨-, hamp, -, hhash, hask⟩ := mem_encodeComponent h
    exact ⟨hamp, hhash, hask⟩

/-- A coded pair by itself is read as that pair. -/
theorem parse_encodePair (p : Pair) : parse (Utf8.encode (encodePair p)) = [p] := by
  have hnone : 0x26 ∉ Utf8.encode (encodePair p) :=
    not_mem_encode (d := '&') (by decide) fun hc => (mem_encodePair hc).1 rfl
  have hamp : ∀ x ∈ Utf8.encode (encodePair p), (x == 0x26) = false := fun x hx => by
    simpa using fun heq : x = 0x26 => hnone (heq ▸ hx)
  have hsign : Utf8.encode "=" = [0x3D] := by decide
  have hne : Utf8.encode (encodePair p) ≠ [] := by
    rw [encodePair, Utf8.encode_append, Utf8.encode_append, hsign]
    simp
  rw [parse, List.splitOnP_eq_singleton hamp, List.filter_cons_of_pos (by simpa using hne),
    List.filter_nil, List.map_singleton, decodePair_encodePair]

/-! ## Lists of pairs -/

theorem encode_cons_cons (p q : Pair) (ps : List Pair) :
    encode (p :: q :: ps) = encodePair p ++ "&" ++ encode (q :: ps) := by
  rw [encode, List.map_cons, List.map_cons, String.intercalate_cons_cons]
  rfl

/-- **Pairs are read back as they were written.** -/
theorem parseQuery_encode (ps : List Pair) : parseQuery (encode ps) = ps := by
  induction ps with
  | nil => decide
  | cons p ps ih =>
    cases ps with
    | nil => exact parse_encodePair p
    | cons q ps =>
      have hamp : Utf8.encode "&" = [0x26] := by decide
      rw [encode_cons_cons, parseQuery, Utf8.encode_append, Utf8.encode_append, hamp,
        List.append_assoc, List.singleton_append, parse_append_amp, parse_encodePair,
        List.singleton_append]
      exact congrArg (p :: ·) ih

/-- No mark that ends a query stands in written pairs. -/
theorem mem_encode {ps : List Pair} {c : Char} (h : c ∈ (encode ps).toList) :
    c ≠ '#' ∧ c ≠ '?' := by
  induction ps with
  | nil => exact absurd h List.not_mem_nil
  | cons p ps ih =>
    cases ps with
    | nil => exact (mem_encodePair h).2
    | cons q ps =>
      rw [encode_cons_cons, String.toList_append, String.toList_append, List.mem_append,
        List.mem_append] at h
      rcases h with (h | h) | h
      · exact (mem_encodePair h).2
      · rw [List.mem_singleton.1 h]
        decide
      · exact ih h

end Form
end AlertLine
