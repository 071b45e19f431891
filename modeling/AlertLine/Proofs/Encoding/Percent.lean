import AlertLine.Proofs.Encoding.Form

/-!
# Percent coding reads back what it wrote

A text that is written with escapes is read back byte by byte, whatever bytes may stand alone, as
long as they are ASCII and the percent sign is not among them (`Percent.decode_encode`). In a text
that is written as one segment of a path no character has a meaning in an address but the percent
sign (`Percent.isSegmentChar_of_mem`), so that the segment begins and ends where it was put.
-/

namespace AlertLine.Percent

/-! ## Reading back -/

/-- The characters that are written for a byte. -/
def written (alone : UInt8 → Bool) (b : UInt8) : List Char :=
  if alone b then [Char.ofNat b.toNat] else escape b

section Alone

variable {alone : UInt8 → Bool} (halone : ∀ b, alone b = true → b < 0x80 ∧ b ≠ 0x25)

include halone

theorem toNat_lt_of_mem_written {b : UInt8} {c : Char} (h : c ∈ written alone b) :
    c.toNat < 0x80 := by
  rw [written] at h
  split_ifs at h with hb
  · have hlt := (halone b hb).1
    rw [List.mem_singleton.1 h, Form.ofNat_toNat_ofNat hlt]
    exact UInt8.lt_iff_toNat_lt.1 hlt
  · have hdigit : ∀ n < 16, (hexDigit n).toNat < 0x80 := by decide
    rcases mem_escape h with rfl | ⟨n, hn, rfl⟩
    · decide
    · exact hdigit n hn

/-- The bytes of a written text. -/
theorem encode_encode (s : String) :
    Utf8.encode (encode alone s) =
      (Utf8.encode s).flatMap fun b => (written alone b).map fun c => UInt8.ofNat c.toNat := by
  have hchars : encode alone s = String.ofList ((Utf8.encode s).flatMap (written alone)) := rfl
  rw [hchars, Utf8.encode_ofList_of_lt, List.map_flatMap]
  intro c hc
  obtain ⟨b, -, hb⟩ := List.mem_flatMap.1 hc
  exact toNat_lt_of_mem_written halone hb

/-- The decoder goes on behind what is written for a byte. -/
theorem decodeFrom_written (done : Bytes) (b : UInt8) (rest : Bytes) :
    decodeFrom done ((written alone b).map (fun c => UInt8.ofNat c.toNat) ++ rest) =
      decodeFrom (b :: done) rest := by
  rw [written]
  split_ifs with hb
  · obtain ⟨hlt, hpercent⟩ := halone b hb
    rw [List.map_singleton, Form.ofNat_toNat_ofNat hlt, UInt8.ofNat_toNat]
    exact decodeFrom_cons_of_ne done hpercent rest
  · exact decodeFrom_escape done b rest

/-- **A text that is written with escapes is read back.** -/
theorem decode_encode (s : String) : decode (Utf8.encode (encode alone s)) = Utf8.encode s := by
  -- by the bytes that were written, for whatever is decoded already
  have hfrom (done bs : Bytes) : decodeFrom done (bs.flatMap fun b =>
      (written alone b).map fun c => UInt8.ofNat c.toNat) = done.reverse ++ bs := by
    induction bs generalizing done with
    | nil => rw [List.flatMap_nil, decodeFrom, List.append_nil]
    | cons b bs ih =>
      rw [List.flatMap_cons, decodeFrom_written halone, ih, List.reverse_cons, List.append_assoc,
        List.singleton_append]
  rw [encode_encode halone, decode, hfrom, List.reverse_nil, List.nil_append]

end Alone

/-! ## Segments -/

/-- A character of a text that is written as one segment. -/
def isSegmentChar (c : Char) : Bool :=
  c.isAlphanum || c == '-' || c == '.' || c == '_' || c == '~' || c == '%'

theorem isUnreserved_spec {b : UInt8} (h : isUnreserved b = true) :
    b < 0x80 ∧ b ≠ 0x25 ∧ isSegmentChar (Char.ofNat b.toNat) = true := by
  simp only [isUnreserved, Bool.and_eq_true, decide_eq_true_eq] at h
  refine ⟨h.1, ?_, ?_⟩
  · rintro rfl
    exact absurd h.2 (by decide)
  · rw [isSegmentChar, h.2, Bool.true_or]

/-- The text that a segment stands for. -/
def textOfSegment (segment : String) : String := Utf8.decodeLossy (decode (Utf8.encode segment))

theorem isUnreserved_ascii (b : UInt8) (h : isUnreserved b = true) : b < 0x80 ∧ b ≠ 0x25 :=
  ⟨(isUnreserved_spec h).1, (isUnreserved_spec h).2.1⟩

/-- **A segment stands for the text that was written as it.** -/
theorem textOfSegment_encodeSegment (s : String) : textOfSegment (encodeSegment s) = s := by
  rw [textOfSegment, encodeSegment, decode_encode isUnreserved_ascii, Utf8.decodeLossy_encode]

theorem textOfSegment_empty : textOfSegment "" = "" := textOfSegment_encodeSegment ""

/-- A segment is no shorter than the text that was written as it. -/
theorem utf8ByteSize_le_encodeSegment (s : String) :
    s.utf8ByteSize ≤ (encodeSegment s).utf8ByteSize := by
  rw [← Utf8.length_encode, ← Utf8.length_encode, encodeSegment, encode_encode isUnreserved_ascii]
  induction Utf8.encode s with
  | nil => exact Nat.le_refl 0
  | cons b bs ih =>
    have hwritten : 1 ≤ (written isUnreserved b).length := by
      rw [written]
      split_ifs
      · exact Nat.le_refl 1
      · exact Nat.succ_pos 2
    rw [List.flatMap_cons, List.length_append, List.length_map, List.length_cons]
    omega

theorem isSegmentChar_of_mem {s : String} {c : Char} (h : c ∈ (encodeSegment s).toList) :
    isSegmentChar c = true := by
  have hchars : (encodeSegment s).toList = (Utf8.encode s).flatMap (written isUnreserved) := by
    rw [encodeSegment, encode, String.toList_ofList]
    rfl
  rw [hchars] at h
  obtain ⟨b, -, hc⟩ := List.mem_flatMap.1 h
  rw [written] at hc
  split_ifs at hc with hb
  · rw [List.mem_singleton.1 hc]
    exact (isUnreserved_spec hb).2.2
  · have hdigit : ∀ n < 16, isSegmentChar (hexDigit n) = true := by decide
    rcases mem_escape hc with rfl | ⟨n, hn, rfl⟩
    · decide
    · exact hdigit n hn

end AlertLine.Percent
