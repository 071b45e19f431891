import AlertLine.Json.Decode
import AlertLine.Proofs.Json.Printed

/-!
# Values read back from their documents

A type reads back (`ReadsBack`) when each of its values is plain in its JSON form and is taken from
that form again. The scalars read back, with them options, lists and records, field by field
(`Record.required_eq` and its companions), and choices by their tags (`tagged?_obj`). What reads
back does so from bytes and from text (`read_write`, `decode_parseText_print`).

A choice looks at what it holds before it is known what it is. There every number has to be finite,
which an integer of 64 bits is (`isSound_ofInt64`).
-/

namespace AlertLine.Json

/-! ## Types that read back -/

/-- The JSON form of a value is plain, and the value is taken from it when containers may nest
`depth` deep. -/
class ReadsBack (α : Type) [Wire α] (depth : outParam ℕ) : Prop where
  isPlain : ∀ a : α, IsPlain (Wire.encode a)
  decode_encode : ∀ {room : ℕ}, depth ≤ room → ∀ a : α, Reads.decode room (Wire.encode a) = some a

open ReadsBack

/-- No value is written as `null`. -/
class NeverNull (α : Type) [Wire α] : Prop where
  ne_null : ∀ a : α, Wire.encode a ≠ .null

variable {α : Type} [Wire α] {depth room : ℕ}

/-- **A value that is written is read back.** -/
theorem read_write [ReadsBack α depth] (hdepth : depth ≤ maxDepth) (a : α) :
    read α (write a) = some a := by
  rw [read, write, parse_bytes (isPlain a), Option.bind_some, decode_encode hdepth]

/-- **A value that is printed is read back.** -/
theorem decode_parseText_print [ReadsBack α depth] (hdepth : depth ≤ maxDepth) (a : α) :
    (parseText (Wire.encode a).print).bind (Reads.decode maxDepth) = some a := by
  rw [parseText_print (isPlain a), Option.bind_some, decode_encode hdepth]

/-! ## Scalars -/

instance : ReadsBack String 0 where
  isPlain := .text
  decode_encode _ _ := rfl

instance : NeverNull String where
  ne_null := by rintro s ⟨⟩

instance : ReadsBack Bool 0 where
  isPlain := .bool
  decode_encode _ _ := rfl

instance : ReadsBack Int64 0 where
  isPlain n := .int n.toInt
  decode_encode := by
    intro room _ n
    have hrange : Int64.minValue.toInt ≤ n.toInt ∧ n.toInt ≤ Int64.maxValue.toInt :=
      ⟨n.minValue_le_toInt, n.toInt_le⟩
    show (intWithin? _ _ (.ofInt n.toInt)).map Int64.ofInt = some n
    rw [ofInt, intWithin?, Number.toInt?_ofInt, Option.bind_some, if_pos hrange, Option.map_some,
      Int64.ofInt_toInt]

instance : NeverNull Int64 where
  ne_null := by rintro n ⟨⟩

/-! ## Options and lists -/

omit [Wire α] in
theorem decode_option [Reads α] {v : Json} (hv : v ≠ .null) :
    (Reads.decode room v : Option (Option α)) = (Reads.decode room v : Option α).map some := by
  cases v with
  | null => exact absurd rfl hv
  | bool b => rfl
  | number n => rfl
  | string s => rfl
  | array items => rfl
  | object entries => rfl

instance [ReadsBack α depth] [NeverNull α] : ReadsBack (Option α) depth where
  isPlain
    | none => .null
    | some a => isPlain a
  decode_encode := by
    intro room hroom a?
    cases a? with
    | none => rfl
    | some a =>
      show (Reads.decode room (Wire.encode a) : Option (Option α)) = _
      rw [decode_option (NeverNull.ne_null a), decode_encode hroom, Option.map_some]

instance [ReadsBack α depth] : ReadsBack (List α) (depth + 1) where
  isPlain as := by
    refine .array fun v hv => ?_
    obtain ⟨a, -, rfl⟩ := List.mem_map.1 hv
    exact isPlain a
  decode_encode := by
    intro room hroom as
    obtain ⟨room, rfl⟩ := Nat.exists_eq_add_of_le' (Nat.le_of_add_left_le hroom)
    show (as.map Wire.encode).mapM (Reads.decode room) = some as
    induction as with
    | nil => rfl
    | cons a as ih =>
      rw [List.map_cons, List.mapM_cons, decode_encode (by omega) a, ih]
      rfl

/-! ## Records -/

/-- Whether all values under the names of a record are plain. -/
def ArePlain (entries : List (String × Json)) : Prop := ∀ e ∈ entries, IsPlain e.2

namespace ArePlain

variable {entries others : List (String × Json)}

theorem nil : ArePlain [] := List.forall_mem_nil _

theorem cons {name : String} {v : Json} (hv : IsPlain v) (h : ArePlain entries) :
    ArePlain ((name, v) :: entries) :=
  List.forall_mem_cons.2 ⟨hv, h⟩

theorem append (h : ArePlain entries) (h' : ArePlain others) : ArePlain (entries ++ others) :=
  List.forall_mem_append.2 ⟨h, h'⟩

end ArePlain

theorem IsPlain.obj {entries : List (String × Json)} (h : ArePlain entries) :
    IsPlain (.obj entries) :=
  .object h

namespace Record

variable [ReadsBack α depth] {r : Record} {i : ℕ}

theorem required_eq {a : α} (hroom : depth ≤ r.room) (hgiven : r.given i = some (Wire.encode a)) :
    r.required i = some a := by
  rw [required, hgiven, Option.bind_some, decode_encode hroom]

theorem defaulted_eq {a default : α} (hroom : depth ≤ r.room)
    (hgiven : r.given i = some (Wire.encode a)) : r.defaulted i default = some a := by
  rw [defaulted, hgiven]
  exact decode_encode hroom a

/-- A field that is left out where it has no value. -/
theorem defaulted_none_eq [NeverNull α] {a? : Option α} (hroom : depth ≤ r.room)
    (hgiven : r.given i = a?.map Wire.encode) : r.defaulted i none = some a? := by
  cases a? with
  | none => rw [defaulted, hgiven, Option.map_none]
  | some a =>
    rw [defaulted, hgiven, Option.map_some]
    exact decode_encode (α := Option α) hroom (some a)

theorem nullable_eq [NeverNull α] {a? : Option α} (hroom : depth ≤ r.room)
    (hgiven : r.given i = some (Wire.encode a?)) : r.nullable i = some a? := by
  rw [nullable, hgiven]
  exact decode_encode (α := Option α) hroom a?

end Record

/-! ## Choices -/

/-- Whether all values under the names of a choice are sound. -/
def AreSound (room : ℕ) (entries : List (String × Json)) : Prop :=
  ∀ e ∈ entries, e.2.isSound room = true

namespace AreSound

variable {entries : List (String × Json)}

theorem nil : AreSound room [] := List.forall_mem_nil _

theorem cons {name : String} {v : Json} (hv : v.isSound room = true)
    (h : AreSound room entries) : AreSound room ((name, v) :: entries) :=
  List.forall_mem_cons.2 ⟨hv, h⟩

end AreSound

theorem isSound_ofString (room : ℕ) (s : String) : (ofString s).isSound room = true := by
  cases room <;> rfl

theorem isSound_obj {entries : List (String × Json)} (h : AreSound room entries) :
    (obj entries).isSound (room + 1) = true := by
  rw [obj, isSound, List.all_map, List.all_eq_true]
  exact fun e he => by simpa using h e he

/-- The tag of a choice is taken out, and the other entries are left. -/
theorem tagged?_obj {tag name : String} {entries : List (String × Json)}
    (hother : ∀ e ∈ entries, e.1 ≠ tag) (hsound : AreSound room entries) :
    tagged? tag (room + 1) (obj ((tag, ofString name) :: entries)) = some (name, obj entries) := by
  let others : List (Reading × Json) := entries.map fun e => (some e.1, e.2)
  have hname : ∀ e ∈ others, e.1 ≠ some tag := by
    intro e he
    obtain ⟨e', he', rfl⟩ := List.mem_map.1 he
    exact fun heq => hother e' he' (Option.some.inj heq)
  have hfilter :
      ((some tag, ofString name) :: others).filter (fun e => e.1 != some tag) = others := by
    rw [List.filter_cons_of_neg (by simp), List.filter_eq_self]
    simpa using hname
  have hcount : occurrences tag ((some tag, ofString name) :: others) = 1 := by
    rw [occurrences, List.countP_cons_of_pos (by simp),
      List.countP_eq_zero.2 (by simpa using hname)]
  have hall : others.all (fun e => e.1.isSome && isSound room e.2) = true := by
    rw [List.all_map, List.all_eq_true]
    exact fun e he => by simpa using hsound e he
  show tagged? tag (room + 1) (.object ((some tag, ofString name) :: others)) = _
  simp only [tagged?, hfilter, hcount, hall, beq_self_eq_true, Bool.and_self, if_true, lookup?,
    List.find?_cons_of_pos, Option.map_some]
  rfl

/-! ## Finite numbers

The digits of a number below 2 ^ 64 are collected in full, and the double next to it is at most
twice as large.
-/

theorem foldl_pushWhole (ds : List Char) {n : ℕ} (h : Decimal.valueFrom n ds < UInt64.size) :
    ds.foldl Mantissa.pushWhole ⟨n, 0, false⟩ = ⟨Decimal.valueFrom n ds, 0, false⟩ := by
  induction ds generalizing n with
  | nil => rfl
  | cons d ds ih =>
    have hstep : Decimal.valueFrom n (d :: ds) =
        Decimal.valueFrom (10 * n + Decimal.digitValue d) ds := rfl
    rw [hstep] at h ⊢
    have hgrow := Decimal.le_valueFrom (10 * n + Decimal.digitValue d) ds
    have hfits : ¬ UInt64.size ≤ 10 * n + Decimal.digitValue d := by omega
    rw [List.foldl_cons, ← ih h, Mantissa.pushWhole, if_neg (by simpa using hfits)]

theorem mantissa_ofInt {n : Int} (h : n.natAbs < UInt64.size) :
    (Number.ofInt n).mantissa = ⟨n.natAbs, 0, false⟩ := by
  have hvalue : Decimal.valueFrom 0 (Nat.toDigits 10 n.natAbs) = n.natAbs := by
    rw [← Nat.toList_repr]
    exact Decimal.value_repr n.natAbs
  have hfold := foldl_pushWhole (Nat.toDigits 10 n.natAbs) (n := 0) (by rw [hvalue]; exact h)
  rw [hvalue] at hfold
  show { (Nat.toDigits 10 n.natAbs).foldl Mantissa.pushWhole ⟨0, 0, false⟩ with
    isFull := false } = _
  rw [hfold]

theorem nearestDouble_le {n : ℕ} (hn : n ≠ 0) : nearestDouble n ≤ 2 * n := by
  have hunit : Nat.pow 2 (n.log2 - 52) ≤ n :=
    Nat.le_trans (Nat.pow_le_pow_right (by decide) (Nat.sub_le _ _)) (Nat.log2_self_le hn)
  have hwhole := Nat.div_mul_le_self n (Nat.pow 2 (n.log2 - 52))
  rw [nearestDouble]
  split_ifs
  · rw [Nat.succ_mul]
    omega
  · omega

theorem isFinite_ofInt {n : Int} (h : n.natAbs ≤ 2 ^ 63) : (Number.ofInt n).isFinite = true := by
  have hsize : n.natAbs < UInt64.size := Nat.lt_of_le_of_lt h (by decide)
  have hone : nearestDouble (Nat.pow 10 0) = 1 := by decide
  have hlimit : 2 ^ 64 < Decimal.doubleLimit := by decide +kernel
  rw [Number.isFinite, mantissa_ofInt hsize]
  show (if n.natAbs == 0 || decide ((0 : Int) < 0) then true
    else if (greatestPower : Int) < 0 then false
    else decide
      (nearestDouble n.natAbs * nearestDouble (Nat.pow 10 0) < Decimal.doubleLimit)) = true
  rw [hone, Nat.mul_one]
  by_cases hzero : n.natAbs = 0
  · rw [hzero]
    rfl
  · have hnearest := nearestDouble_le hzero
    rw [if_neg (by simpa using hzero), if_neg (by decide)]
    exact decide_eq_true (by omega)

theorem isSound_ofInt64 (room : ℕ) (n : Int64) : (ofInt64 n).isSound room = true := by
  have hlow := n.le_toInt
  have hhigh := n.toInt_lt
  have hnumber : (ofInt64 n).isSound room = (Number.ofInt n.toInt).isFinite := by
    cases room <;> rfl
  rw [hnumber]
  exact isFinite_ofInt (by omega)

end AlertLine.Json
