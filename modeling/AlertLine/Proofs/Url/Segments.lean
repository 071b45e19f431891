import AlertLine.Proofs.Encoding.Percent
import AlertLine.Proofs.Url.Query
import Mathlib.Data.List.Basic

/-!
# Segments of a path

The segments of a path are entered one by one: a dot enters nothing, two dots leave the segment
before, and every other segment is a step down (`Url.enter`). So what a path leads to is what its
front leads to, with the steps of its end from there (`Url.segmentsOf_append`). A segment that was
written for a text is such a step down, unless the text is one dot or two
(`Url.addSegment_written`).

A path with slashes behind it and one with further segments behind it have the same front
(`Url.exists_front`): the further segments stand where the slashes do.
-/

namespace AlertLine.Url

open Percent (isSegmentChar encodeSegment)

/-! ## Steps -/

/-- Where segments lead, entered one by one from those so far, which come in reverse. -/
def enter (done : List String) (parts : List (List Char)) : List String :=
  parts.foldl (addSegment false) done

theorem enter_cons (done : List String) (part : List Char) (parts : List (List Char)) :
    enter done (part :: parts) = enter (addSegment false done part) parts := List.foldl_cons ..

theorem enter_append (done : List String) (front back : List (List Char)) :
    enter done (front ++ back) = enter (enter done front) back := List.foldl_append ..

theorem segmentsOf_append (done : List String) (parts : List (List Char)) (last : List Char) :
    segmentsOf done (parts ++ [last]) = (addSegment true (enter done parts) last).reverse := by
  induction parts generalizing done with
  | nil => rw [List.nil_append, segmentsOf, enter, List.foldl_nil]
  | cons part parts ih =>
    -- the first part is not the last one, so dots in it leave no empty segment
    have hmore : parts ++ [last] ≠ [] := List.concat_ne_nil last parts
    rw [List.cons_append, segmentsOf, ih, enter_cons]
    exact hmore

/-- The last segment of a path leads where it would lead in front of others; if it is dots, then
with an empty segment behind. -/
theorem addSegment_true (done : List String) (cs : List Char) :
    addSegment true done cs = addSegment false done cs ∨
      addSegment true done cs = "" :: addSegment false done cs := by
  simp only [addSegment, if_true, Bool.false_eq_true, if_false]
  split_ifs
  · exact .inr rfl
  · exact .inr rfl
  · exact .inl rfl

theorem addSegment_nil (isLast : Bool) (done : List String) :
    addSegment isLast done [] = "" :: done := by
  have hempty : escaped pathEscapes [] = "" := by decide
  rw [addSegment, hempty]
  rfl

/-! ## Written segments -/

/-- What holds of the characters of a segment: they are printable ASCII, and none of them separates
segments, ends a path or is escaped in one. -/
theorem isSegmentChar_spec {c : Char} (h : isSegmentChar c = true) :
    c.toNat < 0x80 ∧ Host.isPlain (UInt8.ofNat c.toNat) = true ∧ isEdge c = false ∧
      isLayout c = false ∧ isSlash true c = false ∧ c ≠ '#' ∧ c ≠ '?' ∧
      c ∉ pathEscapes.toList := by
  have hlt : c.toNat < 0x80 := by
    have hclass := h
    simp only [isSegmentChar, Bool.or_eq_true, beq_iff_eq] at hclass
    rcases hclass with ((((halnum | rfl) | rfl) | rfl) | rfl) | rfl
    · exact toNat_lt_of_isAlphanum halnum
    all_goals decide
  have hspec := of_toNat_lt (P := fun c => isSegmentChar c = true →
    Host.isPlain (UInt8.ofNat c.toNat) = true ∧ isEdge c = false ∧ isLayout c = false ∧
      isSlash true c = false ∧ c ≠ '#' ∧ c ≠ '?' ∧ c ∉ pathEscapes.toList) (by decide +kernel) hlt
  exact ⟨hlt, hspec h⟩

/-- A text of such characters only. -/
def IsSegmentText (cs : List Char) : Prop := ∀ c ∈ cs, isSegmentChar c = true

instance (cs : List Char) : Decidable (IsSegmentText cs) :=
  decidable_of_iff (cs.all isSegmentChar) List.all_eq_true

/-- Nothing is escaped in a segment that is written already. -/
theorem escaped_of_isSegmentText {cs : List Char} (h : IsSegmentText cs) :
    escaped pathEscapes cs = String.ofList cs := by
  have hchar (c : Char) (hc : c ∈ cs) :
      Percent.written (fun b => Host.isPlain b && !pathEscapes.toList.contains (Char.ofNat b.toNat))
        (UInt8.ofNat c.toNat) = [c] := by
    obtain ⟨hlt, hplain, -, -, -, -, -, hkept⟩ := isSegmentChar_spec (h c hc)
    have hback : Char.ofNat (UInt8.ofNat c.toNat).toNat = c := by
      rw [UInt8.toNat_ofNat', Nat.mod_eq_of_lt (by omega), Char.ofNat_toNat]
    have halone : (Host.isPlain (UInt8.ofNat c.toNat) &&
        !pathEscapes.toList.contains (Char.ofNat (UInt8.ofNat c.toNat).toNat)) = true := by
      rw [hback, hplain, Bool.true_and, List.contains_eq_mem, decide_eq_false hkept]
      rfl
    rw [Percent.written, halone, if_pos rfl, hback]
  have hbytes : Utf8.encode (String.ofList cs) = cs.map fun c => UInt8.ofNat c.toNat :=
    Utf8.encode_ofList_of_lt fun c hc => (isSegmentChar_spec (h c hc)).1
  show String.ofList ((Utf8.encode (String.ofList cs)).flatMap (Percent.written _)) = _
  rw [hbytes, List.flatMap_map, List.flatMap_congr hchar]
  exact congrArg String.ofList (List.flatMap_singleton' cs)

/-- A segment that is no dots is a step down. -/
theorem addSegment_of_isSegmentText (isLast : Bool) (done : List String) {name : String}
    (h : IsSegmentText name.toList) (hdot : isDot name = false)
    (hdots : isDoubleDot name = false) : addSegment isLast done name.toList = name :: done := by
  rw [addSegment, escaped_of_isSegmentText h, String.ofList_toList]
  simp only [hdot, hdots, Bool.false_eq_true, if_false]

theorem isDot_encodeSegment (value : String) :
    isDot (encodeSegment value) = true ↔ value = "." := by
  -- an escaped dot would count as one too, but it is read back as a dot
  have hread := Percent.textOfSegment_encodeSegment value
  constructor
  · intro h
    simp only [isDot, Bool.or_eq_true, beq_iff_eq] at h
    rcases h with (h | h) | h <;> rw [h] at hread <;> rw [← hread] <;> decide +kernel
  · rintro rfl
    decide +kernel

theorem isDoubleDot_encodeSegment (value : String) :
    isDoubleDot (encodeSegment value) = true ↔ value = ".." := by
  have hread := Percent.textOfSegment_encodeSegment value
  constructor
  · intro h
    simp only [isDoubleDot, List.any_cons, List.any_nil, Bool.or_false, Bool.or_eq_true,
      beq_iff_eq] at h
    rcases h with (h | h | h) | (h | h | h) | h | h | h <;> rw [h] at hread <;> rw [← hread] <;>
      decide +kernel
  · rintro rfl
    decide +kernel

/-- Where a text that is written as the last segment leads. -/
def lastStep (done : List String) (value : String) : List String :=
  if value = ".." then "" :: shorten done
  else if value = "." then "" :: done
  else encodeSegment value :: done

/-- **A text that is written as the last segment is a step down, unless it is one dot or two.** -/
theorem addSegment_written (done : List String) (value : String) :
    addSegment true done (encodeSegment value).toList = lastStep done value := by
  have htext : IsSegmentText (encodeSegment value).toList := fun _ => Percent.isSegmentChar_of_mem
  rw [addSegment, escaped_of_isSegmentText htext, String.ofList_toList, lastStep]
  simp only [isDoubleDot_encodeSegment, isDot_encodeSegment, if_true]

/-- The name of a directory: a segment that is a step down, and one that can be left again. -/
structure IsName (name : String) : Prop where
  text : IsSegmentText name.toList
  notDot : isDot name = false
  notDots : isDoubleDot name = false
  noDrive : beginsWithDrive name = false

instance (name : String) : Decidable (IsName name) :=
  decidable_of_iff (IsSegmentText name.toList ∧ isDot name = false ∧ isDoubleDot name = false ∧
    beginsWithDrive name = false)
    ⟨fun ⟨text, notDot, notDots, noDrive⟩ => ⟨text, notDot, notDots, noDrive⟩,
      fun h => ⟨h.text, h.notDot, h.notDots, h.noDrive⟩⟩

theorem enter_names {names : List String} (h : ∀ name ∈ names, IsName name) (done : List String) :
    enter done (names.map String.toList) = names.reverse ++ done := by
  induction names generalizing done with
  | nil => rfl
  | cons name names ih =>
    obtain ⟨hname, hnames⟩ := List.forall_mem_cons.1 h
    have hstep := addSegment_of_isSegmentText false done hname.text hname.notDot hname.notDots
    rw [List.map_cons, enter_cons, hstep, ih hnames, List.reverse_cons, List.append_assoc,
      List.singleton_append]

/-! ## Fronts -/

/-- The parts of a path of the web that has something behind a further slash. -/
def partsOf : List Char → List (List Char)
  | [] => []
  | c :: rest => (if isSlash true c then rest else c :: rest).splitOnP (isSlash true)

theorem splitOnP_replicate (n : ℕ) :
    (List.replicate n '/').splitOnP (isSlash true) = List.replicate n [] ++ [[]] := by
  induction n with
  | zero => rfl
  | succ n ih =>
    have hslash : isSlash true '/' = true := by decide
    have hsplit := List.splitOnP_append_cons (p := isSlash true) [] (List.replicate n '/') hslash
    rw [List.nil_append] at hsplit
    rw [List.replicate_succ, hsplit, ih]
    rfl

theorem enter_replicate (done : List String) (n : ℕ) :
    enter done (List.replicate n []) = List.replicate n "" ++ done := by
  induction n generalizing done with
  | zero => rfl
  | succ n ih =>
    rw [List.replicate_succ, enter_cons, addSegment_nil, ih, List.replicate_succ',
      List.append_assoc, List.singleton_append]

section Web

variable {scheme : String} (hweb : isSpecial scheme = true) (hfile : (scheme == "file") = false)

include hweb hfile

theorem pathOf_cons (c : Char) (cs : List Char) :
    pathOf scheme (c :: cs) = .segments (segmentsOf [] (partsOf (c :: cs))) := by
  rw [pathOf, hweb, hfile, if_neg Bool.false_ne_true]
  rfl

theorem pathOf_append_slash (cs rest : List Char) :
    pathOf scheme (cs ++ '/' :: rest) =
      .segments (segmentsOf [] (partsOf cs ++ rest.splitOnP (isSlash true))) := by
  have hslash : isSlash true '/' = true := by decide
  cases cs with
  | nil =>
    have hparts : partsOf ('/' :: rest) = rest.splitOnP (isSlash true) := by
      rw [partsOf, if_pos hslash]
    rw [List.nil_append, pathOf_cons hweb hfile, hparts]
    rfl
  | cons c cs =>
    rw [List.cons_append, pathOf_cons hweb hfile, partsOf, partsOf]
    split_ifs
    · rw [List.splitOnP_append_cons cs rest hslash]
    · rw [← List.cons_append, List.splitOnP_append_cons (c :: cs) rest hslash]

/-- A path leads where it would lead in front of others, or an empty segment further. -/
theorem exists_pathOf_eq (cs : List Char) :
    ∃ k, pathOf scheme cs =
      .segments ((enter [] (partsOf cs)).reverse ++ List.replicate k "") := by
  cases cs with
  | nil =>
    refine ⟨1, ?_⟩
    rw [pathOf, hweb]
    rfl
  | cons c cs =>
    obtain ⟨init, last, hparts⟩ : ∃ init last, partsOf (c :: cs) = init ++ [last] :=
      ⟨_, _, (List.dropLast_append_getLast (List.splitOnP_ne_nil _ _)).symm⟩
    have hall : enter [] (init ++ [last]) = addSegment false (enter [] init) last := by
      rw [enter_append, enter_cons, enter, List.foldl_nil]
    rw [pathOf_cons hweb hfile, hparts, segmentsOf_append, hall]
    rcases addSegment_true (enter [] init) last with hsame | hdots
    · refine ⟨0, ?_⟩
      rw [hsame, List.replicate_zero, List.append_nil]
    · refine ⟨1, ?_⟩
      rw [hdots, List.reverse_cons]
      rfl

/-- **A path with slashes behind it and one with segments behind it have the same front.** -/
theorem exists_front (cs : List Char) :
    ∃ front, (∀ n, ∃ k, pathOf scheme (cs ++ List.replicate n '/') =
        .segments (front ++ List.replicate k "")) ∧
      ∀ rest parts last, rest.splitOnP (isSlash true) = parts ++ [last] →
        pathOf scheme (cs ++ '/' :: rest) =
          .segments (addSegment true (enter front.reverse parts) last).reverse := by
  refine ⟨(enter [] (partsOf cs)).reverse, fun n => ?_, fun rest parts last hrest => ?_⟩
  · cases n with
    | zero =>
      rw [List.replicate_zero, List.append_nil]
      exact exists_pathOf_eq hweb hfile cs
    | succ n =>
      refine ⟨n + 1, ?_⟩
      rw [List.replicate_succ, pathOf_append_slash hweb hfile, splitOnP_replicate,
        ← List.append_assoc, segmentsOf_append, addSegment_nil, enter_append, enter_replicate,
        List.reverse_cons, List.reverse_append, List.reverse_replicate, List.append_assoc,
        ← List.replicate_succ', List.replicate_succ]
  · rw [pathOf_append_slash hweb hfile, hrest, ← List.append_assoc, segmentsOf_append,
      enter_append, List.reverse_reverse]

end Web

end AlertLine.Url
