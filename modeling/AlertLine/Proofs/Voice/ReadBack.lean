import AlertLine.Proofs.Text.Decimal
import AlertLine.Proofs.Voice.Documents
import AlertLine.Proofs.Voice.Reader
import Mathlib.Data.List.Basic

/-!
# Documents read back

A text between tags or quotes holds no delimiter and is read as it comes through
(`unescape_escaped`, `notMem_escaped`). So a tag is read as its name and its attributes, an
instruction as one element in front of anything (`scan_verb`), and a document as the instructions
that it was made of, whatever is said in them (`Prompt.read_render`). Prompts with the same document
therefore differ in control characters only.
-/

namespace AlertLine
namespace Markup

variable {speaker : Speaker}

/-! ## Texts -/

theorem plainChar_of_mem_entities {name : List Char} {c : Char} (h : (name, c) ∈ entities) :
    plainChar c = c := by
  have hall : ∀ e ∈ entities, plainChar e.2 = e.2 := by decide
  exact hall _ h

/-- A character is written as its entity, or as it comes through. -/
theorem escapedChar_cases (c : Char) :
    (∃ name, (name, c) ∈ entities ∧ escapedChar c = '&' :: (name ++ [';'])) ∨
      (plainChar c ∉ '&' :: delimiters ∧ escapedChar c = [plainChar c]) := by
  unfold escapedChar
  split
  · exact .inl ⟨"amp".toList, by decide, rfl⟩
  · exact .inl ⟨"lt".toList, by decide, rfl⟩
  · exact .inl ⟨"gt".toList, by decide, rfl⟩
  · exact .inl ⟨"quot".toList, by decide, rfl⟩
  · exact .inl ⟨"apos".toList, by decide, rfl⟩
  · next hamp hlt hgt hquot hapos =>
    rw [plainChar]
    split_ifs
    · exact .inr ⟨by decide, rfl⟩
    · refine .inr ⟨?_, rfl⟩
      simp only [delimiters, List.mem_cons, List.not_mem_nil, or_false, not_or]
      exact ⟨hamp, hlt, hgt, hquot, hapos⟩

/-- An entity is read as its character. -/
theorem unescapeFrom_entity {name : List Char} {e : Char} (h : (name, e) ∈ entities)
    (cs : List Char) :
    unescapeFrom none ('&' :: (name ++ ';' :: cs)) = (unescapeFrom none cs).map (e :: ·) := by
  simp only [entities, List.mem_cons, List.not_mem_nil, or_false, Prod.mk.injEq] at h
  rcases h with ⟨rfl, rfl⟩ | ⟨rfl, rfl⟩ | ⟨rfl, rfl⟩ | ⟨rfl, rfl⟩ | ⟨rfl, rfl⟩ <;> rfl

theorem unescapeFrom_cons {c : Char} (h : c ≠ '&') (cs : List Char) :
    unescapeFrom none (c :: cs) = (unescapeFrom none cs).map (c :: ·) := by
  rw [unescapeFrom, if_neg h]

theorem unescapeFrom_escaped (cs : List Char) :
    unescapeFrom none (cs.flatMap escapedChar) = some (cs.map plainChar) := by
  induction cs with
  | nil => rfl
  | cons c cs ih =>
    rw [List.flatMap_cons, List.map_cons]
    obtain ⟨name, hname, hc⟩ | ⟨hplain, hc⟩ := escapedChar_cases c
    · rw [hc, List.cons_append, List.append_assoc, List.singleton_append,
        unescapeFrom_entity hname, ih, plainChar_of_mem_entities hname, Option.map_some]
    · rw [hc, List.singleton_append, unescapeFrom_cons (List.ne_of_not_mem_cons hplain), ih,
        Option.map_some]

/-- A text is read as it comes through. -/
theorem unescape_escaped (s : String) : unescape (escaped s) = some (plain s) := by
  rw [unescape, escaped, unescapeFrom_escaped, Option.map_some, plain, ← String.toList_map,
    String.ofList_toList]

theorem eq_empty_of_escaped {s : String} (h : escaped s = []) : s = "" := by
  have hread := unescape_escaped s
  rw [h] at hread
  have hplain : "".toList = s.toList.map plainChar := by
    rw [← String.toList_map, ← plain, ← Option.some.inj hread]
  rw [← String.toList_inj]
  exact List.map_eq_nil_iff.1 hplain.symm

/-- Characters without an entity among them stand for themselves. -/
theorem unescape_of_notMem {cs : List Char} (h : '&' ∉ cs) :
    unescape cs = some (String.ofList cs) := by
  have hfrom : unescapeFrom none cs = some cs := by
    induction cs with
    | nil => rfl
    | cons c cs ih =>
      rw [unescapeFrom_cons (List.ne_of_not_mem_cons h).symm,
        ih (List.not_mem_of_not_mem_cons h), Option.map_some]
  rw [unescape, hfrom, Option.map_some]

/-- **No text holds a delimiter.** -/
theorem notMem_escaped (s : String) {c : Char} (hc : c ∈ delimiters) : c ∉ escaped s := by
  intro hmem
  rw [escaped, List.mem_flatMap] at hmem
  obtain ⟨d, -, hd⟩ := hmem
  obtain ⟨name, hname, hwritten⟩ | ⟨hplain, hwritten⟩ := escapedChar_cases d
  · have hentities : ∀ e ∈ entities, delimiters.Forall (· ∉ '&' :: (e.1 ++ [';'])) := by decide
    rw [hwritten] at hd
    exact List.forall_iff_forall_mem.1 (hentities _ hname) c hc hd
  · rw [hwritten, List.mem_singleton] at hd
    subst hd
    exact hplain (List.mem_cons_of_mem _ hc)

/-! ## Characters between delimiters -/

section Scan

variable {cs acc : List Char} {b : Building}

/-- A character that is no delimiter leaves the reader where it stands. -/
theorem step_of_notMem {c : Char} (h : c ∉ delimiters) (acc : List Char) (b : Building) :
    Scan.step ⟨.text acc, b⟩ c = some ⟨.text (c :: acc), b⟩ ∧
      Scan.step ⟨.tag acc, b⟩ c = some ⟨.tag (c :: acc), b⟩ ∧
      Scan.step ⟨.quoted acc, b⟩ c = some ⟨.quoted (c :: acc), b⟩ := by
  simp only [delimiters, List.mem_cons, List.not_mem_nil, or_false, not_or] at h
  obtain ⟨hlt, hgt, hquot, -⟩ := h
  exact ⟨if_neg hlt, by simp only [Scan.step, if_neg hlt, if_neg hgt, if_neg hquot],
    by simp only [Scan.step, if_neg hlt, if_neg hquot]⟩

/-- So do characters that are no delimiters. -/
theorem scan_of_forall {place : List Char → Place} (h : ∀ c ∈ cs, c ∉ delimiters)
    (hstep : ∀ c, c ∉ delimiters → ∀ acc, Scan.step ⟨place acc, b⟩ c = some ⟨place (c :: acc), b⟩)
    (acc : List Char) :
    cs.foldlM Scan.step ⟨place acc, b⟩ = some ⟨place (cs.reverse ++ acc), b⟩ := by
  induction cs generalizing acc with
  | nil => rfl
  | cons c cs ih =>
    obtain ⟨hc, hcs⟩ := List.forall_mem_cons.1 h
    rw [List.foldlM_cons, hstep c hc]
    show cs.foldlM Scan.step ⟨place (c :: acc), b⟩ = _
    rw [ih hcs, List.reverse_cons, List.append_assoc, List.singleton_append]

theorem scan_text (h : ∀ c ∈ cs, c ∉ delimiters) :
    cs.foldlM Scan.step ⟨.text acc, b⟩ = some ⟨.text (cs.reverse ++ acc), b⟩ :=
  scan_of_forall h (fun _ hc acc => (step_of_notMem hc acc b).1) acc

theorem scan_quoted (h : ∀ c ∈ cs, c ∉ delimiters) :
    cs.foldlM Scan.step ⟨.quoted acc, b⟩ = some ⟨.quoted (cs.reverse ++ acc), b⟩ :=
  scan_of_forall h (fun _ hc acc => (step_of_notMem hc acc b).2.2) acc

/-- Characters that stay within a tag. -/
def IsTagBody (cs : List Char) : Prop :=
  ∀ acc b, cs.foldlM Scan.step ⟨.tag acc, b⟩ = some ⟨.tag (cs.reverse ++ acc), b⟩

theorem isTagBody_of_forall (h : ∀ c ∈ cs, c ∉ delimiters) : IsTagBody cs :=
  fun acc b => scan_of_forall h (fun _ hc acc => (step_of_notMem hc acc b).2.1) acc

theorem IsTagBody.append {ds : List Char} (hcs : IsTagBody cs) (hds : IsTagBody ds) :
    IsTagBody (cs ++ ds) := by
  intro acc b
  rw [List.foldlM_append, hcs acc b]
  show ds.foldlM Scan.step ⟨.tag (cs.reverse ++ acc), b⟩ = _
  rw [hds, List.reverse_append, List.append_assoc]

/-- A value between its quotes stays within a tag. -/
theorem isTagBody_quoted (h : ∀ c ∈ cs, c ∉ delimiters) : IsTagBody ('"' :: (cs ++ ['"'])) := by
  intro acc b
  show (cs ++ ['"']).foldlM Scan.step ⟨.quoted ('"' :: acc), b⟩ = _
  rw [List.foldlM_append, scan_quoted h]
  show some (Scan.mk (.tag ('"' :: (cs.reverse ++ '"' :: acc))) b) = _
  rw [List.reverse_cons, List.reverse_append, List.append_assoc, List.append_assoc]
  rfl

/-- What stands between two brackets is read as a tag, behind the text in front of it. -/
theorem scan_brackets {b' b'' : Building} {tag : Tag} (h : IsTagBody cs)
    (htext : b.takeText acc.reverse = some b') (htag : Tag.read? cs = some tag)
    (htake : b'.takeTag tag = some b'') :
    ('<' :: (cs ++ ['>'])).foldlM Scan.step ⟨.text acc, b⟩ = some ⟨.text [], b''⟩ := by
  have hopen : Scan.step ⟨.text acc, b⟩ '<' = some ⟨.tag [], b'⟩ := by
    simp only [Scan.step, if_pos, htext, Option.map_some]
  have hclose : Scan.step ⟨.tag cs.reverse, b'⟩ '>' = some ⟨.text [], b''⟩ := by
    rw [← List.reverse_reverse cs] at htag
    simp only [Scan.step, if_pos, htag, Option.bind_eq_bind, Option.bind_some, htake]
    rfl
  rw [List.foldlM_cons, hopen]
  show (cs ++ ['>']).foldlM Scan.step ⟨.tag [], b'⟩ = _
  rw [List.foldlM_append, h, List.append_nil]
  show List.foldlM Scan.step ⟨.tag cs.reverse, b'⟩ ['>'] = _
  rw [List.foldlM_cons, hclose]
  rfl

end Scan

/-! ## Tags -/

section Tags

/-- Characters as they can stand between quotes: `value` is what they are read as. -/
structure IsWritten (cs : List Char) (value : String) : Prop where
  /-- They hold no delimiter. -/
  notMem : ∀ c ∈ cs, c ∉ delimiters
  /-- They are read as the value. -/
  unescape_eq : unescape cs = some value

theorem isWritten_escaped (s : String) : IsWritten (escaped s) (plain s) :=
  ⟨fun _ hmem hc => notMem_escaped s hc hmem, unescape_escaped s⟩

theorem isWritten_of_notMem {s : String} (h : ∀ c ∈ s.toList, c ∉ '&' :: delimiters) :
    IsWritten s.toList s := by
  refine ⟨fun c hc hmem => h c hc (List.mem_cons_of_mem _ hmem), ?_⟩
  rw [unescape_of_notMem fun hmem => h _ hmem List.mem_cons_self, String.ofList_toList]

theorem isWritten_decimal (n : UInt8) : IsWritten (decimal n) n.toNat.repr := by
  refine isWritten_of_notMem fun c hc hmem => ?_
  have hdigit : Decimal.isDigit c = true := Decimal.isDigit_of_mem_repr hc
  have hnone : ∀ d ∈ '&' :: delimiters, Decimal.isDigit d = false :=
    List.forall_iff_forall_mem.1 (by decide)
  rw [hnone c hmem] at hdigit
  cases hdigit

/-- A name that is read as itself. -/
def IsName (name : String) : Prop := nameOf? name.toList = some name

instance (name : String) : Decidable (IsName name) :=
  inferInstanceAs (Decidable (_ = _))

theorem IsName.ne_nil {name : String} (h : IsName name) : name.toList ≠ [] := by
  intro hnil
  rw [IsName, hnil] at h
  cases h

theorem IsName.isNameChar {name : String} (h : IsName name) :
    ∀ c ∈ name.toList, isNameChar c = true := by
  rw [IsName, nameOf?] at h
  split_ifs at h with hall
  rw [Bool.and_eq_true] at hall
  exact List.all_eq_true.1 hall.2

/-- Names hold no delimiter, nor do they open like a closing tag or a declaration. -/
theorem not_isNameChar : ∀ c ∈ '/' :: '?' :: ' ' :: delimiters, isNameChar c = false :=
  List.forall_iff_forall_mem.1 (by decide)

theorem IsName.notMem {name : String} (h : IsName name) : ∀ c ∈ name.toList, c ∉ delimiters := by
  intro c hc hmem
  have hchar := h.isNameChar c hc
  rw [not_isNameChar c (by simp only [List.mem_cons]; exact .inr (.inr (.inr hmem)))] at hchar
  cases hchar

/-- An attribute is read as its name and its value. -/
theorem attributesOf?_attribute {name v : String} {value : List Char} (rest : List Char)
    (hname : IsName name) (hvalue : IsWritten value v) :
    attributesOf? ((attributeChars name value ++ rest).splitOnP (· == '"')) =
      (attributesOf? (rest.splitOnP (· == '"'))).map fun r => ((name, v) :: r.1, r.2) := by
  have hquote : '"' ∈ delimiters := by decide
  have hkey : ∀ c ∈ ' ' :: (name.toList ++ ['=']), (c == '"') = false := by
    intro c hc
    rw [beq_eq_false_iff_ne]
    rintro rfl
    rw [List.mem_cons, List.mem_append] at hc
    rcases hc with hc | hc | hc
    · cases hc
    · exact hname.notMem _ hc hquote
    · cases List.mem_singleton.1 hc
  have hnone : ∀ c ∈ value, (c == '"') = false := by
    intro c hc
    rw [beq_eq_false_iff_ne]
    rintro rfl
    exact hvalue.notMem _ hc hquote
  have hsplit : (attributeChars name value ++ rest).splitOnP (· == '"') =
      (' ' :: (name.toList ++ ['='])) :: value :: rest.splitOnP (· == '"') := by
    have hassoc : attributeChars name value ++ rest =
        ' ' :: (name.toList ++ ['=']) ++ '"' :: (value ++ '"' :: rest) := by
      simp only [attributeChars, List.cons_append, List.append_assoc, List.nil_append]
    rw [hassoc, List.splitOnP_append_cons _ _ rfl, List.splitOnP_append_cons _ _ rfl,
      List.splitOnP_eq_singleton hkey, List.splitOnP_eq_singleton hnone]
    rfl
  have hkeyOf : keyOf? (' ' :: (name.toList ++ ['='])) = some name := by
    rw [keyOf?, if_pos List.getLast?_concat, List.dropLast_concat]
    exact hname
  rw [hsplit, attributesOf?, hkeyOf, hvalue.unescape_eq]
  cases attributesOf? (rest.splitOnP (· == '"')) <;> rfl

/-- A tag is read as its name and its attributes. -/
theorem read?_tag {name : String} {tail : List Char} {attributes : List Attribute}
    {isSingle : Bool} (hname : IsName name) (htail : ∀ c ∈ tail.head?, isNameChar c = false)
    (hattributes : attributesOf? (tail.splitOnP (· == '"')) = some (attributes, isSingle)) :
    Tag.read? (name.toList ++ tail) =
      some (if isSingle then .single name attributes else .opening name attributes) := by
  have hend : tail.takeWhile isNameChar = [] ∧ tail.dropWhile isNameChar = tail := by
    cases tail with
    | nil => exact ⟨rfl, rfl⟩
    | cons c cs =>
      have hc : ¬isNameChar c = true := by simp only [htail c rfl, Bool.false_eq_true,
        not_false_eq_true]
      exact ⟨List.takeWhile_cons_of_neg hc, List.dropWhile_cons_of_neg hc⟩
  have htake : (name.toList ++ tail).takeWhile isNameChar = name.toList := by
    rw [List.takeWhile_append_of_pos hname.isNameChar, hend.1, List.append_nil]
  have hdrop : (name.toList ++ tail).dropWhile isNameChar = tail := by
    rw [List.dropWhile_append_of_pos hname.isNameChar, hend.2]
  obtain ⟨c, cs, hcs⟩ := List.exists_cons_of_ne_nil hname.ne_nil
  have hc : isNameChar c = true := hname.isNameChar c (by rw [hcs]; exact List.mem_cons_self)
  unfold Tag.read?
  split
  · next heq =>
    rw [hcs, List.cons_append, List.cons.injEq] at heq
    rw [heq.1] at hc
    cases hc
  · next heq =>
    rw [hcs, List.cons_append, List.cons.injEq] at heq
    rw [heq.1] at hc
    cases hc
  · rw [htake, hdrop, hname, hattributes]
    rfl

/-- A closing tag is read as its name. -/
theorem read?_closing {name : String} (hname : IsName name) :
    Tag.read? ('/' :: name.toList) = some (.closing name) := by
  rw [Tag.read?, hname, Option.map_some]

/-- What stands behind the name in a tag, and the attributes that it is read as. -/
structure IsTail (tail : List Char) (attributes : List Attribute) : Prop where
  /-- It does not prolong the name. -/
  head : ∀ c ∈ tail.head?, isNameChar c = false
  /-- It stays within the tag. -/
  body : IsTagBody tail
  /-- At the start of an element. -/
  opening : attributesOf? (tail.splitOnP (· == '"')) = some (attributes, false)
  /-- In an element without contents. -/
  single : attributesOf? ((tail ++ ['/']).splitOnP (· == '"')) = some (attributes, true)

theorem IsTail.nil : IsTail [] [] where
  head := nofun
  body := fun _ _ => rfl
  opening := rfl
  single := rfl

/-- One more attribute. -/
theorem IsTail.cons {name v : String} {value tail : List Char} {attributes : List Attribute}
    (hname : IsName name) (hvalue : IsWritten value v) (h : IsTail tail attributes) :
    IsTail (attributeChars name value ++ tail) ((name, v) :: attributes) where
  head := by
    rintro c ⟨⟩
    rfl
  body := by
    have hassoc : attributeChars name value =
        ' ' :: (name.toList ++ ['=']) ++ '"' :: (value ++ ['"']) := by
      simp only [attributeChars, List.cons_append, List.append_assoc, List.nil_append]
    have hkey : ∀ c ∈ ' ' :: (name.toList ++ ['=']), c ∉ delimiters := by
      simp only [List.mem_cons, List.mem_append, List.not_mem_nil, or_false]
      rintro c (rfl | hc | rfl)
      · decide
      · exact hname.notMem c hc
      · decide
    rw [hassoc]
    exact ((isTagBody_of_forall hkey).append (isTagBody_quoted hvalue.notMem)).append h.body
  opening := by rw [attributesOf?_attribute tail hname hvalue, h.opening]; rfl
  single := by
    rw [List.append_assoc, attributesOf?_attribute _ hname hvalue, h.single]
    rfl

end Tags

/-! ## Elements -/

section Elements

variable {b : Building} {name : String} {tail contents : List Char} {attributes : List Attribute}
  {nodes : List Node}

/-- An element as it is written. -/
def elementChars (name : String) (tail contents : List Char) : List Char :=
  '<' :: (name.toList ++ tail ++ ['>']) ++ (contents ++ '<' :: ('/' :: name.toList ++ ['>']))

/-- An element without contents as it is written. -/
def singleChars (name : String) (tail : List Char) : List Char :=
  '<' :: (name.toList ++ (tail ++ ['/']) ++ ['>'])

/-- What stands between two tags, and the nodes that it is read as. -/
def AreRead (cs : List Char) (nodes : List Node) : Prop :=
  ∀ b : Building, ∃ acc b', cs.foldlM Scan.step ⟨.text [], b⟩ = some ⟨.text acc, b'⟩ ∧
    b'.takeText acc.reverse = some ⟨nodes.reverse ++ b.contents, b.outer⟩

/-- An element is read as its name, its attributes and its contents. -/
theorem scan_element (hname : IsName name) (htail : IsTail tail attributes)
    (hcontents : AreRead contents nodes) :
    (elementChars name tail contents).foldlM Scan.step ⟨.text [], b⟩ =
      some ⟨.text [], b.push (.element name attributes nodes)⟩ := by
  -- the contents are read from nothing, while what was read before the element waits outside
  obtain ⟨acc, b', hscan, htext⟩ := hcontents ⟨[], ⟨name, attributes, b.contents⟩ :: b.outer⟩
  have hopening : ('<' :: (name.toList ++ tail ++ ['>'])).foldlM Scan.step ⟨.text [], b⟩ =
      some ⟨.text [], ⟨[], ⟨name, attributes, b.contents⟩ :: b.outer⟩⟩ :=
    scan_brackets ((isTagBody_of_forall hname.notMem).append htail.body) rfl
      (read?_tag hname htail.head htail.opening) rfl
  have hclosing : ('<' :: ('/' :: name.toList ++ ['>'])).foldlM Scan.step ⟨.text acc, b'⟩ =
      some ⟨.text [], b.push (.element name attributes nodes)⟩ := by
    have hbody : IsTagBody ('/' :: name.toList) :=
      isTagBody_of_forall (List.forall_mem_cons.2 ⟨by decide, hname.notMem⟩)
    refine scan_brackets hbody htext (read?_closing hname) ?_
    simp only [Building.takeTag, if_pos, List.append_nil, List.reverse_reverse]
    rfl
  rw [elementChars, List.foldlM_append, hopening]
  show (contents ++ _).foldlM Scan.step _ = _
  rw [List.foldlM_append, hscan]
  exact hclosing

/-- So is an element without contents. -/
theorem scan_single (hname : IsName name) (htail : IsTail tail attributes) :
    (singleChars name tail).foldlM Scan.step ⟨.text [], b⟩ =
      some ⟨.text [], b.push (.element name attributes [])⟩ := by
  have hslash : IsTagBody ['/'] := isTagBody_of_forall (List.forall_mem_singleton.2 (by decide))
  have hhead : ∀ c ∈ (tail ++ ['/']).head?, isNameChar c = false := by
    cases tail with
    | nil =>
      rintro c ⟨⟩
      rfl
    | cons c cs => exact htail.head
  exact scan_brackets ((isTagBody_of_forall hname.notMem).append (htail.body.append hslash)) rfl
    (read?_tag hname hhead htail.single) rfl

/-- A text between tags is read as it comes through, if there is any. -/
theorem areRead_escaped (text : String) :
    AreRead (escaped text) (if text.isEmpty then [] else [.text (plain text)]) := by
  intro b
  refine ⟨(escaped text).reverse ++ [], b,
    scan_text fun c hmem hc => notMem_escaped text hc hmem, ?_⟩
  rw [List.append_nil, List.reverse_reverse, Building.takeText, unescape_escaped, Option.map_some]
  by_cases htext : text.isEmpty = true
  · -- an empty text leaves no node
    rw [String.isEmpty_iff.1 htext]
    rfl
  · have hne : ¬(escaped text).isEmpty = true := fun h =>
      htext (String.isEmpty_iff.2 (eq_empty_of_escaped (List.isEmpty_iff.1 h)))
    rw [if_neg htext, if_neg hne]
    rfl

theorem areRead_nil : AreRead [] [] := fun b => ⟨[], b, rfl, rfl⟩

theorem AreRead.cons {cs : List Char} {n : Node}
    (hn : ∀ b, cs.foldlM Scan.step ⟨.text [], b⟩ = some ⟨.text [], b.push n⟩)
    (h : AreRead contents nodes) : AreRead (cs ++ contents) (n :: nodes) := by
  intro b
  obtain ⟨acc, b', hscan, htext⟩ := h (b.push n)
  refine ⟨acc, b', ?_, ?_⟩
  · rw [List.foldlM_append, hn]
    exact hscan
  · rw [htext, Building.push, List.reverse_cons, List.append_assoc, List.singleton_append]

end Elements

/-! ## Instructions -/

theorem verbChars_say_eq (text : String) :
    verbChars speaker (.say text) =
      elementChars "Say" (attributeChars "voice" (escaped speaker.voice) ++
        (attributeChars "language" (escaped speaker.language) ++ [])) (escaped text) := by
  simp only [verbChars_say, elementChars, List.append_assoc, List.nil_append, List.cons_append]
  rfl

theorem verbChars_gather_eq (keyCount timeoutSeconds : UInt8) (children : List Verb) :
    verbChars speaker (.gather keyCount timeoutSeconds children) =
      elementChars "Gather" (attributeChars "numDigits" (decimal keyCount) ++
        (attributeChars "timeout" (decimal timeoutSeconds) ++
          (attributeChars "method" "POST".toList ++ []))) (verbsChars speaker children) := by
  have hchars : verbChars speaker (.gather keyCount timeoutSeconds children) =
      "<Gather".toList ++ attributeChars "numDigits" (decimal keyCount) ++
        attributeChars "timeout" (decimal timeoutSeconds) ++
        attributeChars "method" "POST".toList ++ '>' :: verbsChars speaker children ++
        "</Gather>".toList := rfl
  simp only [hchars, elementChars, List.append_assoc, List.nil_append, List.cons_append]
  rfl

theorem verbChars_pause_eq (seconds : UInt8) :
    verbChars speaker (.pause seconds) =
      singleChars "Pause" (attributeChars "length" (decimal seconds) ++ []) := by
  have hchars : verbChars speaker (.pause seconds) =
      "<Pause".toList ++ attributeChars "length" (decimal seconds) ++ "/>".toList := rfl
  simp only [hchars, singleChars, List.append_assoc, List.nil_append]
  rfl

theorem verbChars_hangup_eq : verbChars speaker .hangup = singleChars "Hangup" [] := rfl

end Markup

/-- Induction over an instruction and those within it. -/
theorem Verb.inductionOn {motive : Verb → Prop} (v : Verb) (say : ∀ text, motive (.say text))
    (gather : ∀ keyCount timeoutSeconds children, (∀ v ∈ children, motive v) →
      motive (.gather keyCount timeoutSeconds children))
    (pause : ∀ seconds, motive (.pause seconds)) (hangup : motive .hangup) : motive v :=
  @Verb.rec motive (fun vs => ∀ v ∈ vs, motive v) say gather pause hangup
    (fun _ h => absurd h List.not_mem_nil)
    (fun _ _ hv hvs => List.forall_mem_cons.2 ⟨hv, hvs⟩) v

namespace Markup

/-- Instructions are read as their elements if each of them is. -/
theorem areRead_verbs {vs : List Verb}
    (h : ∀ v ∈ vs, ∀ b, (verbChars speaker v).foldlM Scan.step ⟨.text [], b⟩ =
      some ⟨.text [], b.push (v.node speaker)⟩) :
    AreRead (verbsChars speaker vs) (Verb.nodes speaker vs) := by
  induction vs with
  | nil => exact areRead_nil
  | cons v vs ih =>
    obtain ⟨hv, hvs⟩ := List.forall_mem_cons.1 h
    rw [verbsChars_cons]
    exact (ih hvs).cons hv

/-- **An instruction is read as one element.** -/
theorem scan_verb (v : Verb) (b : Building) :
    (verbChars speaker v).foldlM Scan.step ⟨.text [], b⟩ =
      some ⟨.text [], b.push (v.node speaker)⟩ := by
  -- for every building, as children are read in one that has their element open
  induction v using Verb.inductionOn generalizing b with
  | say text =>
    rw [verbChars_say_eq]
    exact scan_element (by decide)
      (.cons (by decide) (isWritten_escaped _) (.cons (by decide) (isWritten_escaped _) .nil))
      (areRead_escaped text)
  | gather keyCount timeoutSeconds children ih =>
    rw [verbChars_gather_eq]
    exact scan_element (by decide)
      (.cons (by decide) (isWritten_decimal _)
        (.cons (by decide) (isWritten_decimal _)
          (.cons (by decide) (isWritten_of_notMem (List.forall_iff_forall_mem.1 (by decide)))
            .nil)))
      (areRead_verbs ih)
  | pause seconds =>
    rw [verbChars_pause_eq]
    exact scan_single (by decide) (.cons (by decide) (isWritten_decimal _) .nil)
  | hangup =>
    rw [verbChars_hangup_eq]
    exact scan_single (by decide) .nil

/-! ## Documents -/

/-- What stands in front of the outermost element. -/
def declaration : List Char := "<?xml version=\"1.0\" encoding=\"UTF-8\"?>".toList

/-- The declaration adds nothing to a document. -/
theorem scan_declaration :
    declaration.foldlM Scan.step ⟨.text [], ⟨[], []⟩⟩ = some ⟨.text [], ⟨[], []⟩⟩ := by
  rfl

theorem header_eq : header.toList = declaration ++ '<' :: ("Response".toList ++ ['>']) := by
  decide

theorem footer_eq : footer.toList = '<' :: ('/' :: "Response".toList ++ ['>']) := by
  decide

/-- **A document is read as one element around the elements of its instructions.** -/
theorem treeOf?_render (p : Prompt) :
    treeOf? (p.render speaker) = some (.element "Response" [] (Verb.nodes speaker p.verbs)) := by
  have hchars : (p.render speaker).toList =
      declaration ++ elementChars "Response" [] (verbsChars speaker p.verbs) := by
    rw [Prompt.render, String.toList_ofList, header_eq, footer_eq, elementChars, List.append_nil,
      List.append_assoc, List.append_assoc]
  rw [treeOf?, hchars, List.foldlM_append, scan_declaration, Option.bind_eq_bind,
    Option.bind_some, scan_element (by decide) .nil (areRead_verbs fun v _ => scan_verb v)]
  rfl

/-- The number of an attribute is read as it was. -/
theorem numberOf?_repr {attributes : List Attribute} {name : String} {n : UInt8}
    (h : attributes.lookup name = some n.toNat.repr) : numberOf? attributes name = some n := by
  have hn : n.toNat ≤ 255 := Nat.le_of_lt_succ n.toNat_lt
  rw [numberOf?, h]
  show ((Decimal.readNat 255 .tooLarge n.toNat.repr.toList).toOption.bind _) = _
  rw [Decimal.readNat_repr _ _ hn]
  show some (UInt8.ofNat n.toNat) = some n
  rw [UInt8.ofNat_toNat]

theorem textOf?_text (text : String) :
    textOf? (if text.isEmpty then [] else [.text (plain text)]) = some (plain text) := by
  split_ifs with htext
  · have hplain : plain text = "" := by
      rw [String.isEmpty_iff.1 htext, ← String.toList_inj, plain, String.toList_map]
      rfl
    rw [hplain]
    rfl
  · rfl

theorem allHeard?_nodes {vs : List Verb}
    (h : ∀ v ∈ vs, (v.node speaker).heard? = some (v.heard speaker)) :
    Node.allHeard? (Verb.nodes speaker vs) = some (Verb.allHeard speaker vs) := by
  induction vs with
  | nil => rfl
  | cons v vs ih =>
    obtain ⟨hv, hvs⟩ := List.forall_mem_cons.1 h
    show ((v.node speaker).heard?.bind fun x =>
      (Node.allHeard? (Verb.nodes speaker vs)).bind fun xs => some (x :: xs)) = _
    rw [hv, ih hvs]
    rfl

/-- **The element of an instruction is read as the instruction.** -/
theorem heard?_node (v : Verb) : (v.node speaker).heard? = some (v.heard speaker) := by
  induction v using Verb.inductionOn with
  | say text =>
    show (textOf? (if text.isEmpty then [] else [.text (plain text)])).bind _ = _
    rw [textOf?_text]
    rfl
  | gather keyCount timeoutSeconds children ih =>
    show (numberOf? _ "numDigits").bind _ = _
    rw [numberOf?_repr rfl]
    show (numberOf? _ "timeout").bind _ = _
    rw [numberOf?_repr rfl]
    show (Node.allHeard? (Verb.nodes speaker children)).bind _ = _
    rw [allHeard?_nodes ih]
    rfl
  | pause seconds =>
    show (numberOf? _ "length").map Heard.pause = _
    rw [numberOf?_repr rfl]
    rfl
  | hangup => rfl

/-- **A document is read as the instructions that it was made of.** -/
theorem read?_render (p : Prompt) :
    read? (p.render speaker) = some (Verb.allHeard speaker p.verbs) := by
  rw [read?, treeOf?_render]
  exact allHeard?_nodes fun v _ => heard?_node v

end Markup

/-- **Documents read back.** Every document is one tree, in which a text or the name of a voice or
a language stands in no other place than its own, as it comes through; and it is read as the very
instructions that it was made of. No text or name holds a delimiter in a document, and two prompts
have the same document only if they are read alike. -/
theorem Prompt.read_render :
    (∀ speaker (p : Prompt),
      Markup.treeOf? (p.render speaker) =
          some (.element "Response" [] (Verb.nodes speaker p.verbs)) ∧
        Markup.read? (p.render speaker) = some (Verb.allHeard speaker p.verbs)) ∧
      (∀ text, ∀ c ∈ Markup.delimiters, c ∉ Markup.escaped text) ∧
      ∀ speaker speaker' (p p' : Prompt), p.render speaker = p'.render speaker' →
        Verb.allHeard speaker p.verbs = Verb.allHeard speaker' p'.verbs := by
  refine ⟨fun speaker p => ⟨Markup.treeOf?_render p, Markup.read?_render p⟩,
    fun text c hc => Markup.notMem_escaped text hc, fun speaker speaker' p p' h => ?_⟩
  have hread := @Markup.read?_render speaker p
  rw [h, Markup.read?_render] at hread
  exact (Option.some.inj hread).symm

/-- A bell in a text is heard as a space. -/
theorem Prompt.read_render_bell :
    (CallMenu.sayAndHangup "Fire\x07alarm").render ⟨"alice", "en-US"⟩ =
        (CallMenu.sayAndHangup "Fire alarm").render ⟨"alice", "en-US"⟩ ∧
      Verb.allHeard ⟨"alice", "en-US"⟩ (CallMenu.sayAndHangup "Fire\x07alarm").verbs =
        Verb.allHeard ⟨"alice", "en-US"⟩ (CallMenu.sayAndHangup "Fire alarm").verbs := by
  have h : (CallMenu.sayAndHangup "Fire\x07alarm").render ⟨"alice", "en-US"⟩ =
      (CallMenu.sayAndHangup "Fire alarm").render ⟨"alice", "en-US"⟩ :=
    Markup.sayAndHangup_eq_iff.2 (by decide)
  exact ⟨h, Prompt.read_render.2.2 _ _ _ _ h⟩

end AlertLine
