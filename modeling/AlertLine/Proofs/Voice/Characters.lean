import AlertLine.Proofs.Voice.Spoken
import AlertLine.Proofs.Webhook.Calls
import AlertLine.Proofs.Webhook.Gate

/-!
# The characters of a document

An XML document has no characters but those of the production `Char`. Of the others the escape
takes out the control characters, but not U+FFFE and U+FFFF. So what is foreign to XML in a document
are these two, as often and in the order as they stand in the voice, the language and the texts
(`Prompt.foreign_render`), and a call is answered with characters of XML exactly if there are none
of them (`Webhook.documents_of_xml`).
-/

namespace AlertLine
namespace Markup

/-! ## Characters -/

/-- A character of XML, by the production `Char` of XML 1.0. -/
def isXmlChar (c : Char) : Bool :=
  c.toNat == 0x9 || c.toNat == 0xA || c.toNat == 0xD || (0x20 ≤ c.toNat && c.toNat ≤ 0xD7FF) ||
    (0xE000 ≤ c.toNat && c.toNat ≤ 0xFFFD) || (0x10000 ≤ c.toNat && c.toNat ≤ 0x10FFFF)

/-- One of the two characters at the end of the first plane, U+FFFE and U+FFFF. -/
def isPlaneEnd (c : Char) : Bool := c.toNat == 0xFFFE || c.toNat == 0xFFFF

/-- The characters that are foreign to XML. -/
def foreign (cs : List Char) : List Char := cs.filter fun c => !isXmlChar c

/-- A document has characters of XML only. -/
def IsXml (document : String) : Prop := ∀ c ∈ document.toList, isXmlChar c = true

theorem isXml_iff {document : String} : IsXml document ↔ foreign document.toList = [] := by
  rw [IsXml, foreign, List.filter_eq_nil_iff]
  simp only [Bool.not_eq_true', Bool.not_eq_false]

theorem foreign_append (cs ds : List Char) : foreign (cs ++ ds) = foreign cs ++ foreign ds :=
  List.filter_append ..

theorem foreign_cons {c : Char} (h : isXmlChar c = true) (cs : List Char) :
    foreign (c :: cs) = foreign cs := by
  rw [foreign, List.filter_cons_of_neg (by rw [h]; decide)]
  rfl

/-- No control character stands at the end of the plane. -/
theorem isPlaneEnd_of_isControl {c : Char} (h : isControl c = true) : isPlaneEnd c = false := by
  simp only [isControl, Bool.and_eq_true, Bool.or_eq_true, decide_eq_true_eq] at h
  simp only [isPlaneEnd, Bool.or_eq_false_iff, beq_eq_false_iff_ne]
  omega

/-- Of the characters that come through as they are, those two are foreign to XML. -/
theorem isXmlChar_eq_not_isPlaneEnd {c : Char}
    (h : ¬ (isControl c && c != '\n' && c != '\t') = true) : isXmlChar c = !isPlaneEnd c := by
  have hscalar : c.toNat < 0xD800 ∨ (0xDFFF < c.toNat ∧ c.toNat < 0x110000) := c.valid
  have hlow : c.toNat = 0xA ∨ c.toNat = 0x9 ∨ 0x20 ≤ c.toNat := by
    by_contra hnone
    rw [not_or, not_or, Nat.not_le] at hnone
    obtain ⟨hline, htab, hlow⟩ := hnone
    simp only [isControl, Bool.and_eq_true, Bool.or_eq_true, decide_eq_true_eq, bne_iff_ne] at h
    exact h ⟨⟨.inl hlow, fun hc => hline (congrArg Char.toNat hc)⟩,
      fun hc => htab (congrArg Char.toNat hc)⟩
  rw [Bool.eq_iff_iff]
  simp only [isXmlChar, isPlaneEnd, Bool.or_eq_true, Bool.and_eq_true, Bool.not_eq_true',
    Bool.or_eq_false_iff, beq_iff_eq, beq_eq_false_iff_ne, decide_eq_true_eq]
  omega

theorem foreign_plainChar (c : Char) : foreign [plainChar c] = [c].filter isPlaneEnd := by
  rw [plainChar]
  split_ifs with h
  · rw [Bool.and_eq_true, Bool.and_eq_true] at h
    rw [List.filter_singleton, isPlaneEnd_of_isControl h.1.1]
    rfl
  · rw [foreign, List.filter_singleton, List.filter_singleton, isXmlChar_eq_not_isPlaneEnd h,
      Bool.not_not]

/-- What is foreign to XML in a text as it is written. -/
theorem foreign_escaped (s : String) : foreign (escaped s) = s.toList.filter isPlaneEnd := by
  rw [escaped]
  induction s.toList with
  | nil => rfl
  | cons c cs ih =>
    rw [List.flatMap_cons, foreign_append, ih, ← List.singleton_append, List.filter_append]
    congr 1
    obtain ⟨name, hname, hwritten⟩ | ⟨-, hwritten⟩ := escapedChar_cases c
    · have hentities : ∀ e ∈ entities,
          foreign ('&' :: (e.1 ++ [';'])) = [e.2].filter isPlaneEnd := by decide
      rw [hwritten, hentities _ hname]
    · rw [hwritten, foreign_plainChar]

/-! ## Instructions -/

section Elements

variable {name : String} (hname : foreign name.toList = [])

include hname

theorem foreign_attributeChars (value : List Char) :
    foreign (attributeChars name value) = foreign value := by
  rw [attributeChars, foreign_cons (by decide), foreign_append, hname, List.nil_append,
    foreign_cons (by decide), foreign_cons (by decide), foreign_append]
  exact List.append_nil _

theorem foreign_elementChars (tail contents : List Char) :
    foreign (elementChars name tail contents) = foreign tail ++ foreign contents := by
  have hclosing : foreign ('<' :: ('/' :: name.toList ++ ['>'])) = [] := by
    rw [foreign_cons (by decide), foreign_append, foreign_cons (by decide), hname]
    rfl
  rw [elementChars, foreign_append, foreign_append, hclosing, foreign_cons (by decide),
    foreign_append, foreign_append, hname, List.nil_append, List.append_nil]
  congr 1
  exact List.append_nil _

theorem foreign_singleChars (tail : List Char) :
    foreign (singleChars name tail) = foreign tail := by
  rw [singleChars, foreign_cons (by decide), foreign_append, foreign_append, foreign_append, hname,
    List.nil_append, List.append_assoc]
  exact List.append_nil _

end Elements

theorem foreign_decimal (n : UInt8) : foreign (decimal n) = [] := by
  rw [foreign, List.filter_eq_nil_iff]
  intro c hc
  have hrange := Decimal.isDigit_iff.1 (Decimal.isDigit_of_mem_repr hc)
  simp only [isXmlChar, Bool.not_eq_true', Bool.not_eq_false, Bool.or_eq_true, Bool.and_eq_true,
    beq_iff_eq, decide_eq_true_eq]
  omega

end Markup

mutual

/-- What an instruction writes that is not fixed: for each text the voice, the language and the
text. -/
def Verb.written (speaker : Speaker) : Verb → List String
  | .say text => [speaker.voice, speaker.language, text]
  | .gather _ _ children => Verb.allWritten speaker children
  | .pause _ => []
  | .hangup => []

/-- What instructions write that is not fixed, in order. -/
def Verb.allWritten (speaker : Speaker) : List Verb → List String
  | [] => []
  | v :: vs => v.written speaker ++ Verb.allWritten speaker vs

end

namespace Markup

variable {speaker : Speaker}

/-- The characters at the end of the first plane that stand in texts, in order. -/
def planeEnds (texts : List String) : List Char := texts.flatMap fun s => s.toList.filter isPlaneEnd

theorem foreign_verbsChars {vs : List Verb}
    (h : ∀ v ∈ vs, foreign (verbChars speaker v) = planeEnds (v.written speaker)) :
    foreign (verbsChars speaker vs) = planeEnds (Verb.allWritten speaker vs) := by
  induction vs with
  | nil => rfl
  | cons v vs ih =>
    obtain ⟨hv, hvs⟩ := List.forall_mem_cons.1 h
    rw [verbsChars_cons, foreign_append, hv, ih hvs, Verb.allWritten, planeEnds, planeEnds,
      planeEnds, List.flatMap_append]

/-- **What is foreign to XML in an instruction** comes from what it writes. -/
theorem foreign_verbChars (v : Verb) :
    foreign (verbChars speaker v) = planeEnds (v.written speaker) := by
  induction v using Verb.inductionOn with
  | say text =>
    rw [verbChars_say_eq, foreign_elementChars (by decide), foreign_append,
      foreign_append, foreign_attributeChars (by decide), foreign_attributeChars (by decide),
      foreign_escaped, foreign_escaped, foreign_escaped]
    simp [foreign, Verb.written, planeEnds]
  | gather keyCount timeoutSeconds children ih =>
    rw [verbChars_gather_eq, foreign_elementChars (by decide), foreign_verbsChars ih,
      foreign_append, foreign_append, foreign_append, foreign_attributeChars (by decide),
      foreign_attributeChars (by decide), foreign_attributeChars (by decide), foreign_decimal,
      foreign_decimal, Verb.written]
    rfl
  | pause seconds =>
    rw [verbChars_pause_eq, foreign_singleChars (by decide), foreign_append,
      foreign_attributeChars (by decide), foreign_decimal]
    rfl
  | hangup => rfl

end Markup

/-! ## Documents -/

/-- **What is foreign to XML in a document** comes from what its instructions write. -/
theorem Prompt.foreign_render (speaker : Speaker) (p : Prompt) :
    Markup.foreign (p.render speaker).toList =
      Markup.planeEnds (Verb.allWritten speaker p.verbs) := by
  have hheader : Markup.foreign Markup.header.toList = [] := by decide
  have hfooter : Markup.foreign Markup.footer.toList = [] := by decide
  rw [Prompt.render, String.toList_ofList, Markup.foreign_append, Markup.foreign_append, hheader,
    hfooter, Markup.foreign_verbsChars fun v _ => Markup.foreign_verbChars v, List.nil_append,
    List.append_nil]

/-- No character at the end of the first plane stands in any of some texts. -/
def Markup.LacksPlaneEnds (texts : List String) : Prop :=
  ∀ text ∈ texts, ∀ c ∈ text.toList, Markup.isPlaneEnd c = false

theorem Markup.planeEnds_eq_nil_iff {texts : List String} :
    Markup.planeEnds texts = [] ↔ Markup.LacksPlaneEnds texts := by
  rw [Markup.planeEnds, List.flatMap_eq_nil_iff, Markup.LacksPlaneEnds]
  simp only [List.filter_eq_nil_iff, Bool.not_eq_true]

theorem Prompt.isXml_render_iff {speaker : Speaker} {p : Prompt} :
    Markup.IsXml (p.render speaker) ↔ Markup.LacksPlaneEnds (Verb.allWritten speaker p.verbs) := by
  rw [Markup.isXml_iff, Prompt.foreign_render, Markup.planeEnds_eq_nil_iff]

theorem CallMenu.allWritten_prompt (speaker : Speaker) (keys : MenuKeys) (m : CallMenu) :
    Verb.allWritten speaker (m.prompt keys).verbs =
      (m.texts keys).flatMap fun text => [speaker.voice, speaker.language, text] := by
  cases m with
  | alertUnavailable alertId => cases alertId <;> rfl
  | _ => rfl

theorem CallMenu.isXml_render_iff {s : Settings} {m : CallMenu} :
    Markup.IsXml (m.render s) ↔
      ∀ text ∈ m.texts s.keys, Markup.LacksPlaneEnds [s.voiceName, s.voiceLanguage, text] := by
  rw [CallMenu.render, Prompt.isXml_render_iff, CallMenu.allWritten_prompt, Markup.LacksPlaneEnds,
    List.forall_mem_flatMap]
  rfl

namespace Webhook

/-- **Which documents are XML.** What is foreign to XML in the document of a prompt are the
characters U+FFFE and U+FFFF, as they stand in the voice, the language and the texts. So a document,
that of a menu and that with which a call is answered have characters of XML only, exactly if
neither of the two stands in what they say or in the voice and the language that it is said in. -/
theorem documents_of_xml (speaker : Speaker) (p : Prompt) (s : Settings) (m : CallMenu) (h : Host)
    (requestId query : String) (body : Bytes) :
    Markup.foreign (p.render speaker).toList =
      Markup.planeEnds (Verb.allWritten speaker p.verbs) ∧
    (Markup.IsXml (p.render speaker) ↔ Markup.LacksPlaneEnds (Verb.allWritten speaker p.verbs)) ∧
    (Markup.IsXml (m.render s) ↔
      ∀ text ∈ m.texts s.keys, Markup.LacksPlaneEnds [s.voiceName, s.voiceLanguage, text]) ∧
    (Markup.IsXml (handleCall s h requestId query body).1.body ↔
      ∀ text ∈ (callMenu s h (.ofQuery query) (.ofForm body)).1.texts s.keys,
        Markup.LacksPlaneEnds [s.voiceName, s.voiceLanguage, text]) := by
  refine ⟨p.foreign_render speaker, Prompt.isXml_render_iff, CallMenu.isXml_render_iff, ?_⟩
  rw [handleCall_eq, respondToCall_eq]
  exact CallMenu.isXml_render_iff

/-- A code with U+FFFE in it is said as it comes, in a document that is not XML. -/
theorem codeRead_not_xml :
    Markup.foreign (handleCall .standard writableHost "1" "type=verify&code=12%EF%BF%BE34"
      keyPressed.request.body).1.body.toList = [Char.ofNat 0xFFFE, Char.ofNat 0xFFFE] := by
  have hmenu : (callMenu .standard writableHost (.ofQuery "type=verify&code=12%EF%BF%BE34")
      (.ofForm keyPressed.request.body)).1 =
        .verification (String.ofList ['1', '2', Char.ofNat 0xFFFE, '3', '4']) := by decide +kernel
  rw [handleCall_eq, respondToCall_eq, hmenu, Response.markup, CallMenu.render,
    Prompt.foreign_render, CallMenu.allWritten_prompt]
  decide +kernel

end Webhook
end AlertLine
