import AlertLine.Json.Printer
import AlertLine.Json.Token
import AlertLine.Proofs.Text.Decimal

/-!
# The words of a printed document

A value without ill-formed strings and with integers for numbers (`IsPlain`) is printed as a row of
words. The reader finds the same words again (`tokenize_chars`), whatever characters the strings
hold. A number and a literal end only where something else begins, so what the reader has of them
is settled by the mark behind them, or by the end of the document (`Lexing.Settles`).
-/

namespace AlertLine.Json

/-! ## Plain values -/

/-- A value that is made of texts and integers. -/
inductive IsPlain : Json → Prop
  | null : IsPlain .null
  | bool (b : Bool) : IsPlain (.bool b)
  | int (n : Int) : IsPlain (.ofInt n)
  | text (s : String) : IsPlain (.ofString s)
  | array {items : List Json} (hitems : ∀ v ∈ items, IsPlain v) : IsPlain (.array items)
  | object {entries : List (String × Json)} (hentries : ∀ e ∈ entries, IsPlain e.2) :
    IsPlain (.obj entries)

/-! ## Words -/

mutual

/-- The words of a value. -/
def tokens : Json → List Token
  | .null => [.null]
  | .bool b => [.bool b]
  | .number n => [.number n]
  | .string s => [.string s]
  | .array items => .beginArray :: (itemsTokens items ++ [.endArray])
  | .object entries => .beginObject :: (entriesTokens entries ++ [.endObject])

/-- The words of the items of an array, with commas between them. -/
def itemsTokens : List Json → List Token
  | [] => []
  | [v] => tokens v
  | v :: vs => tokens v ++ .comma :: itemsTokens vs

/-- The words of the entries of an object, with commas between them. -/
def entriesTokens : List (Reading × Json) → List Token
  | [] => []
  | [(name, v)] => .string name :: .colon :: tokens v
  | (name, v) :: es => .string name :: .colon :: (tokens v ++ .comma :: entriesTokens es)

end

/-! ## Reading on -/

namespace Lexing

/-- Where the reader stands behind more characters. -/
def scan (l : Lexing) (cs : List Char) : Option Lexing :=
  (cs.map some).foldlM step l

@[simp] theorem scan_nil (l : Lexing) : l.scan [] = some l := rfl

theorem scan_cons (l : Lexing) (c : Char) (cs : List Char) :
    l.scan (c :: cs) = (l.step (some c)).bind fun l' => l'.scan cs := rfl

theorem scan_append (l : Lexing) (cs ds : List Char) :
    l.scan (cs ++ ds) = (l.scan cs).bind fun l' => l'.scan ds := by
  rw [scan, List.map_append, List.foldlM_append]
  rfl

theorem scan_append_of_eq {l l' : Lexing} {cs : List Char} (h : l.scan cs = some l')
    (ds : List Char) : l.scan (cs ++ ds) = l'.scan ds := by
  rw [scan_append, h, Option.bind_some]

/-- The marks that can stand behind a value. -/
def isEndMark (c : Char) : Bool := c == ',' || c == ']' || c == '}'

/-- What has been read amounts to the words `done`, newest first, once a mark or the end of the
document follows. -/
structure Settles (l : Lexing) (done : List Token) : Prop where
  next : ∀ c, isEndMark c = true → l.step (some c) = fresh done c
  finish : l.finish = some done.reverse

theorem settles_between (done : List Token) : Settles ⟨.between, done⟩ done :=
  ⟨fun _ _ => rfl, rfl⟩

end Lexing

open Lexing

/-! ## Strings -/

theorem hexValue?_hexDigit : ∀ n < 16, hexValue? (hexDigit n) = some n := by
  decide

/-- One step inside the digits of an escape, behind which more are to come. -/
theorem step_hex {c : Char} {d : ℕ} (hd : hexValue? c = some d) (pieces : List Piece)
    (count value : ℕ) (done : List Token) (hcount : count ≠ 3) :
    step ⟨.hex pieces count value, done⟩ (some c) =
      some ⟨.hex pieces (count + 1) (16 * value + d), done⟩ := by
  simp only [step, hd, Option.map_some, beq_iff_eq, if_neg hcount]

/-- The last of the four digits of an escape. -/
theorem step_hex_last {c : Char} {d : ℕ} (hd : hexValue? c = some d) (pieces : List Piece)
    (value : ℕ) (done : List Token) :
    step ⟨.hex pieces 3 value, done⟩ (some c) =
      some ⟨.string (pieceOfUnit (16 * value + d) :: pieces), done⟩ := by
  simp only [step, hd, Option.map_some, beq_self_eq_true, if_true]

/-- A control character is read from its escape. -/
theorem read_hexEscape (pieces : List Piece) (done : List Token) {c : Char}
    (hc : c.toNat < 0x20) :
    scan ⟨.string pieces, done⟩
        ['\\', 'u', '0', '0', hexDigit (c.toNat / 16), hexDigit (c.toNat % 16)] =
      some ⟨.string (.char c :: pieces), done⟩ := by
  have hhigh := hexValue?_hexDigit (c.toNat / 16) (by omega)
  have hlow := hexValue?_hexDigit (c.toNat % 16) (by omega)
  have hunit : pieceOfUnit (16 * (c.toNat / 16) + c.toNat % 16) = .char c := by
    rw [Nat.div_add_mod, pieceOfUnit, if_neg (by simp; omega), Char.ofNat_toNat]
  have hopened : scan ⟨.string pieces, done⟩ ['\\', 'u', '0', '0'] =
      some ⟨.hex pieces 2 0, done⟩ := rfl
  have hcons : ['\\', 'u', '0', '0', hexDigit (c.toNat / 16), hexDigit (c.toNat % 16)] =
      ['\\', 'u', '0', '0'] ++ [hexDigit (c.toNat / 16), hexDigit (c.toNat % 16)] := rfl
  rw [hcons, scan_append_of_eq hopened, scan_cons, step_hex hhigh _ _ _ _ (by decide),
    Option.bind_some, scan_cons, step_hex_last hlow, Option.bind_some, scan_nil, Nat.mul_zero,
    Nat.zero_add, hunit]

/-- A character of a text is read from the form that it is printed in. -/
theorem read_escapedChar (pieces : List Piece) (done : List Token) (c : Char) :
    scan ⟨.string pieces, done⟩ (escapedChar c) = some ⟨.string (.char c :: pieces), done⟩ := by
  unfold escapedChar
  simp only [beq_iff_eq]
  split_ifs with h1 h2 h3 h4 h5 h6 h7 h8
  · subst h1; rfl
  · subst h2; rfl
  · subst h3; rfl
  · subst h4; rfl
  · subst h5; rfl
  · subst h6; rfl
  · subst h7; rfl
  · exact read_hexEscape pieces done h8
  · -- every other character stands for itself
    rw [scan_cons]
    simp only [step, beq_iff_eq, if_neg h1, if_neg h2, if_neg h8]
    rfl

theorem read_escapedChars (pieces : List Piece) (done : List Token) (cs : List Char) :
    scan ⟨.string pieces, done⟩ (cs.flatMap escapedChar) =
      some ⟨.string ((cs.map Piece.char).reverse ++ pieces), done⟩ := by
  induction cs generalizing pieces with
  | nil => rfl
  | cons c cs ih =>
    rw [List.flatMap_cons, scan_append_of_eq (read_escapedChar pieces done c), ih, List.map_cons,
      List.reverse_cons, List.append_assoc, List.singleton_append]

theorem readingOf_chars (done cs : List Char) :
    readingOf done (cs.map .char) = some (done.reverse ++ cs) := by
  induction cs generalizing done with
  | nil => rw [List.map_nil, readingOf, List.append_nil]
  | cons c cs ih =>
    rw [List.map_cons, readingOf, ih, List.reverse_cons, List.append_assoc, List.singleton_append]

/-- **A string literal is read as the text that was printed.** -/
theorem read_literal (s : String) (done : List Token) :
    scan ⟨.between, done⟩ (literal (some s)) = some ⟨.between, .string (some s) :: done⟩ := by
  have hopened : scan ⟨.between, done⟩ ['"'] = some ⟨.string [], done⟩ := rfl
  have hliteral : literal (some s) = ['"'] ++ (s.toList.flatMap escapedChar ++ ['"']) := rfl
  rw [hliteral, scan_append_of_eq hopened, scan_append_of_eq (read_escapedChars [] done s.toList),
    List.append_nil, scan_cons]
  show some _ = some _
  rw [List.reverse_reverse, readingOf_chars, List.reverse_nil, List.nil_append, Option.map_some,
    String.ofList_toList]

/-! ## Numbers -/

theorem digitChar_ne_zero : ∀ n < 10, 0 < n → n.digitChar ≠ '0' := by
  decide

/-- The digits of a positive number do not begin with a zero. -/
theorem head?_toDigits_ne {n : ℕ} (hn : 0 < n) : (Nat.toDigits 10 n).head? ≠ some '0' := by
  induction n using Nat.strong_induction_on with
  | h n ih =>
    rcases Nat.lt_or_ge n 10 with hlt | hge
    · rw [Nat.toDigits_of_lt_base hlt, List.head?_cons]
      exact fun heq => digitChar_ne_zero n hlt hn (Option.some.inj heq)
    · obtain ⟨d, ds, hds⟩ :=
        List.exists_cons_of_ne_nil (Nat.toDigits_ne_nil (b := 10) (n := n / 10))
      have hhead := ih (n / 10) (by omega) (by omega)
      rw [Nat.toDigits_of_base_le (by decide) hge]
      rwa [hds] at hhead ⊢

/-- The digits of a number are read as that number. -/
theorem unsigned?_repr (negative : Bool) (n : ℕ) :
    unsigned? negative n.repr.toList = some ⟨negative, n, [], none⟩ := by
  have hdigits : ∀ c ∈ n.repr.toList, c.isDigit = true := by
    rw [Nat.toList_repr]
    exact fun c => Nat.isDigit_of_mem_toDigits (by decide) (by decide)
  have hne : n.repr.toList ≠ [] := by
    rw [Nat.toList_repr]
    exact Nat.toDigits_ne_nil
  have hvalue : digitsValue n.repr.toList = n := Decimal.value_repr n
  have htake : n.repr.toList.takeWhile Char.isDigit = n.repr.toList :=
    List.takeWhile_eq_self_iff.2 hdigits
  have hdrop : n.repr.toList.dropWhile Char.isDigit = [] := List.dropWhile_eq_nil_iff.2 hdigits
  rw [unsigned?, htake, hdrop, if_neg, hvalue]
  · rfl
  · rcases Nat.eq_zero_or_pos n with rfl | hn
    · decide
    · simp [head?_toDigits_ne hn]

/-- The digits that an integer is printed with, behind its sign. -/
theorem text_ofInt (n : Int) :
    (Number.ofInt n).text = (if n < 0 then ['-'] else []) ++ n.natAbs.repr.toList := by
  rw [Number.text, Number.ofInt]
  simp

/-- The characters of an integer are digits behind a sign. -/
theorem mem_text_ofInt {n : Int} {c : Char} (hc : c ∈ (Number.ofInt n).text) :
    c = '-' ∨ c.isDigit = true := by
  rw [text_ofInt, List.mem_append] at hc
  rcases hc with hc | hc
  · split_ifs at hc
    · exact .inl (List.mem_singleton.1 hc)
    · exact absurd hc List.not_mem_nil
  · rw [Nat.toList_repr] at hc
    exact .inr (Nat.isDigit_of_mem_toDigits (by decide) (by decide) hc)

/-- **An integer is read from its digits.** -/
theorem read?_text_ofInt (n : Int) : Number.read? (Number.ofInt n).text = some (.ofInt n) := by
  rw [text_ofInt]
  split_ifs with hn
  · have hnumber : Number.ofInt n = ⟨true, n.natAbs, [], none⟩ := by
      rw [Number.ofInt, decide_eq_true hn]
    rw [List.singleton_append, Number.read?, unsigned?_repr, hnumber]
  · have hnumber : Number.ofInt n = ⟨false, n.natAbs, [], none⟩ := by
      rw [Number.ofInt, decide_eq_false hn]
    have hsign : ∀ rest, n.natAbs.repr.toList ≠ '-' :: rest := by
      intro rest heq
      have hmem : '-' ∈ Nat.toDigits 10 n.natAbs := by
        rw [← Nat.toList_repr, heq]
        exact List.mem_cons_self
      exact absurd (Nat.isDigit_of_mem_toDigits (by decide) (by decide) hmem) (by decide)
    rw [List.nil_append, Number.read?, unsigned?_repr, hnumber]
    exact hsign

/-! ## Values -/

theorem isNumberChar_of_mem_text {n : Int} {c : Char} (hc : c ∈ (Number.ofInt n).text) :
    isNumberChar c = true := by
  rcases mem_text_ofInt hc with rfl | hdigit
  · rfl
  · rw [isNumberChar, hdigit]
    rfl

/-- The characters of a number are collected until something else follows. -/
theorem read_number (begun : List Char) (done : List Token) {cs : List Char}
    (hcs : ∀ c ∈ cs, isNumberChar c = true) :
    scan ⟨.number begun, done⟩ cs = some ⟨.number (cs.reverse ++ begun), done⟩ := by
  induction cs generalizing begun with
  | nil => rfl
  | cons c cs ih =>
    rw [scan_cons]
    simp only [step, hcs c List.mem_cons_self, if_true, Option.bind_some]
    rw [ih _ fun d hd => hcs d (List.mem_cons_of_mem c hd), List.reverse_cons, List.append_assoc,
      List.singleton_append]

theorem not_isNumberChar_of_isEndMark {c : Char} (hc : isEndMark c = true) :
    isNumberChar c = false ∧ c.isLower = false := by
  simp only [isEndMark, Bool.or_eq_true, beq_iff_eq] at hc
  rcases hc with (rfl | rfl) | rfl <;> decide

/-- A number that has been read is settled by what follows. -/
theorem settles_number {cs : List Char} {n : Number} (hread : Number.read? cs = some n)
    (done : List Token) : Settles ⟨.number cs.reverse, done⟩ (.number n :: done) := by
  refine ⟨fun c hc => ?_, ?_⟩
  · have hother := (not_isNumberChar_of_isEndMark hc).1
    simp only [step, hother, List.reverse_reverse, hread, Option.bind_some]
    rfl
  · simp only [Lexing.finish, List.reverse_reverse, hread, Option.map_some]

/-- A literal that has been read is settled by what follows. -/
theorem settles_word (letters : List Char) {t : Token} (hword : wordToken? letters = some t)
    (done : List Token) : Settles ⟨.word letters.reverse, done⟩ (t :: done) := by
  refine ⟨fun c hc => ?_, ?_⟩
  · have hother := (not_isNumberChar_of_isEndMark hc).2
    simp only [step, hother, List.reverse_reverse, hword, Option.bind_some]
    rfl
  · simp only [Lexing.finish, List.reverse_reverse, hword, Option.map_some]

/-- The first character of an integer begins a number. -/
theorem fresh_of_text {n : Int} {c : Char} (hc : c ∈ (Number.ofInt n).text) (done : List Token) :
    fresh done c = some ⟨.number [c], done⟩ := by
  rcases mem_text_ofInt hc with rfl | hdigit
  · rfl
  · have hspace : isSpace c = false := by
      by_contra hspace
      simp only [isSpace, Bool.not_eq_false, Bool.or_eq_true, beq_iff_eq] at hspace
      rcases hspace with ((rfl | rfl) | rfl) | rfl <;> exact absurd hdigit (by decide)
    rw [fresh.eq_def, hspace, if_neg Bool.false_ne_true]
    -- no mark is a digit
    split
    all_goals try exact absurd hdigit (by decide)
    rw [hdigit, Bool.true_or, if_pos rfl]

theorem read_text_ofInt (n : Int) (done : List Token) :
    scan ⟨.between, done⟩ (Number.ofInt n).text =
      some ⟨.number (Number.ofInt n).text.reverse, done⟩ := by
  have hne : (Number.ofInt n).text ≠ [] := by
    rw [text_ofInt]
    simp
  obtain ⟨c, cs, htext⟩ := List.exists_cons_of_ne_nil hne
  have hfresh := fresh_of_text (htext ▸ List.mem_cons_self) done
  have hrest := read_number [c] done fun d hd =>
    isNumberChar_of_mem_text (htext ▸ List.mem_cons_of_mem c hd)
  rw [htext, scan_cons]
  show (fresh done c).bind _ = _
  rw [hfresh, Option.bind_some, hrest, List.reverse_cons]

/-! ## Parts of a document -/

/-- Between other words the characters are read as these words, the last of which may still be
open. -/
def Spells (cs : List Char) (ts : List Token) : Prop :=
  ∀ done, ∃ l, scan ⟨.between, done⟩ cs = some l ∧ l.Settles (ts.reverse ++ done)

/-- Between other words the characters are read as just these words. -/
def Closes (cs : List Char) (ts : List Token) : Prop :=
  ∀ done, scan ⟨.between, done⟩ cs = some ⟨.between, ts.reverse ++ done⟩

variable {cs ds : List Char} {ts us : List Token}

theorem Closes.spells (h : Closes cs ts) : Spells cs ts :=
  fun done => ⟨_, h done, settles_between _⟩

theorem closes_nil : Closes [] [] := fun _ => rfl

theorem Closes.append (h : Closes cs ts) (h' : Closes ds us) : Closes (cs ++ ds) (ts ++ us) := by
  intro done
  rw [scan_append_of_eq (h done), h', List.reverse_append, List.append_assoc]

theorem Closes.append_spells (h : Closes cs ts) (h' : Spells ds us) :
    Spells (cs ++ ds) (ts ++ us) := by
  intro done
  obtain ⟨l, hread, hsettles⟩ := h' (ts.reverse ++ done)
  refine ⟨l, ?_, ?_⟩
  · rw [scan_append_of_eq (h done), hread]
  · rwa [List.reverse_append, List.append_assoc]

/-- A mark behind a value closes it. -/
theorem Spells.append_mark (h : Spells cs ts) {c : Char} {t : Token} (hc : isEndMark c = true)
    (hmark : ∀ done, fresh done c = some ⟨.between, t :: done⟩) :
    Closes (cs ++ [c]) (ts ++ [t]) := by
  intro done
  obtain ⟨l, hread, hsettles⟩ := h done
  rw [scan_append_of_eq hread, scan_cons, hsettles.next c hc, hmark, List.reverse_append]
  rfl

theorem closes_literal (s : String) : Closes (literal (some s)) [.string (some s)] :=
  fun done => read_literal s done

theorem spells_text_ofInt (n : Int) : Spells (Number.ofInt n).text [.number (.ofInt n)] :=
  fun done => ⟨_, read_text_ofInt n done, settles_number (read?_text_ofInt n) done⟩

/-- The items of an array are read one after the other. -/
theorem spells_itemsChars {items : List Json} (h : ∀ v ∈ items, Spells (chars v) (tokens v)) :
    Spells (itemsChars items) (itemsTokens items) := by
  induction items with
  | nil => exact closes_nil.spells
  | cons v vs ih =>
    have hv := h v List.mem_cons_self
    have hvs := ih fun w hw => h w (List.mem_cons_of_mem v hw)
    cases vs with
    | nil => exact hv
    | cons w ws =>
      have hcomma := hv.append_mark (c := ',') (t := .comma) rfl fun _ => rfl
      have hall := hcomma.append_spells hvs
      rwa [List.append_assoc, List.append_assoc] at hall

/-- The entries of an object are read one after the other. -/
theorem spells_entriesChars {entries : List (String × Json)}
    (h : ∀ e ∈ entries, Spells (chars e.2) (tokens e.2)) :
    Spells (entriesChars (entries.map fun e => (some e.1, e.2)))
      (entriesTokens (entries.map fun e => (some e.1, e.2))) := by
  induction entries with
  | nil => exact closes_nil.spells
  | cons e es ih =>
    have hcolon : Closes [':'] [.colon] := fun _ => rfl
    have hname := (closes_literal e.1).append hcolon
    have he := h e List.mem_cons_self
    have hes := ih fun e' he' => h e' (List.mem_cons_of_mem e he')
    cases es with
    | nil =>
      have hall := hname.append_spells he
      rwa [List.append_assoc, List.append_assoc] at hall
    | cons e' es' =>
      have hcomma := he.append_mark (c := ',') (t := .comma) rfl fun _ => rfl
      have hall := hname.append_spells (hcomma.append_spells hes)
      rwa [List.append_assoc, List.append_assoc, List.append_assoc, List.append_assoc] at hall

/-- A plain value is read as its words. -/
theorem spells_chars {v : Json} (hv : IsPlain v) : Spells (chars v) (tokens v) := by
  induction hv with
  | null => exact fun done => ⟨_, rfl, settles_word ['n', 'u', 'l', 'l'] rfl done⟩
  | bool b =>
    cases b with
    | true => exact fun done => ⟨_, rfl, settles_word ['t', 'r', 'u', 'e'] rfl done⟩
    | false => exact fun done => ⟨_, rfl, settles_word ['f', 'a', 'l', 's', 'e'] rfl done⟩
  | int n => exact spells_text_ofInt n
  | text s => exact (closes_literal s).spells
  | array hitems ih =>
    have hopened : Closes ['['] [.beginArray] := fun _ => rfl
    have hclosed := (spells_itemsChars ih).append_mark (c := ']') (t := .endArray) rfl fun _ => rfl
    exact (hopened.append hclosed).spells
  | object hentries ih =>
    have hopened : Closes ['\x7b'] [.beginObject] := fun _ => rfl
    have hclosed :=
      (spells_entriesChars ih).append_mark (c := '\x7d') (t := .endObject) rfl fun _ => rfl
    exact (hopened.append hclosed).spells

/-- **The words of a plain value are read from its compact form.** -/
theorem tokenize_chars {v : Json} (hv : IsPlain v) :
    tokenize ((chars v).map some) = some (tokens v) := by
  obtain ⟨l, hread, hsettles⟩ := spells_chars hv []
  show (scan ⟨.between, []⟩ (chars v)).bind Lexing.finish = _
  rw [hread, Option.bind_some, hsettles.finish, List.append_nil, List.reverse_reverse]

end AlertLine.Json
