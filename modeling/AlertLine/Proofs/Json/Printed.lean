import AlertLine.Json.Parser
import AlertLine.Proofs.Json.Tokens
import AlertLine.Proofs.Text.Utf8

/-!
# A printed document is read back

The reader takes the words of a value as just that value, whatever containers it stands in
(`spelledBy_tokens`). With the words of the compact form (`tokenize_chars`) and the bytes of its
text this gives back each plain value from its document (`parse_bytes`, `parseText_print`).
-/

namespace AlertLine.Json

/-! ## Reading on -/

namespace Parsing

/-- What may come next behind more words. -/
def read (p : Parsing) (ts : List Token) : Option Parsing :=
  ts.foldlM step p

theorem read_cons (p : Parsing) (t : Token) (ts : List Token) :
    p.read (t :: ts) = (p.step t).bind fun p' => p'.read ts := rfl

theorem read_append_of_eq {p p' : Parsing} {ts : List Token} (h : p.read ts = some p')
    (us : List Token) : p.read (ts ++ us) = p'.read us := by
  rw [read, List.foldlM_append]
  show (p.read ts).bind _ = _
  rw [h, Option.bind_some]
  rfl

end Parsing

open Parsing

/-- Where a value may stand, the words are read as this value. -/
structure SpelledBy (v : Json) (ts : List Token) : Prop where
  /-- The words complete the value, whatever it stands in. -/
  read : ∀ stack, Parsing.read (.value stack) ts = some (complete v stack)
  /-- The words do not end an array. -/
  head : ∃ t us, ts = t :: us ∧
    ∀ stack, step (.itemOrEnd stack) t = Parsing.begin (.array [] :: stack) t

/-! ## Containers -/

/-- Words of values with commas between them are read as the items of an array. -/
theorem read_itemsTokens {items : List Json} (h : ∀ v ∈ items, SpelledBy v (tokens v))
    (done : List Json) (stack : List Frame) (hne : items ≠ []) :
    Parsing.read (.value (.array done :: stack)) (itemsTokens items) =
      some (.afterItem (items.reverse ++ done) stack) := by
  induction items generalizing done with
  | nil => exact absurd rfl hne
  | cons v vs ih =>
    have hv := (h v List.mem_cons_self).read (.array done :: stack)
    cases vs with
    | nil => exact hv
    | cons w ws =>
      have hws :=
        ih (fun u hu => h u (List.mem_cons_of_mem v hu)) (v :: done) (List.cons_ne_nil w ws)
      have htokens : itemsTokens (v :: w :: ws) = tokens v ++ .comma :: itemsTokens (w :: ws) := rfl
      rw [htokens, read_append_of_eq hv, read_cons]
      show Parsing.read (.value (.array (v :: done) :: stack)) _ = _
      rw [hws, List.reverse_cons (a := v), List.append_assoc, List.singleton_append]

/-- Words of entries with commas between them are read as the entries of an object. -/
theorem read_entriesTokens {entries : List (String × Json)}
    (h : ∀ e ∈ entries, SpelledBy e.2 (tokens e.2)) (done : List (Reading × Json))
    (stack : List Frame) (hne : entries ≠ []) :
    Parsing.read (.entryName done stack)
        (entriesTokens (entries.map fun e => (some e.1, e.2))) =
      some (.afterEntry ((entries.map fun e => (some e.1, e.2)).reverse ++ done) stack) := by
  induction entries generalizing done with
  | nil => exact absurd rfl hne
  | cons e es ih =>
    have he := (h e List.mem_cons_self).read (.object done (some e.1) :: stack)
    cases es with
    | nil => exact he
    | cons e' es' =>
      have hes := ih (fun u hu => h u (List.mem_cons_of_mem e hu)) ((some e.1, e.2) :: done)
        (List.cons_ne_nil e' es')
      have htokens : entriesTokens ((e :: e' :: es').map fun e => (some e.1, e.2)) =
          .string (some e.1) :: .colon :: (tokens e.2 ++
            .comma :: entriesTokens ((e' :: es').map fun e => (some e.1, e.2))) := rfl
      rw [htokens]
      show Parsing.read (.value (.object done (some e.1) :: stack)) (_ ++ _) = _
      rw [read_append_of_eq he, read_cons]
      show Parsing.read (.entryName ((some e.1, e.2) :: done) stack) _ = _
      rw [hes, List.map_cons (a := e), List.reverse_cons (a := (some e.1, e.2)), List.append_assoc,
        List.singleton_append]

theorem spelledBy_array {items : List Json} (h : ∀ v ∈ items, SpelledBy v (tokens v)) :
    SpelledBy (.array items) (tokens (.array items)) := by
  refine ⟨fun stack => ?_, _, _, rfl, fun _ => rfl⟩
  have htokens : tokens (.array items) = .beginArray :: (itemsTokens items ++ [.endArray]) := rfl
  rw [htokens]
  show Parsing.read (.itemOrEnd stack) _ = _
  cases items with
  | nil => rfl
  | cons v vs =>
    -- behind the bracket the first item is read as it is behind a comma
    obtain ⟨t, us, hts, hhead⟩ := (h v List.mem_cons_self).head
    have hitems := read_itemsTokens h [] stack (List.cons_ne_nil v vs)
    have hfirst : ∃ us', itemsTokens (v :: vs) = t :: us' := by
      cases vs with
      | nil => exact ⟨us, hts⟩
      | cons w ws =>
        refine ⟨us ++ .comma :: itemsTokens (w :: ws), ?_⟩
        show tokens v ++ .comma :: itemsTokens (w :: ws) = _
        rw [hts, List.cons_append]
    obtain ⟨us', hus'⟩ := hfirst
    have hsame : Parsing.read (.itemOrEnd stack) (itemsTokens (v :: vs)) =
        Parsing.read (.value (.array [] :: stack)) (itemsTokens (v :: vs)) := by
      rw [hus', read_cons, hhead, read_cons]
      rfl
    rw [read_append_of_eq (hsame.trans hitems), List.append_nil]
    show some (complete (.array (v :: vs).reverse.reverse) stack) = _
    rw [List.reverse_reverse]

theorem spelledBy_obj {entries : List (String × Json)}
    (h : ∀ e ∈ entries, SpelledBy e.2 (tokens e.2)) :
    SpelledBy (.obj entries) (tokens (.obj entries)) := by
  refine ⟨fun stack => ?_, _, _, rfl, fun _ => rfl⟩
  have htokens : tokens (.obj entries) = .beginObject ::
      (entriesTokens (entries.map fun e => (some e.1, e.2)) ++ [.endObject]) := rfl
  rw [htokens]
  show Parsing.read (.nameOrEnd stack) _ = _
  cases entries with
  | nil => rfl
  | cons e es =>
    -- behind the brace the first name is read as it is behind a comma
    have hentries := read_entriesTokens h [] stack (List.cons_ne_nil e es)
    have hsame : Parsing.read (.nameOrEnd stack)
          (entriesTokens ((e :: es).map fun e => (some e.1, e.2))) =
        Parsing.read (.entryName [] stack)
          (entriesTokens ((e :: es).map fun e => (some e.1, e.2))) := by
      cases es with
      | nil => rfl
      | cons e' es' => rfl
    rw [read_append_of_eq (hsame.trans hentries), List.append_nil]
    show some
      (complete (.object ((e :: es).map fun e => (some e.1, e.2)).reverse.reverse) stack) = _
    rw [List.reverse_reverse]
    rfl

/-! ## Documents -/

/-- A plain value is what its words spell. -/
theorem spelledBy_tokens {v : Json} (hv : IsPlain v) : SpelledBy v (tokens v) := by
  induction hv with
  | null => exact ⟨fun _ => rfl, _, _, rfl, fun _ => rfl⟩
  | bool b => exact ⟨fun _ => rfl, _, _, rfl, fun _ => rfl⟩
  | int n => exact ⟨fun _ => rfl, _, _, rfl, fun _ => rfl⟩
  | text s => exact ⟨fun _ => rfl, _, _, rfl, fun _ => rfl⟩
  | array hitems ih => exact spelledBy_array ih
  | object hentries ih => exact spelledBy_obj ih

theorem ofTokens_tokens {v : Json} (hv : IsPlain v) : ofTokens (tokens v) = some v := by
  show (Parsing.read (.value []) (tokens v)).bind Parsing.finish = _
  rw [(spelledBy_tokens hv).read]
  rfl

/-- **A document gives back the value that was written.** -/
theorem parse_bytes {v : Json} (hv : IsPlain v) : parse (bytes v) = some v := by
  rw [parse, bytes, Utf8.scan_encode, print, String.toList_ofList, tokenize_chars hv,
    Option.bind_some, ofTokens_tokens hv]

/-- **A printed text gives back the value that was written.** -/
theorem parseText_print {v : Json} (hv : IsPlain v) : parseText v.print = some v := by
  rw [parseText, print, String.toList_ofList, tokenize_chars hv, Option.bind_some,
    ofTokens_tokens hv]

end AlertLine.Json
