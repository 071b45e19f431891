import AlertLine.Json.Decode
import Mathlib.Data.List.Forall2

/-!
# What a document gives for a record

A document gives a record its fields in one of two ways: as an object with each field under its
name, or as an array of the fields in order (`Json.Gives`). Reading a record finds just these fields
(`Json.record?_eq_some_iff`). From there a text with a default and a list are read off the fields by
what they have to be (`Json.defaulted_text_iff`, `Json.decode_list_iff`).
-/

namespace AlertLine.Json

/-! ## Objects by their names -/

/-- The values under a name, in order. -/
def valuesOf (name : String) (entries : List (Reading × Json)) : List Json :=
  (entries.filter fun e => e.1 == some name).map Prod.snd

theorem lookup?_eq (name : String) (entries : List (Reading × Json)) :
    lookup? name entries = (valuesOf name entries).head? := by
  rw [lookup?, valuesOf, List.head?_map, List.head?_filter]

theorem occurrences_eq (name : String) (entries : List (Reading × Json)) :
    occurrences name entries = (valuesOf name entries).length := by
  rw [occurrences, valuesOf, List.length_map, List.countP_eq_length_filter]

/-- What a document gives for the fields of a record. -/
inductive Gives (names : List String) : Json → List (Option Json) → Prop
  /-- An object whose names have a reading gives what stands under the name of each field; nothing
  stands there twice. -/
  | object {entries : List (Reading × Json)} {fields : List (Option Json)}
      (hreading : ∀ e ∈ entries, e.1.isSome = true)
      (hfields : List.Forall₂ (fun name field? => valuesOf name entries = field?.toList)
        names fields) :
    Gives names (.object entries) fields
  /-- An array gives its items in order, and nothing for the fields that it is too short for. -/
  | array {items : List Json} (hlength : items.length ≤ names.length) :
    Gives names (.array items)
      (items.map some ++ List.replicate (names.length - items.length) none)

theorem Gives.length_eq {names : List String} {v : Json} {fields : List (Option Json)}
    (h : Gives names v fields) : fields.length = names.length := by
  cases h with
  | object _ hfields => exact hfields.length_eq.symm
  | array hlength =>
    rw [List.length_append, List.length_map, List.length_replicate]
    omega

theorem head?_eq_iff {values : List Json} {field? : Option Json} (h : values.length ≤ 1) :
    values.head? = field? ↔ values = field?.toList := by
  cases values with
  | nil => cases field? <;> simp
  | cons v rest =>
    have hrest : rest = [] := List.length_eq_zero_iff.1 (Nat.le_zero.1 (Nat.le_of_succ_le_succ h))
    cases field? <;> simp [hrest]

theorem forall₂_valuesOf_iff {names : List String} {entries : List (Reading × Json)}
    {fields : List (Option Json)} :
    List.Forall₂ (fun name field? => valuesOf name entries = field?.toList) names fields ↔
      (∀ name ∈ names, (valuesOf name entries).length ≤ 1) ∧
        fields = names.map fun name => (valuesOf name entries).head? := by
  induction names generalizing fields with
  | nil => simp
  | cons name names ih =>
    rw [List.forall₂_cons_left_iff, List.forall_mem_cons, List.map_cons]
    constructor
    · rintro ⟨field?, fields, hvalues, hrest, rfl⟩
      obtain ⟨hlength, rfl⟩ := ih.1 hrest
      have hone : (valuesOf name entries).length ≤ 1 := by
        rw [hvalues]
        cases field? <;> simp
      exact ⟨⟨hone, hlength⟩, by rw [(head?_eq_iff hone).2 hvalues]⟩
    · rintro ⟨⟨hone, hlength⟩, rfl⟩
      exact ⟨_, _, (head?_eq_iff hone).1 rfl, ih.2 ⟨hlength, rfl⟩, rfl⟩

/-- **The fields of a record are those that a document gives.** -/
theorem record?_eq_some_iff {names : List String} {room : ℕ} {v : Json} {r : Record} :
    record? names (room + 1) v = some r ↔
      Gives names v r.fields ∧ r.room = room ∧ r.positional = (v matches .array _) := by
  obtain ⟨positional, inside, fields⟩ := r
  cases v with
  | array items =>
    rw [record?]
    dsimp only
    split_ifs with hlength
    · rw [Option.some_inj, Record.mk.injEq]
      constructor
      · rintro ⟨rfl, rfl, rfl⟩
        exact ⟨.array hlength, rfl, rfl⟩
      · rintro ⟨hgives, hroom, hpositional⟩
        cases hgives
        exact ⟨hpositional.symm, hroom.symm, rfl⟩
    · refine iff_of_false nofun ?_
      rintro ⟨hgives, -⟩
      cases hgives with
      | array hshort => exact hlength hshort
  | object entries =>
    -- the check that the decoder makes at once, as the two demands of an object
    have hread : (entries.all (fun e => e.1.isSome) &&
        names.all (fun n => decide (occurrences n entries ≤ 1))) = true ↔
        (∀ e ∈ entries, e.1.isSome = true) ∧
          ∀ name ∈ names, (valuesOf name entries).length ≤ 1 := by
      simp only [Bool.and_eq_true, List.all_eq_true, decide_eq_true_eq, occurrences_eq]
    rw [record?, namedRecord?]
    · dsimp only
      split_ifs with hsound
      · obtain ⟨hreading, hlength⟩ := hread.1 hsound
        simp only [lookup?_eq, Option.some_inj, Record.mk.injEq]
        constructor
        · rintro ⟨rfl, rfl, rfl⟩
          exact ⟨.object hreading (forall₂_valuesOf_iff.2 ⟨hlength, rfl⟩), rfl, rfl⟩
        · rintro ⟨hgives, hroom, hpositional⟩
          cases hgives with
          | object _ hfields =>
            exact ⟨hpositional.symm, hroom.symm, (forall₂_valuesOf_iff.1 hfields).2.symm⟩
      · refine iff_of_false nofun ?_
        rintro ⟨hgives, -⟩
        cases hgives with
        | object hreading hfields =>
          exact hsound (hread.2 ⟨hreading, (forall₂_valuesOf_iff.1 hfields).1⟩)
    · rintro items ⟨⟩
  | null => exact iff_of_false nofun nofun
  | bool b => exact iff_of_false nofun nofun
  | number n => exact iff_of_false nofun nofun
  | string s => exact iff_of_false nofun nofun

/-! ## Texts and lists -/

/-- What a field says that is a text with a default. -/
inductive Says (default : String) : Option Json → String → Prop
  /-- A text stands there. -/
  | given (s : String) : Says default (some (.ofString s)) s
  /-- Nothing stands there. -/
  | absent : Says default none default

theorem decode_text_iff {room : ℕ} {v : Json} {s : String} :
    (Reads.decode room v : Option String) = some s ↔ v = .ofString s := by
  cases v with
  | string reading =>
    show reading = some s ↔ Json.string reading = .string (some s)
    rw [Json.string.injEq]
  | null => exact iff_of_false nofun nofun
  | bool b => exact iff_of_false nofun nofun
  | number n => exact iff_of_false nofun nofun
  | array items => exact iff_of_false nofun nofun
  | object entries => exact iff_of_false nofun nofun

theorem defaulted_text_iff {r : Record} {i : ℕ} {default s : String} :
    r.defaulted i default = some s ↔ Says default (r.given i) s := by
  rw [Record.defaulted]
  cases r.given i with
  | none =>
    constructor
    · rintro ⟨⟩
      exact .absent
    · rintro ⟨⟩
      rfl
  | some v =>
    dsimp only
    rw [decode_text_iff]
    constructor
    · rintro rfl
      exact .given s
    · rintro ⟨⟩
      rfl

/-- A list is read off an array, item by item. -/
theorem decode_list_iff {α : Type} [Reads α] {room : ℕ} {v : Json} {as : List α} :
    (Reads.decode (room + 1) v : Option (List α)) = some as ↔
      ∃ items, v = .array items ∧
        List.Forall₂ (fun item a => Reads.decode room item = some a) items as := by
  cases v with
  | array items =>
    have hitems : items.mapM (Reads.decode room) = some as ↔
        List.Forall₂ (fun item a => Reads.decode room item = some a) items as := by
      induction items generalizing as with
      | nil =>
        rw [List.mapM_nil, List.forall₂_nil_left_iff]
        exact Option.some_inj.trans eq_comm
      | cons item items ih =>
        simp only [List.mapM_cons, Option.bind_eq_bind, Option.bind_eq_some_iff, Option.pure_def,
          Option.some_inj, List.forall₂_cons_left_iff, ih]
        constructor
        · rintro ⟨a, ha, as, has, rfl⟩
          exact ⟨a, as, ha, has, rfl⟩
        · rintro ⟨a, as, ha, has, rfl⟩
          exact ⟨a, ha, as, has, rfl⟩
    refine hitems.trans ⟨fun h => ⟨items, rfl, h⟩, ?_⟩
    rintro ⟨_, ⟨⟩, h⟩
    exact h
  | null => exact iff_of_false nofun nofun
  | bool b => exact iff_of_false nofun nofun
  | number n => exact iff_of_false nofun nofun
  | string s => exact iff_of_false nofun nofun
  | object entries => exact iff_of_false nofun nofun

end AlertLine.Json
