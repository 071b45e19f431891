import AlertLine.Proofs.Json.Fields

/-!
# Room for nesting

How deep the containers of a value may nest depends on how deep the value stands in its document.
More room takes nothing away: a value that can be taken in whole still can (`Json.isSound_succ`),
and what is read of it is the same (`Json.ReadsOn`), for texts, options, lists and the fields of a
record.
-/

namespace AlertLine.Json

theorem isSound_succ {room : ℕ} {v : Json} (h : v.isSound room = true) :
    v.isSound (room + 1) = true := by
  induction room generalizing v with
  | zero =>
    cases v with
    | array items => cases h
    | object entries => cases h
    | null => rfl
    | bool b => rfl
    | number n => exact h
    | string s => exact h
  | succ room ih =>
    cases v with
    | array items =>
      rw [isSound, List.all_eq_true] at h ⊢
      exact fun item hitem => ih (h item hitem)
    | object entries =>
      simp only [isSound, List.all_eq_true, Bool.and_eq_true] at h ⊢
      exact fun e he => ⟨(h e he).1, ih (h e he).2⟩
    | null => rfl
    | bool b => rfl
    | number n => exact h
    | string s => exact h

/-- What is read with some room is read with more. -/
class ReadsOn (α : Type) [Reads α] : Prop where
  decode_succ : ∀ {room : ℕ} {v : Json} {a : α}, Reads.decode room v = some a →
    Reads.decode (room + 1) v = some a

open ReadsOn

variable {α : Type} [Reads α] [ReadsOn α]

instance : ReadsOn String where
  decode_succ h := h

instance : ReadsOn (Option α) where
  decode_succ := by
    intro room v a? h
    cases v with
    | null => exact h
    | bool b | number n | string s | array items | object entries =>
      obtain ⟨a, ha, rfl⟩ := Option.map_eq_some_iff.1 h
      exact Option.map_eq_some_iff.2 ⟨a, decode_succ ha, rfl⟩

instance : ReadsOn (List α) where
  decode_succ := by
    intro room v as h
    cases room with
    | zero => cases v <;> cases h
    | succ room =>
      obtain ⟨items, rfl, hitems⟩ := decode_list_iff.1 h
      exact decode_list_iff.2 ⟨items, rfl, hitems.imp fun _ _ ha => decode_succ ha⟩

/-! ## Records -/

/-- The fields of a record with room for one more container. -/
def Record.deeper (r : Record) : Record := { r with room := r.room + 1 }

theorem record?_succ {names : List String} {room : ℕ} {v : Json} {r : Record}
    (h : record? names room v = some r) : record? names (room + 1) v = some r.deeper := by
  cases room with
  | zero => cases v <;> cases h
  | succ room =>
    obtain ⟨hgives, hroom, hpositional⟩ := record?_eq_some_iff.1 h
    exact record?_eq_some_iff.2 ⟨hgives, congrArg (· + 1) hroom, hpositional⟩

namespace Record

variable {r : Record} {i : ℕ} {a : α}

theorem required_deeper (h : r.required i = some a) : r.deeper.required i = some a := by
  obtain ⟨v, hgiven, ha⟩ := Option.bind_eq_some_iff.1 h
  exact Option.bind_eq_some_iff.2 ⟨v, hgiven, decode_succ ha⟩

theorem defaulted_deeper {default : α} (h : r.defaulted i default = some a) :
    r.deeper.defaulted i default = some a := by
  have hgiven : r.deeper.given i = r.given i := rfl
  rw [defaulted] at h ⊢
  rw [hgiven]
  cases hfield : r.given i with
  | none => rwa [hfield] at h
  | some v =>
    rw [hfield] at h
    exact decode_succ h

end Record

end AlertLine.Json
