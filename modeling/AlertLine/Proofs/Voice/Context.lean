import AlertLine.Proofs.Encoding.Form
import AlertLine.Proofs.Text.Decimal
import AlertLine.Voice.Context

/-!
# What a query tells of a call

Reading a query field by field comes to this: each part of the context is what the last value under
its name gives (`CallContext.ofPairs_eq`). So the pairs that a context writes are read as that
context again (`CallContext.ofQuery_encode_pairs`), except that a code loses the blanks around it,
and is dropped if nothing else is left.
-/

namespace AlertLine

theorem CallIntent.ofWord_word (i : CallIntent) : CallIntent.ofWord i.word = i := by
  cases i <;> decide +kernel

namespace CallContext

/-! ## The last value holds -/

/-- The last value under a name. -/
def lastValue? (name : String) (ps : List Form.Pair) : Option String :=
  ps.reverse.lookup name

/-- The three names are different, so a pair changes at most one part of the context. -/
theorem step_eq (c : CallContext) (p : Form.Pair) :
    step c p =
      ⟨if intentKey = p.1 then .ofWord p.2 else c.intent,
        if alertKey = p.1 then alertIdOf? p.2 else c.alertId,
        if codeKey = p.1 then codeOf? p.2 else c.code⟩ := by
  obtain ⟨name, value⟩ := p
  have halert : alertKey ≠ intentKey := by decide
  have hcode : codeKey ≠ intentKey := by decide
  have hcode' : codeKey ≠ alertKey := by decide
  rw [step]
  -- in the order in which the names are tried
  by_cases h₁ : name = intentKey
  · subst h₁
    rw [if_pos rfl, if_pos rfl, if_neg halert, if_neg hcode]
  by_cases h₂ : name = alertKey
  · subst h₂
    rw [if_neg h₁, if_pos rfl, if_neg (Ne.symm h₁), if_pos rfl, if_neg hcode']
  by_cases h₃ : name = codeKey
  · subst h₃
    rw [if_neg h₁, if_neg h₂, if_pos rfl, if_neg (Ne.symm h₁), if_neg (Ne.symm h₂), if_pos rfl]
  · rw [if_neg h₁, if_neg h₂, if_neg h₃, if_neg (Ne.symm h₁), if_neg (Ne.symm h₂),
      if_neg (Ne.symm h₃)]

/-- **Each part of a context is what the last value under its name gives.** -/
theorem ofPairs_eq (ps : List Form.Pair) :
    ofPairs ps =
      ⟨((lastValue? intentKey ps).map CallIntent.ofWord).getD .default,
        (lastValue? alertKey ps).bind alertIdOf?, (lastValue? codeKey ps).bind codeOf?⟩ := by
  have hrev : ps = ps.reverse.reverse := (List.reverse_reverse ps).symm
  rw [ofPairs, hrev, List.foldl_reverse]
  simp only [lastValue?, List.reverse_reverse]
  -- from the last pair backwards: what is found first there is what holds
  induction ps.reverse with
  | nil => rfl
  | cons p rs ih =>
    obtain ⟨name, value⟩ := p
    rw [List.foldr_cons, ih, step_eq]
    have hlookup (key : String) : ((name, value) :: rs).lookup key =
        if key = name then some value else rs.lookup key := by
      rw [List.lookup_cons]
      by_cases hkey : key = name
      · rw [if_pos hkey, beq_iff_eq.2 hkey]
      · rw [if_neg hkey, beq_eq_false_iff_ne.2 hkey]
    rw [hlookup, hlookup, hlookup, mk.injEq]
    refine ⟨?_, ?_, ?_⟩
    · by_cases hkey : intentKey = name
      · rw [if_pos hkey, if_pos hkey, Option.map_some, Option.getD_some]
      · rw [if_neg hkey, if_neg hkey]
    · by_cases hkey : alertKey = name
      · rw [if_pos hkey, if_pos hkey, Option.bind_some]
      · rw [if_neg hkey, if_neg hkey]
    · by_cases hkey : codeKey = name
      · rw [if_pos hkey, if_pos hkey, Option.bind_some]
      · rw [if_neg hkey, if_neg hkey]

/-! ## Reading what was written -/

theorem alertIdOf?_ofInt64 (id : Int64) : alertIdOf? (Decimal.ofInt64 id) = some id := by
  rw [alertIdOf?, Decimal.trim_ofInt64, Decimal.readInt64_ofInt64]
  rfl

theorem codeOf?_eq (code : String) :
    codeOf? code = if Text.isBlankText code then none else some (Text.trim code) := by
  rw [codeOf?, Text.isEmpty_trim]

/-- A code that is not blank arrives without the blanks around it. -/
theorem codeOf?_of_not_blank {code : String} (h : Text.isBlankText code = false) :
    codeOf? code = some (Text.trim code) := by
  rw [codeOf?_eq, h]
  rfl

/-- A context as it arrives: the code without the blanks around it, and none if nothing is left. -/
def arrived (c : CallContext) : CallContext := { c with code := c.code.bind codeOf? }

/-- One context over another: what it tells holds, and what it does not tell is what the other one
tells. A code is told without the blanks around it, and a blank one tells that there is none. -/
def laidOver (c other : CallContext) : CallContext where
  intent := c.intent
  alertId := c.alertId.or other.alertId
  code := match c.code with
    | some code => if Text.isBlankText code then none else some (Text.trim code)
    | none => other.code

theorem lastValue?_append (name : String) (ps qs : List Form.Pair) :
    lastValue? name (ps ++ qs) = (lastValue? name qs).or (lastValue? name ps) := by
  rw [lastValue?, List.reverse_append, List.lookup_append]
  rfl

section Pairs

variable (c : CallContext)

theorem lastValue?_intentKey_pairs : lastValue? intentKey c.pairs = some c.intent.word := by
  obtain ⟨intent, alertId, code⟩ := c
  cases alertId <;> cases code <;> rfl

theorem lastValue?_alertKey_pairs :
    lastValue? alertKey c.pairs = c.alertId.map Decimal.ofInt64 := by
  obtain ⟨intent, alertId, code⟩ := c
  cases alertId <;> cases code <;> rfl

theorem lastValue?_codeKey_pairs : lastValue? codeKey c.pairs = c.code := by
  obtain ⟨intent, alertId, code⟩ := c
  cases alertId <;> cases code <;> rfl

end Pairs

/-- **The pairs that a context writes override those in front of them.** -/
theorem ofPairs_append_pairs (ps : List Form.Pair) (c : CallContext) :
    ofPairs (ps ++ c.pairs) = c.laidOver (ofPairs ps) := by
  rw [ofPairs_eq, ofPairs_eq ps, lastValue?_append, lastValue?_append, lastValue?_append,
    lastValue?_intentKey_pairs, lastValue?_alertKey_pairs, lastValue?_codeKey_pairs, laidOver,
    mk.injEq]
  refine ⟨?_, ?_, ?_⟩
  · rw [Option.some_or, Option.map_some, Option.getD_some, CallIntent.ofWord_word]
  · cases c.alertId with
    | none => rfl
    | some id => rw [Option.map_some, Option.some_or, Option.bind_some, alertIdOf?_ofInt64,
        Option.some_or]
  · cases c.code with
    | none => rfl
    | some code => rw [Option.some_or, Option.bind_some, codeOf?_eq]

theorem laidOver_blank (c : CallContext) : c.laidOver blank = c.arrived := by
  obtain ⟨intent, alertId, code⟩ := c
  rw [laidOver, arrived, mk.injEq]
  refine ⟨rfl, Option.or_none, ?_⟩
  cases code with
  | none => rfl
  | some code => exact (codeOf?_eq code).symm

theorem ofPairs_pairs (c : CallContext) : ofPairs c.pairs = c.arrived :=
  (ofPairs_append_pairs [] c).trans c.laidOver_blank

/-- **The query that a context writes is read as the context arrives.** -/
theorem ofQuery_encode_pairs (c : CallContext) : ofQuery (Form.encode c.pairs) = c.arrived := by
  rw [ofQuery, Form.parseQuery_encode, ofPairs_pairs]

end CallContext
end AlertLine
