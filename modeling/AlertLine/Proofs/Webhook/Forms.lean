import AlertLine.Proofs.Encoding.Form
import AlertLine.Proofs.Webhook.Speech

/-!
# What a form tells of a call

A form is taken in pair by pair. What it tells is the last value under each name, and of the pressed
keys the last that is not blank (`CallEvent.foldl_step`). Where no field is given twice, the form
tells the same in every order and with any other names in between, and so a call has the same
consequences (`Webhook.told_in_any_order`).
-/

namespace AlertLine

/-! ## Values by their names -/

namespace Form

/-- The values under a name, in order. -/
def valuesOf (name : String) (ps : List Pair) : List String :=
  (ps.filter fun p => p.1 == name).map Prod.snd

variable {name : String} {ps qs : List Pair}

theorem valuesOf_cons_of_eq {p : Pair} (h : p.1 = name) :
    valuesOf name (p :: ps) = p.2 :: valuesOf name ps := by
  rw [valuesOf, List.filter_cons_of_pos (by simpa using h), List.map_cons, valuesOf]

theorem valuesOf_cons_of_ne {p : Pair} (h : p.1 ≠ name) :
    valuesOf name (p :: ps) = valuesOf name ps := by
  rw [valuesOf, List.filter_cons_of_neg (by simpa using h), valuesOf]

/-- What is made of the last value under a name, once one more pair stands in front. -/
theorem getLastD_map_valuesOf_cons {α : Type} (f : String → α) (p : Pair) (before : α) :
    ((valuesOf name (p :: ps)).map f).getLastD before =
      ((valuesOf name ps).map f).getLastD (if p.1 = name then f p.2 else before) := by
  by_cases hname : p.1 = name
  · rw [valuesOf_cons_of_eq hname, if_pos hname, List.map_cons, List.getLastD_cons]
  · rw [valuesOf_cons_of_ne hname, if_neg hname]

theorem getLastD_valuesOf_cons (p : Pair) (before : String) :
    (valuesOf name (p :: ps)).getLastD before =
      (valuesOf name ps).getLastD (if p.1 = name then p.2 else before) := by
  simpa only [List.map_id, id] using getLastD_map_valuesOf_cons id p before

theorem head?_valuesOf : (valuesOf name ps).head? = ps.lookup name := by
  induction ps with
  | nil => rfl
  | cons p ps ih =>
    rw [List.lookup_cons]
    by_cases hname : p.1 = name
    · rw [valuesOf_cons_of_eq hname, List.head?_cons, hname, beq_self_eq_true]
    · rw [valuesOf_cons_of_ne hname, ih, beq_eq_false_iff_ne.2 (Ne.symm hname)]

/-- Under a name that is given once at most there is the value that is found there, or none. -/
theorem valuesOf_eq_of_once (h : (valuesOf name ps).length ≤ 1) :
    valuesOf name ps = (ps.lookup name).toList := by
  rw [← head?_valuesOf]
  match valuesOf name ps, h with
  | [], _ => rfl
  | [value], _ => rfl

/-- The body in which pairs are posted. -/
def bytes (ps : List Pair) : Bytes := Utf8.encode (encode ps)

theorem parse_bytes (ps : List Pair) : parse (bytes ps) = ps := parseQuery_encode ps

end Form

namespace CallEvent

open Form (valuesOf)

/-- The names under which a form tells something of a call. -/
def fieldNames : List String := ["CallSid", "CallStatus", "From", "To", "Digits"]

/-- A pair tells something of a call. -/
def isField (p : Form.Pair) : Bool := fieldNames.contains p.1

/-- The keys that a value tells; a blank one tells of none. -/
def keysOf? (value : String) : Option String :=
  if Text.isBlankText value then none else some (Text.trim value)

/-! ## Taking in a form -/

section Fold

variable (e : CallEvent) (p : Form.Pair) (ps : List Form.Pair)

/-- The names are different, so a pair changes one part of an event at most. -/
theorem step_eq : e.step p =
    ⟨if p.1 = "CallSid" then p.2 else e.callSid,
      if p.1 = "CallStatus" then Text.keyword p.2 else e.status,
      if p.1 = "From" then p.2 else e.caller, if p.1 = "To" then p.2 else e.callee,
      if p.1 = "Digits" then (keysOf? p.2).or e.digits else e.digits⟩ := by
  obtain ⟨name, value⟩ := p
  rw [step.eq_def]
  dsimp only
  split
  case _ => rfl
  case _ => rfl
  case _ => rfl
  case _ => rfl
  case _ =>
    rw [keysOf?, ← Text.isEmpty_trim]
    cases (Text.trim value).isEmpty <;> rfl
  case _ h₁ h₂ h₃ h₄ h₅ =>
    rw [if_neg h₁, if_neg h₂, if_neg h₃, if_neg h₄, if_neg h₅]

/-- **What a form tells**: of each name the last value, and of the keys the last that is not
blank. What it does not tell stays. -/
theorem foldl_step : ps.foldl step e =
    ⟨(valuesOf "CallSid" ps).getLastD e.callSid,
      ((valuesOf "CallStatus" ps).map Text.keyword).getLastD e.status,
      (valuesOf "From" ps).getLastD e.caller, (valuesOf "To" ps).getLastD e.callee,
      ((valuesOf "Digits" ps).filterMap keysOf?).getLast?.or e.digits⟩ := by
  induction ps generalizing e with
  | nil => rfl
  | cons p ps ih =>
    rw [List.foldl_cons, ih, step_eq, mk.injEq]
    refine ⟨(Form.getLastD_valuesOf_cons ..).symm, (Form.getLastD_map_valuesOf_cons ..).symm,
      (Form.getLastD_valuesOf_cons ..).symm, (Form.getLastD_valuesOf_cons ..).symm, ?_⟩
    by_cases hname : p.1 = "Digits"
    · rw [Form.valuesOf_cons_of_eq hname, if_pos hname, List.filterMap_cons]
      cases keysOf? p.2 with
      | none => rfl
      | some keys =>
        dsimp only
        rw [List.getLast?_cons, Option.some_or, Option.some_or, Option.or_some]
    · rw [Form.valuesOf_cons_of_ne hname, if_neg hname]

end Fold

/-! ## Fields that are given once -/

/-- No field is given twice. -/
def GivenOnce (ps : List Form.Pair) : Prop := ∀ name ∈ fieldNames, (valuesOf name ps).length ≤ 1

instance (ps : List Form.Pair) : Decidable (GivenOnce ps) :=
  inferInstanceAs (Decidable (∀ name ∈ fieldNames, (valuesOf name ps).length ≤ 1))

/-- The event that the fields tell, whatever else is given. -/
def told (ps : List Form.Pair) : CallEvent where
  callSid := (ps.lookup "CallSid").getD ""
  status := Text.keyword ((ps.lookup "CallStatus").getD "")
  caller := (ps.lookup "From").getD ""
  callee := (ps.lookup "To").getD ""
  digits := (ps.lookup "Digits").bind keysOf?

/-- The fields are the same, in whatever order and among whatever else. -/
def SameFields (ps qs : List Form.Pair) : Prop := (ps.filter isField).Perm (qs.filter isField)

variable {ps qs : List Form.Pair}

/-- **A form in which no field is given twice tells what its fields tell.** -/
theorem ofForm_bytes (hps : GivenOnce ps) : ofForm (Form.bytes ps) = told ps := by
  have honce {name : String} (hname : name ∈ fieldNames) :
      valuesOf name ps = (ps.lookup name).toList := Form.valuesOf_eq_of_once (hps name hname)
  rw [ofForm, Form.parse_bytes, foldl_step, honce (by decide), honce (by decide),
    honce (by decide), honce (by decide), honce (by decide), told, mk.injEq]
  refine ⟨?_, ?_, ?_, ?_, ?_⟩
  · cases ps.lookup "CallSid" <;> rfl
  · cases ps.lookup "CallStatus" with
    | none => decide
    | some status => rfl
  · cases ps.lookup "From" <;> rfl
  · cases ps.lookup "To" <;> rfl
  · cases ps.lookup "Digits" with
    | none => rfl
    | some value =>
      rw [Option.toList_some, Option.bind_some, List.filterMap_cons]
      cases keysOf? value <;> rfl

theorem SameFields.valuesOf (h : SameFields ps qs) {name : String} (hname : name ∈ fieldNames) :
    (valuesOf name ps).Perm (valuesOf name qs) := by
  have hfields (ps : List Form.Pair) :
      (ps.filter isField).filter (fun p => p.1 == name) = ps.filter fun p => p.1 == name := by
    rw [List.filter_filter]
    refine List.filter_congr fun p _ => ?_
    rw [Bool.and_eq_left_iff_imp, isField]
    intro hp
    rw [beq_iff_eq.1 hp]
    exact List.elem_eq_true_of_mem hname
  rw [Form.valuesOf, Form.valuesOf, ← hfields ps, ← hfields qs]
  exact (h.filter _).map _

theorem SameFields.givenOnce (h : SameFields ps qs) (hps : GivenOnce ps) : GivenOnce qs :=
  fun name hname => (h.valuesOf hname).length_eq ▸ hps name hname

/-- The same fields tell the same. -/
theorem SameFields.told_eq (h : SameFields ps qs) (hps : GivenOnce ps) : told qs = told ps := by
  have hlookup {name : String} (hname : name ∈ fieldNames) : qs.lookup name = ps.lookup name := by
    have hvalues := h.valuesOf hname
    rw [Form.valuesOf_eq_of_once (hps name hname)] at hvalues
    rw [← Form.head?_valuesOf]
    cases hvalue : ps.lookup name with
    | none =>
      rw [hvalue] at hvalues
      rw [List.nil_perm.1 hvalues]
      rfl
    | some value =>
      rw [hvalue] at hvalues
      rw [← List.singleton_perm.1 hvalues]
      rfl
  rw [told, told, hlookup (by decide), hlookup (by decide), hlookup (by decide),
    hlookup (by decide), hlookup (by decide)]

/-- The number that is being notified: that of `To`, or that of `From` where `To` is empty or
missing. -/
def toldNumber (ps : List Form.Pair) : String :=
  if (ps.lookup "To").getD "" = "" then (ps.lookup "From").getD "" else (ps.lookup "To").getD ""

theorem contactNumber_told (ps : List Form.Pair) : (told ps).contactNumber = toldNumber ps := by
  simp only [contactNumber, told, toldNumber, String.isEmpty_iff]

end CallEvent

namespace Webhook

open CallEvent

/-! ## Calls -/

section Recorded

variable {s : Settings} {h : Host} {requestId query : String} {body : Bytes}

/-- An action of a callback names the number that its form tells. -/
theorem phoneNumber_of_mem_actions {a : AlertAction} {taken : Bool}
    (ha : (a, taken) ∈ (Ledger.of (handleCall s h requestId query body).2).actions) :
    a.phoneNumber = (CallEvent.ofForm body).contactNumber := by
  obtain ⟨-, -, kind, -, rfl, -⟩ :=
    wroteAction_mem_callMenu.1 (wroteAction_mem_handleCall.1 (Ledger.mem_actions.1 ha))
  rfl

theorem statuses_handleCall : (Ledger.of (handleCall s h requestId query body).2).statuses =
    (Ledger.of (callMenu s h (.ofQuery query) (.ofForm body)).2).statuses := by
  rw [handleCall_eq, respondToCall_eq]
  simp only [Ledger.of, List.filterMap_cons, Effect.status?]

/-- A status update of a callback is that of the event that its form tells. -/
theorem exists_state_of_mem_statuses {u : StatusUpdate} {taken : Bool}
    (hu : (u, taken) ∈ (Ledger.of (handleCall s h requestId query body).2).statuses) :
    ∃ state, u = (CallEvent.ofForm body).statusUpdate state := by
  have hanswered := answered_callMenu s h (.ofQuery query) (.ofForm body)
  rw [statuses_handleCall] at hu
  cases hended : callHasEnded (CallEvent.ofForm body).status with
  | false =>
    rw [hanswered.statuses_of_goes hended] at hu
    exact absurd hu List.not_mem_nil
  | true =>
    obtain ⟨-, state, -, heffects⟩ := hanswered.of_ended hended
    rw [heffects, Host.statuses_writeStatus, List.mem_singleton, Prod.mk.injEq] at hu
    exact ⟨state, hu.1⟩

end Recorded

/-- **A form tells the same in any order.** A form in which no field is given twice tells the values
of its fields: the id and the numbers as they are, the status as a keyword, and the keys without the
blanks around them, if they are not blank. With the same fields in another order and among other
pairs it tells the same, and the callback is answered alike and does the same. Whatever is recorded
of the call is recorded for the number of `To`, or of `From` where `To` is empty. -/
theorem told_in_any_order {ps : List Form.Pair} (hps : GivenOnce ps) :
    CallEvent.ofForm (Form.bytes ps) = told ps ∧
    (∀ qs, SameFields ps qs → CallEvent.ofForm (Form.bytes qs) = CallEvent.ofForm (Form.bytes ps) ∧
      ∀ s h requestId query, handleCall s h requestId query (Form.bytes qs) =
        handleCall s h requestId query (Form.bytes ps)) ∧
    ∀ s h requestId query,
      (∀ a taken,
        (a, taken) ∈ (Ledger.of (handleCall s h requestId query (Form.bytes ps)).2).actions →
          a.phoneNumber = toldNumber ps) ∧
      ∀ u taken,
        (u, taken) ∈ (Ledger.of (handleCall s h requestId query (Form.bytes ps)).2).statuses →
          u.destination = if toldNumber ps = "" then none else some (toldNumber ps) := by
  have htold := ofForm_bytes hps
  refine ⟨htold, fun qs hqs => ?_, fun s h requestId query => ⟨fun a taken ha => ?_, ?_⟩⟩
  · have hsame : CallEvent.ofForm (Form.bytes qs) = CallEvent.ofForm (Form.bytes ps) := by
      rw [ofForm_bytes (hqs.givenOnce hps), htold, hqs.told_eq hps]
    refine ⟨hsame, fun s h requestId query => ?_⟩
    rw [handleCall_eq, handleCall_eq, hsame]
  · rw [phoneNumber_of_mem_actions ha, htold, contactNumber_told]
  · intro u taken hu
    obtain ⟨state, rfl⟩ := exists_state_of_mem_statuses hu
    show (if (CallEvent.ofForm (Form.bytes ps)).contactNumber.isEmpty then none
      else some (CallEvent.ofForm (Form.bytes ps)).contactNumber) = _
    rw [htold, contactNumber_told]
    simp only [String.isEmpty_iff]

/-- A form in an order of its own, with other names in between and marks in its values. -/
def shuffledForm : List Form.Pair :=
  [("Digits", " 4\t"), ("Tag", "To=1&"), ("To", "+1555 é&=%2B"), ("Tag", ""),
    ("CallStatus", "\u00a0In-Progress"), ("CallSid", "CA42")]

/-- The same fields in the order of their names. -/
def orderedForm : List Form.Pair :=
  [("CallSid", "CA42"), ("CallStatus", "\u00a0In-Progress"), ("Digits", " 4\t"),
    ("To", "+1555 é&=%2B")]

/-- The event of the shuffled form is that of the ordered one. -/
theorem told_in_any_order_shuffledForm :
    GivenOnce orderedForm ∧ SameFields orderedForm shuffledForm ∧
      CallEvent.ofForm (Form.bytes shuffledForm) =
        ⟨"CA42", "in-progress", "", "+1555 é&=%2B", some "4"⟩ := by
  have honce : GivenOnce orderedForm := by decide +kernel
  have hsame : SameFields orderedForm shuffledForm := by
    unfold SameFields
    decide +kernel
  obtain ⟨htold, hforms, -⟩ := told_in_any_order honce
  refine ⟨honce, hsame, ?_⟩
  rw [(hforms _ hsame).1, htold]
  decide +kernel

end Webhook
end AlertLine
