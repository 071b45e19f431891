import AlertLine.Proofs.Url.Marks

/-!
# Hosts have no marks

Whatever a host is read from, it holds neither a question mark nor a number sign
(`Host.isUnmarked_of_ofWeb`, `Host.isUnmarked_of_ofOther`). A domain name denies both marks in the
characters it is given, and coding its labels adds letters, digits and hyphens only. A number is
written in digits with full stops or colons between them. Any other host is refused if it has a
mark.
-/

namespace AlertLine

/-! ## Codes of labels -/

namespace Punycode

theorem threshold_le (k bias : ℕ) : threshold k bias ≤ 26 := by
  unfold threshold
  split
  · omega
  · split <;> omega

/-- No digit of a code is a mark. -/
theorem digit_ne {d : ℕ} (h : d < 36) : digit d ≠ '?' ∧ digit d ≠ '#' := by
  revert d
  decide

theorem isUnmarked_distanceDigits (bias k q : ℕ) : IsUnmarked (distanceDigits bias k q) := by
  fun_induction distanceDigits with
  | case1 k q t hlast =>
    have := threshold_le k bias
    exact List.forall_mem_singleton.2 (digit_ne (by omega))
  | case2 k q t hmore ih =>
    -- the digit lies between the threshold and the base
    have htop : t ≤ 26 := threshold_le k bias
    have hrest : (q - t) % (36 - t) < 36 - t := Nat.mod_lt _ (by omega)
    exact List.forall_mem_cons.2 ⟨digit_ne (by omega), ih⟩

theorem isUnmarked_pass {basicCount m : ℕ} {s : Coding} {c : Char} (h : IsUnmarked s.digits) :
    IsUnmarked (s.pass basicCount m c).digits := by
  rw [Coding.pass]
  split_ifs
  · exact h
  · exact (isUnmarked_distanceDigits _ _ _).reverse.append h
  · exact h

theorem isUnmarked_foldl_pass {basicCount m : ℕ} (cs : List Char) {s : Coding}
    (h : IsUnmarked s.digits) : IsUnmarked (cs.foldl (Coding.pass basicCount m) s).digits := by
  induction cs generalizing s with
  | nil => exact h
  | cons c cs ih => exact ih (isUnmarked_pass h)

theorem isUnmarked_placeAll {label : List Char} {basicCount : ℕ} (ms : List ℕ) {n : ℕ} {s : Coding}
    (h : IsUnmarked s.digits) : IsUnmarked (placeAll label basicCount ms n s).digits := by
  induction ms generalizing n s with
  | nil => exact h
  | cons m ms ih =>
    rw [placeAll]
    exact ih (isUnmarked_foldl_pass label h)

/-- The code of a label without marks has none. -/
theorem isUnmarked_encode {label : List Char} (h : IsUnmarked label) :
    IsUnmarked (encode label) := by
  rw [encode]
  refine (IsUnmarked.append ?_ ?_).append ?_
  · exact h.mono fun c hc => (List.mem_filter.1 hc).1
  · split_ifs
    · exact .nil
    · exact List.forall_mem_singleton.2 (by decide)
  · exact (isUnmarked_placeAll _ .nil).reverse

end Punycode

/-! ## Domain names -/

namespace DomainName

/-- What a predicate splits off a text stands in the text. -/
theorem mem_of_mem_splitOnP {p : Char → Bool} {cs part : List Char} (h : part ∈ cs.splitOnP p) :
    ∀ c ∈ part, c ∈ cs := by
  induction cs generalizing part with
  | nil =>
    rw [List.splitOnP_nil, List.mem_singleton] at h
    rw [h]
    exact fun c hc => hc
  | cons d cs ih =>
    rw [List.splitOnP_cons_eq_if_modifyHead] at h
    intro c hc
    split_ifs at h with hd
    · rcases List.mem_cons.1 h with rfl | h
      · exact absurd hc List.not_mem_nil
      · exact List.mem_cons_of_mem d (ih h c hc)
    · -- the character joins the first part, and the others stay
      obtain ⟨first, rest, hparts⟩ := List.exists_cons_of_ne_nil (List.splitOnP_ne_nil p cs)
      rw [hparts, List.modifyHead_cons] at h
      rcases List.mem_cons.1 h with rfl | h
      · rcases List.mem_cons.1 hc with rfl | hc
        · exact List.mem_cons_self
        · exact List.mem_cons_of_mem d (ih (hparts ▸ List.mem_cons_self) c hc)
      · exact List.mem_cons_of_mem d (ih (hparts ▸ List.mem_cons_of_mem first h) c hc)

/-- Characters of which none is denied are no marks. -/
theorem isUnmarked_of_not_denied {cs : List Char} (h : cs.any isDenied = false) :
    IsUnmarked cs := by
  intro c hc
  have hallowed : isDenied c = false := by simpa using List.any_eq_false.1 h c hc
  refine ⟨?_, ?_⟩ <;>
  · rintro rfl
    exact absurd hallowed (by decide)

theorem isUnmarked_codedMark : IsUnmarked codedMark := by decide

theorem written_ofCode {code : List Char} {label : Label} (h : ofCode code = some label) :
    label.written = codedMark ++ code := by
  rw [ofCode] at h
  split_ifs at h
  obtain ⟨chars, -, h⟩ := Option.bind_eq_some_iff.1 h
  split_ifs at h
  rw [← Option.some.inj h]

/-- A label of characters without marks is written without marks. -/
theorem isUnmarked_ofChars {chars : List Char} {label : Label} (hchars : IsUnmarked chars)
    (h : ofChars chars = some label) : IsUnmarked label.written := by
  rw [ofChars] at h
  split_ifs at h
  · rw [written_ofCode h]
    exact isUnmarked_codedMark.append (hchars.mono fun c => List.mem_of_mem_drop)
  · rw [← Option.some.inj h]
    exact hchars
  · rw [← Option.some.inj h]
    exact isUnmarked_codedMark.append (Punycode.isUnmarked_encode hchars)

theorem isUnmarked_of_mem_mapM_ofChars {parts : List (List Char)} {labels : List Label}
    (hparts : ∀ part ∈ parts, IsUnmarked part) (h : parts.mapM ofChars = some labels) :
    ∀ label ∈ labels, IsUnmarked label.written := by
  induction parts generalizing labels with
  | nil =>
    rw [List.mapM_nil] at h
    rw [← Option.some.inj h]
    exact fun label hlabel => absurd hlabel List.not_mem_nil
  | cons part parts ih =>
    rw [List.mapM_cons] at h
    obtain ⟨first, hfirst, h⟩ := Option.bind_eq_some_iff.1 h
    obtain ⟨rest, hrest, h⟩ := Option.bind_eq_some_iff.1 h
    rw [← Option.some.inj h]
    exact List.forall_mem_cons.2
      ⟨isUnmarked_ofChars (hparts part List.mem_cons_self) hfirst,
        ih (fun p hp => hparts p (List.mem_cons_of_mem part hp)) hrest⟩

theorem isUnmarked_intercalate {sep : List Char} {texts : List (List Char)} (hsep : IsUnmarked sep)
    (htexts : ∀ cs ∈ texts, IsUnmarked cs) : IsUnmarked (sep.intercalate texts) := by
  induction texts with
  | nil => exact .nil
  | cons t ts ih =>
    have ht := htexts t List.mem_cons_self
    have hts := ih fun cs hcs => htexts cs (List.mem_cons_of_mem t hcs)
    cases ts with
    | nil => rwa [List.intercalate_singleton]
    | cons t' ts =>
      rw [List.intercalate_cons_cons]
      exact (ht.append hsep).append hts

/-- The ASCII form of a name has no marks. -/
theorem isUnmarked_of_toAscii {name ascii : List Char} (h : toAscii name = some ascii) :
    IsUnmarked ascii := by
  obtain ⟨chars, -, h⟩ := Option.bind_eq_some_iff.1 h
  split_ifs at h with hdenied
  obtain ⟨labels, hlabels, h⟩ := Option.bind_eq_some_iff.1 h
  split_ifs at h
  have hchars : IsUnmarked chars := isUnmarked_of_not_denied (by simpa using hdenied)
  have hwritten := isUnmarked_of_mem_mapM_ofChars
    (fun part hpart => hchars.mono (mem_of_mem_splitOnP hpart)) hlabels
  rw [← Option.some.inj h]
  refine isUnmarked_intercalate (by decide) fun cs hcs => ?_
  obtain ⟨label, hlabel, rfl⟩ := List.mem_map.1 hcs
  exact hwritten label hlabel

end DomainName

/-! ## Hosts -/

namespace Host

theorem isUnmarked_repr (n : ℕ) : IsUnmarked n.repr.toList :=
  isUnmarked_of_digits fun _ => Decimal.isDigit_of_mem_repr

theorem isUnmarked_ipv4Text (n : ℕ) : IsUnmarked (ipv4Text n).toList := by
  refine .intercalate (by decide) fun part hpart => ?_
  obtain ⟨shift, -, rfl⟩ := List.mem_map.1 hpart
  exact isUnmarked_repr _

theorem isUnmarked_toDigits (n : ℕ) : IsUnmarked (Nat.toDigits 16 n) := by
  have hdigit : ∀ d < 16, d.digitChar ≠ '?' ∧ d.digitChar ≠ '#' := by decide
  induction n using Nat.strongRecOn with
  | ind n ih =>
    by_cases hn : n < 16
    · rw [Nat.toDigits_of_lt_base hn]
      exact List.forall_mem_singleton.2 (hdigit n hn)
    · rw [Nat.toDigits_of_base_le (by decide) (by omega)]
      exact (ih _ (by omega)).append
        (List.forall_mem_singleton.2 (hdigit _ (Nat.mod_lt n (by decide))))

theorem isUnmarked_piecesText (ps : List ℕ) : IsUnmarked (piecesText ps).toList := by
  refine .intercalate (by decide) fun part hpart => ?_
  obtain ⟨n, -, rfl⟩ := List.mem_map.1 hpart
  rw [pieceText, String.toList_ofList]
  exact isUnmarked_toDigits n

theorem isUnmarked_ipv6Text (ps : List ℕ) : IsUnmarked (ipv6Text ps).toList := by
  have hopen : IsUnmarked "[".toList := by decide
  have hclose : IsUnmarked "]".toList := by decide
  have hgap : IsUnmarked "::".toList := by decide
  rw [ipv6Text]
  split
  split_ifs
  · simp only [String.toList_append]
    exact (hopen.append (((isUnmarked_piecesText _).append hgap).append
      (isUnmarked_piecesText _))).append hclose
  · simp only [String.toList_append]
    exact (hopen.append (isUnmarked_piecesText _)).append hclose

theorem isUnmarked_of_bracketed {cs : List Char} {host : String} (h : bracketed cs = .ok host) :
    IsUnmarked host.toList := by
  rw [bracketed] at h
  split_ifs at h
  split at h
  · rw [← Except.ok.inj h]
    exact isUnmarked_ipv6Text _
  · cases h

/-- **The host of a web address has no marks.** -/
theorem isUnmarked_of_ofWeb {cs : List Char} {host : String} (h : ofWeb cs = .ok host) :
    IsUnmarked host.toList := by
  rw [ofWeb] at h
  split_ifs at h
  · exact isUnmarked_of_bracketed h
  · split at h
    · cases h
    split at h
    · cases h
    case _ name hname =>
      split_ifs at h
      · split at h
        · rw [← Except.ok.inj h]
          exact isUnmarked_ipv4Text _
        · cases h
      · rw [← Except.ok.inj h, String.toList_ofList]
        exact DomainName.isUnmarked_of_toAscii hname

/-- **The host of any other address has no marks.** -/
theorem isUnmarked_of_ofOther {cs : List Char} {host : String} (h : ofOther cs = .ok host) :
    IsUnmarked host.toList := by
  rw [ofOther] at h
  split_ifs at h with hbracket hforbidden
  · exact isUnmarked_of_bracketed h
  · have hallowed : ∀ c ∈ cs, isForbidden c = false := by simpa using hforbidden
    have hcs : IsUnmarked cs := by
      intro c hc
      refine ⟨?_, ?_⟩ <;>
      · rintro rfl
        exact absurd (hallowed _ hc) (by decide)
    -- escaping leaves the marks alone, but there are none
    rw [← Except.ok.inj h]
    exact isUnmarked_encode (by rwa [String.toList_ofList]) fun _ => toNat_lt_of_isPlain

end Host
end AlertLine
