import AlertLine.Proofs.Attempt
import AlertLine.Proofs.Url.HostMarks
import Mathlib.Data.List.TakeWhile

/-!
# The query of a written address

In an address that was read from a text, and in one that lies beside it, no part in front of the
query holds a question mark or a number sign, and the query holds no number sign (`Url.IsCut`). So
the query can be cut out of the written address again (`queryText_text`): whoever is handed the
text reads the pairs that were put there, and nothing else.
-/

namespace AlertLine

/-- A path of segments without marks, or one text without marks. -/
def UrlPath.IsUnmarked : UrlPath → Prop
  | .segments names => ∀ name ∈ names, AlertLine.IsUnmarked name.toList
  | .flat text => AlertLine.IsUnmarked text.toList

namespace Url

/-- The parts in front of the query hold neither mark, and the query holds no number sign. -/
structure IsCut (u : Url) : Prop where
  scheme : IsUnmarked u.scheme.toList
  authority : ∀ a ∈ u.authority, IsUnmarked a.text.toList
  path : u.path.IsUnmarked
  query : ∀ query ∈ u.query, '#' ∉ query.toList

/-! ## Paths -/

/-- A segment as it is written: a text with all escaped that a path cannot hold. -/
def IsSegment (name : String) : Prop := ∃ cs, escaped pathEscapes cs = name

theorem isSegment_empty : IsSegment "" := ⟨[], by decide⟩

/-- A written segment has no marks. -/
theorem isUnmarked_segment {name : String} (h : IsSegment name) : IsUnmarked name.toList := by
  obtain ⟨cs, rfl⟩ := h
  exact isUnmarked_escaped (by decide) (by decide) cs

theorem mem_shorten {done : List String} {name : String} (h : name ∈ shorten done) :
    name ∈ done := by
  fun_cases shorten with
  | case1 => exact h
  | case2 last rest hdrive => rwa [shorten, if_pos hdrive] at h
  | case3 last rest hdrive =>
    rw [shorten, if_neg hdrive] at h
    exact List.mem_cons_of_mem last h

theorem mem_dropEmptyFront {names : List String} {name : String}
    (h : name ∈ dropEmptyFront names) : name ∈ names := by
  fun_induction dropEmptyFront names with
  | case1 first rest ih => exact List.mem_cons_of_mem "" (ih h)
  | case2 names _ => exact h

theorem isSegment_addSegment {isLast : Bool} {done : List String} {cs : List Char}
    (h : ∀ name ∈ done, IsSegment name) :
    ∀ name ∈ addSegment isLast done cs, IsSegment name := by
  have hshort : ∀ name ∈ shorten done, IsSegment name := fun name hname =>
    h name (mem_shorten hname)
  rw [addSegment]
  split_ifs
  · exact List.forall_mem_cons.2 ⟨isSegment_empty, hshort⟩
  · exact hshort
  · exact List.forall_mem_cons.2 ⟨isSegment_empty, h⟩
  · exact h
  · exact List.forall_mem_cons.2 ⟨⟨cs, rfl⟩, h⟩

theorem isSegment_segmentsOf {done : List String} (parts : List (List Char))
    (h : ∀ name ∈ done, IsSegment name) :
    ∀ name ∈ segmentsOf done parts, IsSegment name := by
  fun_induction segmentsOf done parts with
  | case1 done => exact fun name hname => h name (List.mem_reverse.1 hname)
  | case2 done cs =>
    exact fun name hname => isSegment_addSegment h name (List.mem_reverse.1 hname)
  | case3 done cs rest _ ih => exact ih (isSegment_addSegment h)

/-- **The path that a text spells is a row of written segments.** -/
theorem exists_pathOf (scheme : String) (cs : List Char) :
    ∃ names, pathOf scheme cs = .segments names ∧ ∀ name ∈ names, IsSegment name := by
  cases cs with
  | nil =>
    refine ⟨_, rfl, fun name hname => ?_⟩
    split_ifs at hname
    · rw [List.mem_singleton.1 hname]
      exact isSegment_empty
    · exact absurd hname List.not_mem_nil
  | cons c cs =>
    have hnone : ∀ name ∈ ([] : List String), IsSegment name := fun name hname =>
      absurd hname List.not_mem_nil
    refine ⟨_, rfl, fun name hname => ?_⟩
    -- whether the first slash counts, and whether empty segments in front do, makes no difference
    split_ifs at hname
    all_goals first
      | exact isSegment_segmentsOf _ hnone name (mem_dropEmptyFront hname)
      | exact isSegment_segmentsOf _ hnone name hname

theorem isUnmarked_pathOf (scheme : String) (cs : List Char) : (pathOf scheme cs).IsUnmarked := by
  obtain ⟨names, hpath, hnames⟩ := exists_pathOf scheme cs
  rw [hpath]
  exact fun name hname => isUnmarked_segment (hnames name hname)

/-- A path without marks is written without marks. -/
theorem isUnmarked_path_text {path : UrlPath} (h : path.IsUnmarked) :
    IsUnmarked path.text.toList := by
  cases path with
  | segments names =>
    rw [UrlPath.text, String.toList_join]
    intro c hc
    obtain ⟨text, htext, hc⟩ := List.mem_flatMap.1 hc
    obtain ⟨name, hname, rfl⟩ := List.mem_map.1 htext
    rw [String.toList_append] at hc
    have hslash : IsUnmarked "/".toList := by decide
    exact (hslash.append (h name hname)) c hc
  | flat text => exact h

/-! ## Authorities -/

theorem isUnmarked_user (cs : List Char) : IsUnmarked (escaped userEscapes cs).toList :=
  isUnmarked_escaped (by decide) (by decide) cs

theorem isUnmarked_authority_text {a : Authority} (huser : IsUnmarked a.username.toList)
    (hpassword : ∀ password ∈ a.password, IsUnmarked password.toList)
    (hhost : IsUnmarked a.host.toList) : IsUnmarked a.text.toList := by
  have hat : IsUnmarked "@".toList := by decide
  have hcolon : IsUnmarked ":".toList := by decide
  have huserText : IsUnmarked a.userText.toList := by
    rw [Authority.userText]
    split
    · exact .nil
    · rw [String.toList_append]
      exact huser.append hat
    case _ password hpass =>
      simp only [String.toList_append]
      exact ((huser.append hcolon).append (hpassword password hpass)).append hat
  rw [Authority.text, String.toList_append, String.toList_append]
  refine (huserText.append hhost).append ?_
  split
  · rw [String.toList_append]
    exact hcolon.append (Host.isUnmarked_repr _)
  · exact .nil

/-- What an authority that is read consists of: an escaped user part and a host. -/
theorem parts_of_authorityOf {scheme : String} {endsThere : Bool} {cs left : List Char}
    {a : Authority} (h : authorityOf scheme endsThere cs = .ok (a, left)) :
    ∃ user host, userOf user = (a.username, a.password) ∧
      (Host.ofWeb host = .ok a.host ∨ Host.ofOther host = .ok a.host) := by
  simp only [authorityOf, bind, Except.bind, pure, Except.pure, throw, throwThe,
    MonadExceptOf.throw] at h
  split at h
  · cases h
  split at h
  · cases h
  -- the two readings of a host go the same way from there
  split at h
  all_goals
    split at h
    · cases h
    rename_i host hhost
    split at h
    · cases h
    split at h
    · split at h
      · cases h
      split at h
      · cases h
      cases h
      exact ⟨_, _, rfl, by first | exact .inl hhost | exact .inr hhost⟩
    · split at h
      · cases h
      cases h
      exact ⟨_, _, rfl, by first | exact .inl hhost | exact .inr hhost⟩

theorem isUnmarked_of_authorityOf {scheme : String} {endsThere : Bool} {cs left : List Char}
    {a : Authority} (h : authorityOf scheme endsThere cs = .ok (a, left)) :
    IsUnmarked a.text.toList := by
  obtain ⟨user, host, huser, hhost⟩ := parts_of_authorityOf h
  rw [userOf, Prod.mk.injEq] at huser
  obtain ⟨hname, hpassword⟩ := huser
  refine isUnmarked_authority_text ?_ ?_ ?_
  · rw [← hname]
    exact isUnmarked_user _
  · intro password hp
    rw [← hpassword] at hp
    split_ifs at hp
    · cases hp
    · cases hp
      exact isUnmarked_user _
  · exact hhost.elim Host.isUnmarked_of_ofWeb Host.isUnmarked_of_ofOther

/-! ## Addresses -/

/-- Letters and digits are ASCII. -/
theorem toNat_lt_of_isAlphanum {c : Char} (h : c.isAlphanum = true) : c.toNat < 0x80 := by
  have hclass : ((c.isUpper || c.isLower) || c.isDigit) = true := h
  have hbelow (high : Char) (hle : c.val ≤ high.val) (hhigh : high.toNat < 0x80) :
      c.toNat < 0x80 :=
    Nat.lt_of_le_of_lt (UInt32.le_iff_toNat_le.1 hle) hhigh
  rw [Bool.or_eq_true, Bool.or_eq_true] at hclass
  rcases hclass with (hupper | hlower) | hdigit
  · exact hbelow 'Z' (of_decide_eq_true hupper).2 (by decide)
  · exact hbelow 'z' (of_decide_eq_true (Bool.and_eq_true_iff.1 hlower).2) (by decide)
  · exact hbelow '9' (of_decide_eq_true (Bool.and_eq_true_iff.1 hdigit).2) (by decide)

/-- What holds of the first 128 characters holds of every character among them. -/
theorem of_toNat_lt {P : Char → Prop} (hall : ∀ n < 0x80, P (Char.ofNat n)) {c : Char}
    (h : c.toNat < 0x80) : P c := by
  rw [← Char.ofNat_toNat c]
  exact hall c.toNat h

/-- A character of a scheme is no mark in lower case. -/
theorem toLower_ne_of_isSchemeChar {c : Char} (h : isSchemeChar c = true) :
    c.toLower ≠ '?' ∧ c.toLower ≠ '#' := by
  have hlt : c.toNat < 0x80 := by
    rw [isSchemeChar, Bool.or_eq_true, Bool.or_eq_true, Bool.or_eq_true] at h
    rcases h with ((halnum | hplus) | hminus) | hdot
    · exact toNat_lt_of_isAlphanum halnum
    · rw [beq_iff_eq.1 hplus]
      decide
    · rw [beq_iff_eq.1 hminus]
      decide
    · rw [beq_iff_eq.1 hdot]
      decide
  exact of_toNat_lt (P := fun c => isSchemeChar c = true → c.toLower ≠ '?' ∧ c.toLower ≠ '#')
    (by decide) hlt h

theorem isUnmarked_of_splitScheme {cs rest : List Char} {scheme : String}
    (h : splitScheme cs = some (scheme, rest)) : IsUnmarked scheme.toList := by
  rw [splitScheme] at h
  split at h
  · split_ifs at h
    cases h
    rw [String.toList_ofList]
    intro c hc
    obtain ⟨d, hd, rfl⟩ := List.mem_map.1 hc
    exact toLower_ne_of_isSchemeChar (List.mem_takeWhile_imp hd)
  · cases h

/-- The first part of a text that is split at a character: it stands in the text and does not hold
the character. -/
theorem mem_splitAtFirst {mark : Char} {cs : List Char} {c : Char}
    (h : c ∈ (splitAtFirst mark cs).1) : c ∈ cs ∧ c ≠ mark := by
  rw [splitAtFirst] at h
  split at h
  case _ hnone =>
    refine ⟨h, ?_⟩
    rintro rfl
    have hall := List.dropWhile_eq_nil_iff.1 hnone c h
    simp at hall
  case _ =>
    refine ⟨(List.takeWhile_sublist _).subset h, ?_⟩
    simpa using List.mem_takeWhile_imp h

theorem splitAtFirst_eq_none {mark : Char} {cs : List Char} (h : mark ∉ cs) :
    splitAtFirst mark cs = (cs, none) := by
  rw [splitAtFirst, List.dropWhile_eq_nil_iff.2]
  intro c hc
  simpa using ne_of_mem_of_not_mem hc h

theorem splitAtFirst_append {mark : Char} {cs : List Char} (h : mark ∉ cs) (rest : List Char) :
    splitAtFirst mark (cs ++ mark :: rest) = (cs, some rest) := by
  have hcs : ∀ c ∈ cs, (c != mark) = true := fun c hc => by
    simpa using ne_of_mem_of_not_mem hc h
  rw [splitAtFirst, List.dropWhile_append_of_pos hcs, List.dropWhile_cons_of_neg (by simp),
    List.takeWhile_append_of_pos hcs, List.takeWhile_cons_of_neg (by simp), List.append_nil]

theorem isCut_of_withAuthority {scheme : String} {query fragment : Option String} {cs : List Char}
    {u : Url} (hscheme : IsUnmarked scheme.toList) (hquery : ∀ q ∈ query, '#' ∉ q.toList)
    (h : withAuthority scheme query fragment cs = .ok u) : u.IsCut := by
  rw [withAuthority] at h
  obtain ⟨⟨a, left⟩, ha, h⟩ := bind_eq_ok.1 h
  cases h
  refine ⟨hscheme, ?_, isUnmarked_pathOf _ _, hquery⟩
  intro a' ha'
  cases ha'
  exact isUnmarked_of_authorityOf ha

/-- The address of a file has no user and no port; its host may be dropped. -/
theorem isCut_file {query fragment : Option String} {host : String}
    (hquery : ∀ q ∈ query, '#' ∉ q.toList) (hhost : IsUnmarked host.toList) (cs : List Char) :
    IsCut ⟨"file", some ⟨"", none, host, none⟩, pathOf "file" cs, query, fragment⟩ := by
  refine ⟨?_, ?_, isUnmarked_pathOf _ _, hquery⟩
  · show IsUnmarked "file".toList
    decide
  · intro a ha
    cases ha
    exact isUnmarked_authority_text .nil (by simp) hhost

theorem isCut_of_ofFile {query fragment : Option String} {cs : List Char} {u : Url}
    (hquery : ∀ q ∈ query, '#' ∉ q.toList) (h : ofFile query fragment cs = .ok u) : u.IsCut := by
  have hlocal : IsUnmarked "".toList := .nil
  rw [ofFile.eq_def] at h
  split at h
  · split at h
    · simp only at h
      split at h
      · cases h
        exact isCut_file hquery hlocal _
      split at h
      · cases h
        exact isCut_file hquery hlocal _
      -- a host that is read may still be dropped
      obtain ⟨host, hhost, h⟩ := bind_eq_ok.1 h
      cases h
      refine isCut_file hquery ?_ _
      split_ifs
      · exact hlocal
      · exact Host.isUnmarked_of_ofWeb hhost
    · cases h
      exact isCut_file hquery hlocal _
  · cases h
    exact isCut_file hquery hlocal _

/-- **A text that is read as an address is cut at its marks.** -/
theorem isCut_of_parse {s : String} {u : Url} (h : parse s = .ok u) : u.IsCut := by
  rw [parse] at h
  split at h
  · cases h
  case _ scheme rest hscheme =>
    have hschemeText := isUnmarked_of_splitScheme hscheme
    have hbody : IsUnmarked (splitAtFirst '?' (splitAtFirst '#' rest).1).1 := fun c hc =>
      ⟨(mem_splitAtFirst hc).2, (mem_splitAtFirst (mem_splitAtFirst hc).1).2⟩
    have hquery : ∀ q ∈ (splitAtFirst '?' (splitAtFirst '#' rest).1).2.map
        (escaped (if isSpecial scheme then webQueryEscapes else queryEscapes)),
        '#' ∉ q.toList := by
      intro q hq
      obtain ⟨cs, -, rfl⟩ := Option.map_eq_some_iff.1 hq
      refine hash_not_mem_escaped ?_ cs
      split_ifs <;> decide
    simp only at h
    -- the escapes of the query have a case split of their own, which is none of the reading
    generalize (splitAtFirst '?' (splitAtFirst '#' rest).1).2.map _ = query at h hquery
    split at h
    · exact isCut_of_ofFile hquery h
    split at h
    · exact isCut_of_withAuthority hschemeText hquery h
    · split at h
      · exact isCut_of_withAuthority hschemeText hquery h
      · cases h
        exact ⟨hschemeText, by simp, isUnmarked_pathOf _ _, hquery⟩
      · cases h
        exact ⟨hschemeText, by simp, isUnmarked_escaped_of_isUnmarked "" hbody, hquery⟩

/-! ## Addresses beside -/

theorem isCut_withTrailingSlash {u : Url} (h : u.IsCut) : u.withTrailingSlash.IsCut := by
  rw [withTrailingSlash]
  split
  case _ names hpath =>
    split_ifs
    · exact h
    · refine ⟨h.scheme, h.authority, fun name hname => ?_, h.query⟩
      have hnames : u.path.IsUnmarked := h.path
      rw [hpath] at hnames
      rcases List.mem_append.1 hname with hname | hname
      · exact hnames name hname
      · rw [List.mem_singleton.1 hname]
        exact .nil
  · exact h

/-- An address beside one that is cut at its marks is cut there too, and has no query. -/
theorem isCut_of_beside {u v : Url} {names : List String} (h : u.IsCut)
    (hnames : ∀ name ∈ names, IsUnmarked name.toList) (hv : u.beside names = .ok v) :
    v.IsCut ∧ v.query = none ∧ v.fragment = none := by
  rw [beside] at hv
  split at hv
  case _ old hpath =>
    cases hv
    refine ⟨⟨h.scheme, h.authority, fun name hname => ?_, by simp⟩, rfl, rfl⟩
    have hold : u.path.IsUnmarked := h.path
    rw [hpath] at hold
    rcases List.mem_append.1 hname with hname | hname
    · exact hold name (List.dropLast_subset old hname)
    · exact hnames name hname
  · cases hv

theorem isCut_withPairs {u : Url} (h : u.IsCut) (ps : List Form.Pair) : (u.withPairs ps).IsCut := by
  have hform : '#' ∉ (Form.encode ps).toList := fun hmem => (Form.mem_encode hmem).1 rfl
  have hkeep {q : Option String} (hq : ∀ query ∈ q, '#' ∉ query.toList) :
      IsCut { u with query := q } := ⟨h.scheme, h.authority, h.path, hq⟩
  rw [withPairs]
  split
  · exact hkeep (by simpa using hform)
  · exact hkeep (by simpa using hform)
  case _ query _ hquery =>
    refine hkeep fun q hq => ?_
    cases hq
    rw [String.toList_append, String.toList_append, List.mem_append, List.mem_append]
    rintro ((hmem | hmem) | hmem)
    · exact h.query query hquery hmem
    · exact absurd hmem (by decide)
    · exact hform hmem

/-! ## Cutting the query out -/

/-- The query of a written address: what stands behind its first question mark, up to the number
sign. -/
def queryText (text : String) : Option String :=
  (splitAtFirst '?' (splitAtFirst '#' text.toList).1).2.map String.ofList

/-- What stands in front of the query of a written address. -/
def frontText (u : Url) : String :=
  u.scheme ++ ":" ++
    (match u.authority with
      | some a => "//" ++ a.text
      | none => "") ++
    u.pathGuard ++ u.path.text

theorem isUnmarked_frontText {u : Url} (h : u.IsCut) : IsUnmarked u.frontText.toList := by
  have hcolon : IsUnmarked ":".toList := by decide
  have hslashes : IsUnmarked "//".toList := by decide
  have hguard : IsUnmarked u.pathGuard.toList := by
    rw [pathGuard]
    split
    · decide
    · exact .nil
  simp only [frontText, String.toList_append]
  refine (((h.scheme.append hcolon).append ?_).append hguard).append (isUnmarked_path_text h.path)
  split
  case _ a ha =>
    rw [String.toList_append]
    exact hslashes.append (h.authority a ha)
  · exact .nil

theorem text_eq_frontText (u : Url) :
    u.text = u.frontText ++ (match u.query with
      | some query => "?" ++ query
      | none => "") ++ (match u.fragment with
      | some fragment => "#" ++ fragment
      | none => "") := rfl

/-- A fragment is cut off at its number sign. -/
theorem splitAtFirst_hash {cs : List Char} (h : '#' ∉ cs) (fragment : Option String) :
    (splitAtFirst '#' (cs ++ (match fragment with
      | some fragment => "#" ++ fragment
      | none => "").toList)).1 = cs := by
  cases fragment with
  | none => rw [String.toList_empty, List.append_nil, splitAtFirst_eq_none h]
  | some fragment => rw [String.toList_append]; exact congrArg Prod.fst (splitAtFirst_append h _)

/-- **The query is cut out of a written address as it was put there.** -/
theorem queryText_text {u : Url} (h : u.IsCut) : queryText u.text = u.query := by
  have hfront := isUnmarked_frontText h
  have hask : '?' ∉ u.frontText.toList := fun hmem => (hfront _ hmem).1 rfl
  have hhash : '#' ∉ u.frontText.toList := fun hmem => (hfront _ hmem).2 rfl
  rw [queryText, text_eq_frontText, String.toList_append, String.toList_append]
  cases hquery : u.query with
  | none =>
    rw [String.toList_empty, List.append_nil, splitAtFirst_hash hhash, splitAtFirst_eq_none hask]
    rfl
  | some query =>
    have hboth : '#' ∉ u.frontText.toList ++ ("?" ++ query).toList := by
      rw [List.mem_append, String.toList_append, List.mem_append]
      rintro (hmem | hmem | hmem)
      · exact hhash hmem
      · exact absurd hmem (by decide)
      · exact h.query query hquery hmem
    -- with the fragment gone, the first question mark is the one in front of the query
    rw [splitAtFirst_hash hboth, String.toList_append]
    show (splitAtFirst '?' (u.frontText.toList ++ '?' :: query.toList)).2.map String.ofList = _
    rw [splitAtFirst_append hask, Option.map_some, String.ofList_toList]

end Url
end AlertLine
