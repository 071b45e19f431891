import AlertLine.Proofs.Url.Segments

/-!
# Addresses beneath a base

Reading an address cuts its front off before it comes to the path, and a slash with more behind it
changes nothing in front (`Url.splitScheme_append`, `Url.withAuthority_append`). So an address that
is put together from the text of a base, a slash and further segments is read as the base with these
segments behind its path (`Url.exists_front_of_isBase`), if the text of the base does not end in
characters that reading would cut off there.
-/

namespace AlertLine.Url

open Percent (isSegmentChar encodeSegment)

/-! ## What stands behind a base -/

/-- Nothing, or a slash with anything behind it. -/
inductive IsTail : List Char → Prop
  /-- Nothing. -/
  | nil : IsTail []
  /-- A slash. -/
  | slash (rest : List Char) : IsTail ('/' :: rest)

theorem isTail_replicate (n : ℕ) : IsTail (List.replicate n '/') := by
  cases n with
  | zero => exact .nil
  | succ n => exact .slash _

section Tail

variable {tail : List Char} (htail : IsTail tail)

include htail

theorem takeWhile_append_tail {p : Char → Bool} (hp : p '/' = false) (cs : List Char) :
    (cs ++ tail).takeWhile p = cs.takeWhile p := by
  induction cs with
  | nil =>
    cases htail with
    | nil => rfl
    | slash rest => exact List.takeWhile_cons_of_neg (by rw [hp]; exact Bool.false_ne_true)
  | cons c cs ih => rw [List.cons_append, List.takeWhile_cons, List.takeWhile_cons, ih]

theorem dropWhile_append_tail {p : Char → Bool} (hp : p '/' = false) (cs : List Char) :
    (cs ++ tail).dropWhile p = cs.dropWhile p ++ tail := by
  induction cs with
  | nil =>
    cases htail with
    | nil => rfl
    | slash rest => exact List.dropWhile_cons_of_neg (by rw [hp]; exact Bool.false_ne_true)
  | cons c cs ih =>
    rw [List.cons_append, List.dropWhile_cons, List.dropWhile_cons, ih]
    split_ifs <;> rfl

/-- The scheme of an address does not depend on what stands behind a slash. -/
theorem splitScheme_append (cs : List Char) :
    splitScheme (cs ++ tail) = (splitScheme cs).map fun front => (front.1, front.2 ++ tail) := by
  have hslash : isSchemeChar '/' = false := by decide
  rw [splitScheme, splitScheme, takeWhile_append_tail htail hslash,
    dropWhile_append_tail htail hslash]
  cases cs.dropWhile isSchemeChar with
  | nil => cases htail <;> rfl
  | cons c rest =>
    rw [List.cons_append]
    by_cases hcolon : c = ':'
    · subst hcolon
      split_ifs <;> rfl
    · split
      case _ heq =>
        cases heq
        exact absurd rfl hcolon
      case _ =>
        split
        case _ heq =>
          cases heq
          exact absurd rfl hcolon
        case _ => rfl

end Tail

/-! ## What counts of a text -/

/-- A text does not end in characters that reading cuts off, line breaks and tabs apart, which count
for nothing anywhere. -/
def EndsClean (cs : List Char) : Prop := ∀ c ∈ cs.reverse.takeWhile isEdge, isLayout c = true

instance (cs : List Char) : Decidable (EndsClean cs) :=
  decidable_of_iff ((cs.reverse.takeWhile isEdge).all isLayout) List.all_eq_true

theorem EndsClean.of_append {front back : List Char} (h : EndsClean (front ++ back)) :
    EndsClean back := by
  intro c hc
  refine h c ?_
  rw [List.reverse_append, List.takeWhile_append]
  split_ifs
  · exact List.mem_append_left _ ((List.takeWhile_sublist _).subset hc)
  · exact hc

theorem endsClean_of_forall {front back : List Char} (hback : back ≠ [])
    (h : ∀ c ∈ back, isEdge c = false) : EndsClean (front ++ back) := by
  intro c hc
  obtain ⟨last, init, hlast⟩ := List.exists_cons_of_ne_nil (List.reverse_ne_nil_iff.2 hback)
  have hedge : isEdge last = false := h last (List.mem_reverse.1 (by rw [hlast]; simp))
  rw [List.reverse_append, hlast, List.cons_append,
    List.takeWhile_cons_of_neg (by rw [hedge]; exact Bool.false_ne_true)] at hc
  exact absurd hc List.not_mem_nil

/-- Without such an end, only the front is cut off. -/
theorem cleaned_ofList {cs : List Char} (h : EndsClean cs) :
    cleaned (String.ofList cs) = (cs.dropWhile isEdge).filter fun c => !isLayout c := by
  -- what is cut off at the end are line breaks and tabs, and these are left out in any case
  have hends : EndsClean (cs.dropWhile isEdge) := by
    rw [← cs.takeWhile_append_dropWhile (p := isEdge)] at h
    exact h.of_append
  rw [cleaned, String.toList_ofList]
  generalize cs.dropWhile isEdge = cs at hends
  have hcut : (cs.reverse.takeWhile isEdge).reverse.filter (fun c => !isLayout c) = [] := by
    rw [List.filter_eq_nil_iff]
    intro c hc
    rw [hends c (List.mem_reverse.1 hc)]
    exact Bool.false_ne_true
  conv_rhs => rw [← cs.reverse_reverse, ← cs.reverse.takeWhile_append_dropWhile (p := isEdge),
    List.reverse_append, List.filter_append, hcut, List.append_nil]

theorem cleaned_append {cs tail : List Char} (htail : IsTail tail) (h : EndsClean (cs ++ tail)) :
    cleaned (String.ofList (cs ++ tail)) =
      (cs.dropWhile isEdge).filter (fun c => !isLayout c) ++ tail.filter fun c => !isLayout c := by
  have hslash : isEdge '/' = false := by decide
  rw [cleaned_ofList h, dropWhile_append_tail htail hslash, List.filter_append]

/-! ## Addresses of the web -/

section Web

variable {scheme : String} (hweb : isSpecial scheme = true)

include hweb

/-- In an address of the web it makes no difference to the authority whether anything follows. -/
theorem authorityOf_endsThere (endsThere : Bool) (cs : List Char) :
    authorityOf scheme endsThere cs = authorityOf scheme false cs := by
  rw [authorityOf, authorityOf]
  cases splitUser cs with
  | none => rfl
  | some parts =>
    obtain ⟨user, rest⟩ := parts
    dsimp only [Option.getD_some, Option.isSome_some]
    cases rest with
    | nil =>
      -- the host is empty, which is refused later if not at once
      rw [hweb]
      cases user <;> cases endsThere <;> rfl
    | cons c rest => simp only [List.isEmpty_cons, Bool.and_false, Bool.false_and]

/-- **The authority does not depend on what stands behind a slash.** -/
theorem withAuthority_append {tail : List Char} (htail : IsTail tail) (cs : List Char) :
    withAuthority scheme none none (cs ++ tail) =
      (authorityOf scheme false (cs.takeWhile fun c => !isSlash true c)).map fun read =>
        ⟨scheme, some read.1,
          pathOf scheme (read.2 ++ (cs.dropWhile fun c => !isSlash true c) ++ tail),
          none, none⟩ := by
  have hslash : (!isSlash true '/') = false := by decide
  rw [withAuthority, hweb]
  dsimp only
  rw [authorityOf_endsThere hweb, takeWhile_append_tail htail hslash,
    dropWhile_append_tail htail hslash]
  cases authorityOf scheme false (cs.takeWhile fun c => !isSlash true c) with
  | error e => rfl
  | ok read =>
    simp only [List.append_assoc]
    rfl

theorem withAuthority_nil : withAuthority scheme none none [] = .error .emptyHost := by
  have hnone : authorityOf scheme true [] = .error .emptyHost := by
    rw [authorityOf, hweb]
    rfl
  rw [withAuthority, hweb]
  show (authorityOf scheme true [] >>= _) = _
  rw [hnone]
  rfl

/-- In front of the slashes at the end of an address stands a host. -/
theorem dropWhile_append_of_withAuthority {body : List Char} {n : ℕ} {u : Url}
    (h : withAuthority scheme none none
      ((body ++ List.replicate n '/').dropWhile (isSlash true)) = .ok u) (tail : List Char) :
    (body ++ tail).dropWhile (isSlash true) = body.dropWhile (isSlash true) ++ tail := by
  rw [List.dropWhile_append, if_neg]
  intro hnone
  have hnil : (body ++ List.replicate n '/').dropWhile (isSlash true) = [] := by
    rw [List.dropWhile_append, if_pos hnone, List.dropWhile_eq_nil_iff]
    intro c hc
    rw [List.eq_of_mem_replicate hc]
    rfl
  rw [hnil, withAuthority_nil hweb] at h
  cases h

end Web

/-! ## Reading -/

theorem not_mem_of_splitAtFirst {mark : Char} {cs : List Char}
    (h : (splitAtFirst mark cs).2 = none) : mark ∉ cs := by
  rw [splitAtFirst] at h
  split at h
  case _ hnone =>
    intro hmem
    exact absurd (List.dropWhile_eq_nil_iff.1 hnone mark hmem) (by simp)
  case _ => cases h

/-- What is read of an address with an authority. -/
theorem parts_of_withAuthority {scheme : String} {query fragment : Option String} {cs : List Char}
    {u : Url} (h : withAuthority scheme query fragment cs = .ok u) :
    u.scheme = scheme ∧ u.query = query ∧ u.fragment = fragment := by
  rw [withAuthority] at h
  obtain ⟨read, -, h⟩ := bind_eq_ok.1 h
  cases h
  exact ⟨rfl, rfl, rfl⟩

theorem scheme_of_ofFile {query fragment : Option String} {cs : List Char} {u : Url}
    (h : ofFile query fragment cs = .ok u) : u.scheme = "file" := by
  rw [ofFile.eq_def] at h
  split at h
  · split at h
    · simp only at h
      split at h
      · cases h
        rfl
      split at h
      · cases h
        rfl
      obtain ⟨host, -, h⟩ := bind_eq_ok.1 h
      cases h
      rfl
    · cases h
      rfl
  · cases h
    rfl

/-- An address of the web without query and fragment. -/
structure IsPlainWeb (u : Url) : Prop where
  scheme : u.scheme = "http" ∨ u.scheme = "https"
  query : u.query = none
  fragment : u.fragment = none

namespace IsPlainWeb

variable {u : Url} (h : u.IsPlainWeb)

include h

theorem isSpecial : isSpecial u.scheme = true := by
  rcases h.scheme with hscheme | hscheme <;> rw [hscheme] <;> decide

theorem notFile : (u.scheme == "file") = false := by
  rcases h.scheme with hscheme | hscheme <;> rw [hscheme] <;> decide

end IsPlainWeb

/-- The scheme of an address is that of the text that it was read from. -/
theorem exists_splitScheme {s : String} {u : Url} (h : parse s = .ok u) :
    ∃ rest, splitScheme (cleaned s) = some (u.scheme, rest) := by
  rw [parse] at h
  cases hfront : splitScheme (cleaned s) with
  | none =>
    rw [hfront] at h
    cases h
  | some front =>
    obtain ⟨scheme, rest⟩ := front
    rw [hfront] at h
    refine ⟨rest, ?_⟩
    have hscheme : u.scheme = scheme := by
      simp only at h
      -- the escapes of the query have a case split of their own, which is none of the reading
      generalize (splitAtFirst '?' (splitAtFirst '#' rest).1).2.map _ = query at h
      split at h
      case _ hfile => rw [scheme_of_ofFile h, beq_iff_eq.1 hfile]
      split at h
      · exact (parts_of_withAuthority h).1
      · split at h
        · exact (parts_of_withAuthority h).1
        · cases h
          rfl
        · cases h
          rfl
    rw [hscheme]

/-- **How an address of the web without query and fragment is read.** -/
theorem parse_eq_ok_iff {s : String} {u : Url} (hu : u.IsPlainWeb) :
    parse s = .ok u ↔ ∃ rest, splitScheme (cleaned s) = some (u.scheme, rest) ∧ IsUnmarked rest ∧
      withAuthority u.scheme none none (rest.dropWhile (isSlash true)) = .ok u := by
  have hfile : ¬ (u.scheme == "file") = true := by
    rw [hu.notFile]
    exact Bool.false_ne_true
  constructor
  · intro h
    obtain ⟨rest, hrest⟩ := exists_splitScheme h
    rw [parse, hrest] at h
    dsimp only at h
    rw [if_neg hfile, if_pos hu.isSpecial] at h
    obtain ⟨-, hquery, hfragment⟩ := parts_of_withAuthority h
    rw [hu.query] at hquery
    rw [hu.fragment] at hfragment
    have hhash := not_mem_of_splitAtFirst (Option.map_eq_none_iff.1 hfragment.symm)
    rw [splitAtFirst_eq_none hhash] at h hquery
    have hask := not_mem_of_splitAtFirst (Option.map_eq_none_iff.1 hquery.symm)
    rw [splitAtFirst_eq_none hask] at h
    have hunmarked : IsUnmarked rest := fun c hc =>
      ⟨ne_of_mem_of_not_mem hc hask, ne_of_mem_of_not_mem hc hhash⟩
    exact ⟨rest, hrest, hunmarked, h⟩
  · rintro ⟨rest, hrest, hunmarked, h⟩
    have hhash : '#' ∉ rest := fun hmem => (hunmarked _ hmem).2 rfl
    have hask : '?' ∉ rest := fun hmem => (hunmarked _ hmem).1 rfl
    rw [parse, hrest]
    dsimp only
    rw [if_neg hfile, if_pos hu.isSpecial, splitAtFirst_eq_none hhash]
    dsimp only
    rw [splitAtFirst_eq_none hask]
    exact h

/-! ## Paths behind a base -/

/-- A character of a path that is put behind a base: a slash, or a character of a segment. -/
def IsPathChar (c : Char) : Prop := c = '/' ∨ isSegmentChar c = true

theorem isPathChar_spec {c : Char} (h : IsPathChar c) :
    isEdge c = false ∧ isLayout c = false ∧ c ≠ '?' ∧ c ≠ '#' := by
  rcases h with rfl | hsegment
  · decide
  · obtain ⟨-, -, hedge, hlayout, -, hhash, hask, -⟩ := isSegmentChar_spec hsegment
    exact ⟨hedge, hlayout, hask, hhash⟩

/-- How a text is read that has a path behind it. -/
theorem parse_append_eq_ok_iff {cs tail : List Char} {u : Url} (hu : u.IsPlainWeb)
    (htail : IsTail tail) (hchars : ∀ c ∈ tail, IsPathChar c) (hends : EndsClean (cs ++ tail)) :
    parse (String.ofList (cs ++ tail)) = .ok u ↔
      ∃ body, splitScheme ((cs.dropWhile isEdge).filter fun c => !isLayout c) =
          some (u.scheme, body) ∧ IsUnmarked body ∧
        withAuthority u.scheme none none ((body ++ tail).dropWhile (isSlash true)) = .ok u := by
  have hkept : tail.filter (fun c => !isLayout c) = tail := by
    rw [List.filter_eq_self]
    intro c hc
    rw [(isPathChar_spec (hchars c hc)).2.1]
    rfl
  have hmarks : IsUnmarked tail := fun c hc => (isPathChar_spec (hchars c hc)).2.2
  rw [parse_eq_ok_iff hu, cleaned_append htail hends, hkept, splitScheme_append htail]
  constructor
  · rintro ⟨rest, hrest, hunmarked, h⟩
    obtain ⟨⟨scheme, body⟩, hfront, ⟨⟩⟩ := Option.map_eq_some_iff.1 hrest
    exact ⟨body, hfront, hunmarked.mono fun c => List.mem_append_left _, h⟩
  · rintro ⟨body, hfront, hunmarked, h⟩
    exact ⟨body ++ tail, by rw [hfront]; rfl, hunmarked.append hmarks, h⟩

/-- The address with these segments for its path. -/
def atPath (u : Url) (names : List String) : Url := { u with path := .segments names }

/-- The text of a base address, and what it is read as: an address of the web without query and
fragment. Nothing but line breaks and tabs is cut off at its end. -/
structure IsBase (text : String) (base : Url) : Prop where
  read : parse text = .ok base
  web : base.IsPlainWeb
  ends : EndsClean text.toList

/-- **What is put behind the text of a base stands behind its path.** -/
theorem exists_front_of_isBase {cs : List Char} {n : ℕ} {base : Url}
    (h : IsBase (String.ofList (cs ++ List.replicate n '/')) base) :
    ∃ front k, base.path = .segments (front ++ List.replicate k "") ∧
      ∀ rest parts last, (∀ c ∈ rest, IsPathChar c) →
        rest.splitOnP (isSlash true) = parts ++ [last] →
        parse (String.ofList (cs ++ '/' :: rest)) =
          .ok (base.atPath (addSegment true (enter front.reverse parts) last).reverse) := by
  obtain ⟨hread, hbase, hends⟩ := h
  rw [String.toList_ofList] at hends
  have hslashes : ∀ c ∈ List.replicate n '/', IsPathChar c := fun c hc =>
    .inl (List.eq_of_mem_replicate hc)
  -- scheme and authority of the base are read off the text in front of its last slashes
  obtain ⟨body, hfront, hunmarked, hauthority⟩ :=
    (parse_append_eq_ok_iff hbase (isTail_replicate n) hslashes hends).1 hread
  have hhost := dropWhile_append_of_withAuthority hbase.isSpecial hauthority
  rw [hhost, withAuthority_append hbase.isSpecial (isTail_replicate n)] at hauthority
  obtain ⟨⟨authority, left⟩, hread, hurl⟩ := map_eq_ok.1 hauthority
  obtain ⟨front, hbefore, hbehind⟩ := exists_front hbase.isSpecial hbase.notFile
    (left ++ (body.dropWhile (isSlash true)).dropWhile fun c => !isSlash true c)
  obtain ⟨k, hpath⟩ := hbefore n
  refine ⟨front, k, ?_, fun rest parts last hrest hsplit => ?_⟩
  · rw [← hpath, ← hurl]
  · -- so the same front is read where a path stands behind it
    have hclass : ∀ c ∈ '/' :: rest, IsPathChar c := List.forall_mem_cons.2 ⟨.inl rfl, hrest⟩
    have hends : EndsClean (cs ++ '/' :: rest) :=
      endsClean_of_forall (List.cons_ne_nil _ _) fun c hc => (isPathChar_spec (hclass c hc)).1
    have hweb (names : List String) : (base.atPath names).IsPlainWeb :=
      ⟨hbase.scheme, hbase.query, hbase.fragment⟩
    refine (parse_append_eq_ok_iff (hweb _) (.slash rest) hclass hends).2
      ⟨body, hfront, hunmarked, ?_⟩
    rw [hhost]
    refine (withAuthority_append hbase.isSpecial (.slash rest) _).trans (map_eq_ok.2 ⟨_, hread, ?_⟩)
    dsimp only
    rw [hbehind rest parts last hsplit, atPath, ← hurl]

/-! ## Resources -/

/-- The text of a path of names with a slash behind each, and a text that is written as the last
segment. -/
def resourcePath (names : List String) (value : String) : List Char :=
  names.flatMap (fun name => name.toList ++ ['/']) ++ (encodeSegment value).toList

/-- Where such a path leads: to the resource of the text, unless the text is one dot or two. -/
def segmentsTo (names : List String) (value : String) : List String :=
  if value = ".." then names.dropLast ++ [""]
  else if value = "." then names ++ [""]
  else names ++ [encodeSegment value]

/-- The texts that lead elsewhere as a segment. -/
def IsDots (value : String) : Prop := value = "." ∨ value = ".."

instance (value : String) : Decidable (IsDots value) :=
  inferInstanceAs (Decidable (value = "." ∨ value = ".."))

section Dots

variable {names : List String} {value : String}

theorem segmentsTo_of_dots (names : List String) (h : IsDots value) :
    ∃ left, segmentsTo names value = left ++ [""] := by
  rcases h with rfl | rfl
  · exact ⟨names, rfl⟩
  · exact ⟨names.dropLast, rfl⟩

theorem segmentsTo_of_not_dots (h : ¬ IsDots value) :
    segmentsTo names value = names ++ [encodeSegment value] := by
  rw [segmentsTo, if_neg fun hdots => h (.inr hdots), if_neg fun hdot => h (.inl hdot)]

/-- What leads to the same segments as dots is dots, if it is not empty. -/
theorem isDots_of_segmentsTo_eq {value' : String} (hvalue : value ≠ "")
    (h : segmentsTo names value = segmentsTo names value') (hdots : IsDots value') :
    IsDots value := by
  by_contra hnot
  obtain ⟨left, hleft⟩ := segmentsTo_of_dots names hdots
  rw [hleft, segmentsTo_of_not_dots hnot] at h
  have hempty : encodeSegment value = "" := by simpa using congrArg List.getLast? h
  rw [← Percent.textOfSegment_encodeSegment value, hempty, Percent.textOfSegment_empty] at hvalue
  exact hvalue rfl

/-- Texts that lead to the same resource are the same. -/
theorem eq_of_segmentsTo_eq {value' : String} (hne : names ≠ []) (hvalue : value ≠ "")
    (hvalue' : value' ≠ "") (h : segmentsTo names value = segmentsTo names value') :
    value = value' := by
  by_cases hdots : IsDots value
  · have hdots' := isDots_of_segmentsTo_eq hvalue' h.symm hdots
    -- one dot stays beneath the names, two lead one step up
    have hstep : names ++ [""] ≠ names.dropLast ++ [""] := by
      intro heq
      have hlength := congrArg List.length (List.append_cancel_right heq)
      have hpos := List.length_pos_iff.2 hne
      rw [List.length_dropLast] at hlength
      omega
    rcases hdots with rfl | rfl <;> rcases hdots' with rfl | rfl
    · rfl
    · exact absurd h hstep
    · exact absurd h.symm hstep
    · rfl
  · have hdots' : ¬ IsDots value' := fun hdots' => hdots (isDots_of_segmentsTo_eq hvalue h hdots')
    rw [segmentsTo_of_not_dots hdots, segmentsTo_of_not_dots hdots'] at h
    have hwritten : encodeSegment value = encodeSegment value' := by simpa using h
    rw [← Percent.textOfSegment_encodeSegment value, hwritten, Percent.textOfSegment_encodeSegment]

end Dots

section Names

variable {names : List String} (hnames : ∀ name ∈ names, IsName name) (value : String)

include hnames

theorem isPathChar_of_mem {c : Char} (h : c ∈ resourcePath names value) : IsPathChar c := by
  rcases List.mem_append.1 h with h | h
  · obtain ⟨name, hname, h⟩ := List.mem_flatMap.1 h
    rcases List.mem_append.1 h with h | h
    · exact .inr ((hnames name hname).text c h)
    · exact .inl (List.mem_singleton.1 h)
  · exact .inr (Percent.isSegmentChar_of_mem h)

theorem splitOnP_resourcePath :
    (resourcePath names value).splitOnP (isSlash true) =
      names.map String.toList ++ [(encodeSegment value).toList] := by
  have hwhole {cs : List Char} (h : IsSegmentText cs) : cs.splitOnP (isSlash true) = [cs] :=
    List.splitOnP_eq_singleton fun c hc => (isSegmentChar_spec (h c hc)).2.2.2.2.1
  induction names with
  | nil => exact hwhole fun c => Percent.isSegmentChar_of_mem
  | cons name names ih =>
    obtain ⟨hname, hnames⟩ := List.forall_mem_cons.1 hnames
    have hcons : resourcePath (name :: names) value =
        name.toList ++ '/' :: resourcePath names value := by
      simp [resourcePath]
    rw [hcons, List.splitOnP_append_cons _ _ (by decide), hwhole hname.text, ih hnames]
    rfl

/-- The steps of such a path, from a front. -/
theorem enter_resource (hne : names ≠ []) (front : List String) :
    (addSegment true (enter front.reverse (names.map String.toList))
      (encodeSegment value).toList).reverse = front ++ segmentsTo names value := by
  obtain ⟨init, last, rfl⟩ : ∃ init last, names = init ++ [last] :=
    ⟨_, _, (List.dropLast_append_getLast hne).symm⟩
  have hleft : shorten ((init ++ [last]).reverse ++ front.reverse) = (front ++ init).reverse := by
    have hdrive := (hnames last (by simp)).noDrive
    rw [List.reverse_append, List.reverse_singleton, List.singleton_append, List.cons_append,
      shorten, hdrive, List.reverse_append]
    rfl
  rw [enter_names hnames, addSegment_written, lastStep, segmentsTo, hleft, List.dropLast_concat]
  split_ifs <;> simp

end Names

/-- **Where resources beneath a base are read.** -/
theorem exists_front_of_resources {cs : List Char} {n : ℕ} {base : Url}
    (h : IsBase (String.ofList (cs ++ List.replicate n '/')) base) :
    ∃ front k, base.path = .segments (front ++ List.replicate k "") ∧
      ∀ names value, names ≠ [] → (∀ name ∈ names, IsName name) →
        parse (String.ofList (cs ++ '/' :: resourcePath names value)) =
          .ok (base.atPath (front ++ segmentsTo names value)) := by
  obtain ⟨front, k, hpath, hbehind⟩ := exists_front_of_isBase h
  refine ⟨front, k, hpath, fun names value hne hnames => ?_⟩
  rw [← enter_resource hnames value hne]
  exact hbehind _ _ _ (fun c => isPathChar_of_mem hnames value) (splitOnP_resourcePath hnames value)

end AlertLine.Url
