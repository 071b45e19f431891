import AlertLine.Proofs.Url.Beneath
import AlertLine.Url.Target

/-!
# Addresses as targets

An address of the web is written as its scheme, its authority and its path, and a target is cut into
the same parts. What is escaped in a segment is all that a target cannot hold there
(`Url.isTargetText_path`). So whether such an address can be written as a target is decided by its
authority and its length alone (`Url.isOk_target_iff`), and an address beneath a base that can is
too long or can be written as well (`Url.isOk_target_atPath_iff`).
-/

namespace AlertLine

/-! ## Targets -/

namespace Target

open Url (IsTail)

/-- A text of characters that a path of a target can have as they are. -/
def IsTargetText (cs : List Char) : Prop := ∀ c ∈ cs, isPathChar c = true

/-- Without marks, there is nothing but a path to be looked at. -/
theorem isOk_ofPath_iff {cs : List Char} (h : IsUnmarked cs) :
    (ofPath cs).isOk = true ↔ IsTargetText cs := by
  have hpath : (cs.takeWhile fun c => c != '?' && c != '#') = cs :=
    List.takeWhile_eq_self_iff.2 fun c hc => by simpa using h c hc
  rw [ofPath, hpath, List.drop_length, List.takeWhile_nil, IsTargetText, ← List.all_eq_true]
  cases cs.all isPathChar with
  | false => exact iff_of_false Bool.false_ne_true Bool.false_ne_true
  | true => exact iff_of_true rfl rfl

/-- The authority of a server does not depend on what stands behind a slash. -/
theorem splitAuthority_append {tail : List Char} (htail : IsTail tail) (cs : List Char) :
    splitAuthority (cs ++ tail) =
      (splitAuthority cs).map fun parts => (parts.1, parts.2 ++ tail) := by
  have hslash : (!endsAuthority '/') = false := by decide
  rw [splitAuthority, splitAuthority, Url.takeWhile_append_tail htail hslash,
    Url.dropWhile_append_tail htail hslash]
  cases (cs.takeWhile fun c => !endsAuthority c).foldlM AuthorityScan.step
    ⟨0, false, false, false, false⟩ with
  | error e => rfl
  | ok s =>
    show (if s.isSound then _ else _) = Except.map _ (if s.isSound then _ else _)
    split_ifs <;> rfl

/-- What is split off behind an authority stood there. -/
theorem mem_of_splitAuthority {cs authority rest : List Char}
    (h : splitAuthority cs = .ok (authority, rest)) {c : Char} (hc : c ∈ rest) : c ∈ cs := by
  obtain ⟨s, -, h⟩ := bind_eq_ok.1 h
  split_ifs at h
  cases h
  exact (List.dropWhile_sublist _).subset hc

/-- What can stand behind a scheme: an authority that is not empty, with a path. -/
theorem isOk_ofServer_iff {cs : List Char} :
    (ofServer cs).isOk = true ↔ ∃ authority rest, splitAuthority cs = .ok (authority, rest) ∧
      authority ≠ [] ∧ (ofPath rest).isOk = true := by
  cases cs with
  | nil =>
    refine iff_of_false Bool.false_ne_true ?_
    rintro ⟨authority, rest, hsplit, hne, -⟩
    have hempty : splitAuthority [] = .ok ([], []) := rfl
    rw [hempty] at hsplit
    cases hsplit
    exact hne rfl
  | cons c cs =>
    show (splitAuthority (c :: cs) >>= fun parts =>
      if parts.1.isEmpty then throw .badFormat else ofPath parts.2).isOk = true ↔ _
    cases splitAuthority (c :: cs) with
    | error e => exact iff_of_false Bool.false_ne_true nofun
    | ok parts =>
      obtain ⟨authority, rest⟩ := parts
      cases authority with
      | nil =>
        refine iff_of_false Bool.false_ne_true ?_
        rintro ⟨_, _, ⟨⟩, hne, -⟩
        exact hne rfl
      | cons d authority =>
        constructor
        · exact fun h => ⟨_, _, rfl, List.cons_ne_nil _ _, h⟩
        · rintro ⟨_, _, ⟨⟩, -, h⟩
          exact h

/-- **A path of such characters makes no difference to the server that it stands behind.** -/
theorem isOk_ofServer_append {front tail : List Char} (hfront : IsUnmarked front)
    (htail : IsTail tail) (hunmarked : IsUnmarked tail) (hchars : IsTargetText tail) :
    (ofServer (front ++ tail)).isOk = true ↔ (ofServer front).isOk = true := by
  have hpath {authority rest : List Char} (hsplit : splitAuthority front = .ok (authority, rest)) :
      (ofPath (rest ++ tail)).isOk = true ↔ (ofPath rest).isOk = true := by
    have hrest : IsUnmarked rest := hfront.mono fun c => mem_of_splitAuthority hsplit
    rw [isOk_ofPath_iff (hrest.append hunmarked), isOk_ofPath_iff hrest, IsTargetText,
      List.forall_mem_append]
    exact and_iff_left hchars
  rw [isOk_ofServer_iff, isOk_ofServer_iff, splitAuthority_append htail]
  constructor
  · rintro ⟨authority, rest, hsplit, hne, hok⟩
    obtain ⟨⟨_, rest⟩, hfirst, ⟨⟩⟩ := map_eq_ok.1 hsplit
    exact ⟨_, _, hfirst, hne, (hpath hfirst).1 hok⟩
  · rintro ⟨authority, rest, hsplit, hne, hok⟩
    exact ⟨authority, rest ++ tail, map_eq_ok.2 ⟨_, hsplit, rfl⟩, hne, (hpath hsplit).2 hok⟩

/-- How the text of an address of the web is read as a target. -/
theorem parse_of_web {s scheme : String} {rest : List Char}
    (hscheme : scheme = "http" ∨ scheme = "https")
    (h : s.toList = scheme.toList ++ ':' :: '/' :: '/' :: rest) :
    parse s = if maxLength < s.utf8ByteSize then .error .tooLong else ofServer rest := by
  rw [parse, h]
  rcases hscheme with rfl | rfl
  all_goals
    split_ifs
    · rfl
    · rfl

end Target

/-! ## Addresses -/

namespace Url

open Target (IsTargetText)

/-- All that a target cannot hold in a path is escaped in a segment. -/
theorem isTargetText_segment {name : String} (h : IsSegment name) : IsTargetText name.toList := by
  obtain ⟨cs, rfl⟩ := h
  have halone : ∀ n < 0x80, (Host.isPlain (UInt8.ofNat n) &&
      !pathEscapes.toList.contains (Char.ofNat (UInt8.ofNat n).toNat)) = true →
        Target.isPathChar (Char.ofNat (UInt8.ofNat n).toNat) = true := by decide +kernel
  have hdigit : ∀ n < 16, Target.isPathChar (Percent.hexDigit n) = true := by decide
  rw [escaped, Percent.encode, String.toList_ofList]
  intro c hc
  obtain ⟨b, -, hc⟩ := List.mem_flatMap.1 hc
  split_ifs at hc with hb
  · rw [List.mem_singleton.1 hc]
    have hlt := Host.toNat_lt_of_isPlain (Bool.and_eq_true_iff.1 hb).1
    have hchar := halone b.toNat hlt
    rw [UInt8.ofNat_toNat] at hchar
    exact hchar hb
  · rcases Percent.mem_escape hc with rfl | ⟨n, hn, rfl⟩
    · decide
    · exact hdigit n hn

theorem isTargetText_path {names : List String} (h : ∀ name ∈ names, IsSegment name) :
    IsTargetText (UrlPath.segments names).text.toList := by
  rw [UrlPath.text, String.toList_join]
  intro c hc
  obtain ⟨text, htext, hc⟩ := List.mem_flatMap.1 hc
  obtain ⟨name, hname, rfl⟩ := List.mem_map.1 htext
  rw [String.toList_append] at hc
  rcases List.mem_append.1 hc with hc | hc
  · rw [List.mem_singleton.1 hc]
    decide
  · exact isTargetText_segment (h name hname) c hc

theorem isTail_path (names : List String) : IsTail (UrlPath.segments names).text.toList := by
  cases names with
  | nil => exact .nil
  | cons name names =>
    rw [UrlPath.text, String.toList_join, List.map_cons, List.flatMap_cons, String.toList_append]
    exact .slash _

variable {s : String} {u : Url}

/-- An address of the web has an authority and a path of written segments. -/
theorem exists_parts_of_parse (h : parse s = .ok u) (hu : u.IsPlainWeb) :
    ∃ a names, u.authority = some a ∧ u.path = .segments names ∧
      ∀ name ∈ names, IsSegment name := by
  obtain ⟨rest, -, -, h⟩ := (parse_eq_ok_iff hu).1 h
  rw [withAuthority] at h
  obtain ⟨⟨a, left⟩, -, h⟩ := bind_eq_ok.1 h
  obtain ⟨names, hpath, hnames⟩ := exists_pathOf u.scheme
    (left ++ (rest.dropWhile (isSlash true)).dropWhile fun c => !isSlash (isSpecial u.scheme) c)
  exact ⟨a, names, by rw [← Except.ok.inj h], by rw [← Except.ok.inj h, ← hpath], hnames⟩

/-- How an address of the web is written. -/
theorem toList_text_of_web (hu : u.IsPlainWeb) {a : Authority} (ha : u.authority = some a) :
    u.text.toList =
      u.scheme.toList ++ ':' :: '/' :: '/' :: (a.text.toList ++ u.path.text.toList) := by
  have hguard : u.pathGuard = "" := by rw [pathGuard, ha]
  rw [text, ha, hu.query, hu.fragment, hguard]
  simp

/-- **Which addresses of the web can be written as targets**: those whose authority can stand there,
if they are not too long. -/
theorem isOk_target_iff (h : parse s = .ok u) (hu : u.IsPlainWeb) {a : Authority}
    (ha : u.authority = some a) :
    (Target.parse u.text).isOk = true ↔
      u.text.utf8ByteSize ≤ Target.maxLength ∧ (Target.ofServer a.text.toList).isOk = true := by
  obtain ⟨_, names, ha', hpath, hnames⟩ := exists_parts_of_parse h hu
  have hcut := isCut_of_parse h
  have hserver := Target.isOk_ofServer_append (hcut.authority a ha) (isTail_path names)
    (isUnmarked_path_text fun name hname => isUnmarked_segment (hnames name hname))
    (isTargetText_path hnames)
  rw [Target.parse_of_web hu.scheme (toList_text_of_web hu ha), hpath, ← hserver, ← not_lt]
  split_ifs with hlength
  · exact iff_of_false Bool.false_ne_true fun hshort => hshort.1 hlength
  · exact (and_iff_right hlength).symm

/-- **An address beneath a base that can be written as a target can be written so too, unless it is
too long.** -/
theorem isOk_target_atPath_iff {base : Url} {text : String} {names : List String}
    (hbase : IsBase text base) (hok : (Target.parse base.text).isOk = true)
    (h : parse s = .ok (base.atPath names)) :
    (Target.parse (base.atPath names).text).isOk = true ↔
      (base.atPath names).text.utf8ByteSize ≤ Target.maxLength := by
  obtain ⟨a, -, ha, -, -⟩ := exists_parts_of_parse hbase.read hbase.web
  have hweb : (base.atPath names).IsPlainWeb :=
    ⟨hbase.web.scheme, hbase.web.query, hbase.web.fragment⟩
  have hserver := ((isOk_target_iff hbase.read hbase.web ha).1 hok).2
  rw [isOk_target_iff h hweb ha]
  exact and_iff_left hserver

/-- A path with one more segment behind it. -/
theorem text_concat (names : List String) (name : String) :
    (UrlPath.segments (names ++ [name])).text = (UrlPath.segments names).text ++ "/" ++ name := by
  refine String.toList_injective ?_
  simp [UrlPath.text, String.toList_join]

/-- An address is as long as its last segment at least. -/
theorem utf8ByteSize_le_text {names : List String} {name : String}
    (h : u.path = .segments (names ++ [name])) : name.utf8ByteSize ≤ u.text.utf8ByteSize := by
  rw [text, h, text_concat]
  simp only [String.utf8ByteSize_append]
  omega

/-- Whatever path is put behind the text of a base is read as one beneath the base. -/
theorem exists_atPath {cs rest : List Char} {n : ℕ} {base : Url}
    (h : IsBase (String.ofList (cs ++ List.replicate n '/')) base)
    (hrest : ∀ c ∈ rest, IsPathChar c) :
    ∃ names, parse (String.ofList (cs ++ '/' :: rest)) = .ok (base.atPath names) := by
  obtain ⟨front, -, -, hbehind⟩ := exists_front_of_isBase h
  exact ⟨_, hbehind rest _ _ hrest
    (List.dropLast_append_getLast (List.splitOnP_ne_nil _ rest)).symm⟩

end Url
end AlertLine
