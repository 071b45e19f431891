import AlertLine.Proofs.Provider.Operations
import AlertLine.Proofs.Url.Beneath

/-!
# Resources of the provider

A lookup names its number in the last segment of an address beneath the base address of the
provider, and a call names the connection there. What stands in that segment is read back as the
text that was put there (`Percent.textOfSegment_encodeSegment`), and no other part of the address
depends on it. One dot and two are the exception: they are written as they are, and as segments they
lead elsewhere (`Provider.named_in_own_segment`).
-/

namespace AlertLine

open Url (IsBase IsDots resourcePath segmentsTo)

namespace Settings

variable (s : Settings)

/-- The base address, up to the slashes at its end. -/
def baseFront : List Char := (dropSlashes s.apiBase.toList.reverse).reverse

theorem exists_apiBase_eq :
    ∃ n, s.apiBase = String.ofList (s.baseFront ++ List.replicate n '/') := by
  have hslashes : ∀ c ∈ (s.apiBase.toList.reverse.takeWhile (· == '/')).reverse, c = '/' :=
    fun c hc => by simpa using List.mem_takeWhile_imp (List.mem_reverse.1 hc)
  refine ⟨(s.apiBase.toList.reverse.takeWhile (· == '/')).reverse.length, ?_⟩
  rw [← List.eq_replicate_of_mem hslashes, baseFront, dropSlashes, ← List.reverse_append,
    List.takeWhile_append_dropWhile, List.reverse_reverse, String.ofList_toList]

theorem address_lookupRequest (number : String) :
    (s.lookupRequest number).address =
      String.ofList (s.baseFront ++ '/' :: resourcePath ["number_lookup"] (Text.trim number)) := by
  have hpath : ("number_lookup/" ++ Percent.encodeSegment (Text.trim number)).toList =
      resourcePath ["number_lookup"] (Text.trim number) := String.toList_append
  show s.apiUrl _ = _
  rw [apiUrl, hpath]
  rfl

theorem address_callRequest (destination callback : String) :
    (s.callRequest destination callback).address =
      String.ofList (s.baseFront ++ '/' :: resourcePath ["texml", "calls"] s.connectionId) := by
  have hpath : ("texml/calls/" ++ Percent.encodeSegment s.connectionId).toList =
      resourcePath ["texml", "calls"] s.connectionId := String.toList_append
  show s.apiUrl _ = _
  rw [apiUrl, hpath]
  rfl

variable {s}

/-- A base address of the web is no stand-in. -/
theorem isMock_of_isBase {base : Url} (h : IsBase s.apiBase base) : s.isMock = false := by
  by_contra hmock
  rw [Bool.not_eq_false, isMock, List.isPrefixOf_iff_prefix] at hmock
  obtain ⟨rest, hrest⟩ := hmock
  obtain ⟨body, hbody⟩ := Url.exists_splitScheme h.read
  have hends := h.ends
  rw [← hrest] at hends
  have hbase : s.apiBase = String.ofList ("mock://".toList ++ rest) := by
    rw [hrest, String.ofList_toList]
  rw [hbase, Url.cleaned_ofList hends] at hbody
  have hscheme : Url.splitScheme ((("mock://".toList ++ rest).dropWhile Url.isEdge).filter
      fun c => !Url.isLayout c) =
        some ("mock", "//".toList ++ rest.filter fun c => !Url.isLayout c) := rfl
  rw [hscheme, Option.some_inj, Prod.mk.injEq] at hbody
  rcases h.web.scheme with hweb | hweb <;> rw [hweb] at hbody <;> exact absurd hbody.1 (by decide)

end Settings

/-! ## Resources -/

/-- An address is read as that of a resource beneath a base: behind the front of its path stand
names, and one segment that stands for a text. -/
def IsResource (base : Url) (front names : List String) (value address : String) : Prop :=
  ∃ segment, Url.parse address = .ok (base.atPath (front ++ names ++ [segment])) ∧
    Percent.textOfSegment segment = value

section Named

variable {base : Url} {front names : List String} {value address : String}

theorem isResource_iff
    (h : Url.parse address = .ok (base.atPath (front ++ segmentsTo names value))) :
    IsResource base front names value address ↔ ¬ IsDots value := by
  constructor
  · rintro ⟨segment, hparse, rfl⟩ hdots
    obtain ⟨left, hleft⟩ := Url.segmentsTo_of_dots names hdots
    have hpath : front ++ left ++ [""] = front ++ names ++ [segment] := by
      rw [h, hleft] at hparse
      simpa [Url.atPath] using hparse
    have hempty : "" = segment := by simpa using congrArg List.getLast? hpath
    rw [← hempty, Percent.textOfSegment_empty] at hdots
    exact absurd hdots (by decide)
  · intro hdots
    refine ⟨Percent.encodeSegment value, ?_, Percent.textOfSegment_encodeSegment value⟩
    rw [h, Url.segmentsTo_of_not_dots hdots, List.append_assoc]

end Named

namespace Provider

variable {p : Provider} {s : Settings}

/-- **Numbers and connections are named in a segment of their own**, beneath the base address of the
provider, in the one request that is made, unless they are one dot or two. Then the address is that
of the names with nothing behind them, or without the last of them. No two numbers share an
address. -/
theorem named_in_own_segment {base : Url} (h : IsBase s.apiBase base) :
    ∃ front k, base.path = .segments (front ++ List.replicate k "") ∧
      (∀ number, Text.isBlankText number = false →
        (p.lookupCarrier s number).requests = s.made (s.lookupRequest number) ∧
        Url.parse (s.lookupRequest number).address =
          .ok (base.atPath (front ++ segmentsTo ["number_lookup"] (Text.trim number))) ∧
        (IsResource base front ["number_lookup"] (Text.trim number)
          (s.lookupRequest number).address ↔ ¬ IsDots (Text.trim number))) ∧
      (∀ number number', Text.isBlankText number = false → Text.isBlankText number' = false →
        Url.parse (s.lookupRequest number).address = Url.parse (s.lookupRequest number').address →
        Text.trim number = Text.trim number') ∧
      (Text.isBlankText s.connectionId = false → ∀ destination callback,
        (p.makeCall s destination callback).requests =
          (if Text.isBlankText s.fromNumber then []
            else s.made (s.callRequest destination callback)) ∧
        Url.parse (s.callRequest destination callback).address =
          .ok (base.atPath (front ++ segmentsTo ["texml", "calls"] s.connectionId)) ∧
        (IsResource base front ["texml", "calls"] s.connectionId
          (s.callRequest destination callback).address ↔ ¬ IsDots s.connectionId)) := by
  have hmock := Settings.isMock_of_isBase h
  obtain ⟨n, hbase⟩ := s.exists_apiBase_eq
  rw [hbase] at h
  obtain ⟨front, k, hpath, hbehind⟩ := Url.exists_front_of_resources h
  have hlookup (number : String) : Url.parse (s.lookupRequest number).address =
      .ok (base.atPath (front ++ segmentsTo ["number_lookup"] (Text.trim number))) := by
    rw [s.address_lookupRequest]
    exact hbehind _ _ (List.cons_ne_nil _ _) (by decide)
  have hcall (destination callback : String) :
      Url.parse (s.callRequest destination callback).address =
        .ok (base.atPath (front ++ segmentsTo ["texml", "calls"] s.connectionId)) := by
    rw [s.address_callRequest]
    exact hbehind _ _ (List.cons_ne_nil _ _) (by decide)
  refine ⟨front, k, hpath, ?_, ?_, ?_⟩
  · exact fun number hnumber =>
      ⟨requests_lookupCarrier hmock hnumber, hlookup number, isResource_iff (hlookup number)⟩
  · intro number number' hnumber hnumber' heq
    rw [hlookup, hlookup] at heq
    have hsame : segmentsTo ["number_lookup"] (Text.trim number) =
        segmentsTo ["number_lookup"] (Text.trim number') := by
      simpa [Url.atPath] using heq
    have htrim {number : String} (hnumber : Text.isBlankText number = false) :
        Text.trim number ≠ "" := by
      rw [← String.isEmpty_eq_false_iff, Text.isEmpty_trim, hnumber]
    exact Url.eq_of_segmentsTo_eq (List.cons_ne_nil _ _) (htrim hnumber) (htrim hnumber') hsame
  · exact fun hconnection destination callback =>
      ⟨requests_makeCall hmock hconnection, hcall .., isResource_iff (hcall ..)⟩

/-- The standard base address as it is read. -/
def standardBase : Url :=
  ⟨"https", some ⟨"", none, "api.telnyx.com", none⟩, .segments ["v2"], none, none⟩

/-- A number that is full of marks stays in its segment. -/
theorem named_in_own_segment_marks :
    IsBase textLine.apiBase standardBase ∧
      ∃ front k, standardBase.path = .segments (front ++ List.replicate k "") ∧
        IsResource standardBase front ["number_lookup"] "+1/../x?#%2e"
          (textLine.lookupRequest " +1/../x?#%2e ").address := by
  have hbase : IsBase textLine.apiBase standardBase :=
    ⟨by decide +kernel, ⟨.inr rfl, rfl, rfl⟩, by decide⟩
  obtain ⟨front, k, hpath, hlookup, -, -⟩ := named_in_own_segment (p := silent) hbase
  have hnumber : Text.isBlankText " +1/../x?#%2e " = false := by decide
  have htrim : Text.trim " +1/../x?#%2e " = "+1/../x?#%2e" := by decide
  obtain ⟨-, -, howned⟩ := hlookup _ hnumber
  rw [htrim] at howned
  exact ⟨hbase, front, k, hpath, howned.2 (by decide)⟩

/-- A number of two dots asks for the base address itself, and a connection of two dots for all
calls. A base address that ends in a blank is another one with something behind it. -/
theorem dots_lead_elsewhere :
    (silent.lookupCarrier textLine "..").requests.map HttpRequest.address =
        ["https://api.telnyx.com/v2/number_lookup/.."] ∧
      Url.parse "https://api.telnyx.com/v2/number_lookup/.." =
        .ok (standardBase.atPath ["v2", ""]) ∧
      Url.parse ({ textLine with connectionId := ".." }.callRequest "+15550000001" "").address =
        .ok (standardBase.atPath ["v2", "texml", ""]) ∧
      Url.parse "https://api.telnyx.com/v2 " = .ok standardBase ∧
      Url.parse ({ textLine with apiBase := "https://api.telnyx.com/v2 " }.lookupRequest
          "+15550000001").address =
        .ok (standardBase.atPath ["v2%20", "number_lookup", "%2B15550000001"]) := by
  refine ⟨?_, ?_, ?_, ?_, ?_⟩ <;> decide +kernel

end Provider
end AlertLine
