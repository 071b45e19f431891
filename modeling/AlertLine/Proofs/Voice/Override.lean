import AlertLine.Proofs.Url.Query
import AlertLine.Proofs.Voice.Context

/-!
# A context put on an address

Pairs that are added to an address stand behind those that its query has, whatever that query is,
and nothing else of the address changes (`Url.exists_query_of_withPairs`). As the last value under a
name holds, a context that is put on an address overrides what the address told, and what the
context does not tell stays as it was (`CallContext.override_applyTo`).
-/

namespace AlertLine

/-! ## Pairs behind a query -/

namespace Url

/-- The pairs that an address has in its query; it has none without a query. -/
def pairs (u : Url) : List Form.Pair := Form.parseQuery (u.query.getD "")

/-- **Pairs are added behind those that are there**, and only the query changes. -/
theorem exists_query_of_withPairs (u : Url) (ps : List Form.Pair) :
    ∃ query, u.withPairs ps = { u with query := some query } ∧
      Form.parseQuery query = u.pairs ++ ps := by
  have hnone : Form.parseQuery "" = [] := by decide
  have hamp : Utf8.encode "&" = [0x26] := by decide
  rw [withPairs, pairs]
  split
  case _ hquery =>
    refine ⟨_, rfl, ?_⟩
    rw [hquery, Option.getD_none, hnone, List.nil_append, Form.parseQuery_encode]
  case _ hquery =>
    refine ⟨_, rfl, ?_⟩
    rw [hquery, Option.getD_some, hnone, List.nil_append, Form.parseQuery_encode]
  case _ query _ hquery =>
    refine ⟨_, rfl, ?_⟩
    -- what the query ends in, a dangling escape too, ends at the ampersand
    rw [hquery, Option.getD_some, Form.parseQuery, Utf8.encode_append, Utf8.encode_append, hamp,
      List.append_assoc, List.singleton_append, Form.parse_append_amp]
    exact congrArg (_ ++ ·) (Form.parseQuery_encode ps)

end Url

/-! ## Contexts -/

namespace CallContext

/-- **A context that is put on an address overrides what the address tells.** The address has a
query then; scheme, authority, path and fragment are as they were. The pairs of the query are those
of the address with those of the context behind them. They are read as the context that is put on,
over the one that the address told before. In an address that was read from a text, the query is
found where it is written. -/
theorem override_applyTo (c : CallContext) (base : Url) :
    ∃ query, c.applyTo base = { base with query := some query } ∧
      Form.parseQuery query = base.pairs ++ c.pairs ∧
      ofQuery query = c.laidOver (ofQuery (base.query.getD "")) ∧
      ∀ text, Url.parse text = .ok base → Url.queryText (c.applyTo base).text = some query := by
  obtain ⟨query, hurl, hpairs⟩ := base.exists_query_of_withPairs c.pairs
  refine ⟨query, hurl, hpairs, ?_, fun text htext => ?_⟩
  · rw [ofQuery, hpairs, ofPairs_append_pairs]
    rfl
  · have hcut : (c.applyTo base).IsCut := Url.isCut_withPairs (Url.isCut_of_parse htext) c.pairs
    rw [Url.queryText_text hcut, applyTo, hurl]

/-- A base address that tells an alert and a code, each twice, and ends in half an escape. -/
def toldBase : Url where
  scheme := "https"
  authority := some ⟨"", none, "calls.example.org", none⟩
  path := .segments ["line"]
  query := some "type=alert&alertID=6&code=0&alertID=7&code=%2"
  fragment := some "top"

/-- A code is put on in place of the one that is there; the alert stays. -/
theorem override_applyTo_toldBase :
    Url.parse "https://calls.example.org/line?type=alert&alertID=6&code=0&alertID=7&code=%2#top" =
        .ok toldBase ∧
      ∃ query, Url.queryText (applyTo ⟨.verification, none, some " 12 é "⟩ toldBase).text =
          some query ∧
        ofQuery query = ⟨.verification, some 7, some "12 é"⟩ := by
  have hparse : Url.parse
      "https://calls.example.org/line?type=alert&alertID=6&code=0&alertID=7&code=%2#top" =
        .ok toldBase := by decide +kernel
  have htold : ofQuery "type=alert&alertID=6&code=0&alertID=7&code=%2" =
      ⟨.alert, some 7, some "%2"⟩ := by decide +kernel
  obtain ⟨query, -, -, hcontext, hwritten⟩ :=
    override_applyTo ⟨.verification, none, some " 12 é "⟩ toldBase
  refine ⟨hparse, query, hwritten _ hparse, hcontext.trans ?_⟩
  rw [toldBase, Option.getD_some, htold]
  decide +kernel

end CallContext
end AlertLine
