import GatewayRouting.Proofs.Downstream.Forwarding

/-!
Queries that neither template looks at. Every segment of the request is sent on in its place; only an equals
sign with nothing behind it is lost where it is the first of its segment.
-/

set_option autoImplicit false

namespace GatewayRouting

namespace Query

/-- The first equals sign of the segment is its last character: a key is given, and an empty value. -/
def EndsAtEquals (segment : List Char) : Prop := segment.getLast? = some '=' ∧ '=' ∉ segment.dropLast

instance (segment : List Char) : Decidable (EndsAtEquals segment) := by
  unfold EndsAtEquals
  infer_instance

theorem endsAtEquals_append_iff {key value : List Char} (absent : '=' ∉ key) :
    EndsAtEquals (key ++ '=' :: value) ↔ value = [] := by
  constructor
  · rintro ⟨_, early⟩
    by_contra filled
    rw [List.dropLast_append_of_ne_nil (List.cons_ne_nil _ _), List.dropLast_cons_of_ne_nil filled] at early
    simp at early
  · rintro rfl
    exact ⟨List.getLast?_concat, by rwa [List.dropLast_concat]⟩

/-- A segment as it is sent on. -/
def resent (segment : List Char) : List Char :=
  if EndsAtEquals segment then segment.dropLast else segment

/-- A segment that is read as a parameter and written again. -/
theorem toText_ofText (segment : List Char) : (Parameter.ofText segment).toText = resent segment := by
  cases cut : Text.splitOnce '=' segment with
  | none =>
    have plain : ¬EndsAtEquals segment := fun ends =>
      Text.splitOnce_eq_none_iff.mp cut (List.mem_of_getLast? ends.1)
    rw [resent, if_neg plain, Parameter.ofText, cut, Parameter.toText, if_pos rfl, String.toList_ofList]
  | some parts =>
    obtain ⟨key, value⟩ := parts
    obtain ⟨rfl, absent⟩ := Text.splitOnce_eq_some cut
    rw [Parameter.ofText_of_named absent, Parameter.toText, resent]
    simp only [endsAtEquals_append_iff absent, String.ofList_eq_empty_iff, String.toList_ofList]
    by_cases nothing : value = []
    · rw [if_pos nothing, if_pos nothing, nothing, List.dropLast_concat]
    · rw [if_neg nothing, if_neg nothing]

theorem resent_subset (segment : List Char) : resent segment ⊆ segment := by
  unfold resent
  split
  · exact List.dropLast_subset segment
  · exact List.Subset.refl segment

theorem resent_eq_self_iff {segment : List Char} : resent segment = segment ↔ ¬EndsAtEquals segment := by
  unfold resent
  split
  · rename_i ends
    refine iff_of_false (fun same => ?_) (not_not.mpr ends)
    have filled : segment ≠ [] := List.ne_nil_of_mem (List.mem_of_getLast? ends.1)
    have shorter := congrArg List.length same
    have some := List.length_pos_iff.mpr filled
    rw [List.length_dropLast] at shorter
    omega
  · rename_i plain
    exact iff_of_true rfl plain

/-- What is sent on of some segments is these segments only if each of them is sent on as it stands. -/
theorem filter_resent_eq_self_iff {query : List Char} :
    ((segments query).map resent).filter (!·.isEmpty) = segments query ↔
      ∀ segment ∈ segments query, ¬EndsAtEquals segment := by
  simp only [← resent_eq_self_iff]
  constructor
  · intro same
    have sizes : (((segments query).map resent).filter (!·.isEmpty)).length =
        ((segments query).map resent).length := by rw [same, List.length_map]
    rw [List.filter_eq_self.mpr (List.length_filter_eq_length_iff.mp sizes)] at same
    exact List.map_inj_left.mp (same.trans (List.map_id _).symm)
  · intro kept
    rw [List.map_congr_left kept, List.map_id', filter_segments]

theorem parameters_of_unmarked {query : String} (unmarked : query.toList.head? ≠ some '?') :
    (parameters query).map Parameter.toText = (segments query.toList).map resent := by
  rw [parameters, dropWhile_eq_self_iff.mpr unmarked, List.map_map]
  exact List.map_congr_left fun segment _ => toText_ofText segment

end Query

namespace DownstreamUrl

variable {downstream : String} {t : UpstreamTemplate} {query : Option String}

theorem joined_eq_none_iff {segments : List (List Char)} : joined segments = none ↔ segments = [] := by
  unfold joined
  split
  · rename_i empty
    simpa using empty
  · rename_i filled
    simpa using filled

theorem query_build_of_noQuery (noQuery : t.query = none) (noPart : '?' ∉ downstream.toList)
    (unmarked : (query.getD "").toList.head? ≠ some '?') (captures : List Capture) (path : String) :
    (build downstream t captures path query).query =
      joined ((Query.segments (query.getD "").toList).map Query.resent) := by
  rw [query_build, UpstreamTemplate.splitQuery, Text.splitOnce_eq_none_iff.mpr noPart, noQuery,
    ← Query.parameters_of_unmarked unmarked]
  rfl

/-- Where neither template has a query part, the segments of the request are the segments that are sent on
exactly when none of them is a key with an empty value. Such a one is sent on as the key alone. A query is
sent on when the request has a segment, and only then. -/
theorem segments_query_build_eq_iff (noQuery : t.query = none) (noPart : '?' ∉ downstream.toList)
    (unmarked : (query.getD "").toList.head? ≠ some '?') (captures : List Capture) (path : String) :
    let own := Query.segments (query.getD "").toList
    let sent := (build downstream t captures path query).query
    sent = joined (own.map Query.resent) ∧ (sent = none ↔ own = []) ∧
      (Query.segments (sent.getD "").toList = own ↔
        ∀ segment ∈ own, ¬Query.EndsAtEquals segment) := by
  intro own sent
  have whole : sent = joined (own.map Query.resent) :=
    query_build_of_noQuery noQuery noPart unmarked captures path
  have separate : ∀ text ∈ own.map Query.resent, '&' ∉ text := by
    rw [List.forall_mem_map]
    intro segment inside found
    exact Query.absent_of_mem_segments inside (Query.resent_subset segment found)
  refine ⟨whole, ?_, ?_⟩
  · rw [whole, joined_eq_none_iff, List.map_eq_nil_iff]
  · rw [whole, segments_joined separate]
    exact Query.filter_resent_eq_self_iff

/-- A segment without equals sign, an empty key and several equals signs all come through. -/
theorem segments_query_build_of_plainSegments :
    ∃ t, UpstreamTemplate.compile "/products/\x7bid\x7d" false = .ok t ∧
      Query.segments ((build "/api/\x7bid\x7d" t [⟨"id", "1"⟩] "/products/1"
        (some "flag&=v&&a=b==&flag")).query.getD "").toList =
          ["flag".toList, "=v".toList, "a=b==".toList, "flag".toList] := by
  have evaluated : (UpstreamTemplate.compile "/products/\x7bid\x7d" false).map (·.query) = .ok none := by
    decide +kernel
  obtain ⟨t, accepted, noQuery⟩ := map_eq_ok.mp evaluated
  have noPart : '?' ∉ "/api/\x7bid\x7d".toList := by decide
  have unmarked : ((some "flag&=v&&a=b==&flag").getD "").toList.head? ≠ some '?' := by decide
  obtain ⟨_, _, unchanged⟩ :=
    segments_query_build_eq_iff noQuery noPart unmarked [⟨"id", "1"⟩] "/products/1"
  exact ⟨t, accepted, (unchanged.mpr (by decide)).trans (by decide)⟩

/-- An empty value loses its equals sign, and a bare equals sign is sent on as nothing. -/
theorem query_build_of_emptyValue :
    ∃ t, UpstreamTemplate.compile "/a" false = .ok t ∧ t.query = none ∧
      Query.segments "a=&b=1".toList = ["a=".toList, "b=1".toList] ∧
      build "/a" t [] "/a" (some "a=&b=1") = ⟨"/a", some "a&b=1"⟩ ∧
      build "/a" t [] "/a" (some "=") = ⟨"/a", some ""⟩ := by
  have evaluated : (UpstreamTemplate.compile "/a" false).map (fun t =>
      (t.query, build "/a" t [] "/a" (some "a=&b=1"), build "/a" t [] "/a" (some "="))) =
      .ok (none, ⟨"/a", some "a&b=1"⟩, ⟨"/a", some ""⟩) := by
    decide +kernel
  obtain ⟨t, accepted, same⟩ := map_eq_ok.mp evaluated
  obtain ⟨noQuery, emptied, bare⟩ : _ ∧ _ ∧ _ := by simpa only [Prod.mk.injEq] using same
  exact ⟨t, accepted, noQuery, by decide, emptied, bare⟩

end DownstreamUrl

end GatewayRouting
