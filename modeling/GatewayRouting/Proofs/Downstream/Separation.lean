import GatewayRouting.Proofs.Downstream.Filling
import GatewayRouting.Proofs.Downstream.Parts
import GatewayRouting.Proofs.Route.Made
import GatewayRouting.Resolution

/-!
Whether path and query of a downstream address can be told apart. Values are put into the path as they were
sent, so a question mark in a query or header value that is used there ends the path early.
-/

set_option autoImplicit false

namespace GatewayRouting

theorem UpstreamTemplate.subset_of_capturePath {t : UpstreamTemplate} {path : String}
    {found : List Capture} (captured : t.capturePath path = some found) {c : Capture}
    (inside : c ∈ found) : c.value.toList ⊆ path.toList := by
  obtain ⟨values, known, rfl⟩ := Option.map_eq_some_iff.mp captured
  exact Pattern.subset_of_capture known _ (mem_of_mem_assigned inside)

theorem RouteSection.pathTemplate_of_assemble {s : RouteSection} {global : GlobalSection} {r : Route}
    (made : (s.assemble global).result = .ok r) :
    r.downstream.pathTemplate = s.downstreamPathTemplate := by
  obtain ⟨upstream, method, _, rfl⟩ := result_assemble_eq_ok.mp made
  rfl

/-- Captures of the path come before those of query and headers. -/
theorem Upstream.exists_capturePath {u : Upstream} {request : Request} {found : List Capture}
    (matched : u.captures request = some found) :
    ∃ ofPath others, u.template.capturePath request.path = some ofPath ∧ found = ofPath ++ others := by
  unfold captures at matched
  split at matched
  · obtain ⟨fromTemplate, known, later⟩ := Option.bind_eq_some_iff.mp matched
    obtain ⟨fromHeaders, _, made⟩ := Option.bind_eq_some_iff.mp later
    cases made
    obtain ⟨ofPath, ofQuery, onPath, _, rfl⟩ := UpstreamTemplate.captures_eq_some_iff.mp known
    exact ⟨ofPath, ofQuery ++ fromHeaders, onPath, List.append_assoc _ _ _⟩
  · cases matched

namespace DownstreamUrl

/-- A character that neither the template's path part nor the path values have comes from a query or header
value used in the path part. -/
theorem mem_path_build_iff {downstream : String} {t : UpstreamTemplate} {ofPath others : List Capture}
    {path : String} {query : Option String} {c : Char}
    (absent : c ∉ (UpstreamTemplate.splitQuery downstream).1.toList)
    (plain : ∀ value ∈ ofPath, c ∉ value.value.toList)
    (notSlash : c ≠ '/') (notOpening : c ≠ '\x7b') (notClosing : c ≠ '\x7d') :
    c ∈ (build downstream t (ofPath ++ others) path query).path.toList ↔
      ∃ name ∈ templateNames (UpstreamTemplate.splitQuery downstream).1.toList,
        captured? ofPath name = none ∧ ∃ value, captured? others name = some value ∧ c ∈ value := by
  rw [path_build, String.toList_ofList, mem_pathFrom_iff notSlash,
    mem_substitute_iff absent notSlash notOpening notClosing]
  apply exists_congr
  intro name
  apply and_congr_right
  intro _
  rw [captured?_append]
  cases known : captured? ofPath name with
  | none => simp
  | some value =>
    obtain ⟨capture, inside, rfl⟩ := exists_of_captured? known
    simp [plain capture inside]

end DownstreamUrl

namespace Resolved

/-- The address of a route for a request that it takes, whose path has no question mark, is told apart into
its path and its query exactly when the path has no question mark either: when no query or header value that
is used in the path part of the downstream template has one. -/
theorem splitOnce_url_iff {s : RouteSection} {global : GlobalSection} {r : Route} {request : Request}
    {found : List Capture} (made : (s.assemble global).result = .ok r)
    (matched : r.upstream.captures request = some found) (plain : '?' ∉ request.path.toList) :
    let url := (Resolved.mk r.toCandidate found).url request.path request.query
    ∃ ofPath others,
      r.upstream.template.capturePath request.path = some ofPath ∧ found = ofPath ++ others ∧
      (Text.splitOnce '?' url.pathAndQuery.toList =
          url.query.map (fun query => (url.path.toList, query.toList)) ↔ '?' ∉ url.path.toList) ∧
      ('?' ∉ url.path.toList ↔
        ∀ name ∈ templateNames (UpstreamTemplate.splitQuery s.downstreamPathTemplate).1.toList,
          captured? ofPath name = none →
          ∀ value, captured? others name = some value → '?' ∉ value) := by
  intro url
  obtain ⟨ofPath, others, onPath, rfl⟩ := Upstream.exists_capturePath matched
  refine ⟨ofPath, others, onPath, rfl, DownstreamUrl.splitOnce_pathAndQuery_iff url, ?_⟩
  have built : url = .build s.downstreamPathTemplate r.upstream.template (ofPath ++ others)
      request.path request.query := by
    rw [← RouteSection.pathTemplate_of_assemble made]
    rfl
  rw [built, DownstreamUrl.mem_path_build_iff
    (UpstreamTemplate.question_not_mem_splitQuery s.downstreamPathTemplate)
    (fun c inside found => plain (UpstreamTemplate.subset_of_capturePath onPath inside found))
    (by decide) (by decide) (by decide)]
  simp only [not_exists, not_and]

/-- A value of the query stands in the path; the one of a header stands in the query, where its question mark
does no harm. -/
theorem splitOnce_url_of_headerInQuery :
    ∃ r, (RouteSection.assemble
        { downstreamPathTemplate := "/s/\x7bq\x7d/\x7bid\x7d?trace=\x7btrace\x7d"
          upstreamPathTemplate := "/find/\x7bid\x7d?q=\x7bq\x7d"
          headerTemplates := .ofList [("X-Trace", "\x7bheader:trace\x7d")] } {}).result = .ok r ∧
      r.upstream.captures ⟨⟨"GET"⟩, "/find/7", some "q=a", none, [⟨"x-trace", "t?"⟩]⟩ =
        some [⟨"id", "7"⟩, ⟨"q", "a"⟩, ⟨"trace", "t?"⟩] ∧
      Text.splitOnce '?' ((Resolved.mk r.toCandidate [⟨"id", "7"⟩, ⟨"q", "a"⟩, ⟨"trace", "t?"⟩]).url
        "/find/7" (some "q=a")).pathAndQuery.toList = some ("/s/a/7".toList, "trace=t?".toList) := by
  have evaluated : (RouteSection.assemble
      { downstreamPathTemplate := "/s/\x7bq\x7d/\x7bid\x7d?trace=\x7btrace\x7d"
        upstreamPathTemplate := "/find/\x7bid\x7d?q=\x7bq\x7d"
        headerTemplates := .ofList [("X-Trace", "\x7bheader:trace\x7d")] } {}).result.map (fun r =>
      (r.upstream.captures ⟨⟨"GET"⟩, "/find/7", some "q=a", none, [⟨"x-trace", "t?"⟩]⟩,
        r.upstream.template.capturePath "/find/7",
        (Resolved.mk r.toCandidate [⟨"id", "7"⟩, ⟨"q", "a"⟩, ⟨"trace", "t?"⟩]).url "/find/7" (some "q=a"))) =
      .ok (some [⟨"id", "7"⟩, ⟨"q", "a"⟩, ⟨"trace", "t?"⟩], some [⟨"id", "7"⟩],
        ⟨"/s/a/7", some "trace=t?"⟩) := by
    decide +kernel
  obtain ⟨r, made, same⟩ := map_eq_ok.mp evaluated
  obtain ⟨matched, onPath, address⟩ : _ ∧ _ ∧ _ := by simpa only [Prod.mk.injEq] using same
  obtain ⟨ofPath, others, onPath', same, apart, plain⟩ := splitOnce_url_iff made matched (by decide)
  cases onPath.symm.trans onPath'
  cases (List.cons.inj same).2
  have noMark := plain.mpr (by decide +kernel)
  rw [address] at apart noMark
  refine ⟨r, made, matched, ?_⟩
  rw [address]
  exact apart.mpr noMark

/-- A question mark in a value of the query makes the rest of that value a parameter of the service. -/
theorem splitOnce_url_of_questionMark :
    ∃ r, (RouteSection.assemble
        { downstreamPathTemplate := "/s/\x7bq\x7d", upstreamPathTemplate := "/find?q=\x7bq\x7d" }
        {}).result = .ok r ∧
      r.upstream.captures ⟨⟨"GET"⟩, "/find", some "q=a?admin=1", none, []⟩ = some [⟨"q", "a?admin=1"⟩] ∧
      (Resolved.mk r.toCandidate [⟨"q", "a?admin=1"⟩]).url "/find" (some "q=a?admin=1") =
        ⟨"/s/a?admin=1", none⟩ ∧
      Text.splitOnce '?' (DownstreamUrl.mk "/s/a?admin=1" none).pathAndQuery.toList =
        some ("/s/a".toList, "admin=1".toList) := by
  have evaluated : (RouteSection.assemble
      { downstreamPathTemplate := "/s/\x7bq\x7d", upstreamPathTemplate := "/find?q=\x7bq\x7d" }
      {}).result.map (fun r =>
      (r.upstream.captures ⟨⟨"GET"⟩, "/find", some "q=a?admin=1", none, []⟩,
        (Resolved.mk r.toCandidate [⟨"q", "a?admin=1"⟩]).url "/find" (some "q=a?admin=1"))) =
      .ok (some [⟨"q", "a?admin=1"⟩], ⟨"/s/a?admin=1", none⟩) := by
    decide +kernel
  obtain ⟨r, made, same⟩ := map_eq_ok.mp evaluated
  obtain ⟨matched, address⟩ := Prod.mk.inj same
  exact ⟨r, made, matched, address, by decide +kernel⟩

end Resolved

end GatewayRouting
