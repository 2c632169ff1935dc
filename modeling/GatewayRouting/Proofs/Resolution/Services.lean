import GatewayRouting.Proofs.Downstream.Parts
import GatewayRouting.Proofs.Route.Services
import GatewayRouting.Resolution

/-!
Routes to services that are looked up: what is sent on of a path, and that the route that takes the name from
the path does the same as one that is declared for this name.
-/

set_option autoImplicit false

namespace GatewayRouting

open UpstreamTemplate (Continues)

theorem captured?_everything (rest : List Char) :
    captured? [⟨"everything", String.ofList rest.tail⟩] "everything".toList = some rest.tail :=
  (captured?_cons_of_same rfl).trans (congrArg some String.toList_ofList)

/-- The slash goes with an empty value. -/
theorem substitute_service {captures : List Capture} {value : List Char}
    (found : captured? captures "everything".toList = some value) :
    substitute servicePathTemplate.toList captures = if value = [] then [] else '/' :: value := by
  have spans : Span.ofText servicePathTemplate.toList = [.text ['/'], .name "everything".toList] := by
    decide
  rw [substitute, spans, Span.fill]
  split
  · rename_i nothing
    rw [nothing] at found
    exact Span.fill_name_of_taken found rfl
  · rename_i something
    rw [Span.fill_name_of_kept found (Or.inl something), Span.fill]
    rfl

/-- Below a service the whole path is sent on, and the slash where nothing is left. -/
theorem pathFrom_service {captures : List Capture} {front rest : List Char} {path : String}
    (found : captured? captures "everything".toList = some rest.tail) (continues : Continues rest)
    (text : path.toList = front ++ rest) :
    DownstreamUrl.pathFrom servicePathTemplate.toList captures path = if rest = [] then ['/'] else rest := by
  unfold DownstreamUrl.pathFrom
  dsimp only
  rw [substitute_service found]
  rcases continues.separated with rfl | first
  · rfl
  · obtain ⟨value, rfl⟩ := List.head?_eq_some_iff.mp first
    rw [List.tail_cons, if_neg (List.cons_ne_nil _ _)]
    by_cases nothing : value = []
    · subst nothing
      rfl
    · -- A slash at the end is the request's own.
      have ends : path.toList.getLast? = ('/' :: value).getLast? := by
        rw [text, List.getLast?_append_of_ne_nil front (List.cons_ne_nil _ _)]
      rw [if_neg nothing, List.isEmpty_cons, if_neg Bool.false_ne_true, ends, Bool.and_assoc, bne,
        Bool.and_not_self, Bool.and_false, if_neg Bool.false_ne_true]

/-- The address below a service: what is left of the path, or a slash, and the query as it came. -/
def DownstreamUrl.below (rest : List Char) (query : Option String) : DownstreamUrl where
  path := String.ofList (if rest = [] then ['/'] else rest)
  query := joined ((Query.parameters (query.getD "")).map Parameter.toText)

theorem build_service {t : UpstreamTemplate} (noQuery : t.query = none) {captures : List Capture}
    {front rest : List Char} {path : String} {query : Option String}
    (found : captured? captures "everything".toList = some rest.tail) (continues : Continues rest)
    (text : path.toList = front ++ rest) :
    DownstreamUrl.build servicePathTemplate t captures path query = .below rest query := by
  have parts : UpstreamTemplate.splitQuery servicePathTemplate = (servicePathTemplate, none) := by decide
  change DownstreamUrl.mk (DownstreamUrl.build servicePathTemplate t captures path query).path
    (DownstreamUrl.build servicePathTemplate t captures path query).query = _
  rw [DownstreamUrl.path_build, DownstreamUrl.query_build, parts, noQuery,
    pathFrom_service found continues text]
  rfl

/-- A route that only looks at the path captures what its template does. -/
theorem Upstream.captures_of_template {t : UpstreamTemplate} (noQuery : t.query = none)
    (request : Request) : ({ template := t } : Upstream).captures request = t.capturePath request.path := by
  have target : t.captures request.path request.query = t.capturePath request.path := by
    rw [UpstreamTemplate.captures, UpstreamTemplate.captureQuery, noQuery]
    cases t.capturePath request.path <;> simp
  rw [captures, target]
  cases captured : t.capturePath request.path <;>
    simp [allowsMethod, allowsHost, captureHeaders]

namespace DynamicSection

/-- A service whose qualified name fills a path segment and can be taken apart again. -/
structure FillsSegment (s : DynamicSection) (ns : String) : Prop where
  qualifier : s.serviceNamespace = some ns
  filled : ns ≠ "" ∧ s.serviceName ≠ ""
  unpointed : '.' ∉ ns.toList
  unslashed : '/' ∉ ns.toList ∧ '/' ∉ s.serviceName.toList

variable {s : DynamicSection} {ns : String}

/-- The service is reached below its path in any case, and what stands there is captured. -/
theorem captures_route_eq_some_iff {global : GlobalSection} {request : Request} {found : List Capture} :
    (s.route global).upstream.captures request = some found ↔
      ∃ front rest, request.path.toList = front ++ rest ∧ Text.SameText false s.mount front ∧
        Continues rest ∧ found = [⟨"everything", String.ofList rest.tail⟩] := by
  rw [route, Upstream.captures_of_template rfl]
  exact UpstreamTemplate.capturePath_below_eq_some_iff (List.cons_ne_nil _ _)

theorem captures_route_of_mount {global : GlobalSection} {request : Request} {rest : List Char}
    {found : List Capture} (text : request.path.toList = s.mount ++ rest)
    (separated : rest = [] ∨ rest.head? = some '/') :
    (s.route global).upstream.captures request = some found ↔
      '\n' ∉ rest ∧ found = [⟨"everything", String.ofList rest.tail⟩] := by
  rw [captures_route_eq_some_iff, text]
  constructor
  · rintro ⟨front, after, whole, same, continues, rfl⟩
    obtain ⟨rfl, rfl⟩ := List.append_inj whole same.length_eq
    exact ⟨continues.oneLine, rfl⟩
  · rintro ⟨oneLine, rfl⟩
    exact ⟨s.mount, rest, rfl, .refl _, ⟨separated, oneLine⟩, rfl⟩

theorem FillsSegment.qualified (fills : s.FillsSegment ns) :
    IdentityKey.qualified s.serviceNamespace s.serviceName = ns ++ "." ++ s.serviceName := by
  have kept : s.serviceNamespace.filter (· ≠ "") = some ns := by
    rw [fills.qualifier, Option.filter_some, if_pos (by simpa using fills.filled.1)]
  rw [IdentityKey.qualified, kept]

/-- The route that takes the name from the path captures the qualified name. -/
theorem FillsSegment.captures_catchAll (fills : s.FillsSegment ns) {global : GlobalSection}
    {request : Request} {rest : List Char} {found : List Capture}
    (text : request.path.toList = s.mount ++ rest) (separated : rest = [] ∨ rest.head? = some '/') :
    (CatchAll.route global).upstream.captures request = some found ↔
      '\n' ∉ rest ∧
        found = [⟨"serviceName", ns ++ "." ++ s.serviceName⟩, ⟨"everything", String.ofList rest.tail⟩] := by
  have segment : (ns ++ "." ++ s.serviceName).toList ≠ [] := by simp [fills.filled.1]
  have absent : '/' ∉ (ns ++ "." ++ s.serviceName).toList := by
    simp [fills.unslashed.1, fills.unslashed.2]
  have whole : request.path.toList = '/' :: (ns ++ "." ++ s.serviceName).toList ++ rest := by
    rw [text, mount, fills.qualified]
  rw [CatchAll.route, Upstream.captures_of_template rfl, CatchAll.template,
    UpstreamTemplate.capturePath_firstSegment_eq_some_iff segment absent separated whole,
    String.ofList_toList]

/-- The name is cut from its namespace again at the first point. -/
theorem FillsSegment.splitService_qualified (fills : s.FillsSegment ns) (scheme : String) :
    Resolved.splitService scheme none (ns ++ "." ++ s.serviceName).toList =
      ⟨some ns, s.serviceName, scheme⟩ := by
  have whole : (ns ++ "." ++ s.serviceName).toList = ns.toList ++ '.' :: s.serviceName.toList := by
    simp
  have bothFilled : (ns.toList.isEmpty || s.serviceName.toList.isEmpty) = false := by
    simp [fills.filled.1, fills.filled.2]
  unfold Resolved.splitService
  rw [whole, Text.splitOnce_append_cons fills.unpointed]
  dsimp only
  rw [bothFilled, if_neg Bool.false_ne_true, String.ofList_toList, String.ofList_toList]

/-- Nothing is put into a name without braces. -/
theorem Plain.service?_route (plain : s.Plain) (global : GlobalSection) (captures : List Capture) :
    Resolved.service? ⟨(s.route global).toCandidate, captures⟩ =
      some (Resolved.splitService (serviceScheme s.downstreamScheme global) s.serviceNamespace
        s.serviceName.toList) := by
  have kept : substitute s.serviceName.toList captures = s.serviceName.toList := by
    by_cases nothing : s.serviceName.toList = []
    · rw [nothing]
      rfl
    · rw [substitute, Span.ofText_of_braceFree nothing plain.name.braceFree]
      rfl
  rw [Resolved.service?, route, RouteTo.toCandidate]
  dsimp only
  rw [kept]

end DynamicSection

/-- The name is what was captured for it. -/
theorem CatchAll.service?_route {global : GlobalSection} {captures : List Capture} {name : List Char}
    (captured : captured? captures "serviceName".toList = some name) :
    Resolved.service? ⟨(route global).toCandidate, captures⟩ =
      some (Resolved.splitService (serviceScheme none global) (serviceNamespace global) name) := by
  have spans : Span.ofText serviceName.toList = [.name "serviceName".toList] := by decide
  have filled : substitute serviceName.toList captures = name := by
    rw [substitute, spans, Span.fill_name_of_kept captured (Or.inr (by decide)), Span.fill,
      List.nil_append]
  rw [Resolved.service?, route, RouteTo.toCandidate]
  dsimp only
  rw [filled]

namespace DynamicSection

variable {s : DynamicSection} {ns : String}

/-- The two routes agree on every request for the path of the service. -/
theorem FillsSegment.agree (fills : s.FillsSegment ns) (plain : s.Plain) {global : GlobalSection}
    (unqualified : CatchAll.serviceNamespace global = none) {request : Request} {rest : List Char}
    {own found : List Capture} (text : request.path.toList = s.mount ++ rest)
    (separated : rest = [] ∨ rest.head? = some '/')
    (ownMatched : (s.route global).upstream.captures request = some own)
    (matched : (CatchAll.route global).upstream.captures request = some found) :
    Resolved.url ⟨(s.route global).toCandidate, own⟩ request.path request.query =
        Resolved.url ⟨(CatchAll.route global).toCandidate, found⟩ request.path request.query ∧
      (s.downstreamScheme = none →
        Resolved.service? ⟨(s.route global).toCandidate, own⟩ =
          Resolved.service? ⟨(CatchAll.route global).toCandidate, found⟩) := by
  obtain ⟨oneLine, rfl⟩ := (captures_route_of_mount text separated).mp ownMatched
  obtain ⟨_, rfl⟩ := (fills.captures_catchAll text separated).mp matched
  have continues : Continues rest := ⟨separated, oneLine⟩
  have name : captured? [⟨"serviceName", ns ++ "." ++ s.serviceName⟩,
      ⟨"everything", String.ofList rest.tail⟩] "serviceName".toList =
        some (ns ++ "." ++ s.serviceName).toList := captured?_cons_of_same rfl
  have apart : Text.lowerAscii "serviceName" ≠ Text.lowerAscii "everything" := by decide
  have behind : captured? [⟨"serviceName", ns ++ "." ++ s.serviceName⟩,
      ⟨"everything", String.ofList rest.tail⟩] "everything".toList = some rest.tail := by
    rw [captured?_cons_of_other (c := ⟨"serviceName", ns ++ "." ++ s.serviceName⟩) apart]
    exact captured?_everything rest
  constructor
  · have ownUrl : Resolved.url ⟨(s.route global).toCandidate, [⟨"everything", String.ofList rest.tail⟩]⟩
        request.path request.query = .below rest request.query :=
      build_service rfl (captured?_everything rest) continues text
    rw [ownUrl]
    exact (build_service rfl behind continues text).symm
  · intro schemeless
    rw [plain.service?_route, CatchAll.service?_route name, schemeless, unqualified,
      fills.splitService_qualified, fills.qualifier]
    simp [Resolved.splitService]

/-- A route to a declared service sends on what stands below the service's path. Under a namespace whose
qualified name fills a segment, the route that takes the name from the path does the same with the same
requests, and looks up the same service unless the declared one has a scheme of its own. -/
theorem sends_rest_and_agrees_with_catchAll (plain : s.Plain) (global : GlobalSection) :
    ∃ r, (s.assemble global).result = .ok r ∧
      (∀ request found, r.upstream.captures request = some found →
        ∃ front rest, request.path.toList = front ++ rest ∧ Text.SameText false s.mount front ∧
          (Resolved.url ⟨r.toCandidate, found⟩ request.path request.query).path =
            String.ofList (if rest = [] then ['/'] else rest)) ∧
      ∀ ns, s.FillsSegment ns → CatchAll.serviceNamespace global = none →
        ∃ c, (CatchAll.assemble global).result = .ok c ∧
          ∀ request rest, request.path.toList = s.mount ++ rest →
            rest = [] ∨ rest.head? = some '/' →
            ((r.upstream.captures request).isSome = true ↔ '\n' ∉ rest) ∧
            ((c.upstream.captures request).isSome = true ↔ '\n' ∉ rest) ∧
            ∀ own found, r.upstream.captures request = some own →
              c.upstream.captures request = some found →
              Resolved.url ⟨r.toCandidate, own⟩ request.path request.query =
                  Resolved.url ⟨c.toCandidate, found⟩ request.path request.query ∧
                (s.downstreamScheme = none →
                  Resolved.service? ⟨r.toCandidate, own⟩ = Resolved.service? ⟨c.toCandidate, found⟩) := by
  refine ⟨s.route global, plain.result_assemble global, ?_, ?_⟩
  · intro request found matched
    obtain ⟨front, rest, text, same, continues, rfl⟩ := captures_route_eq_some_iff.mp matched
    refine ⟨front, rest, text, same, ?_⟩
    exact congrArg DownstreamUrl.path (build_service rfl (captured?_everything rest) continues text)
  · intro ns fills unqualified
    refine ⟨CatchAll.route global, CatchAll.result_assemble global, ?_⟩
    intro request rest text separated
    refine ⟨?_, ?_, fun own found => fills.agree plain unqualified text separated⟩
    · simp [Option.isSome_iff_exists, captures_route_of_mount text separated]
    · simp [Option.isSome_iff_exists, fills.captures_catchAll text separated]

/-- Two slashes, a name in braces and the slash at the end are sent on as they came. -/
theorem sends_rest_of_braces :
    ∃ r c own found,
      (assemble { serviceName := "orders", serviceNamespace := some "shop" }
        { provider := some { type := "consul" } }).result = .ok r ∧
      (CatchAll.assemble { provider := some { type := "consul" } }).result = .ok c ∧
      r.upstream.captures ⟨⟨"GET"⟩, "/shop.orders//x\x7by\x7d/", some "q=1", none, []⟩ = some own ∧
      c.upstream.captures ⟨⟨"GET"⟩, "/shop.orders//x\x7by\x7d/", some "q=1", none, []⟩ = some found ∧
      (Resolved.url ⟨r.toCandidate, own⟩ "/shop.orders//x\x7by\x7d/" (some "q=1")).path =
        "//x\x7by\x7d/" ∧
      Resolved.url ⟨r.toCandidate, own⟩ "/shop.orders//x\x7by\x7d/" (some "q=1") =
        Resolved.url ⟨c.toCandidate, found⟩ "/shop.orders//x\x7by\x7d/" (some "q=1") ∧
      Resolved.service? ⟨r.toCandidate, own⟩ = Resolved.service? ⟨c.toCandidate, found⟩ := by
  have plain : Plain { serviceName := "orders", serviceNamespace := some "shop" } := by
    refine ⟨⟨⟨by decide, by decide⟩, by decide⟩, ?_⟩
    rintro ns ⟨⟩
    exact ⟨⟨by decide, by decide⟩, by decide⟩
  have fills : FillsSegment { serviceName := "orders", serviceNamespace := some "shop" } "shop" :=
    ⟨rfl, ⟨by decide, by decide⟩, by decide, by decide, by decide⟩
  obtain ⟨r, made, sent, agree⟩ := sends_rest_and_agrees_with_catchAll plain
    { provider := some { type := "consul" } }
  obtain ⟨c, madeToo, both⟩ := agree "shop" fills rfl
  have text : "/shop.orders//x\x7by\x7d/".toList = mount
      { serviceName := "orders", serviceNamespace := some "shop" } ++ "//x\x7by\x7d/".toList := by
    decide
  obtain ⟨ownMatched, matched, same⟩ :=
    both ⟨⟨"GET"⟩, "/shop.orders//x\x7by\x7d/", some "q=1", none, []⟩ _ text (Or.inr (by decide))
  obtain ⟨own, ownCaptured⟩ := Option.isSome_iff_exists.mp (ownMatched.mpr (by decide))
  obtain ⟨found, captured⟩ := Option.isSome_iff_exists.mp (matched.mpr (by decide))
  obtain ⟨sameUrl, sameService⟩ := same own found ownCaptured captured
  obtain ⟨front, rest, whole, spelled, path⟩ := sent _ own ownCaptured
  obtain ⟨_, rfl⟩ := List.append_inj (text.symm.trans whole) spelled.length_eq
  exact ⟨r, c, own, found, made, madeToo, ownCaptured, captured, path, sameUrl, sameService rfl⟩

end DynamicSection

end GatewayRouting
