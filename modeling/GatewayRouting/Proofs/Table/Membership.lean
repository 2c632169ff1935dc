import GatewayRouting.Proofs.Table.Composition

/-!
No declared route gets lost in a table and none is in it twice: a request is led to it directly, or through
the aggregates that list its key.
-/

set_option autoImplicit false

namespace GatewayRouting.RouteTable

/-- The routes that requests are led to directly are those whose key no aggregate lists. -/
theorem free_eq (aggregates : List AggregateSection) (routes : List Route) :
    routes.filter (!isAbsorbed aggregates ·) =
      routes.filter fun r => ∀ a ∈ aggregates, ∀ key ∈ a.routeKeys, r.key ≠ some key := by
  apply List.filter_congr
  intro r _
  rw [Bool.eq_iff_iff, Bool.not_eq_true', decide_eq_true_eq, ← Bool.not_eq_true, isAbsorbed_iff]
  simp only [not_exists, not_and, ne_eq]

namespace Composition

variable {config : Configuration} {t : RouteTable} {aggregates : List Candidate}
  {dynamics catchAll : List Route}

theorem keys_eq (parts : Composition config t aggregates dynamics catchAll) :
    t.routes.filterMap (·.key) = config.keys :=
  RouteSection.keys_of_assemble parts.declared

/-- A service that is looked up has no key that an aggregate could list. -/
theorem looked_plain (parts : Composition config t aggregates dynamics catchAll) {r : Route}
    (inside : r ∈ dynamics ++ catchAll) : r.key = none ∧ r.upstream.headerTemplates = [] := by
  rcases List.mem_append.mp inside with dynamic | last
  · obtain ⟨s, _, made⟩ := exists_of_forall₂ parts.dynamic dynamic
    obtain ⟨template, _, rfl⟩ := DynamicSection.result_assemble_eq_ok.mp made
    exact ⟨rfl, rfl⟩
  · have some := parts.last
    split at some
    · obtain ⟨only, made, rfl⟩ := some
      rw [List.mem_singleton.mp last]
      obtain ⟨template, _, rfl⟩ := CatchAll.result_assemble_eq_ok.mp made
      exact ⟨rfl, rfl⟩
    · subst some
      cases last

/-- A constituent is a declared route that an aggregate lists. -/
theorem absorbed_of_constituent (parts : Composition config t aggregates dynamics catchAll)
    {c : Candidate} (inside : c ∈ t.candidates) {r : Route} (asked : r ∈ c.constituents) :
    isAbsorbed config.aggregates r = true := by
  obtain ⟨_, _, s, listed, constituents, found, target⟩ :=
    parts.aggregate_cases (parts.origin_of_constituent inside asked).1
  rw [RouteTo.constituents, target] at asked
  have keys := (AggregateSection.keys_of_constituents found).1
  have key : r.key ∈ s.routeKeys.map some := by
    rw [← keys]
    exact List.mem_map_of_mem asked
  obtain ⟨k, known, same⟩ := List.mem_map.mp key
  exact isAbsorbed_iff.mpr ⟨s, listed, k, known, same.symm⟩

/-- A declared route that an aggregate lists is the one that the aggregate finds, since no other has
its key. -/
theorem constituent_of_absorbed (parts : Composition config t aggregates dynamics catchAll)
    (unique : config.keys.Nodup) {r : Route} (declared : r ∈ t.routes)
    (absorbed : isAbsorbed config.aggregates r = true) : ∃ c ∈ t.candidates, r ∈ c.constituents := by
  obtain ⟨a, listed, key, known, named⟩ := isAbsorbed_iff.mp absorbed
  obtain ⟨c, aggregate, made⟩ := exists_of_forall₂ parts.aggregated.flip listed
  obtain ⟨_, _, constituents, found, target⟩ := AggregateSection.target_of_assemble made
  obtain ⟨other, asked, first⟩ :=
    exists_of_forall₂ (AggregateSection.constituents_eq_ok.mp found).flip known
  -- An aggregate takes the first route of a key, so only unique keys make it this one.
  have alone : findRoute? t.routes key = some r :=
    findRoute?_of_unique (by rwa [parts.keys_eq]) declared named
  obtain rfl : r = other := Option.some.inj (alone.symm.trans first)
  refine ⟨c, ?_, by rwa [RouteTo.constituents, target]⟩
  rw [parts.candidates]
  exact List.mem_append_left _ (List.mem_append_right _ aggregate)

theorem candidate_of_free (parts : Composition config t aggregates dynamics catchAll) {r : Route}
    (declared : r ∈ t.routes) (free : isAbsorbed config.aggregates r = false) :
    r.toCandidate ∈ t.candidates := by
  rw [parts.candidates, List.append_assoc]
  apply List.mem_append_left
  apply List.mem_map_of_mem
  exact List.mem_filter.mpr ⟨declared, by simp [free]⟩

/-- Neither an aggregate nor a service that is looked up is mistaken for an absorbed route. -/
theorem free_of_candidate (parts : Composition config t aggregates dynamics catchAll) {r : Route}
    (inside : r.toCandidate ∈ t.candidates) : isAbsorbed config.aggregates r = false := by
  rcases parts.candidate_cases inside with ⟨other, _, free, same⟩ | aggregate | ⟨other, looked, same⟩
  · rwa [RouteTo.toCandidate_injective same]
  · obtain ⟨_, _, _, _, _, _, target⟩ := parts.aggregate_cases aggregate
    cases target
  · rw [RouteTo.toCandidate_injective same, isAbsorbed, (parts.looked_plain looked).1]

end Composition

/-- Nothing that is declared gets lost, and nothing is led to in two ways. The header names that a table
gives are those that its candidates look at; templates that are compiled hold them in lower case. -/
theorem ofConfiguration_keeps_every_route {config : Configuration} {capabilities : Capabilities}
    {t : RouteTable} (valid : config.validate capabilities = .ok ())
    (made : (ofConfiguration config).result = .ok t) :
    List.Forall₂
      (fun s r => (s.assemble config.global).result = .ok r ∧ r.key = s.key ∧
        r.upstream.headerTemplates.map (·.name) = s.headerTemplates.keys.map Text.lowerAscii)
      config.routes t.routes ∧
    (∃ (aggregates : List Candidate) (dynamics catchAll : List Route),
      t.candidates =
        (t.routes.filter fun r => ∀ a ∈ config.aggregates, ∀ key ∈ a.routeKeys, r.key ≠ some key).map
          (·.toCandidate) ++ aggregates ++ dynamics.map (·.toCandidate) ++ catchAll.map (·.toCandidate) ∧
      List.Forall₂
        (fun s c => (s.assemble t.routes).result = .ok c ∧
          c.upstream.headerTemplates.map (·.name) = s.headerTemplates.keys.map Text.lowerAscii ∧
          ∃ constituents, c.target = .aggregate constituents s.aggregator ∧
            constituents.map (·.key) = s.routeKeys.map some ∧ ∀ r ∈ constituents, r ∈ t.routes)
        config.aggregates aggregates ∧
      List.Forall₂
        (fun s r => (s.assemble config.global).result = .ok r ∧ r.upstream.headerTemplates = [])
        config.dynamicRoutes dynamics ∧
      if config.routes = [] ∧ config.global.provider ≠ none
      then ∃ r, (CatchAll.assemble config.global).result = .ok r ∧ catchAll = [r]
      else catchAll = []) ∧
    (∀ r ∈ t.routes,
      (r.toCandidate ∈ t.candidates ∨ ∃ c ∈ t.candidates, r ∈ c.constituents) ∧
        ¬(r.toCandidate ∈ t.candidates ∧ ∃ c ∈ t.candidates, r ∈ c.constituents)) ∧
    t.routingHeaders.Nodup ∧
    ∀ name, name ∈ t.routingHeaders ↔
      ∃ c ∈ t.candidates, ∃ template ∈ c.upstream.headerTemplates, template.name = name := by
  obtain ⟨aggregates, dynamics, catchAll, parts⟩ := result_ofConfiguration_eq_ok.mp made
  have unique := (Configuration.validate_eq_ok.mp valid).keys
  refine ⟨?_, ⟨aggregates, dynamics, catchAll, ?_, ?_, ?_, parts.last⟩, ?_, ?_, ?_⟩
  · exact parts.declared.imp fun s r made =>
      ⟨made, RouteSection.key_of_assemble made, RouteSection.headerNames_of_assemble made⟩
  · rw [parts.candidates, free_eq, List.map_append, ← List.append_assoc]
  · exact parts.aggregated.imp fun s c made => by
      obtain ⟨_, _, constituents, found, target⟩ := AggregateSection.target_of_assemble made
      exact ⟨made, AggregateSection.headerNames_of_assemble made, constituents, target,
        AggregateSection.keys_of_constituents found⟩
  · exact parts.dynamic.imp fun s r made => by
      obtain ⟨template, _, rfl⟩ := DynamicSection.result_assemble_eq_ok.mp made
      exact ⟨made, rfl⟩
  · intro r declared
    cases absorbed : isAbsorbed config.aggregates r with
    | true =>
      refine ⟨Or.inr (parts.constituent_of_absorbed unique declared absorbed), ?_⟩
      rintro ⟨free, _⟩
      simp [parts.free_of_candidate free] at absorbed
    | false =>
      refine ⟨Or.inl (parts.candidate_of_free declared absorbed), ?_⟩
      rintro ⟨_, c, listed, asked⟩
      simp [parts.absorbed_of_constituent listed asked] at absorbed
  · rw [parts.knowsHeaders]
    exact nodup_distinct _ _
  · intro name
    rw [parts.knowsHeaders]
    exact mem_headerNames

/-- One route that an aggregate asks twice, one that is free, and a service. -/
def absorbingConfiguration : Configuration where
  routes :=
    [{ downstreamPathTemplate := "/", downstreamHosts := [.inline ⟨"b", 80⟩]
       upstreamPathTemplate := "/a", key := some "a"
       headerTemplates := .ofList [("X-Version", "\x7bversion\x7d")] },
     { downstreamPathTemplate := "/", downstreamHosts := [.inline ⟨"b", 81⟩]
       upstreamPathTemplate := "/free", headerTemplates := .ofList [("X-Tenant", "\x7btenant\x7d")] }]
  aggregates := [{ routeKeys := ["a", "a"], upstreamPathTemplate := "/both" }]
  dynamicRoutes := [{ serviceName := "orders" }]
  global := { provider := some { type := "consul" } }

theorem ofConfiguration_keeps_absorbed_and_free :
    ∃ t, absorbingConfiguration.validate { discoveryProvider := true } = .ok () ∧
      (ofConfiguration absorbingConfiguration).result = .ok t ∧
      ∀ r ∈ t.routes,
        (r.toCandidate ∈ t.candidates ∨ ∃ c ∈ t.candidates, r ∈ c.constituents) ∧
          ¬(r.toCandidate ∈ t.candidates ∧ ∃ c ∈ t.candidates, r ∈ c.constituents) := by
  have valid : absorbingConfiguration.validate { discoveryProvider := true } = .ok () := by rfl
  have compiles : (ofConfiguration absorbingConfiguration).result.isOk = true := by rfl
  obtain ⟨t, made⟩ := exists_of_isOk compiles
  exact ⟨t, valid, made, (ofConfiguration_keeps_every_route valid made).2.2.1⟩

end GatewayRouting.RouteTable
