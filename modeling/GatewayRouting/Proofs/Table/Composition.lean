import GatewayRouting.Proofs.Route.Origin
import GatewayRouting.Proofs.Table.RoutingHeaders

/-!
What a table is put together from, and where each of its routes comes from.
-/

set_option autoImplicit false

namespace GatewayRouting

namespace RouteTo

/-- The routes that an aggregate asks. -/
def constituents (c : Candidate) : List Route :=
  match c.target with
  | .aggregate routes _ => routes
  | .single _ => []

/-- The single routes that a candidate leads to: itself, or its constituents. -/
def leaves (c : Candidate) : List Route :=
  match c.target with
  | .aggregate routes _ => routes
  | .single destination => [{ c with target := destination }]

@[simp] theorem leaves_toCandidate (r : Route) : r.toCandidate.leaves = [r] := rfl

theorem toCandidate_injective {r other : Route} (same : r.toCandidate = other.toCandidate) :
    r = other := by
  have leaves := congrArg RouteTo.leaves same
  simpa using leaves

end RouteTo

namespace RouteTable

/-- The single routes that requests can be led to. -/
def leaves (t : RouteTable) : List Route := t.candidates.flatMap (·.leaves)

/-- Every route of the table: declared, resolved to, or asked by an aggregate. -/
def everyRoute (t : RouteTable) : List Candidate :=
  t.routes.map (·.toCandidate) ++ t.candidates ++
    (t.candidates.flatMap (·.constituents)).map (·.toCandidate)

theorem isAbsorbed_iff {aggregates : List AggregateSection} {r : Route} :
    isAbsorbed aggregates r = true ↔ ∃ a ∈ aggregates, ∃ key ∈ a.routeKeys, r.key = some key := by
  unfold isAbsorbed
  cases r.key with
  | none => simp
  | some key => simp

/-- A table and the parts of its list of candidates that are no declared routes. -/
structure Composition (config : Configuration) (t : RouteTable) (aggregates : List Candidate)
    (dynamics catchAll : List Route) : Prop where
  declared : List.Forall₂ (fun s r => (s.assemble config.global).result = .ok r) config.routes t.routes
  aggregated : List.Forall₂ (fun s c => (s.assemble t.routes).result = .ok c)
    config.aggregates aggregates
  dynamic : List.Forall₂ (fun s r => (s.assemble config.global).result = .ok r)
    config.dynamicRoutes dynamics
  last : if config.HasCatchAll
    then ∃ r, (CatchAll.assemble config.global).result = .ok r ∧ catchAll = [r]
    else catchAll = []
  candidates : t.candidates = (t.routes.filter (!isAbsorbed config.aggregates ·)).map (·.toCandidate) ++
    aggregates ++ (dynamics ++ catchAll).map (·.toCandidate)
  knowsHeaders : t.KnowsHeaders

theorem result_assembleCatchAll_eq_ok {config : Configuration} {routes : List Route} :
    (assembleCatchAll config).result = .ok routes ↔
      if config.HasCatchAll
      then ∃ r, (CatchAll.assemble config.global).result = .ok r ∧ routes = [r]
      else routes = [] := by
  have same : (config.routes.isEmpty && config.global.provider.isSome) = true ↔ config.HasCatchAll := by
    simp [Configuration.HasCatchAll, Option.isSome_iff_ne_none]
  unfold assembleCatchAll
  by_cases last : config.HasCatchAll
  · rw [if_pos last, if_pos (same.mpr last)]
    simp only [Assembly.result_bind_eq_ok, Assembly.result_lift, Assembly.result_pure,
      Except.ok.injEq, exists_const, true_and, @eq_comm _ routes]
  · rw [if_neg last, if_neg (mt same.mp last), Assembly.result_pure, Except.ok.injEq, eq_comm]

theorem result_ofConfiguration_eq_ok {config : Configuration} {t : RouteTable} :
    (ofConfiguration config).result = .ok t ↔
      ∃ aggregates dynamics catchAll, Composition config t aggregates dynamics catchAll := by
  unfold ofConfiguration
  simp only [Assembly.result_bind_eq_ok, Assembly.result_each_eq_ok, result_assembleCatchAll_eq_ok,
    Assembly.result_lift, Assembly.result_pure, Except.ok.injEq, exists_const, true_and]
  constructor
  · rintro ⟨routes, all, aggregates, aggregated, dynamics, looked, catchAll, last, rfl⟩
    exact ⟨aggregates, dynamics, catchAll, all, aggregated, looked, last, rfl, rfl⟩
  · rintro ⟨aggregates, dynamics, catchAll, parts⟩
    refine ⟨t.routes, parts.declared, aggregates, parts.aggregated, dynamics, parts.dynamic, catchAll,
      parts.last, ?_⟩
    rw [← parts.candidates, ← parts.knowsHeaders]

namespace Composition

variable {config : Configuration} {t : RouteTable} {aggregates : List Candidate}
  {dynamics catchAll : List Route}

/-- The routes that are looked up by name are made of the dynamic sections and the catch-all. -/
theorem origin_of_looked (parts : Composition config t aggregates dynamics catchAll) {r : Route}
    (inside : r ∈ dynamics ++ catchAll) :
    ∃ o ∈ config.origins, (o.assemble config.global).result = .ok r := by
  rcases List.mem_append.mp inside with dynamic | last
  · obtain ⟨s, listed, made⟩ := exists_of_forall₂ parts.dynamic dynamic
    exact ⟨.dynamic s, Configuration.mem_origins.mpr (Or.inr (Or.inl ⟨s, listed, rfl⟩)), made⟩
  · have some := parts.last
    split at some
    · rename_i has
      obtain ⟨only, made, rfl⟩ := some
      rw [List.mem_singleton.mp last]
      exact ⟨.catchAll, Configuration.mem_origins.mpr (Or.inr (Or.inr ⟨rfl, has⟩)), made⟩
    · subst some
      cases last

theorem origin_of_route (parts : Composition config t aggregates dynamics catchAll) {r : Route}
    (inside : r ∈ t.routes) : ∃ o ∈ config.origins, (o.assemble config.global).result = .ok r := by
  obtain ⟨s, listed, made⟩ := exists_of_forall₂ parts.declared inside
  exact ⟨.declared s, Configuration.mem_origins.mpr (Or.inl ⟨s, listed, rfl⟩), made⟩

/-- What an aggregate is: it has no options of its own, and asks declared routes in the order of the
keys that its section lists. -/
theorem aggregate_cases (parts : Composition config t aggregates dynamics catchAll) {c : Candidate}
    (inside : c ∈ aggregates) :
    c.key = none ∧ c.downstream = {} ∧ ∃ s ∈ config.aggregates, ∃ constituents,
      s.constituents t.routes = .ok constituents ∧ c.target = .aggregate constituents s.aggregator := by
  obtain ⟨s, listed, made⟩ := exists_of_forall₂ parts.aggregated inside
  obtain ⟨keyless, plain, target⟩ := AggregateSection.target_of_assemble made
  exact ⟨keyless, plain, s, listed, target⟩

/-- Every candidate is an aggregate or a single route of some section. -/
theorem candidate_cases (parts : Composition config t aggregates dynamics catchAll) {c : Candidate}
    (inside : c ∈ t.candidates) :
    (∃ r ∈ t.routes, isAbsorbed config.aggregates r = false ∧ c = r.toCandidate) ∨ c ∈ aggregates ∨
      ∃ r ∈ dynamics ++ catchAll, c = r.toCandidate := by
  rw [parts.candidates, List.mem_append, List.mem_append, List.mem_map, List.mem_map] at inside
  rcases inside with (⟨r, free, rfl⟩ | aggregate) | ⟨r, looked, rfl⟩
  · obtain ⟨listed, free⟩ := List.mem_filter.mp free
    exact Or.inl ⟨r, listed, by simpa using free, rfl⟩
  · exact Or.inr (Or.inl aggregate)
  · exact Or.inr (Or.inr ⟨r, looked, rfl⟩)

theorem origin_of_constituent (parts : Composition config t aggregates dynamics catchAll)
    {c : Candidate} (inside : c ∈ t.candidates) {r : Route} (asked : r ∈ c.constituents) :
    c ∈ aggregates ∧ r ∈ t.routes := by
  rcases parts.candidate_cases inside with ⟨_, _, _, rfl⟩ | aggregate | ⟨_, _, rfl⟩
  · cases asked
  · obtain ⟨_, _, s, _, constituents, found, target⟩ := parts.aggregate_cases aggregate
    rw [RouteTo.constituents, target] at asked
    exact ⟨aggregate, (AggregateSection.keys_of_constituents found).2 r asked⟩
  · cases asked

/-- No route that requests are led to comes from nowhere. -/
theorem origin_of_leaf (parts : Composition config t aggregates dynamics catchAll) {leaf : Route}
    (inside : leaf ∈ t.leaves) :
    ∃ o ∈ config.origins, (o.assemble config.global).result = .ok leaf := by
  obtain ⟨c, listed, led⟩ := List.mem_flatMap.mp inside
  rcases parts.candidate_cases listed with ⟨r, declared, _, rfl⟩ | aggregate | ⟨r, looked, rfl⟩
  · rw [RouteTo.leaves_toCandidate, List.mem_singleton] at led
    rw [led]
    exact parts.origin_of_route declared
  · obtain ⟨_, _, s, _, constituents, found, target⟩ := parts.aggregate_cases aggregate
    rw [RouteTo.leaves, target] at led
    exact parts.origin_of_route ((AggregateSection.keys_of_constituents found).2 leaf led)
  · rw [RouteTo.leaves_toCandidate, List.mem_singleton] at led
    rw [led]
    exact parts.origin_of_looked looked

/-- A route of the table is an aggregate, which has no options, or single and made of some section. -/
theorem everyRoute_cases (parts : Composition config t aggregates dynamics catchAll) {c : Candidate}
    (inside : c ∈ t.everyRoute) :
    (c.downstream = {} ∧ ∃ constituents aggregator, c.target = .aggregate constituents aggregator) ∨
      ∃ r, c = r.toCandidate ∧
        ∃ o ∈ config.origins, (o.assemble config.global).result = .ok r := by
  -- An aggregate's constituents are declared routes, so they are no case of their own.
  unfold everyRoute at inside
  rw [List.mem_append, List.mem_append, List.mem_map, List.mem_map] at inside
  rcases inside with (⟨r, declared, rfl⟩ | listed) | ⟨r, asked, rfl⟩
  · exact Or.inr ⟨r, rfl, parts.origin_of_route declared⟩
  · rcases parts.candidate_cases listed with ⟨r, declared, _, rfl⟩ | aggregate | ⟨r, looked, rfl⟩
    · exact Or.inr ⟨r, rfl, parts.origin_of_route declared⟩
    · obtain ⟨_, plain, s, _, constituents, _, target⟩ := parts.aggregate_cases aggregate
      exact Or.inl ⟨plain, constituents, s.aggregator, target⟩
    · exact Or.inr ⟨r, rfl, parts.origin_of_looked looked⟩
  · obtain ⟨d, listed, asked⟩ := List.mem_flatMap.mp asked
    exact Or.inr ⟨r, rfl, parts.origin_of_route (parts.origin_of_constituent listed asked).2⟩

end Composition

end RouteTable

end GatewayRouting
