import GatewayRouting.Proofs.Route.Made
import GatewayRouting.Proofs.Template.Below

/-!
The routes to services that are looked up, in full. The route that takes the name of the service from the path
has the options of a route that is declared with a name alone, but for those of the cache.
-/

set_option autoImplicit false

namespace GatewayRouting

open UpstreamTemplate (ofTokens)

/-- A text that a template takes as it is written. -/
structure PlainText (text : String) : Prop where
  braceFree : BraceFree text.toList
  unmarked : '?' ∉ text.toList

namespace DynamicSection

/-- The path of a service. -/
def mount (s : DynamicSection) : List Char :=
  '/' :: (IdentityKey.qualified s.serviceNamespace s.serviceName).toList

/-- A service whose names stand for themselves. -/
structure Plain (s : DynamicSection) : Prop where
  name : PlainText s.serviceName
  qualifier : ∀ ns, s.serviceNamespace = some ns → PlainText ns

/-- The template of a service whose names stand for themselves. -/
def template (s : DynamicSection) : UpstreamTemplate :=
  ofTokens s.upstreamTemplate false [.literal (s.mount ++ ['/']), .placeholder "everything"] none

/-- The route of a service whose names stand for themselves. -/
def route (s : DynamicSection) (global : GlobalSection) : Route where
  identityKey := s.identityKey global
  upstream := { template := s.template }
  downstream := (s.downstream global).value
  target := .service (serviceScheme s.downstreamScheme global) s.serviceName s.serviceNamespace

variable {s : DynamicSection}

theorem toList_upstreamTemplate (s : DynamicSection) :
    s.upstreamTemplate.toList = s.mount ++ ['/'] ++ ('\x7b' :: "everything".toList ++ ['\x7d']) := by
  simp [upstreamTemplate, mount]

/-- The point between the names is no special character either. -/
theorem Plain.qualified (plain : s.Plain) :
    PlainText (IdentityKey.qualified s.serviceNamespace s.serviceName) := by
  unfold IdentityKey.qualified
  split
  · rename_i ns some
    have own := plain.qualifier ns (Option.filter_eq_some_iff.mp some).1
    have point : PlainText "." := ⟨⟨by decide, by decide⟩, by decide⟩
    constructor
    · rw [String.toList_append, String.toList_append, BraceFree.append_iff, BraceFree.append_iff]
      exact ⟨⟨own.braceFree, point.braceFree⟩, plain.name.braceFree⟩
    · simp only [String.toList_append, List.mem_append, not_or]
      exact ⟨⟨own.unmarked, point.unmarked⟩, plain.name.unmarked⟩
  · exact plain.name

theorem Plain.of_name {name : String} (plain : PlainText name) : Plain { serviceName := name } where
  name := plain
  qualifier := by
    rintro ns ⟨⟩

theorem Plain.compile_upstreamTemplate (plain : s.Plain) :
    UpstreamTemplate.compile s.upstreamTemplate false = .ok s.template := by
  have free : BraceFree s.mount := BraceFree.cons_iff.mpr ⟨by decide, plain.qualified.braceFree⟩
  have name : NameText "everything".toList := ⟨⟨by decide, by decide⟩, 'e', by decide, by decide⟩
  have unmarked : '?' ∉ s.mount := by
    rw [mount, List.mem_cons, not_or]
    exact ⟨by decide, plain.qualified.unmarked⟩
  have known : recordedName "everything".toList = "everything" := by decide
  rw [UpstreamTemplate.compile_below rfl free name ⟨unmarked, by decide⟩ (toList_upstreamTemplate s),
    known, template]

theorem Plain.result_assemble (plain : s.Plain) (global : GlobalSection) :
    (s.assemble global).result = .ok (s.route global) :=
  result_assemble_eq_ok.mpr ⟨s.template, mapError_eq_ok.mpr plain.compile_upstreamTemplate, rfl⟩

end DynamicSection

namespace CatchAll

/-- Two placeholders: the first segment is the name of the service. -/
def template : UpstreamTemplate :=
  ofTokens upstreamTemplate false
    [.literal ['/'], .placeholder "serviceName", .literal ['/'], .placeholder "everything"] none

/-- The route that takes the name of the service from the path. -/
def route (global : GlobalSection) : Route where
  identityKey := identityKey global
  upstream := { template }
  downstream := (CatchAll.downstream global).value
  target := .service (serviceScheme none global) serviceName (serviceNamespace global)

theorem compile_upstreamTemplate : UpstreamTemplate.compile upstreamTemplate false = .ok template := by
  have read : Token.tokenize .bare (UpstreamTemplate.splitQuery upstreamTemplate).1 =
      .ok [.literal ['/'], .placeholder "serviceName", .literal ['/'], .placeholder "everything"] := by
    decide +kernel
  exact UpstreamTemplate.compile_eq_ok_iff.mpr ⟨rfl, _, none, read, rfl, rfl, rfl⟩

theorem result_assemble (global : GlobalSection) :
    (CatchAll.assemble global).result = .ok (route global) :=
  result_assemble_eq_ok.mpr ⟨template, mapError_eq_ok.mpr compile_upstreamTemplate, rfl⟩

end CatchAll

/-- Options without the names that are made for a route: of its cache region and of its circuit. -/
def Downstream.unnamed (d : Downstream) : Downstream :=
  { d with
    cache := d.cache.map fun options => { options with region := "" }
    qos := d.qos.map fun options => { options with key := "" } }

/-- The name of a circuit has no part in what else is settled. -/
theorem QosOptions.map_unnamed_merge (a b : String) (own global : Option QosSection) :
    (merge a own global).map (fun options => { options with key := "" }) =
      (merge b own global).map fun options => { options with key := "" } := by
  unfold merge
  dsimp only
  split <;> rfl

/-- Where only the global section counts, nothing is cached unless that gives entries some time. -/
theorem CacheOptions.merge_none_eq_none_iff {global : Option CacheSection} {region : String} :
    merge none global region = none ↔ ∀ s, global = some s → s.ttlSeconds.getD 0 = 0 := by
  have lifetime : Options.settled none global (·.ttlSeconds) 0 = 0 ↔
      ∀ s, global = some s → s.ttlSeconds.getD 0 = 0 := by
    cases global <;> simp [Options.settled, Options.chosen]
  rw [← lifetime, merge]
  split
  · rename_i zero
    simp [zero]
  · rename_i positive
    simp [positive]

/-- A global section that lists no routes is for all of them, and so for those without a key. -/
theorem RateLimitOptions.merge_of_unlisted {global : Option RateLimitSection}
    (unlisted : ∀ s, global = some s → s.routeKeys = []) (a b : Option String)
    (own : Option RateLimitSection) : merge a own global = merge b own global := by
  have all (key : Option String) : global.filter (appliesTo key) = global := by
    cases global with
    | none => rfl
    | some s => simp [appliesTo, unlisted s rfl]
  unfold merge
  rw [all, all]

namespace DynamicSection

variable {global : GlobalSection}

/-- A name alone settles nothing but the names of the cache region and of the circuit. -/
theorem downstream_of_name (name : String)
    (unlisted : ∀ s, global.rateLimit = some s → s.routeKeys = []) :
    (downstream { serviceName := name } global).value =
      { (CatchAll.downstream global).value with
        cache := CacheOptions.merge none global.cache
          (CacheOptions.defaultRegion [] (upstreamTemplate { serviceName := name }))
        qos := QosOptions.merge (identityKey { serviceName := name } global) none global.qos } := by
  have rate := RateLimitOptions.merge_of_unlisted unlisted (some name) none none
  unfold downstream
  dsimp only
  rw [rate]
  rfl

theorem downstream_unnamed_of_name (name : String)
    (unlisted : ∀ s, global.rateLimit = some s → s.routeKeys = []) :
    { (CatchAll.downstream global).value.unnamed with
      cache := (downstream { serviceName := name } global).value.unnamed.cache } =
        (downstream { serviceName := name } global).value.unnamed := by
  have circuit := QosOptions.map_unnamed_merge (CatchAll.identityKey global)
    (identityKey { serviceName := name } global) none global.qos
  rw [downstream_of_name name unlisted]
  unfold Downstream.unnamed
  dsimp only
  rw [← circuit]
  rfl

theorem cache_unnamed_of_name_eq_none_iff (name : String)
    (unlisted : ∀ s, global.rateLimit = some s → s.routeKeys = []) :
    (downstream { serviceName := name } global).value.unnamed.cache = none ↔
      ∀ s, global.cache = some s → s.ttlSeconds.getD 0 = 0 := by
  rw [downstream_of_name name unlisted, Downstream.unnamed, Option.map_eq_none_iff,
    CacheOptions.merge_none_eq_none_iff]

end DynamicSection

/-- The route to all services has the options of a route that is declared with a name alone, but for those of the
cache. The global section reaches all options of the former exactly when it has nothing cached. -/
theorem CatchAll.downstream_unnamed_eq_iff {global : GlobalSection} {name : String} {r : Route}
    (unlisted : ∀ s, global.rateLimit = some s → s.routeKeys = [])
    (made : (DynamicSection.assemble { serviceName := name } global).result = .ok r) :
    ∃ c, (CatchAll.assemble global).result = .ok c ∧
      { c.downstream.unnamed with cache := r.downstream.unnamed.cache } = r.downstream.unnamed ∧
      (c.downstream.unnamed = r.downstream.unnamed ↔
        ∀ s, global.cache = some s → s.ttlSeconds.getD 0 = 0) := by
  obtain ⟨template, _, rfl⟩ := DynamicSection.result_assemble_eq_ok.mp made
  have agree := DynamicSection.downstream_unnamed_of_name name unlisted
  refine ⟨route global, result_assemble global, agree, ?_⟩
  rw [← DynamicSection.cache_unnamed_of_name_eq_none_iff name unlisted]
  constructor
  · intro same
    -- This route has no cache of its own.
    exact (congrArg Downstream.cache same).symm
  · intro nothing
    rw [nothing] at agree
    exact agree

namespace CatchAll

/-- Global options of several groups, without a cache. -/
def sharedLimits : GlobalSection where
  provider := some { type := "consul" }
  requestIdKey := some "X-Request-Id"
  timeout := some 30
  rateLimit := some { enabled := some true, limit := some 100 }
  qos := some { exceptionsAllowedBeforeBreaking := some 3, timeoutMillis := some 1500 }
  metadata := .ofList [("team", "edge")]

theorem downstream_unnamed_of_sharedLimits :
    ∃ r c, (DynamicSection.assemble { serviceName := "orders" } sharedLimits).result = .ok r ∧
      (CatchAll.assemble sharedLimits).result = .ok c ∧
      c.downstream.rateLimit ≠ none ∧ c.downstream.qos ≠ none ∧
      c.downstream.unnamed = r.downstream.unnamed := by
  have plain : DynamicSection.Plain { serviceName := "orders" } :=
    .of_name ⟨⟨by decide, by decide⟩, by decide⟩
  have unlisted : ∀ s, sharedLimits.rateLimit = some s → s.routeKeys = [] := by
    rintro s ⟨⟩
    rfl
  have uncached : ∀ s, sharedLimits.cache = some s → s.ttlSeconds.getD 0 = 0 := by
    rintro s ⟨⟩
  have made := plain.result_assemble sharedLimits
  obtain ⟨c, madeToo, _, same⟩ := downstream_unnamed_eq_iff unlisted made
  have limited : (route sharedLimits).downstream.rateLimit ≠ none ∧
      (route sharedLimits).downstream.qos ≠ none := by decide
  cases (result_assemble sharedLimits).symm.trans madeToo
  exact ⟨_, _, made, madeToo, limited.1, limited.2, same.mpr uncached⟩

/-- A cache for everyone, for half a minute. -/
def sharedCache : GlobalSection where
  provider := some { type := "consul" }
  cache := some { ttlSeconds := some 30, region := some "shared" }

/-- The cache does not reach the route to all services. -/
theorem cache_of_sharedCache :
    (∀ s, sharedCache.rateLimit = some s → s.routeKeys = []) ∧
      ∃ r c, (DynamicSection.assemble { serviceName := "orders" } sharedCache).result = .ok r ∧
        (CatchAll.assemble sharedCache).result = .ok c ∧
        r.downstream.cache = some ⟨30, "shared", none, false⟩ ∧ c.downstream.cache = none := by
  have plain : DynamicSection.Plain { serviceName := "orders" } :=
    .of_name ⟨⟨by decide, by decide⟩, by decide⟩
  refine ⟨?_, _, _, plain.result_assemble sharedCache, result_assemble sharedCache, ?_, rfl⟩
  · rintro s ⟨⟩
  · rfl

end CatchAll

end GatewayRouting
