import GatewayRouting.Proofs.Route.AssemblyLaws
import GatewayRouting.Proofs.Template.Compiled
import GatewayRouting.Route.Aggregate
import GatewayRouting.Route.Dynamic
import GatewayRouting.Route.Static

/-!
What each kind of section makes: when it makes something at all, and the whole of what it then makes.
-/

set_option autoImplicit false

namespace GatewayRouting

theorem RouteSection.result_assemble_eq_ok {s : RouteSection} {global : GlobalSection} {r : Route} :
    (s.assemble global).result = .ok r ↔
      ∃ upstream method, s.compileUpstream = .ok (upstream, method) ∧
        r = (s.settle global upstream method).value := by
  unfold assemble
  simp only [Assembly.result_bind_eq_ok, Assembly.result_ofExcept, Assembly.result_lift,
    Except.ok.injEq, Prod.exists, @eq_comm _ r]

theorem DynamicSection.result_assemble_eq_ok {s : DynamicSection} {global : GlobalSection} {r : Route} :
    (s.assemble global).result = .ok r ↔
      ∃ template, Upstream.compileTemplate s.serviceName s.upstreamTemplate false = .ok template ∧
        r =
          { identityKey := s.identityKey global
            upstream := { template }
            downstream := (s.downstream global).value
            target :=
              .service (serviceScheme s.downstreamScheme global) s.serviceName s.serviceNamespace } := by
  unfold assemble
  simp only [Assembly.result_bind_eq_ok, Assembly.result_ofExcept, Assembly.result_lift,
    Assembly.result_pure, Except.ok.injEq, exists_eq_left', exists_const, true_and,
    @eq_comm _ r]

theorem CatchAll.result_assemble_eq_ok {global : GlobalSection} {r : Route} :
    (CatchAll.assemble global).result = .ok r ↔
      ∃ template, Upstream.compileTemplate upstreamTemplate upstreamTemplate false = .ok template ∧
        r =
          { identityKey := identityKey global
            upstream := { template }
            downstream := (CatchAll.downstream global).value
            target := .service (serviceScheme none global) serviceName (serviceNamespace global) } := by
  unfold assemble
  simp only [Assembly.result_bind_eq_ok, Assembly.result_ofExcept, Assembly.result_lift,
    Assembly.result_pure, Except.ok.injEq, exists_eq_left', @eq_comm _ r]

theorem AggregateSection.result_assemble_eq_ok {s : AggregateSection} {routes : List Route}
    {c : Candidate} :
    (s.assemble routes).result = .ok c ↔
      ∃ constituents template headerTemplates methods,
        s.constituents routes = .ok constituents ∧
        Upstream.compileTemplate s.upstreamPathTemplate s.upstreamPathTemplate s.caseSensitive =
          .ok template ∧
        Upstream.compileHeaders s.upstreamPathTemplate s.caseSensitive s.headerTemplates.entries =
          .ok headerTemplates ∧
        Upstream.parseMethods s.upstreamPathTemplate s.methods = .ok methods ∧
        c =
          { identityKey := s.identityKey
            upstream :=
              { template, headerTemplates, headerTrigger := s.headerTrigger, host := s.upstreamHost
                methods }
            downstream := {}
            target := .aggregate constituents s.aggregator } := by
  unfold assemble
  simp only [Assembly.result_bind_eq_ok, Assembly.result_ofExcept, Assembly.result_lift,
    Assembly.result_pure, Except.ok.injEq, exists_const, true_and, exists_and_left, @eq_comm _ c]

namespace Upstream

variable {route : String} {caseSensitive : Bool} {entries : List (String × String)}
  {templates : List HeaderTemplate}

theorem compileHeaders_eq_ok :
    compileHeaders route caseSensitive entries = .ok templates ↔
      List.Forall₂ (fun e t => HeaderTemplate.compile e.1 e.2 caseSensitive = .ok t) entries templates := by
  induction entries generalizing templates with
  | nil => simp [compileHeaders, eq_comm]
  | cons entry rest ih =>
    obtain ⟨name, template⟩ := entry
    rw [compileHeaders, List.forall₂_cons_left_iff]
    simp only [bind_eq_ok, mapError_eq_ok, ih, Except.ok.injEq, exists_and_left, @eq_comm _ templates]

/-- Header templates keep their texts and look at the headers that are written, in lower case. -/
theorem texts_of_compiled
    (compiled : List.Forall₂ (fun e t => HeaderTemplate.compile e.1 e.2 caseSensitive = .ok t) entries
      templates) :
    templates.map (fun t => (t.name, t.raw)) = entries.map fun e => (Text.lowerAscii e.1, e.2) := by
  induction compiled with
  | nil => rfl
  | cons first _ ih =>
    obtain ⟨tokens, _, _, rfl⟩ := HeaderTemplate.compile_eq_ok_iff.mp first
    rw [List.map_cons, List.map_cons, ih]
    rfl

theorem names_of_compileHeaders (compiled : compileHeaders route caseSensitive entries = .ok templates) :
    templates.map (·.name) = entries.map fun e => Text.lowerAscii e.1 := by
  have texts := congrArg (List.map Prod.fst) (texts_of_compiled (compileHeaders_eq_ok.mp compiled))
  rwa [List.map_map, List.map_map] at texts

end Upstream

theorem RouteSection.key_of_assemble {s : RouteSection} {global : GlobalSection} {r : Route}
    (made : (s.assemble global).result = .ok r) : r.key = s.key := by
  obtain ⟨upstream, method, _, rfl⟩ := result_assemble_eq_ok.mp made
  rfl

/-- Routes have the keys of their sections, in the same order. -/
theorem RouteSection.keys_of_assemble {sections : List RouteSection} {global : GlobalSection}
    {routes : List Route}
    (made : List.Forall₂ (fun s r => (s.assemble global).result = .ok r) sections routes) :
    routes.filterMap (·.key) = sections.filterMap (·.key) := by
  induction made with
  | nil => rfl
  | cons first _ ih => rw [List.filterMap_cons, List.filterMap_cons, key_of_assemble first, ih]

theorem RouteSection.compileUpstream_eq_ok {s : RouteSection} {upstream : Upstream}
    {method : Option Method} :
    s.compileUpstream = .ok (upstream, method) ↔
      ∃ template headerTemplates methods,
        Upstream.compileTemplate s.name s.upstreamPathTemplate s.caseSensitive = .ok template ∧
        Upstream.compileHeaders s.name s.caseSensitive s.headerTemplates.entries = .ok headerTemplates ∧
        Upstream.parseMethods s.name s.upstreamMethods = .ok methods ∧
        s.downstreamHttpMethod.mapM (Upstream.parseMethod s.name) = .ok method ∧
        upstream =
          { template, headerTemplates, headerTrigger := s.headerTrigger, host := s.upstreamHost
            methods } := by
  have mapped (x : Except AssemblyError Method) : some <$> x = x.map some := rfl
  unfold compileUpstream
  cases downstream : s.downstreamHttpMethod with
  | none =>
    simp only [bind_eq_ok, Except.ok.injEq, Prod.mk.injEq, Option.mapM_none, pure, Except.pure,
      exists_eq_right_right, exists_and_left, @eq_comm _ upstream]
  | some m =>
    simp only [bind_eq_ok, Except.ok.injEq, Prod.mk.injEq, Option.mapM_some, mapped, exists_eq_right_right,
      exists_and_left, @eq_comm _ upstream]

theorem RouteSection.headerNames_of_assemble {s : RouteSection} {global : GlobalSection} {r : Route}
    (made : (s.assemble global).result = .ok r) :
    r.upstream.headerTemplates.map (·.name) = s.headerTemplates.keys.map Text.lowerAscii := by
  obtain ⟨upstream, method, compiled, rfl⟩ := result_assemble_eq_ok.mp made
  obtain ⟨template, headerTemplates, methods, _, headers, _, _, rfl⟩ := compileUpstream_eq_ok.mp compiled
  rw [Dictionary.keys, List.map_map]
  exact Upstream.names_of_compileHeaders headers

/-! Finding routes by their keys. -/

theorem findRoute?_eq_some {routes : List Route} {key : String} {r : Route}
    (found : findRoute? routes key = some r) : r ∈ routes ∧ r.key = some key := by
  refine ⟨List.mem_of_find?_eq_some found, ?_⟩
  simpa using List.find?_some found

theorem isSome_findRoute?_of_mem {routes : List Route} {key : String}
    (known : key ∈ routes.filterMap (·.key)) : (findRoute? routes key).isSome = true := by
  obtain ⟨r, inside, named⟩ := List.mem_filterMap.mp known
  exact List.find?_isSome.mpr ⟨r, inside, by simp [named]⟩

theorem findRoute?_of_unique {routes : List Route} (unique : (routes.filterMap (·.key)).Nodup)
    {r : Route} {key : String} (inside : r ∈ routes) (named : r.key = some key) :
    findRoute? routes key = some r := by
  induction routes with
  | nil => cases inside
  | cons first rest ih =>
    unfold findRoute?
    rcases List.mem_cons.mp inside with rfl | later
    · rw [List.find?_cons_of_pos (by simp [named])]
    · have keyLater : key ∈ rest.filterMap (·.key) := List.mem_filterMap.mpr ⟨r, later, named⟩
      have apart : first.key ≠ some key := by
        intro same
        rw [List.filterMap_cons_some same, List.nodup_cons] at unique
        exact unique.1 keyLater
      rw [List.find?_cons_of_neg (by simpa using apart)]
      refine ih ?_ later
      cases firstKey : first.key with
      | none => rwa [List.filterMap_cons_none firstKey] at unique
      | some other =>
        rw [List.filterMap_cons_some firstKey, List.nodup_cons] at unique
        exact unique.2

theorem forall₂_iff_filterMap {α β : Type} {f : α → Option β} {items : List α} {found : List β} :
    List.Forall₂ (fun a b => f a = some b) items found ↔
      (∀ a ∈ items, (f a).isSome = true) ∧ items.filterMap f = found := by
  induction items generalizing found with
  | nil => cases found <;> simp
  | cons a rest ih =>
    rw [List.forall₂_cons_left_iff, List.forall_mem_cons]
    simp only [ih]
    cases first : f a with
    | none => simp
    | some b =>
      rw [List.filterMap_cons_some first]
      constructor
      · rintro ⟨_, _, ⟨⟩, ⟨later, rfl⟩, rfl⟩
        exact ⟨⟨rfl, later⟩, rfl⟩
      · rintro ⟨⟨_, later⟩, rfl⟩
        exact ⟨b, _, rfl, ⟨later, rfl⟩, rfl⟩

namespace AggregateSection

variable {s : AggregateSection} {routes constituents : List Route} {c : Candidate}

/-- An aggregate has no key and no options of its own. What it does is left to its constituents. -/
theorem target_of_assemble (made : (s.assemble routes).result = .ok c) :
    c.key = none ∧ c.downstream = {} ∧ ∃ constituents,
      s.constituents routes = .ok constituents ∧ c.target = .aggregate constituents s.aggregator := by
  obtain ⟨constituents, _, _, _, found, _, _, _, rfl⟩ := result_assemble_eq_ok.mp made
  exact ⟨rfl, rfl, constituents, found, rfl⟩

theorem headerNames_of_assemble (made : (s.assemble routes).result = .ok c) :
    c.upstream.headerTemplates.map (·.name) = s.headerTemplates.keys.map Text.lowerAscii := by
  obtain ⟨_, _, _, _, _, _, headers, _, rfl⟩ := result_assemble_eq_ok.mp made
  rw [Dictionary.keys, List.map_map]
  exact Upstream.names_of_compileHeaders headers

/-- Every key that the section lists finds a route, in its place. -/
theorem constituents_eq_ok :
    s.constituents routes = .ok constituents ↔
      List.Forall₂ (fun key r => findRoute? routes key = some r) s.routeKeys constituents := by
  rw [forall₂_iff_filterMap]
  unfold AggregateSection.constituents
  have complete : (s.routeKeys.filter fun key => (findRoute? routes key).isNone).isEmpty = true ↔
      ∀ key ∈ s.routeKeys, (findRoute? routes key).isSome = true := by
    simp only [List.isEmpty_iff, List.filter_eq_nil_iff, Option.isNone_iff_eq_none,
      Option.isSome_iff_ne_none, ne_eq]
  dsimp only
  split
  · rename_i all
    rw [Except.ok.injEq, iff_and_self]
    exact fun _ => complete.mp all
  · rename_i missing
    simp only [reduceCtorEq, mt complete.mpr missing, false_and]

theorem exists_constituents (known : ∀ key ∈ s.routeKeys, key ∈ routes.filterMap (·.key)) :
    ∃ constituents, s.constituents routes = .ok constituents := by
  refine ⟨s.routeKeys.filterMap (findRoute? routes), ?_⟩
  rw [constituents_eq_ok, forall₂_iff_filterMap]
  exact ⟨fun key listed => isSome_findRoute?_of_mem (known key listed), rfl⟩

theorem keys_of_constituents (found : s.constituents routes = .ok constituents) :
    constituents.map (·.key) = s.routeKeys.map some ∧ ∀ r ∈ constituents, r ∈ routes := by
  have matched := constituents_eq_ok.mp found
  clear found
  generalize s.routeKeys = keys at matched
  induction matched with
  | nil => simp
  | cons first _ ih =>
    obtain ⟨inside, key⟩ := findRoute?_eq_some first
    rw [List.map_cons, List.map_cons, key, ih.1, List.forall_mem_cons]
    exact ⟨rfl, inside, ih.2⟩

end AggregateSection

end GatewayRouting
