import GatewayRouting.Proofs.Table.Composition
import GatewayRouting.Proofs.Template.Faults

/-!
What can still go wrong when a table is made of a configuration that passed the checks: a method that is none,
or a template whose fault lies behind its first slash. Keys that aggregates list are known by then.
-/

set_option autoImplicit false

namespace GatewayRouting

/-- The faults that the checks leave to the assembly. -/
inductive AssemblyError.AfterChecks : AssemblyError → Prop
  | template (route : String) {cause : TemplateError} (inner : cause.AfterSlash) :
      AfterChecks (.template route cause)
  | invalidMethod (route method : String) : AfterChecks (.invalidMethod route method)

open AssemblyError (AfterChecks)

namespace Upstream

theorem compileTemplate_faults {route template : String}
    (initial : Configuration.startsWithSlash template = true) (caseSensitive : Bool) :
    FailsWith AfterChecks (compileTemplate route template caseSensitive) :=
  (UpstreamTemplate.compile_faults initial caseSensitive).mapError fun _ => .template route

theorem compileHeaders_faults (route : String) (caseSensitive : Bool)
    (entries : List (String × String)) :
    FailsWith AfterChecks (compileHeaders route caseSensitive entries) := by
  induction entries with
  | nil => exact .ok []
  | cons entry rest ih =>
    obtain ⟨name, template⟩ := entry
    have first := (HeaderTemplate.compile_faults name template caseSensitive).mapError
      (fun _ => AfterChecks.template route)
    exact first.bind fun compiled _ => ih.bind fun others _ => .ok (compiled :: others)

theorem parseMethod_faults (route method : String) :
    FailsWith AfterChecks (parseMethod route method) := by
  unfold parseMethod
  split
  · exact .ok _
  · exact .error (.invalidMethod route method)

theorem parseMethods_faults (route : String) (methods : List String) :
    FailsWith AfterChecks (parseMethods route methods) := by
  unfold parseMethods
  generalize [] = seen
  induction methods generalizing seen with
  | nil => exact .ok []
  | cons method rest ih =>
    apply (parseMethod_faults route method).bind
    intro m _
    split
    · exact ih seen
    · exact (ih (m :: seen)).bind fun others _ => .ok (m :: others)

end Upstream

theorem RouteSection.assemble_faults {s : RouteSection}
    (initial : Configuration.startsWithSlash s.upstreamPathTemplate = true) (global : GlobalSection) :
    FailsWith AfterChecks (s.assemble global).result := by
  have compiled : FailsWith AfterChecks s.compileUpstream := by
    unfold compileUpstream
    apply (Upstream.compileTemplate_faults initial _).bind
    intro template _
    apply (Upstream.compileHeaders_faults s.name _ _).bind
    intro headerTemplates _
    apply (Upstream.parseMethods_faults s.name _).bind
    intro methods _
    cases s.downstreamHttpMethod with
    | none => exact .ok _
    | some m => exact ((Upstream.parseMethod_faults s.name m).map some).bind fun method _ => .ok _
  unfold assemble
  refine Assembly.bind_faults (Assembly.ofExcept_faults compiled) fun made _ => ?_
  exact Assembly.lift_faults _

theorem DynamicSection.assemble_faults (s : DynamicSection) (global : GlobalSection) :
    FailsWith AfterChecks (s.assemble global).result := by
  have initial : Configuration.startsWithSlash s.upstreamTemplate = true := by
    simp [Configuration.startsWithSlash, upstreamTemplate]
  unfold assemble
  refine Assembly.bind_faults
    (Assembly.ofExcept_faults (Upstream.compileTemplate_faults initial false)) fun template _ => ?_
  refine Assembly.bind_faults (Assembly.lift_faults _) fun _ _ => ?_
  refine Assembly.bind_faults (Assembly.lift_faults _) fun downstream _ => ?_
  exact Assembly.pure_faults _

theorem CatchAll.assemble_faults (global : GlobalSection) :
    FailsWith AfterChecks (CatchAll.assemble global).result := by
  have initial : Configuration.startsWithSlash upstreamTemplate = true := by decide
  unfold assemble
  refine Assembly.bind_faults
    (Assembly.ofExcept_faults (Upstream.compileTemplate_faults initial false)) fun template _ => ?_
  refine Assembly.bind_faults (Assembly.lift_faults _) fun downstream _ => ?_
  exact Assembly.pure_faults _

theorem AggregateSection.assemble_faults {s : AggregateSection} {routes : List Route}
    (initial : Configuration.startsWithSlash s.upstreamPathTemplate = true)
    (known : ∀ key ∈ s.routeKeys, key ∈ routes.filterMap (·.key)) :
    FailsWith AfterChecks (s.assemble routes).result := by
  have found : FailsWith AfterChecks (s.constituents routes) := by
    obtain ⟨constituents, found⟩ := exists_constituents known
    rw [found]
    exact .ok constituents
  unfold assemble
  refine Assembly.bind_faults (Assembly.ofExcept_faults found) fun constituents _ => ?_
  refine Assembly.bind_faults
    (Assembly.ofExcept_faults (Upstream.compileTemplate_faults initial _)) fun template _ => ?_
  refine Assembly.bind_faults
    (Assembly.ofExcept_faults (Upstream.compileHeaders_faults _ _ _)) fun headerTemplates _ => ?_
  refine Assembly.bind_faults (Assembly.lift_faults _) fun _ _ => ?_
  refine Assembly.bind_faults
    (Assembly.ofExcept_faults (Upstream.parseMethods_faults _ _)) fun methods _ => ?_
  exact Assembly.pure_faults _

namespace RouteTable

theorem assembleCatchAll_faults (config : Configuration) :
    FailsWith AfterChecks (assembleCatchAll config).result := by
  unfold assembleCatchAll
  split
  · refine Assembly.bind_faults (Assembly.lift_faults _) fun _ _ => ?_
    refine Assembly.bind_faults (CatchAll.assemble_faults config.global) fun route _ => ?_
    exact Assembly.pure_faults [route]
  · exact Assembly.pure_faults []

/-- A configuration that passed the checks becomes a table, or fails with one of the faults that they leave:
no aggregate lists a key that is unknown, and no template is empty or without its slash. -/
theorem ofConfiguration_faults {config : Configuration} {capabilities : Capabilities}
    (accepted : config.validate capabilities = .ok ()) :
    FailsWith AfterChecks (ofConfiguration config).result := by
  have valid := Configuration.validate_eq_ok.mp accepted
  have declared : FailsWith AfterChecks (Assembly.each (·.assemble config.global) config.routes).result :=
    Assembly.each_faults fun s listed => s.assemble_faults (valid.routes s listed).upstream _
  have aggregated : ∀ routes : List Route, routes.filterMap (·.key) = config.keys →
      FailsWith AfterChecks (Assembly.each (·.assemble routes) config.aggregates).result := by
    intro routes keys
    apply Assembly.each_faults
    intro s listed
    have checked := valid.aggregates s listed
    apply s.assemble_faults checked.upstream
    rw [keys]
    exact checked.known
  have looked : FailsWith AfterChecks
      (Assembly.each (·.assemble config.global) config.dynamicRoutes).result :=
    Assembly.each_faults fun s _ => s.assemble_faults _
  unfold ofConfiguration
  refine Assembly.bind_faults declared fun routes made => ?_
  have keys := RouteSection.keys_of_assemble (Assembly.result_each_eq_ok.mp made)
  refine Assembly.bind_faults (aggregated routes keys) fun aggregates _ => ?_
  refine Assembly.bind_faults looked fun dynamics _ => ?_
  refine Assembly.bind_faults (assembleCatchAll_faults config) fun catchAll _ => ?_
  exact Assembly.bind_faults (Assembly.lift_faults _) fun _ _ => Assembly.pure_faults _

/-- An aggregate that finds its route and has a brace that is never closed. -/
def unbalancedConfiguration : Configuration where
  routes :=
    [{ downstreamPathTemplate := "/", downstreamHosts := [.inline ⟨"b", 80⟩]
       upstreamPathTemplate := "/a", key := some "a" }]
  aggregates := [{ routeKeys := ["a"], upstreamPathTemplate := "/all\x7b" }]

theorem ofConfiguration_faults_of_unbalanced :
    unbalancedConfiguration.validate {} = .ok () ∧
      (ofConfiguration unbalancedConfiguration).result =
        .error (.template "/all\x7b" (.unbalancedBraces "/all\x7b")) ∧
      AfterChecks (.template "/all\x7b" (.unbalancedBraces "/all\x7b")) := by
  have accepted : unbalancedConfiguration.validate {} = .ok () := by rfl
  have failed : (ofConfiguration unbalancedConfiguration).result =
      .error (.template "/all\x7b" (.unbalancedBraces "/all\x7b")) := by rfl
  exact ⟨accepted, failed, ofConfiguration_faults accepted _ failed⟩

end RouteTable

end GatewayRouting
