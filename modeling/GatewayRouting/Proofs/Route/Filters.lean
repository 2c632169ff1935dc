import GatewayRouting.Proofs.Config.Duplicates
import GatewayRouting.Proofs.Route.Made

/-!
What a route section demands of a request: its filters as they are compiled, and how its methods are read.
-/

set_option autoImplicit false

namespace GatewayRouting

/-- The name of the method that a text stands for. -/
def methodName (written : String) : String := Text.upperAscii (Text.trimmed written)

namespace Upstream

variable {route : String} {written : List String} {methods : List Method}

theorem name_of_parseMethod {method : String} {m : Method} (parsed : parseMethod route method = .ok m) :
    m.name = methodName method := by
  unfold parseMethod at parsed
  rw [methodName]
  generalize Text.upperAscii (Text.trimmed method) = name at parsed
  have known : Method.parse? name = some m := by
    split at parsed
    · rename_i first known
      rwa [Except.ok.inj parsed] at known
    · cases parsed
  unfold Method.parse? at known
  split at known
  · rw [← Option.some.inj known]
  · cases known

theorem isName_of_parseMethod {method : String} {m : Method} (parsed : parseMethod route method = .ok m) :
    isName (methodName method) = true := by
  unfold parseMethod at parsed
  rw [methodName]
  generalize Text.upperAscii (Text.trimmed method) = name at parsed
  by_contra refused
  rw [Method.parse?, if_neg refused] at parsed
  cases parsed

/-- No text in a list of methods is passed over. -/
theorem isName_of_parseMethodsAfter {seen : List Method}
    (parsed : parseMethodsAfter route seen written = .ok methods) :
    ∀ method ∈ written, isName (methodName method) = true := by
  induction written generalizing seen methods with
  | nil => exact fun _ inside => absurd inside List.not_mem_nil
  | cons method rest ih =>
    obtain ⟨first, own, parsed⟩ := bind_eq_ok.mp parsed
    refine List.forall_mem_cons.mpr ⟨isName_of_parseMethod own, ?_⟩
    split at parsed
    · exact ih parsed
    · obtain ⟨others, more, _⟩ := bind_eq_ok.mp parsed
      exact ih more

/-- The methods that are read after those seen are the ones written, each one once. -/
theorem mem_parseMethodsAfter_iff {seen : List Method}
    (parsed : parseMethodsAfter route seen written = .ok methods) (m : Method) :
    m ∈ methods ↔ m ∉ seen ∧ ∃ method ∈ written, m.name = methodName method := by
  -- The methods seen grow on the way, so the induction is over all of them.
  induction written generalizing seen methods with
  | nil =>
    cases parsed
    simp
  | cons method rest ih =>
    obtain ⟨first, own, parsed⟩ := bind_eq_ok.mp parsed
    have named : m.name = methodName method ↔ m = first := by
      rw [← name_of_parseMethod own]
      cases m
      cases first
      simp
    rw [List.exists_mem_cons_iff, named]
    split at parsed
    · rename_i known
      have listed : first ∈ seen := by simpa using known
      rw [ih parsed]
      constructor
      · rintro ⟨fresh, later⟩
        exact ⟨fresh, Or.inr later⟩
      · rintro ⟨fresh, rfl | later⟩
        · exact absurd listed fresh
        · exact ⟨fresh, later⟩
    · rename_i unknown
      have fresh : first ∉ seen := by simpa using unknown
      obtain ⟨others, more, made⟩ := bind_eq_ok.mp parsed
      cases made
      rw [List.mem_cons, ih more, List.mem_cons, not_or]
      by_cases same : m = first
      · simp [same, fresh]
      · simp [same]

theorem mem_parseMethods_iff (parsed : parseMethods route written = .ok methods) (m : Method) :
    m ∈ methods ↔ ∃ method ∈ written, m.name = methodName method := by
  rw [mem_parseMethodsAfter_iff parsed]
  simp

theorem eq_nil_of_parseMethods_iff (parsed : parseMethods route written = .ok methods) :
    methods = [] ↔ written = [] := by
  constructor
  · rintro rfl
    cases written with
    | nil => rfl
    | cons method rest => simpa using mem_parseMethods_iff parsed ⟨methodName method⟩
  · rintro rfl
    cases parsed
    rfl

/-- Methods that are read are shared just when the texts stand for a method in common. -/
theorem sharesMethod_iff {others : List Method} {otherRoute : String} {otherWritten : List String}
    (parsed : parseMethods route written = .ok methods)
    (otherParsed : parseMethods otherRoute otherWritten = .ok others) :
    (methods = [] ∨ others = [] ∨ ∃ m ∈ methods, m ∈ others) ↔
      SharesMethod methodName written otherWritten := by
  unfold SharesMethod
  rw [eq_nil_of_parseMethods_iff parsed, eq_nil_of_parseMethods_iff otherParsed]
  refine or_congr_right (or_congr_right ?_)
  simp only [mem_parseMethods_iff parsed, mem_parseMethods_iff otherParsed]
  constructor
  · rintro ⟨m, ⟨method, inside, own⟩, other, otherInside, same⟩
    exact ⟨method, inside, other, otherInside, own.symm.trans same⟩
  · rintro ⟨method, inside, other, otherInside, same⟩
    exact ⟨⟨methodName method⟩, ⟨method, inside, rfl⟩, other, otherInside, same⟩

end Upstream

/-- The filters of a section as they are compiled. -/
structure RouteSection.CompilesTo (s : RouteSection) (u : Upstream) : Prop where
  template : UpstreamTemplate.compile s.upstreamPathTemplate s.caseSensitive = .ok u.template
  headers : List.Forall₂ (fun e t => HeaderTemplate.compile e.1 e.2 s.caseSensitive = .ok t)
    s.headerTemplates.entries u.headerTemplates
  trigger : u.headerTrigger = s.headerTrigger
  host : u.host = s.upstreamHost
  methods : Upstream.parseMethods s.name s.upstreamMethods = .ok u.methods

namespace RouteSection

variable {s : RouteSection} {global : GlobalSection} {r : Route}

theorem compilesTo_of_assemble (made : (s.assemble global).result = .ok r) : s.CompilesTo r.upstream := by
  obtain ⟨upstream, method, compiled, rfl⟩ := result_assemble_eq_ok.mp made
  obtain ⟨template, headerTemplates, methods, ofPath, headers, parsed, _, rfl⟩ :=
    compileUpstream_eq_ok.mp compiled
  exact
    { template := mapError_eq_ok.mp ofPath
      headers := Upstream.compileHeaders_eq_ok.mp headers
      trigger := rfl
      host := rfl
      methods := parsed }

end RouteSection

end GatewayRouting
