import GatewayRouting.Proofs.Document.ReadBack
import GatewayRouting.Proofs.Period.Writing

/-!
Every section of a configuration is read back from its document, field by field.
-/

set_option autoImplicit false

namespace GatewayRouting

namespace Configuration

/-- The sections of one kind, wherever they stand in a configuration. -/
def everywhere {α : Type} (ofRoute : RouteSection → Option α) (ofDynamic : DynamicSection → Option α)
    (ofGlobal : GlobalSection → Option α) (c : Configuration) : List α :=
  c.routes.filterMap ofRoute ++ c.dynamicRoutes.filterMap ofDynamic ++ (ofGlobal c.global).toList

def rateLimits : Configuration → List RateLimitSection := everywhere (·.rateLimit) (·.rateLimit) (·.rateLimit)

def qosSections : Configuration → List QosSection := everywhere (·.qos) (·.qos) (·.qos)

def periods (c : Configuration) : List Period := c.rateLimits.filterMap (·.period)

def doubles (c : Configuration) : List Binary64 :=
  c.rateLimits.filterMap (·.periodTimespan) ++ c.qosSections.filterMap (·.failureRatio)

theorem forall_mem_everywhere {α : Type} {ofRoute : RouteSection → Option α} {ofDynamic : DynamicSection → Option α}
    {ofGlobal : GlobalSection → Option α} {c : Configuration} {P : α → Prop} :
    (∀ a ∈ everywhere ofRoute ofDynamic ofGlobal c, P a) ↔
      (∀ s ∈ c.routes, ∀ a ∈ ofRoute s, P a) ∧ (∀ s ∈ c.dynamicRoutes, ∀ a ∈ ofDynamic s, P a) ∧
        ∀ a ∈ ofGlobal c.global, P a := by
  simp only [everywhere, List.forall_mem_append, List.forall_mem_filterMap, Option.mem_toList, Option.mem_def,
    and_assoc]

end Configuration

namespace ReadsBack

open Decode

theorem period {p : Period} (short : p.millis ≤ 2 ^ 53) : ReadsBack Decode.period Encode.period p := by
  refine ⟨?_, rfl⟩
  change (Period.parse p.toText).toOption = some p
  rw [Period.parse_toText short]
  rfl

theorem hostAndPort (s : HostAndPort) : ReadsBack Decode.hostAndPort Encode.hostAndPort s := by
  refine ⟨?_, rfl⟩
  exact fields_bind rfl (by simp [hostAndPortNames]) fun _ unread =>
    required_bind unread (text s.host) fun unread =>
    required_bind unread (word16 s.port) fun _ => rfl

theorem hostReference_of_record {v : Value} {entries : List (Value × Value)}
    (plain : settled v = some (.record entries)) :
    Decode.hostReference v = (Decode.hostAndPort (.record entries)).map HostReference.inline := by
  rw [Decode.hostReference, plain]
  rfl

theorem hostReference (r : HostReference) : ReadsBack Decode.hostReference Encode.hostReference r := by
  cases r with
  | named name => exact ⟨rfl, rfl⟩
  | inline address =>
    refine ⟨(hostReference_of_record rfl).trans ?_, rfl⟩
    exact congrArg (Option.map HostReference.inline) (hostAndPort address).read_write

theorem authentication (s : AuthenticationSection) : ReadsBack Decode.authentication Encode.authentication s := by
  refine ⟨?_, rfl⟩
  exact fields_bind rfl (by simp [authenticationNames]) fun _ unread =>
    optional_bind unread (fun t _ => text t) fun unread =>
    withDefault_bind unread (texts s.providerKeys) fun unread =>
    withDefault_bind unread (texts s.allowedScopes) fun unread =>
    optional_bind unread (fun b _ => bool b) fun _ => rfl

theorem cache (s : CacheSection) : ReadsBack Decode.cache Encode.cache s := by
  refine ⟨?_, rfl⟩
  exact fields_bind rfl (by simp [cacheNames]) fun _ unread =>
    optional_bind unread (fun n _ => word64 n) fun unread =>
    optional_bind unread (fun t _ => text t) fun unread =>
    optional_bind unread (fun t _ => text t) fun unread =>
    optional_bind unread (fun b _ => bool b) fun _ => rfl

theorem loadBalancer (s : LoadBalancerSection) : ReadsBack Decode.loadBalancer Encode.loadBalancer s := by
  refine ⟨?_, rfl⟩
  exact fields_bind rfl (by simp [loadBalancerNames]) fun _ unread =>
    optional_bind unread (fun a _ => loadBalancerType a) fun unread =>
    optional_bind unread (fun t _ => text t) fun unread =>
    optional_bind unread (fun n _ => word64 n) fun _ => rfl

theorem rateLimit {s : RateLimitSection} (short : ∀ p ∈ s.period, p.millis ≤ 2 ^ 53) :
    ReadsBack Decode.rateLimit Encode.rateLimit s := by
  refine ⟨?_, rfl⟩
  exact fields_bind rfl (by simp [rateLimitNames]) fun _ unread =>
    optional_bind unread (fun b _ => bool b) fun unread =>
    optional_bind unread (fun a _ => texts a) fun unread =>
    optional_bind unread (fun p given => period (short p given)) fun unread =>
    optional_bind unread (fun x _ => double x) fun unread =>
    optional_bind unread (fun n _ => word64 n) fun unread =>
    optional_bind unread (fun t _ => text t) fun unread =>
    optional_bind unread (fun t _ => text t) fun unread =>
    optional_bind unread (fun n _ => word16 n) fun unread =>
    optional_bind unread (fun b _ => bool b) fun unread =>
    optional_bind unread (fun t _ => text t) fun unread =>
    withDefault_bind unread (texts s.routeKeys) fun _ => rfl

theorem qos (s : QosSection) : ReadsBack Decode.qos Encode.qos s := by
  refine ⟨?_, rfl⟩
  exact fields_bind rfl (by simp [qosNames]) fun _ unread =>
    optional_bind unread (fun n _ => word32 n) fun unread =>
    optional_bind unread (fun n _ => word64 n) fun unread =>
    optional_bind unread (fun n _ => word64 n) fun unread =>
    optional_bind unread (fun n _ => word64 n) fun unread =>
    optional_bind unread (fun x _ => double x) fun _ => rfl

theorem httpHandler (s : HttpHandlerSection) : ReadsBack Decode.httpHandler Encode.httpHandler s := by
  refine ⟨?_, rfl⟩
  exact fields_bind rfl (by simp [httpHandlerNames]) fun _ unread =>
    optional_bind unread (fun b _ => bool b) fun unread =>
    optional_bind unread (fun b _ => bool b) fun unread =>
    optional_bind unread (fun b _ => bool b) fun unread =>
    optional_bind unread (fun b _ => bool b) fun unread =>
    optional_bind unread (fun n _ => word64 n) fun unread =>
    optional_bind unread (fun n _ => word64 n) fun _ => rfl

theorem security (s : SecuritySection) : ReadsBack Decode.security Encode.security s := by
  refine ⟨?_, rfl⟩
  exact fields_bind rfl (by simp [securityNames]) fun _ unread =>
    withDefault_bind unread (texts s.allowedList) fun unread =>
    withDefault_bind unread (texts s.blockedList) fun unread =>
    withDefault_bind unread (bool s.excludeAllowedFromBlocked) fun _ => rfl

theorem provider (s : ProviderSection) : ReadsBack Decode.provider Encode.provider s := by
  refine ⟨?_, rfl⟩
  exact fields_bind rfl (by simp [providerNames]) fun _ unread =>
    required_bind unread (text s.type) fun unread =>
    optional_bind unread (fun t _ => text t) fun unread =>
    optional_bind unread (fun n _ => word16 n) fun unread =>
    optional_bind unread (fun t _ => text t) fun unread =>
    optional_bind unread (fun t _ => text t) fun _ => rfl

theorem route {s : RouteSection} (short : ∀ r ∈ s.rateLimit, ∀ p ∈ r.period, p.millis ≤ 2 ^ 53) :
    ReadsBack Decode.route Encode.route s := by
  refine ⟨?_, rfl⟩
  exact fields_bind rfl (by simp [routeNames]) fun _ unread =>
    required_bind unread (text s.downstreamPathTemplate) fun unread =>
    optional_bind unread (fun t _ => text t) fun unread =>
    withDefault_bind unread (list fun a _ => hostReference a) fun unread =>
    optional_bind unread (fun t _ => text t) fun unread =>
    optional_bind unread (fun t _ => text t) fun unread =>
    optional_bind unread (fun a _ => versionPolicy a) fun unread =>
    required_bind unread (text s.upstreamPathTemplate) fun unread =>
    withDefault_bind unread (texts s.upstreamMethods) fun unread =>
    optional_bind unread (fun t _ => text t) fun unread =>
    withDefault_bind unread (table s.headerTemplates) fun unread =>
    withDefault_bind unread (headerTrigger s.headerTrigger) fun unread =>
    withDefault_bind unread (bool s.caseSensitive) fun unread =>
    optional_bind unread (fun t _ => text t) fun unread =>
    optional_bind unread (fun t _ => text t) fun unread =>
    optional_bind unread (fun t _ => text t) fun unread =>
    optional_bind unread (fun a _ => authentication a) fun unread =>
    withDefault_bind unread (table s.addHeaders) fun unread =>
    withDefault_bind unread (table s.addClaims) fun unread =>
    withDefault_bind unread (table s.addQueries) fun unread =>
    withDefault_bind unread (table s.changeDownstreamPath) fun unread =>
    withDefault_bind unread (table s.claimsRequirement) fun unread =>
    optional_bind unread (fun a _ => cache a) fun unread =>
    optional_bind unread (fun a _ => loadBalancer a) fun unread =>
    optional_bind unread (fun r given => rateLimit (short r given)) fun unread =>
    optional_bind unread (fun a _ => qos a) fun unread =>
    optional_bind unread (fun a _ => httpHandler a) fun unread =>
    withDefault_bind unread (table s.upstreamHeaderTransform) fun unread =>
    withDefault_bind unread (table s.downstreamHeaderTransform) fun unread =>
    withDefault_bind unread (texts s.delegatingHandlers) fun unread =>
    optional_bind unread (fun a _ => security a) fun unread =>
    withDefault_bind unread (table s.metadata) fun unread =>
    optional_bind unread (fun t _ => text t) fun unread =>
    optional_bind unread (fun n _ => word64 n) fun unread =>
    withDefault_bind unread (bool s.acceptAnyServerCertificate) fun _ => rfl

theorem dynamic {s : DynamicSection} (short : ∀ r ∈ s.rateLimit, ∀ p ∈ r.period, p.millis ≤ 2 ^ 53) :
    ReadsBack Decode.dynamic Encode.dynamic s := by
  refine ⟨?_, rfl⟩
  exact fields_bind rfl (by simp [dynamicNames]) fun _ unread =>
    required_bind unread (text s.serviceName) fun unread =>
    optional_bind unread (fun t _ => text t) fun unread =>
    optional_bind unread (fun t _ => text t) fun unread =>
    optional_bind unread (fun t _ => text t) fun unread =>
    optional_bind unread (fun a _ => versionPolicy a) fun unread =>
    optional_bind unread (fun r given => rateLimit (short r given)) fun unread =>
    optional_bind unread (fun a _ => loadBalancer a) fun unread =>
    optional_bind unread (fun a _ => cache a) fun unread =>
    optional_bind unread (fun a _ => qos a) fun unread =>
    optional_bind unread (fun a _ => authentication a) fun unread =>
    optional_bind unread (fun a _ => httpHandler a) fun unread =>
    withDefault_bind unread (table s.metadata) fun unread =>
    optional_bind unread (fun n _ => word64 n) fun _ => rfl

theorem aggregate (s : AggregateSection) : ReadsBack Decode.aggregate Encode.aggregate s := by
  refine ⟨?_, rfl⟩
  exact fields_bind rfl (by simp [aggregateNames]) fun _ unread =>
    required_bind unread (texts s.routeKeys) fun unread =>
    required_bind unread (text s.upstreamPathTemplate) fun unread =>
    optional_bind unread (fun t _ => text t) fun unread =>
    withDefault_bind unread (texts s.upstreamMethods) fun unread =>
    withDefault_bind unread (table s.headerTemplates) fun unread =>
    withDefault_bind unread (headerTrigger s.headerTrigger) fun unread =>
    withDefault_bind unread (bool s.caseSensitive) fun unread =>
    optional_bind unread (fun t _ => text t) fun _ => rfl

theorem global {s : GlobalSection} (short : ∀ r ∈ s.rateLimit, ∀ p ∈ r.period, p.millis ≤ 2 ^ 53) :
    ReadsBack Decode.global Encode.global s := by
  refine ⟨?_, rfl⟩
  exact fields_bind rfl (by simp [globalNames]) fun _ unread =>
    optional_bind unread (fun t _ => text t) fun unread =>
    optional_bind unread (fun t _ => text t) fun unread =>
    optional_bind unread (fun t _ => text t) fun unread =>
    optional_bind unread (fun a _ => versionPolicy a) fun unread =>
    withDefault_bind unread (dictionary fun e _ => hostAndPort e.2) fun unread =>
    optional_bind unread (fun t _ => text t) fun unread =>
    optional_bind unread (fun a _ => provider a) fun unread =>
    optional_bind unread (fun n _ => word64 n) fun unread =>
    optional_bind unread (fun a _ => authentication a) fun unread =>
    optional_bind unread (fun a _ => cache a) fun unread =>
    optional_bind unread (fun a _ => loadBalancer a) fun unread =>
    optional_bind unread (fun r given => rateLimit (short r given)) fun unread =>
    optional_bind unread (fun a _ => qos a) fun unread =>
    optional_bind unread (fun a _ => httpHandler a) fun unread =>
    optional_bind unread (fun a _ => security a) fun unread =>
    withDefault_bind unread (table s.upstreamHeaderTransform) fun unread =>
    withDefault_bind unread (table s.downstreamHeaderTransform) fun unread =>
    withDefault_bind unread (table s.metadata) fun _ => rfl

theorem configuration {c : Configuration} (short : ∀ p ∈ c.periods, p.millis ≤ 2 ^ 53) :
    ReadsBack Decode.configuration Encode.configuration c := by
  refine ⟨?_, rfl⟩
  have limited : ∀ r ∈ c.rateLimits, ∀ p ∈ r.period, p.millis ≤ 2 ^ 53 := fun r listed p given =>
    short p (List.mem_filterMap.mpr ⟨r, listed, given⟩)
  obtain ⟨ofRoutes, ofDynamic, ofGlobal⟩ := Configuration.forall_mem_everywhere.mp limited
  exact fields_bind rfl (by simp [configurationNames]) fun _ unread =>
    withDefault_bind unread (list fun s listed => route (ofRoutes s listed)) fun unread =>
    withDefault_bind unread (list fun s listed => dynamic (ofDynamic s listed)) fun unread =>
    withDefault_bind unread (list fun s _ => aggregate s) fun unread =>
    withDefault_bind unread (global ofGlobal) fun _ => rfl

end ReadsBack

end GatewayRouting
