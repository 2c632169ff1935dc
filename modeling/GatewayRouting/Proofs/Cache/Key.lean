import GatewayRouting.Cache
import GatewayRouting.Proofs.Resolution.HostCase
import GatewayRouting.Proofs.Table.RoutingHeaders
import Mathlib.Data.List.Basic

/-!
A cache key holds everything that resolution looks at: two requests of one key resolve alike.
-/

set_option autoImplicit false

namespace GatewayRouting

namespace CacheKey

theorem ofRequest_eq_iff {a b : Request} {routingHeaders : List String} :
    ofRequest a routingHeaders = ofRequest b routingHeaders ↔
      a.method = b.method ∧ a.host.map Text.lowerAscii = b.host.map Text.lowerAscii ∧
        a.path = b.path ∧ a.query = b.query ∧
        ∀ name ∈ routingHeaders, a.headerValues name = b.headerValues name := by
  simp only [ofRequest, mk.injEq, List.map_inj_left]

end CacheKey

namespace Upstream

theorem allowsHost_congr (u : Upstream) {a b : Option String}
    (same : a.map Text.lowerAscii = b.map Text.lowerAscii) : u.allowsHost a = u.allowsHost b := by
  unfold allowsHost
  cases u.host with
  | none => rfl
  | some route =>
    cases a with
    | none =>
      cases b with
      | none => rfl
      | some host => cases same
    | some host =>
      cases b with
      | none => cases same
      | some other => exact Host.accepts_congr route (Option.some.inj same)

theorem captureHeaders_congr (u : Upstream) {a b : Request}
    (same : ∀ t ∈ u.headerTemplates, a.headerValues t.name = b.headerValues t.name) :
    u.captureHeaders a = u.captureHeaders b := by
  have met : (u.headerTemplates.filterMap fun t => t.captureFrom a) =
      u.headerTemplates.filterMap fun t => t.captureFrom b := by
    apply List.filterMap_congr
    intro t inside
    unfold HeaderTemplate.captureFrom
    rw [same t inside]
  simp only [captureHeaders, met]

theorem captures_congr (u : Upstream) {a b : Request} (method : a.method = b.method)
    (host : a.host.map Text.lowerAscii = b.host.map Text.lowerAscii) (path : a.path = b.path)
    (query : a.query = b.query)
    (headers : ∀ t ∈ u.headerTemplates, a.headerValues t.name = b.headerValues t.name) :
    u.captures a = u.captures b := by
  simp only [captures, method, allowsHost_congr u host, path, query, captureHeaders_congr u headers]

end Upstream

namespace Resolution

theorem improve_congr (best : Resolution) (c : Candidate) {a b : Request}
    (same : c.upstream.captures a = c.upstream.captures b) :
    improve a best c = improve b best c := by
  simp only [improve, same]

end Resolution

theorem resolve_congr {candidates : List Candidate} {a b : Request}
    (same : ∀ c ∈ candidates, c.upstream.captures a = c.upstream.captures b) :
    resolve candidates a = resolve candidates b := by
  unfold resolve
  apply List.foldl_ext
  intro best c listed
  exact Resolution.improve_congr best c (same c listed)

/-- The key of a request under its table decides its resolution. -/
theorem RouteTable.resolve_congr_of_key {t : RouteTable} (knows : t.KnowsHeaders) {a b : Request}
    (same : CacheKey.ofRequest a t.routingHeaders = CacheKey.ofRequest b t.routingHeaders) :
    t.resolve a = t.resolve b := by
  obtain ⟨method, host, path, query, headers⟩ := CacheKey.ofRequest_eq_iff.mp same
  apply resolve_congr
  intro c listed
  apply Upstream.captures_congr c.upstream method host path query
  intro template inside
  apply headers
  rw [knows]
  exact mem_headerNames.mpr ⟨c, listed, template, inside, rfl⟩

end GatewayRouting
