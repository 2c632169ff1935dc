import GatewayRouting.Proofs.Cache.Key
import GatewayRouting.State

/-!
Every entry of a snapshot's cache is the resolution of a request by the snapshot's own table.
-/

set_option autoImplicit false

namespace GatewayRouting

namespace ResolutionCache

theorem mem_insert {c : ResolutionCache} {key : CacheKey} {resolution : Resolution}
    {entry : CacheKey × Resolution} (inside : entry ∈ (c.insert key resolution).entries) :
    entry = (key, resolution) ∨ entry ∈ c.entries := by
  unfold insert putEntry at inside
  split at inside
  · exact Or.inr inside
  · dsimp only at inside
    rcases List.mem_cons.mp inside with fresh | kept
    · exact Or.inl fresh
    · have before := (List.mem_filter.mp kept).1
      split at before
      · cases before
      · exact Or.inr before

theorem mem_of_get? {c : ResolutionCache} {key : CacheKey} {resolution : Resolution}
    (found : c.get? key = some resolution) : (key, resolution) ∈ c.entries := by
  unfold get? at found
  obtain ⟨before, after, split, _⟩ := List.lookup_eq_some_iff.mp found
  rw [split]
  simp

end ResolutionCache

namespace Snapshot

/-- The cache answers as the table does. The request of an entry is forgotten, only its key is kept. -/
structure Faithful (s : Snapshot) : Prop where
  knowsHeaders : s.table.KnowsHeaders
  entries : ∀ entry ∈ s.cache.entries,
    ∃ request, entry.1 = s.key request ∧ entry.2 = s.table.resolve request

theorem ofTable_faithful {table : RouteTable} (knows : table.KnowsHeaders) (capacity : Nat) :
    (ofTable table capacity).Faithful := by
  refine ⟨knows, ?_⟩
  intro entry inside
  cases inside

theorem Faithful.remember {s : Snapshot} (faithful : s.Faithful) (request : Request) :
    (s.remember request (s.table.resolve request)).Faithful := by
  refine ⟨faithful.knowsHeaders, ?_⟩
  intro entry inside
  rcases ResolutionCache.mem_insert inside with fresh | kept
  · exact ⟨request, congrArg Prod.fst fresh, congrArg Prod.snd fresh⟩
  · exact faithful.entries entry kept

/-- The entry may come from another request; that one has the same key, so the table answers both alike. -/
theorem Faithful.cached?_eq {s : Snapshot} (faithful : s.Faithful) {request : Request}
    {resolution : Resolution} (hit : s.cached? request = some resolution) :
    resolution = s.table.resolve request := by
  obtain ⟨other, sameKey, answer⟩ :=
    faithful.entries _ (ResolutionCache.mem_of_get? hit)
  rw [show resolution = s.table.resolve other from answer]
  exact RouteTable.resolve_congr_of_key faithful.knowsHeaders sameKey.symm

end Snapshot

end GatewayRouting
