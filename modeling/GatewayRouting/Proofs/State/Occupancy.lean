import GatewayRouting.Proofs.Cache.Occupancy
import GatewayRouting.Proofs.State.Run

/-!
What requests find in the cache of a routing state, one after another. A miss adds to the cache and a hit
changes nothing, so what is held follows from the misses and from the requests since it was last emptied.
-/

set_option autoImplicit false

namespace GatewayRouting

theorem Metrics.cacheHits_countResolution (m : Metrics) (resolution : Resolution) :
    (m.countResolution resolution).cacheHits = m.cacheHits := by
  cases resolution <;> rfl

namespace RoutingState

/-- A hit is counted, and a miss is not. -/
theorem cacheHits_resolve (s : RoutingState) (request : Request) :
    (s.resolve request).2.metrics.cacheHits =
      s.metrics.cacheHits + if (s.snapshot.cached? request).isSome then 1 else 0 := by
  cases found : s.snapshot.cached? request with
  | some resolution =>
    rw [resolve_of_hit found]
    exact Metrics.cacheHits_countResolution _ _
  | none =>
    rw [resolve_of_miss found]
    exact Metrics.cacheHits_countResolution _ _

end RoutingState

/-- A routing state, and what its calls have met in the cache since its table was put in place. -/
structure Watched where
  state : RoutingState
  /-- The calls that did not find their key in the cache. -/
  misses : Nat
  /-- The requests since the cache was last emptied, with the one that had it emptied, the latest first. -/
  since : List Request

namespace Watched

def ofState (s : RoutingState) : Watched := ⟨s, 0, []⟩

def cache (w : Watched) : ResolutionCache := w.state.snapshot.cache

/-- A call that finds a full cache and not its key has the cache emptied. -/
def resolve (w : Watched) (request : Request) : Watched :=
  match w.state.snapshot.cached? request with
  | some _ => ⟨(w.state.resolve request).2, w.misses, request :: w.since⟩
  | none =>
    ⟨(w.state.resolve request).2, w.misses + 1,
      if w.cache.capacity ≤ w.cache.size then [request] else request :: w.since⟩

def run (w : Watched) (requests : List Request) : Watched := requests.foldl resolve w

variable {w : Watched} {request : Request}

theorem state_resolve (w : Watched) (request : Request) :
    (w.resolve request).state = (w.state.resolve request).2 := by
  unfold resolve
  split <;> rfl

/-- The calls are those of a run. -/
theorem state_run (w : Watched) (requests : List Request) :
    (w.run requests).state = (w.state.run (requests.map .resolve)).2 := by
  induction requests generalizing w with
  | nil => rfl
  | cons request rest ih =>
    rw [run, List.foldl_cons, ← run, ih, state_resolve]
    rfl

/-- A call is a hit or a miss. -/
theorem counts_resolve (w : Watched) (request : Request) :
    (w.resolve request).state.metrics.cacheHits + (w.resolve request).misses =
      w.state.metrics.cacheHits + w.misses + 1 := by
  rw [state_resolve, RoutingState.cacheHits_resolve]
  cases found : w.state.snapshot.cached? request with
  | some resolution =>
    simp only [resolve, found, Option.isSome_some, if_true]
    omega
  | none =>
    simp only [resolve, found, Option.isSome_none, Bool.false_eq_true, if_false]
    omega

theorem counts_run (w : Watched) (requests : List Request) :
    (w.run requests).state.metrics.cacheHits + (w.run requests).misses =
      w.state.metrics.cacheHits + w.misses + requests.length := by
  induction requests generalizing w with
  | nil => rfl
  | cons request rest ih =>
    rw [run, List.foldl_cons, ← run, ih, counts_resolve, List.length_cons]
    omega

/-- The cache is that of the table, with the room it had at the start, and holds what has been watched. -/
structure Holds (table : RouteTable) (capacity : Nat) (w : Watched) : Prop where
  sameTable : w.state.snapshot.table = table
  sameCapacity : w.cache.capacity = capacity
  cache : w.cache.Holds w.misses (w.since.map (.ofRequest · table.routingHeaders))

variable {table : RouteTable} {capacity : Nat}

theorem ofState_holds (table : RouteTable) (capacity : Nat) (metrics : Metrics) :
    Holds table capacity (ofState ⟨.ofTable table capacity, capacity, metrics⟩) where
  sameTable := rfl
  sameCapacity := rfl
  cache := ResolutionCache.empty_holds capacity

theorem Holds.key_eq (holds : Holds table capacity w) (request : Request) :
    w.state.snapshot.key request = .ofRequest request table.routingHeaders := by
  rw [Snapshot.key, holds.sameTable]

theorem Holds.resolve (holds : Holds table capacity w) (request : Request) :
    Holds table capacity (w.resolve request) := by
  unfold Watched.resolve
  split
  · rename_i resolution hit
    have known : w.state.snapshot.key request ∈ w.cache.keys :=
      ResolutionCache.isSome_get?_iff.mp (Option.isSome_iff_exists.mpr ⟨resolution, hit⟩)
    have kept := holds.cache.of_hit known
    rw [holds.key_eq] at kept
    rw [RoutingState.resolve_of_hit hit]
    exact ⟨holds.sameTable, holds.sameCapacity, kept⟩
  · rename_i miss
    have grown := holds.cache.of_miss miss (w.state.table.resolve request)
    have since : (if w.cache.capacity ≤ w.cache.size then [request] else request :: w.since).map
        (.ofRequest · table.routingHeaders) =
        if w.cache.capacity ≤ w.cache.size then [w.state.snapshot.key request]
        else w.state.snapshot.key request :: w.since.map (.ofRequest · table.routingHeaders) := by
      rw [apply_ite (List.map _), holds.key_eq]
      rfl
    rw [RoutingState.resolve_of_miss miss]
    refine ⟨holds.sameTable, ?_, ?_⟩
    · exact (ResolutionCache.capacity_insert _ _ _).trans holds.sameCapacity
    · rw [since]
      exact grown

theorem Holds.run (holds : Holds table capacity w) (requests : List Request) :
    Holds table capacity (w.run requests) := by
  induction requests generalizing w with
  | nil => exact holds
  | cons request rest ih => exact ih (holds.resolve request)

/-- A key is found when it was asked for since the cache was last emptied. -/
theorem Holds.isSome_cached?_iff (holds : Holds table capacity w) (request : Request) :
    (w.state.snapshot.cached? request).isSome = true ↔
      0 < capacity ∧ ∃ r ∈ w.since,
        CacheKey.ofRequest r table.routingHeaders = .ofRequest request table.routingHeaders := by
  rw [← holds.sameCapacity, ← List.mem_map, Snapshot.cached?, holds.key_eq, ResolutionCache.isSome_get?_iff]
  constructor
  · intro found
    have filled : 0 < w.cache.size := by
      obtain ⟨entry, inside, _⟩ := List.mem_map.mp found
      exact List.length_pos_of_mem inside
    have room : 0 < w.cache.capacity := Nat.lt_of_lt_of_le filled holds.cache.size_le
    exact ⟨room, (holds.cache.mem_keys room _).mp found⟩
  · rintro ⟨room, asked⟩
    exact (holds.cache.mem_keys room _).mpr asked

end Watched

namespace RoutingState

open Watched

/-- Requests to a table that was just put in place, one after another. A cache without room stays empty. Another
one holds an entry for each miss since it was last emptied, under keys that all differ, and never more than it
has room for. The next request is counted as a hit exactly when its key was asked for since the cache was last
emptied, and the requests are hits and misses together. -/
theorem run_occupies_cache (table : RouteTable) (capacity : Nat) (metrics : Metrics)
    (requests : List Request) :
    let start : RoutingState := ⟨.ofTable table capacity, capacity, metrics⟩
    let watched := (ofState start).run requests
    watched.state = (start.run (requests.map .resolve)).2 ∧
      watched.cache.size = (if capacity = 0 ∨ watched.misses = 0 then 0
        else (watched.misses - 1) % capacity + 1) ∧
      watched.cache.size ≤ capacity ∧ watched.cache.keys.Nodup ∧
      (∀ request, (watched.state.resolve request).2.metrics.cacheHits =
        watched.state.metrics.cacheHits +
          if 0 < capacity ∧ ∃ r ∈ watched.since, CacheKey.ofRequest r table.routingHeaders =
              .ofRequest request table.routingHeaders then 1 else 0) ∧
      watched.state.metrics.cacheHits + watched.misses = metrics.cacheHits + requests.length := by
  intro start watched
  have holds : Holds table capacity watched := (ofState_holds table capacity metrics).run requests
  refine ⟨state_run _ _, ?_, ?_, holds.cache.distinct, fun request => ?_, counts_run _ _⟩
  · rw [← holds.sameCapacity]
    exact holds.cache.size
  · rw [← holds.sameCapacity]
    exact holds.cache.size_le
  · rw [cacheHits_resolve]
    simp only [holds.isSome_cached?_iff]

/-- The third key finds the cache full, so the first one is missing again. -/
example :
    let requests : List Request := ["/a", "/b", "/a", "/c"].map (⟨⟨"GET"⟩, ·, none, none, []⟩)
    let watched := (ofState ⟨.ofTable .empty 2, 2, {}⟩).run requests
    (watched.cache.size, watched.misses, watched.state.metrics.cacheHits, watched.since.map (·.path)) =
      (1, 3, 1, ["/c"]) := by
  decide

end RoutingState

end GatewayRouting
