import GatewayRouting.Proofs.Cache.Faithful
import GatewayRouting.Proofs.State.Run
import Mathlib.Logic.Function.Iterate

/-!
How a request comes to its answer on the snapshot that it holds, in steps that each look at the cache or
change it once at most. Other requests may take steps of their own in between.
-/

set_option autoImplicit false

namespace GatewayRouting

namespace ResolutionCache

/-- The cache without its entries. -/
def cleared (c : ResolutionCache) : ResolutionCache := { c with entries := [] }

/-- The cache with one more entry, whatever its size. -/
def put (c : ResolutionCache) (key : CacheKey) (resolution : Resolution) : ResolutionCache :=
  { c with entries := putEntry key resolution c.entries }

theorem insert_eq (c : ResolutionCache) (key : CacheKey) (resolution : Resolution) :
    c.insert key resolution =
      if c.capacity = 0 then c
      else if c.capacity ≤ c.size then c.cleared.put key resolution
      else c.put key resolution := by
  unfold insert
  split
  · rfl
  · split <;> rfl

theorem mem_put {c : ResolutionCache} {key : CacheKey} {resolution : Resolution}
    {entry : CacheKey × Resolution} (inside : entry ∈ (c.put key resolution).entries) :
    entry = (key, resolution) ∨ entry ∈ c.entries := by
  rcases List.mem_cons.mp inside with fresh | kept
  · exact Or.inl fresh
  · exact Or.inr (List.mem_filter.mp kept).1

end ResolutionCache

namespace Snapshot

variable {s : Snapshot}

theorem Faithful.cleared (faithful : s.Faithful) : { s with cache := s.cache.cleared }.Faithful := by
  refine ⟨faithful.knowsHeaders, ?_⟩
  intro entry inside
  cases inside

theorem Faithful.put (faithful : s.Faithful) (request : Request) :
    { s with cache := s.cache.put (s.key request) (s.table.resolve request) }.Faithful := by
  refine ⟨faithful.knowsHeaders, ?_⟩
  intro entry inside
  rcases ResolutionCache.mem_put inside with fresh | kept
  · exact ⟨request, congrArg Prod.fst fresh, congrArg Prod.snd fresh⟩
  · exact faithful.entries entry kept

/-- Of all requests that have the key of an entry, not only of the one that made it. -/
theorem Faithful.entry_eq (faithful : s.Faithful) {entry : CacheKey × Resolution}
    (inside : entry ∈ s.cache.entries) {request : Request} (sameKey : entry.1 = s.key request) :
    entry.2 = s.table.resolve request := by
  obtain ⟨other, key, answer⟩ := faithful.entries entry inside
  rw [answer]
  exact RouteTable.resolve_congr_of_key faithful.knowsHeaders (key.symm.trans sameKey)

end Snapshot

/-- How far a request has come on its snapshot. -/
inductive Progress where
  /-- It will look for its key in the cache. -/
  | looking
  /-- It was not found there and will be resolved. -/
  | missed
  /-- It is resolved, and will see how full the cache is. -/
  | resolved (resolution : Resolution)
  /-- It found the cache full and will empty it. -/
  | clearing (resolution : Resolution)
  /-- It will put its resolution into the cache. -/
  | storing (resolution : Resolution)
  | answered (resolution : Resolution)

namespace Progress

/-- The resolution that the request has, once it has one. -/
def resolution? : Progress → Option Resolution
  | looking => none
  | missed => none
  | resolved r => some r
  | clearing r => some r
  | storing r => some r
  | answered r => some r

def answer? : Progress → Option Resolution
  | answered r => some r
  | _ => none

/-- The next step of the request on its snapshot. -/
def next (request : Request) (s : Snapshot) : Progress → Progress × Snapshot
  | looking =>
    match s.cached? request with
    | some r => (answered r, s)
    | none => (missed, s)
  | missed => (resolved (s.table.resolve request), s)
  | resolved r =>
    if s.cache.capacity = 0 then (answered r, s)
    else if s.cache.capacity ≤ s.cache.size then (clearing r, s)
    else (storing r, s)
  | clearing r => (storing r, { s with cache := s.cache.cleared })
  | storing r => (answered r, { s with cache := s.cache.put (s.key request) r })
  | answered r => (answered r, s)

/-- The steps that a request takes at most until it is answered. -/
def remaining : Progress → Nat
  | looking => 5
  | missed => 4
  | resolved _ => 3
  | clearing _ => 2
  | storing _ => 1
  | answered _ => 0

/-- The request has no other resolution than the table's. -/
def FromTable (table : RouteTable) (request : Request) (p : Progress) : Prop :=
  ∀ r, p.resolution? = some r → r = table.resolve request

variable {request : Request} {s : Snapshot} {p : Progress}

theorem resolution?_of_answer? {r : Resolution} (answered : p.answer? = some r) :
    p.resolution? = some r := by
  cases p <;> first | exact answered | cases answered

theorem isSome_answer?_of_remaining (finished : p.remaining = 0) : ∃ r, p.answer? = some r := by
  cases p with
  | answered r => exact ⟨r, rfl⟩
  | _ => cases finished

theorem looking_fromTable (table : RouteTable) (request : Request) : FromTable table request looking := by
  intro r known
  cases known

@[simp] theorem table_next (request : Request) (s : Snapshot) (p : Progress) :
    (next request s p).2.table = s.table := by
  fun_cases next request s p <;> rfl

theorem remaining_next (request : Request) (s : Snapshot) (p : Progress) :
    (next request s p).1.remaining ≤ p.remaining - 1 := by
  fun_cases next request s p <;> simp [remaining]

/-- The resolution stays what it is, or is taken from the cache, or is the table's. -/
theorem resolution?_next {r : Resolution} (known : (next request s p).1.resolution? = some r) :
    p.resolution? = some r ∨ s.cached? request = some r ∨ r = s.table.resolve request := by
  revert known
  fun_cases next request s p with
  | case1 found hit =>
    rintro ⟨⟩
    exact Or.inr (Or.inl hit)
  | case2 miss => rintro ⟨⟩
  | case3 =>
    rintro ⟨⟩
    exact Or.inr (Or.inr rfl)
  | _ => exact Or.inl

theorem FromTable.next (faithful : s.Faithful) (fromTable : FromTable s.table request p) :
    FromTable s.table request (next request s p).1 := by
  intro r known
  rcases resolution?_next known with before | hit | plain
  · exact fromTable r before
  · exact faithful.cached?_eq hit
  · exact plain

/-- The cache changes only when it is emptied, and when the resolution that the request has is put
into it. -/
theorem faithful_next (faithful : s.Faithful) (fromTable : FromTable s.table request p) :
    (next request s p).2.Faithful := by
  fun_cases next request s p with
  | case7 r => exact faithful.cleared
  | case8 r =>
    obtain rfl : r = s.table.resolve request := fromTable r rfl
    exact faithful.put request
  | _ => exact faithful

/-- A request that nothing comes in between does what a call does. -/
theorem iterate_next_eq_resolve (state : RoutingState) (request : Request) :
    (fun now : Progress × Snapshot => next request now.2 now.1)^[5] (looking, state.snapshot) =
      (answered (state.resolve request).1, (state.resolve request).2.snapshot) := by
  simp only [Function.iterate_succ, Function.iterate_zero, Function.comp_apply, id_eq]
  cases found : state.snapshot.cached? request with
  | some r =>
    rw [RoutingState.resolve_of_hit found]
    simp only [next, found]
  | none =>
    rw [RoutingState.resolve_of_miss found]
    simp only [next, found, Snapshot.remember, ResolutionCache.insert_eq, RoutingState.table]
    by_cases roomless : state.snapshot.cache.capacity = 0
    · simp only [roomless, if_true]
    · by_cases full : state.snapshot.cache.capacity ≤ state.snapshot.cache.size
      · simp only [roomless, full, if_true, if_false]
        rfl
      · simp only [roomless, full, if_false]

end Progress

end GatewayRouting
