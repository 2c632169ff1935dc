import GatewayRouting.Cache
import Mathlib.Data.List.Nodup

/-!
How full a cache is. What is missing adds an entry until the cache is full, and the next one starts it anew. So
the number of entries follows from how often something was missing.
-/

set_option autoImplicit false

namespace GatewayRouting

/-- The number of entries after some misses, where each miss adds one and is the first of a new cache when the
old one is full. -/
def occupancy (capacity misses : Nat) : Nat :=
  if capacity = 0 ∨ misses = 0 then 0 else (misses - 1) % capacity + 1

theorem occupancy_noRoom (misses : Nat) : occupancy 0 misses = 0 := if_pos (Or.inl rfl)

theorem occupancy_noMiss (capacity : Nat) : occupancy capacity 0 = 0 := if_pos (Or.inr rfl)

theorem occupancy_succ {capacity : Nat} (room : 0 < capacity) (misses : Nat) :
    occupancy capacity (misses + 1) = misses % capacity + 1 := by
  rw [occupancy, if_neg (by omega)]
  rfl

theorem occupancy_le (capacity misses : Nat) : occupancy capacity misses ≤ capacity := by
  unfold occupancy
  split
  · exact Nat.zero_le capacity
  · rename_i some
    exact Nat.mod_lt _ (by omega)

/-- A miss adds an entry, or leaves one alone when there are as many as there is room for. -/
theorem occupancy_step {capacity : Nat} (room : 0 < capacity) (misses : Nat) :
    occupancy capacity (misses + 1) =
      if capacity ≤ occupancy capacity misses then 1 else occupancy capacity misses + 1 := by
  cases misses with
  | zero => rw [occupancy_succ room, occupancy_noMiss, Nat.zero_mod, if_neg (Nat.not_le.mpr room)]
  | succ before =>
    have bound : before % capacity < capacity := Nat.mod_lt _ room
    rw [occupancy_succ room, occupancy_succ room, ← Nat.mod_add_mod]
    split
    · rename_i full
      have last : before % capacity + 1 = capacity := by omega
      rw [last, Nat.mod_self]
    · rename_i more
      rw [Nat.mod_eq_of_lt (Nat.lt_of_not_le more)]

namespace ResolutionCache

variable {c : ResolutionCache} {key : CacheKey}

/-- The keys that the cache has entries for. -/
def keys (c : ResolutionCache) : List CacheKey := c.entries.map Prod.fst

theorem get?_eq_none_iff : c.get? key = none ↔ key ∉ c.keys := by
  rw [get?, List.lookup_eq_none_iff, keys, List.mem_map]
  constructor
  · rintro absent ⟨entry, inside, rfl⟩
    simpa using absent entry inside
  · intro absent entry inside
    rw [bne_iff_ne]
    rintro rfl
    exact absent ⟨entry, inside, rfl⟩

theorem isSome_get?_iff : (c.get? key).isSome = true ↔ key ∈ c.keys := by
  rw [← not_iff_not, ← get?_eq_none_iff, Bool.not_eq_true, Option.isSome_eq_false_iff,
    Option.isNone_iff_eq_none]

/-- A cache without room stays as it is. -/
theorem insert_of_noRoom (noRoom : c.capacity = 0) (resolution : Resolution) :
    c.insert key resolution = c := by
  rw [insert, if_pos noRoom]

/-- What is missing is put in front of the entries that are kept. -/
theorem entries_insert_of_miss (room : 0 < c.capacity) (miss : c.get? key = none)
    (resolution : Resolution) :
    (c.insert key resolution).entries =
      (key, resolution) :: if c.capacity ≤ c.size then [] else c.entries := by
  have others : c.entries.filter (·.1 != key) = c.entries := by
    rw [List.filter_eq_self]
    intro entry inside
    rw [bne_iff_ne]
    rintro rfl
    exact get?_eq_none_iff.mp miss (List.mem_map_of_mem inside)
  rw [insert, if_neg (Nat.ne_of_gt room)]
  dsimp only
  rw [putEntry]
  split
  · rfl
  · rw [others]

@[simp] theorem capacity_insert (c : ResolutionCache) (key : CacheKey) (resolution : Resolution) :
    (c.insert key resolution).capacity = c.capacity := by
  unfold insert
  split <;> rfl

/-- The cache holds what was put into it since it was last emptied, and no more than it has room for. -/
structure Holds (c : ResolutionCache) (misses : Nat) (since : List CacheKey) : Prop where
  distinct : c.keys.Nodup
  size : c.size = occupancy c.capacity misses
  mem_keys : 0 < c.capacity → ∀ key, key ∈ c.keys ↔ key ∈ since

variable {misses : Nat} {since : List CacheKey}

theorem empty_holds (capacity : Nat) : (empty capacity).Holds 0 [] where
  distinct := List.nodup_nil
  size := (occupancy_noMiss capacity).symm
  mem_keys _ _ := Iff.rfl

/-- What is found is found again. -/
theorem Holds.of_hit (holds : c.Holds misses since) (hit : key ∈ c.keys) :
    c.Holds misses (key :: since) where
  distinct := holds.distinct
  size := holds.size
  mem_keys room other := by
    rw [List.mem_cons, ← holds.mem_keys room]
    constructor
    · exact Or.inr
    · rintro (rfl | inside)
      · exact hit
      · exact inside

theorem Holds.of_miss (holds : c.Holds misses since) (miss : c.get? key = none) (resolution : Resolution) :
    (c.insert key resolution).Holds (misses + 1)
      (if c.capacity ≤ c.size then [key] else key :: since) := by
  rcases Nat.eq_zero_or_pos c.capacity with noRoom | room
  · rw [insert_of_noRoom noRoom]
    refine ⟨holds.distinct, ?_, fun room => absurd noRoom (Nat.ne_of_gt room)⟩
    rw [holds.size, noRoom, occupancy_noRoom, occupancy_noRoom]
  · have entries := entries_insert_of_miss room miss resolution
    have grown := occupancy_step room misses
    rw [← holds.size] at grown
    by_cases full : c.capacity ≤ c.size
    · rw [if_pos full] at entries grown ⊢
      refine ⟨?_, ?_, fun _ other => ?_⟩
      · rw [keys, entries]
        exact List.nodup_singleton _
      · rw [capacity_insert, grown, ResolutionCache.size, entries]
        rfl
      · rw [keys, entries]
        rfl
    · rw [if_neg full] at entries grown ⊢
      refine ⟨?_, ?_, fun _ other => ?_⟩
      · rw [keys, entries, List.map_cons, List.nodup_cons]
        exact ⟨get?_eq_none_iff.mp miss, holds.distinct⟩
      · rw [capacity_insert, grown, ResolutionCache.size, entries]
        rfl
      · rw [keys, entries, List.map_cons, List.mem_cons, List.mem_cons, ← holds.mem_keys room]
        rfl

theorem Holds.size_le (holds : c.Holds misses since) : c.size ≤ c.capacity := by
  rw [holds.size]
  exact occupancy_le c.capacity misses

end ResolutionCache

end GatewayRouting
