import Mathlib.Data.List.Forall2

/-!
Computations that may fail: when they succeed, and with which faults they fail.
-/

set_option autoImplicit false

namespace GatewayRouting

variable {ε α β : Type}

theorem exists_of_isOk {x : Except ε α} (ok : x.isOk = true) : ∃ a, x = .ok a := by
  cases x with
  | error e => cases ok
  | ok a => exact ⟨a, rfl⟩

theorem bind_eq_ok {x : Except ε α} {f : α → Except ε β} {b : β} :
    (x >>= f) = .ok b ↔ ∃ a, x = .ok a ∧ f a = .ok b := by
  cases x with
  | error e =>
    constructor
    · intro done
      cases done
    · rintro ⟨_, done, _⟩
      cases done
  | ok a =>
    constructor
    · intro done
      exact ⟨a, rfl, done⟩
    · rintro ⟨_, made, done⟩
      cases made
      exact done

theorem andThen_eq_ok {x : Except ε Unit} {y : Except ε β} {b : β} :
    (x >>= fun _ => y) = .ok b ↔ x = .ok () ∧ y = .ok b := by
  rw [bind_eq_ok]
  constructor
  · rintro ⟨_, first, done⟩
    exact ⟨first, done⟩
  · rintro ⟨first, done⟩
    exact ⟨(), first, done⟩

theorem mapError_eq_ok {ε' : Type} {f : ε → ε'} {x : Except ε α} {a : α} :
    x.mapError f = .ok a ↔ x = .ok a := by
  cases x with
  | error e =>
    constructor <;> intro made <;> cases made
  | ok b =>
    constructor <;> intro made <;> cases made <;> rfl

theorem map_eq_ok {x : Except ε α} {f : α → β} {b : β} :
    x.map f = .ok b ↔ ∃ a, x = .ok a ∧ f a = b := by
  cases x with
  | error e =>
    constructor
    · intro made
      cases made
    · rintro ⟨_, made, _⟩
      cases made
  | ok a =>
    constructor
    · intro made
      cases made
      exact ⟨a, rfl, rfl⟩
    · rintro ⟨_, made, rfl⟩
      cases made
      rfl

theorem isSome_of_mapM {f : α → Except ε β} {a : Option α} {b : Option β} (mapped : a.mapM f = .ok b) :
    b.isSome = a.isSome := by
  cases a with
  | none =>
    cases mapped
    rfl
  | some x =>
    obtain ⟨y, _, made⟩ := bind_eq_ok.mp mapped
    cases made
    rfl

/-- Something is made of every item, in order. -/
theorem mapM_eq_ok {f : α → Except ε β} {items : List α} {results : List β} :
    items.mapM f = .ok results ↔ List.Forall₂ (fun a b => f a = .ok b) items results := by
  induction items generalizing results with
  | nil =>
    constructor
    · intro made
      cases made
      exact .nil
    · intro made
      cases made
      rfl
  | cons a rest ih =>
    rw [List.mapM_cons, List.forall₂_cons_left_iff]
    simp only [bind_eq_ok, ih, pure, Except.pure, Except.ok.injEq, exists_and_left, @eq_comm _ results]

/-- A result comes from one of the items. -/
theorem exists_of_forall₂ {related : α → β → Prop} {items : List α} {results : List β}
    (all : List.Forall₂ related items results) {b : β} (listed : b ∈ results) :
    ∃ a ∈ items, related a b := by
  induction all with
  | nil => cases listed
  | @cons a first rest others holds _ ih =>
    rcases List.mem_cons.mp listed with rfl | inside
    · exact ⟨a, List.mem_cons_self, holds⟩
    · obtain ⟨source, known, holdsThere⟩ := ih inside
      exact ⟨source, List.mem_cons_of_mem a known, holdsThere⟩

theorem exists_of_mem_mapM {f : α → Except ε β} {items : List α} {results : List β}
    (mapped : items.mapM f = .ok results) {b : β} (listed : b ∈ results) :
    ∃ a ∈ items, f a = .ok b :=
  exists_of_forall₂ (mapM_eq_ok.mp mapped) listed

/-- Every fault of the computation is an allowed one. -/
def FailsWith (allowed : ε → Prop) (x : Except ε α) : Prop := ∀ e, x = .error e → allowed e

namespace FailsWith

variable {allowed : ε → Prop}

theorem ok (a : α) : FailsWith allowed (.ok a : Except ε α) := by
  intro e failed
  cases failed

theorem error {e : ε} (expected : allowed e) : FailsWith allowed (.error e : Except ε α) := by
  intro _ failed
  cases failed
  exact expected

theorem bind {x : Except ε α} {f : α → Except ε β} (first : FailsWith allowed x)
    (next : ∀ a, x = .ok a → FailsWith allowed (f a)) : FailsWith allowed (x >>= f) := by
  cases x with
  | error e => exact error (first e rfl)
  | ok a => exact next a rfl

theorem map {x : Except ε α} (fails : FailsWith allowed x) (f : α → β) :
    FailsWith allowed (x.map f) := by
  cases x with
  | error e => exact error (fails e rfl)
  | ok a => exact ok (f a)

theorem mapError {ε' : Type} {allowed' : ε' → Prop} {x : Except ε α} {f : ε → ε'}
    (fails : FailsWith allowed x) (sent : ∀ e, allowed e → allowed' (f e)) :
    FailsWith allowed' (x.mapError f) := by
  cases x with
  | error e => exact error (sent e (fails e rfl))
  | ok a => exact ok a

theorem optionMapM {f : α → Except ε β} (step : ∀ a, FailsWith allowed (f a)) (o : Option α) :
    FailsWith allowed (o.mapM f) := by
  cases o with
  | none => exact ok none
  | some a => exact bind (step a) fun b _ => ok (some b)

theorem listMapM {f : α → Except ε β} (step : ∀ a, FailsWith allowed (f a)) (items : List α) :
    FailsWith allowed (items.mapM f) := by
  induction items with
  | nil => exact ok []
  | cons a rest ih =>
    rw [List.mapM_cons]
    exact bind (step a) fun b _ => bind ih fun others _ => ok (b :: others)

end FailsWith

end GatewayRouting
