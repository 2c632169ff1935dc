import GatewayRouting.Proofs.Except
import GatewayRouting.Route.Assembly
import Mathlib.Data.List.Forall2

/-!
What an assembly makes, taken apart step by step: log lines aside, it stops at the first fault.
-/

set_option autoImplicit false

namespace GatewayRouting

namespace Assembly

variable {α β : Type}

/-- What the assembly makes, without its log lines. -/
def result (x : Assembly α) : Except AssemblyError α := x.run.value

@[simp] theorem result_pure (a : α) : (pure a : Assembly α).result = .ok a := rfl

@[simp] theorem result_ofExcept (x : Except AssemblyError α) : (ofExcept x).result = x := rfl

@[simp] theorem result_lift (x : Logged α) : (liftM x : Assembly α).result = .ok x.value := rfl

theorem result_bind (x : Assembly α) (f : α → Assembly β) :
    (x >>= f).result = x.result.bind fun a => (f a).result := by
  change (ExceptT.bindCont f x.run.value).value = _
  unfold result
  cases x.run.value <;> rfl

theorem result_bind_eq_ok {x : Assembly α} {f : α → Assembly β} {b : β} :
    (x >>= f).result = .ok b ↔ ∃ a, x.result = .ok a ∧ (f a).result = .ok b := by
  rw [result_bind]
  cases x.result <;> simp [Except.bind]

/-- Every item makes something, and the results stand in the order of the items. -/
theorem result_each_eq_ok {make : α → Assembly β} {items : List α} {made : List β} :
    (each make items).result = .ok made ↔
      List.Forall₂ (fun a b => (make a).result = .ok b) items made := by
  induction items generalizing made with
  | nil => simp [each, eq_comm]
  | cons a rest ih =>
    simp only [each, result_bind_eq_ok, result_pure, ih, List.forall₂_cons_left_iff, Except.ok.injEq]
    constructor
    · rintro ⟨b, first, others, later, rfl⟩
      exact ⟨b, others, first, later, rfl⟩
    · rintro ⟨b, others, first, later, rfl⟩
      exact ⟨b, first, others, later, rfl⟩

/-! The faults that an assembly can stop at. -/

variable {allowed : AssemblyError → Prop}

theorem pure_faults (a : α) : FailsWith allowed (pure a : Assembly α).result := .ok a

theorem lift_faults (x : Logged α) : FailsWith allowed (liftM x : Assembly α).result := .ok x.value

theorem ofExcept_faults {x : Except AssemblyError α} (fails : FailsWith allowed x) :
    FailsWith allowed (ofExcept x).result := fails

theorem bind_faults {x : Assembly α} {f : α → Assembly β} (first : FailsWith allowed x.result)
    (next : ∀ a, x.result = .ok a → FailsWith allowed (f a).result) :
    FailsWith allowed (x >>= f).result := by
  rw [result_bind]
  exact first.bind next

theorem each_faults {make : α → Assembly β} {items : List α}
    (step : ∀ a ∈ items, FailsWith allowed (make a).result) :
    FailsWith allowed (each make items).result := by
  induction items with
  | nil => exact .ok []
  | cons a rest ih =>
    obtain ⟨first, others⟩ := List.forall_mem_cons.mp step
    exact bind_faults first fun b _ => bind_faults (ih others) fun later _ => .ok (b :: later)

end Assembly

end GatewayRouting
