import GatewayRouting.Period
import GatewayRouting.Proofs.Number.Whole
import GatewayRouting.Proofs.Text.Decimal
import GatewayRouting.Proofs.Text.Trimming

/-!
Counts of time units, written one after the other: how a period's text falls into runs of digits and other
characters, and what these amount to.
-/

set_option autoImplicit false

namespace GatewayRouting

inductive TimeUnit where
  | day
  | hour
  | minute
  | second
  | millisecond
deriving DecidableEq

namespace TimeUnit

def name : TimeUnit → String
  | day => "d"
  | hour => "h"
  | minute => "m"
  | second => "s"
  | millisecond => "ms"

def millis : TimeUnit → Nat
  | day => 24 * 60 * 60 * 1000
  | hour => 60 * 60 * 1000
  | minute => 60 * 1000
  | second => 1000
  | millisecond => 1

/-- The units from the longest to the shortest. -/
def descending : List TimeUnit := [day, hour, minute, second, millisecond]

theorem units_eq : Period.units = descending.map fun u => (u.name, u.millis) := rfl

theorem unitMillis?_name (u : TimeUnit) : Period.unitMillis? u.name = some u.millis := by
  cases u <;> rfl

theorem unitMillis?_eq_some {text : String} {size : Nat} (known : Period.unitMillis? text = some size) :
    ∃ u : TimeUnit, text = u.name ∧ size = u.millis := by
  rw [Period.unitMillis?, List.lookup_eq_some_iff, units_eq] at known
  obtain ⟨front, back, listed, _⟩ := known
  have inside : (text, size) ∈ descending.map fun u => (u.name, u.millis) := by
    rw [listed]
    exact List.mem_append_right front List.mem_cons_self
  obtain ⟨u, _, same⟩ := List.mem_map.mp inside
  obtain ⟨rfl, rfl⟩ := Prod.mk.inj same
  exact ⟨u, rfl, rfl⟩

theorem name_ne_nil (u : TimeUnit) : u.name.toList ≠ [] := by
  cases u <;> decide

theorem name_notNumeric (u : TimeUnit) : ∀ c ∈ u.name.toList, Period.isNumeric c = false := by
  have none : u.name.toList.any Period.isNumeric = false := by
    cases u <;> rfl
  exact fun c inside => Bool.eq_false_of_not_eq_true (List.any_eq_false.mp none c inside)

theorem name_notBlank (u : TimeUnit) : ∀ c ∈ u.name.toList, Text.isBlank c = false := by
  have none : u.name.toList.any Text.isBlank = false := by
    cases u <;> rfl
  exact fun c inside => Bool.eq_false_of_not_eq_true (List.any_eq_false.mp none c inside)

theorem name_inj {u v : TimeUnit} (same : u.name = v.name) : u = v := by
  revert same
  cases u <;> cases v <;> decide

theorem millis_le (u : TimeUnit) : u.millis ≤ 2 ^ 53 := by
  cases u <;> decide

theorem millis_pos (u : TimeUnit) : 0 < u.millis := by
  cases u <;> decide

end TimeUnit

namespace Period

/-- A number with its unit, as they stand in a text. -/
structure Count where
  number : List Char
  unit : TimeUnit

namespace Count

def text (c : Count) : List Char := c.number ++ c.unit.name.toList

def run (c : Count) : List Char × List Char := (c.number, c.unit.name.toList)

/-- What the count comes to if its number holds digits only. -/
def millis (c : Count) : Nat := Text.digitsValue c.number * c.unit.millis

end Count

/-- Counts written one after the other, with nothing between them. -/
def joined (counts : List Count) : List Char := counts.flatMap Count.text

def totalMillis (counts : List Count) : Nat := (counts.map Count.millis).sum

/-- Digits and perhaps a point among them. -/
structure IsNumber (cs : List Char) : Prop where
  numeric : ∀ c ∈ cs, c.isDigit = true ∨ c = '.'
  onePoint : cs.count '.' ≤ 1
  digit : ∃ c ∈ cs, c.isDigit = true

theorem isNumeric_iff {c : Char} : isNumeric c = true ↔ c.isDigit = true ∨ c = '.' := by
  rw [isNumeric, Bool.or_eq_true, beq_iff_eq]

theorem IsNumber.ne_nil {cs : List Char} (number : IsNumber cs) : cs ≠ [] := by
  obtain ⟨c, inside, _⟩ := number.digit
  exact List.ne_nil_of_mem inside

theorem IsNumber.isNumeric {cs : List Char} (number : IsNumber cs) : ∀ c ∈ cs, isNumeric c = true :=
  fun c inside => isNumeric_iff.mpr (number.numeric c inside)

theorem isNumber_of_isDigits {cs : List Char} (digits : Text.IsDigits cs) : IsNumber cs where
  numeric c inside := Or.inl (digits.2 c inside)
  onePoint := by
    have absent : '.' ∉ cs := fun inside => by
      have digit := digits.2 '.' inside
      revert digit
      decide
    rw [List.count_eq_zero.mpr absent]
    exact Nat.zero_le 1
  digit := by
    obtain ⟨c, inside⟩ := List.exists_mem_of_ne_nil cs digits.1
    exact ⟨c, inside, digits.2 c inside⟩

/-! Runs. -/

theorem runs_cons_numeric {c : Char} {cs number unit : List Char} {rest : List (List Char × List Char)}
    (numeric : isNumeric c = true) (later : runs cs = (number, unit) :: rest) :
    runs (c :: cs) = (c :: number, unit) :: rest := by
  rw [runs, if_pos numeric, later]
  cases number <;> rfl

theorem runs_cons_other {c : Char} {cs unit : List Char} {rest : List (List Char × List Char)}
    (other : isNumeric c = false) (later : runs cs = ([], unit) :: rest) :
    runs (c :: cs) = ([], c :: unit) :: rest := by
  rw [runs, if_neg (Bool.not_eq_true _ ▸ other), later]

/-- A character that is no part of a number, before the end or before a number, is a run of its own. -/
theorem runs_cons_last {c : Char} {cs : List Char} (other : isNumeric c = false)
    (numbered : ∀ run ∈ (runs cs).head?, run.1 ≠ []) : runs (c :: cs) = ([], [c]) :: runs cs := by
  rw [runs, if_neg (Bool.not_eq_true _ ▸ other)]
  split
  · rename_i unit rest later
    exact absurd rfl (numbered ([], unit) (by rw [later]; rfl))
  · rfl

theorem runs_append_other {unit cs : List Char} (filled : unit ≠ []) (other : ∀ c ∈ unit, isNumeric c = false)
    (numbered : ∀ run ∈ (runs cs).head?, run.1 ≠ []) : runs (unit ++ cs) = ([], unit) :: runs cs := by
  induction unit with
  | nil => exact absurd rfl filled
  | cons c unit ih =>
    obtain ⟨first, others⟩ := List.forall_mem_cons.mp other
    cases unit with
    | nil => exact runs_cons_last first numbered
    | cons d unit => exact runs_cons_other first (ih (List.cons_ne_nil d unit) others)

theorem runs_append_numeric {number cs unit : List Char} {rest : List (List Char × List Char)}
    (numeric : ∀ c ∈ number, isNumeric c = true) (later : runs cs = ([], unit) :: rest) :
    runs (number ++ cs) = (number, unit) :: rest := by
  induction number with
  | nil => exact later
  | cons c number ih =>
    obtain ⟨first, others⟩ := List.forall_mem_cons.mp numeric
    exact runs_cons_numeric first (ih others)

/-- The counts of a text are its runs. -/
theorem runs_joined {counts : List Count} (numbers : ∀ c ∈ counts, IsNumber c.number) :
    runs (joined counts) = counts.map Count.run := by
  induction counts with
  | nil => rfl
  | cons c counts ih =>
    obtain ⟨first, others⟩ := List.forall_mem_cons.mp numbers
    have later := ih others
    have numbered : ∀ run ∈ (runs (joined counts)).head?, run.1 ≠ [] := by
      rw [later]
      cases counts with
      | nil =>
        intro run none
        cases none
      | cons next counts =>
        intro run same
        cases same
        exact (others next List.mem_cons_self).ne_nil
    have unit := runs_append_other c.unit.name_ne_nil c.unit.name_notNumeric numbered
    rw [joined, List.flatMap_cons, Count.text, List.append_assoc, List.map_cons, ← later]
    exact runs_append_numeric first.isNumeric unit

theorem joined_inj {counts others : List Count} (numbers : ∀ c ∈ counts, IsNumber c.number)
    (numbersToo : ∀ c ∈ others, IsNumber c.number) (same : joined counts = joined others) : counts = others := by
  have runs := congrArg runs same
  rw [runs_joined numbers, runs_joined numbersToo] at runs
  refine (List.map_inj_right ?_).mp runs
  rintro ⟨number, unit⟩ ⟨number', unit'⟩ alike
  obtain ⟨rfl, names⟩ := Prod.mk.inj alike
  have units : unit = unit' := TimeUnit.name_inj (String.toList_inj.mp names)
  rw [units]

/-- The runs of a text hold all of it. -/
theorem flatMap_runs (cs : List Char) : (runs cs).flatMap (fun run => run.1 ++ run.2) = cs := by
  fun_induction runs cs <;> simp_all

/-- The first part of a run holds digits and points only. -/
theorem numeric_runs (cs : List Char) : ∀ run ∈ runs cs, ∀ c ∈ run.1, isNumeric c = true := by
  fun_induction runs cs with
  | case1 => exact fun _ none => absurd none List.not_mem_nil
  | case2 c cs numeric d number unit rest later ih =>
    rw [later, List.forall_mem_cons] at ih
    exact List.forall_mem_cons.mpr ⟨List.forall_mem_cons.mpr ⟨numeric, ih.1⟩, ih.2⟩
  | case3 c cs numeric unit rest later ih =>
    rw [later, List.forall_mem_cons] at ih
    exact List.forall_mem_cons.mpr ⟨List.forall_mem_cons.mpr ⟨numeric, ih.1⟩, ih.2⟩
  | case4 c cs numeric later _ =>
    exact List.forall_mem_singleton.mpr (List.forall_mem_singleton.mpr numeric)
  | case5 c cs other unit rest later ih =>
    rw [later, List.forall_mem_cons] at ih
    exact List.forall_mem_cons.mpr ih
  | case6 c cs other _ ih =>
    exact List.forall_mem_cons.mpr ⟨fun _ none => absurd none List.not_mem_nil, ih⟩

end Period

end GatewayRouting
