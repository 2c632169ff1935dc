import GatewayRouting.Proofs.Period.Grammar
import Mathlib.Data.List.Chain

/-!
How periods are written: in their largest units, each count below the next larger unit. This keeps the value of
every period that fits 64 bits of milliseconds, and of no other.
-/

set_option autoImplicit false

namespace GatewayRouting

/-- How many of the unit make up the next larger one. -/
def TimeUnit.limit? : TimeUnit → Option Nat
  | .day => none
  | .hour => some 24
  | .minute => some 60
  | .second => some 60
  | .millisecond => some 1000

namespace Period

/-- Counts in digits, the units descending, no count zero and none as large as the next larger unit. -/
structure Settled (counts : List Count) : Prop where
  filled : counts ≠ []
  digits : ∀ c ∈ counts, Text.IsDigits c.number
  descending : counts.Pairwise fun a b => b.unit.millis < a.unit.millis
  positive : ∀ c ∈ counts, 0 < Text.digitsValue c.number
  limited : ∀ c ∈ counts, ∀ limit ∈ c.unit.limit?, Text.digitsValue c.number < limit

/-- The text is zero seconds, or settled counts, and comes to this number of milliseconds. -/
def Writes (text : String) (millis : Nat) : Prop :=
  text = "0s" ∧ millis = 0 ∨
    ∃ counts, Settled counts ∧ text.toList = joined counts ∧ totalMillis counts = millis

/-- The counts of the units that a number of milliseconds is divided into. -/
def divided : List TimeUnit → Nat → List Count
  | [], _ => []
  | u :: us, millis =>
    if u.millis ≤ millis then ⟨(toString (millis / u.millis)).toList, u⟩ :: divided us (millis % u.millis)
    else divided us millis

/-- What is left after the units. -/
def remainder (us : List TimeUnit) (millis : Nat) : Nat := us.foldl (fun n u => n % u.millis) millis

theorem toList_join_parts (us : List TimeUnit) (millis : Nat) :
    (String.join ((parts (us.map fun u => (u.name, u.millis)) millis).map fun part =>
      toString part.1 ++ part.2)).toList = joined (divided us millis) := by
  rw [String.toList_join, List.flatMap_map]
  induction us generalizing millis with
  | nil => rfl
  | cons u us ih =>
    rw [List.map_cons, parts, divided]
    split
    · rw [List.flatMap_cons, ih, String.toList_append]
      rfl
    · exact ih millis

/-- Dividing leaves a smaller number out of account as it is. -/
theorem divided_cons (u : TimeUnit) (us : List TimeUnit) (millis : Nat) :
    divided (u :: us) millis =
      (if u.millis ≤ millis then [⟨(toString (millis / u.millis)).toList, u⟩] else []) ++
        divided us (millis % u.millis) := by
  rw [divided]
  split
  · rfl
  · rename_i less
    rw [Nat.mod_eq_of_lt (by omega), List.nil_append]

theorem totalMillis_append (front back : List Count) :
    totalMillis (front ++ back) = totalMillis front + totalMillis back := by
  rw [totalMillis, List.map_append, List.sum_append]
  rfl

theorem totalMillis_divided (us : List TimeUnit) (millis : Nat) :
    totalMillis (divided us millis) + remainder us millis = millis := by
  induction us generalizing millis with
  | nil => exact Nat.zero_add millis
  | cons u us ih =>
    have later := ih (millis % u.millis)
    have whole := Nat.div_add_mod millis u.millis
    rw [Nat.mul_comm] at whole
    have first : totalMillis (if u.millis ≤ millis then [⟨(toString (millis / u.millis)).toList, u⟩] else []) =
        millis / u.millis * u.millis := by
      split
      · rw [totalMillis, List.map_cons, List.map_nil, List.sum_cons, List.sum_nil, Nat.add_zero, Count.millis,
          Text.digitsValue_toString]
      · rename_i less
        rw [Nat.div_eq_of_lt (by omega), Nat.zero_mul]
        rfl
    rw [divided_cons, totalMillis_append, first, remainder, List.foldl_cons]
    change _ + remainder us (millis % u.millis) = _
    omega

theorem map_unit_divided (us : List TimeUnit) (millis : Nat) :
    List.Sublist ((divided us millis).map Count.unit) us := by
  induction us generalizing millis with
  | nil => exact List.Sublist.refl []
  | cons u us ih =>
    rw [divided]
    split
    · exact (ih _).cons_cons u
    · exact (ih _).cons u

/-- Every count is a quotient that is not zero. -/
theorem exists_of_mem_divided {us : List TimeUnit} {millis : Nat} {c : Count} (listed : c ∈ divided us millis) :
    ∃ n, 0 < n ∧ c.number = (toString n).toList := by
  induction us generalizing millis with
  | nil => cases listed
  | cons u us ih =>
    rw [divided] at listed
    split at listed
    · rename_i reached
      rcases List.mem_cons.mp listed with rfl | later
      · exact ⟨millis / u.millis, Nat.div_pos reached u.millis_pos, rfl⟩
      · exact ih later
    · exact ih listed

/-- A count stays below its limit if the number does so at first, and each unit divides the one before it into as
many as its limit. -/
theorem limited_divided {us : List TimeUnit} {millis : Nat}
    (first : ∀ u ∈ us.head?, ∀ limit ∈ u.limit?, millis < limit * u.millis)
    (chain : us.IsChain fun u v => ∀ limit ∈ v.limit?, u.millis ≤ limit * v.millis) :
    ∀ c ∈ divided us millis, ∀ limit ∈ c.unit.limit?, Text.digitsValue c.number < limit := by
  induction us generalizing millis with
  | nil => exact fun _ none => absurd none List.not_mem_nil
  | cons u us ih =>
    have rest : ∀ v ∈ us.head?, ∀ limit ∈ v.limit?, millis % u.millis < limit * v.millis := by
      intro v next limit known
      have larger := (List.isChain_cons.mp chain).1 v next limit known
      exact Nat.lt_of_lt_of_le (Nat.mod_lt millis u.millis_pos) larger
    have later := ih rest (List.isChain_cons.mp chain).2
    rw [divided_cons]
    intro c listed limit known
    rcases List.mem_append.mp listed with here | there
    · split at here
      · obtain rfl := List.mem_singleton.mp here
        rw [Text.digitsValue_toString]
        exact Nat.div_lt_of_lt_mul (Nat.mul_comm limit _ ▸ first u rfl limit known)
      · cases here
    · exact later c there limit known

theorem settled_divided {millis : Nat} (positive : 0 < millis) :
    Settled (divided TimeUnit.descending millis) ∧ totalMillis (divided TimeUnit.descending millis) = millis := by
  have nothing : remainder TimeUnit.descending millis = 0 := Nat.mod_one _
  have total := totalMillis_divided TimeUnit.descending millis
  rw [nothing, Nat.add_zero] at total
  refine ⟨⟨?_, ?_, ?_, ?_, ?_⟩, total⟩
  · intro none
    rw [none] at total
    exact positive.ne total
  · intro c listed
    obtain ⟨n, _, same⟩ := exists_of_mem_divided listed
    rw [same]
    exact Text.isDigits_toString n
  · have ordered : TimeUnit.descending.Pairwise fun u v => v.millis < u.millis := by decide
    exact List.pairwise_map.mp (ordered.sublist (map_unit_divided _ millis))
  · intro c listed
    obtain ⟨n, some, same⟩ := exists_of_mem_divided listed
    rwa [same, Text.digitsValue_toString]
  · apply limited_divided
    · intro u first limit known
      cases first
      cases known
    · decide

theorem isDigits_zero : Text.IsDigits ['0'] := by decide

theorem zeroText_ne {counts : List Count} (settled : Settled counts) : "0s".toList ≠ joined counts := by
  intro text
  have zero : joined [⟨['0'], .second⟩] = joined counts := text
  have numbers : ∀ c ∈ ([⟨['0'], .second⟩] : List Count), IsNumber c.number :=
    List.forall_mem_singleton.mpr (isNumber_of_isDigits isDigits_zero)
  have same := joined_inj numbers (fun c listed => isNumber_of_isDigits (settled.digits c listed)) zero
  have positive := settled.positive ⟨['0'], .second⟩ (same ▸ List.mem_singleton.mpr rfl)
  revert positive
  decide

/-- A text cannot be read as counts in two ways. -/
theorem Writes.unique {text : String} {m n : Nat} (first : Writes text m) (second : Writes text n) : m = n := by
  rcases first with ⟨rfl, rfl⟩ | ⟨counts, settled, written, rfl⟩
  · rcases second with ⟨_, rfl⟩ | ⟨counts, settled, written, _⟩
    · rfl
    · exact (zeroText_ne settled written).elim
  · rcases second with ⟨rfl, _⟩ | ⟨others, settledToo, writtenToo, rfl⟩
    · exact (zeroText_ne settled written).elim
    · have same := joined_inj (fun c listed => isNumber_of_isDigits (settled.digits c listed))
        (fun c listed => isNumber_of_isDigits (settledToo.digits c listed)) (written.symm.trans writtenToo)
      rw [same]

/-- The text comes to the milliseconds of the period without what exceeds 64 bits. -/
theorem writes_toText (p : Period) : Writes p.toText (p.millis % 2 ^ 64) := by
  have excess : p.millis % wordBound = p.millis % 2 ^ 64 := rfl
  by_cases zero : p.millis % 2 ^ 64 = 0
  · refine Or.inl ⟨?_, zero⟩
    rw [toText, excess]
    exact if_pos zero
  · obtain ⟨settled, total⟩ := settled_divided (Nat.pos_of_ne_zero zero)
    refine Or.inr ⟨_, settled, ?_, total⟩
    rw [← toList_join_parts, ← TimeUnit.units_eq, toText, excess]
    exact congrArg String.toList (if_neg zero)

theorem notBlank_joined {counts : List Count} (digits : ∀ c ∈ counts, Text.IsDigits c.number) :
    ∀ c ∈ joined counts, Text.isBlank c = false := by
  intro c inside
  obtain ⟨count, listed, here⟩ := List.mem_flatMap.mp inside
  rcases List.mem_append.mp here with number | unit
  · exact Text.isBlank_of_isDigit ((digits count listed).2 c number)
  · exact count.unit.name_notBlank c unit

/-- Up to `2 ^ 53` milliseconds, the text of a number of milliseconds is read as that many. -/
theorem Writes.parse_eq {text : String} {millis : Nat} (written : Writes text millis) (small : millis ≤ 2 ^ 53) :
    parse text = .ok (ofMillis millis) := by
  rcases written with ⟨rfl, rfl⟩ | ⟨counts, settled, written, rfl⟩
  · exact parse_of_counts (List.cons_ne_nil (⟨['0'], .second⟩ : Count) [])
      (List.forall_mem_singleton.mpr isDigits_zero) (by decide) small
  · have trimmed : Text.trim text.toList = joined counts := by
      rw [written]
      exact Text.trim_eq_self_of_notBlank (notBlank_joined settled.digits)
    exact parse_of_counts settled.filled settled.digits trimmed small

theorem parse_toText {p : Period} (small : p.millis ≤ 2 ^ 53) : parse p.toText = .ok p := by
  have fits : p.millis % 2 ^ 64 = p.millis := Nat.mod_eq_of_lt (by omega)
  have written := writes_toText p
  rw [fits] at written
  exact written.parse_eq small

/-- What is written for a period is settled counts in any case, and they come to its milliseconds exactly if these
fit 64 bits. -/
theorem toText_writes_iff (p : Period) :
    Writes p.toText (p.millis % 2 ^ 64) ∧ (Writes p.toText p.millis ↔ p.millis < 2 ^ 64) := by
  have written := writes_toText p
  refine ⟨written, ?_⟩
  constructor
  · intro exact
    rw [exact.unique written]
    exact Nat.mod_lt _ (Nat.two_pow_pos 64)
  · intro fits
    rwa [Nat.mod_eq_of_lt fits] at written

/-- A period of `2 ^ 61` seconds is written as zero seconds. -/
theorem not_writes_toText_of_long :
    parse "2305843009213693952" = .ok (ofSeconds (2 ^ 61)) ∧ (ofSeconds (2 ^ 61)).toText = "0s" ∧
      ¬Writes (ofSeconds (2 ^ 61)).toText (ofSeconds (2 ^ 61)).millis := by
  have text : (ofSeconds (2 ^ 61)).toText = "0s" := by decide
  refine ⟨by rfl, text, ?_⟩
  intro exact
  rw [text] at exact
  have nothing : (ofSeconds (2 ^ 61)).millis = 0 := exact.unique (Or.inl ⟨rfl, rfl⟩)
  revert nothing
  decide

end Period

end GatewayRouting
