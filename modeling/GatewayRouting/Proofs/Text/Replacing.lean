import GatewayRouting.Text.Split
import Mathlib.Data.List.Infix

/-!
Several texts replaced at once. Whether a text that is replaced later can occur where an earlier one was, is a
question of how the ends of the one and the beginnings of the other agree.
-/

set_option autoImplicit false

namespace GatewayRouting.Text

/-- The first of the entries that have their text at the front of this one. -/
def entryAt (entries : List (List Char × List Char)) (text : List Char) : Option (List Char × List Char) :=
  entries.find? fun e => e.1.isPrefixOf text

/-- Every occurrence of one of the first texts replaced by the second text beside it, from left to right and
without overlaps; nothing is looked for in what was put in. The number counts the characters left of an
occurrence that is being passed. -/
def replaceEach (entries : List (List Char × List Char)) : Nat → List Char → List Char
  | _, [] => []
  | passing + 1, _ :: cs => replaceEach entries passing cs
  | 0, c :: cs =>
    match entryAt entries (c :: cs) with
    | some e => e.2 ++ replaceEach entries (e.1.length - 1) cs
    | none => c :: replaceEach entries 0 cs

/-- Whether an occurrence can begin in a value: from some place on, the value agrees with the text that is
looked for, as far as both go. -/
def BeginsIn (find value : List Char) : Prop :=
  ∃ left ∈ value.tails, left ≠ [] ∧ (left <+: find ∨ find <+: left)

/-- Whether an occurrence that began before a value can run into it. -/
def RunsInto (find value : List Char) : Prop :=
  ∃ left ∈ find.tails, left ≠ [] ∧ left ≠ find ∧ (left <+: value ∨ value <+: left)

instance (find value : List Char) : Decidable (BeginsIn find value) := by
  unfold BeginsIn
  infer_instance

instance (find value : List Char) : Decidable (RunsInto find value) := by
  unfold RunsInto
  infer_instance

variable {entries : List (List Char × List Char)} {e : List Char × List Char}

theorem entryAt_eq_none_iff {text : List Char} :
    entryAt entries text = none ↔ ∀ e ∈ entries, ¬e.1 <+: text := by
  simp only [entryAt, List.find?_eq_none, List.isPrefixOf_iff_prefix]

theorem prefix_of_entryAt {text : List Char} (found : entryAt entries text = some e) :
    e ∈ entries ∧ e.1 <+: text :=
  ⟨List.mem_of_find?_eq_some found, List.isPrefixOf_iff_prefix.mp (List.find?_some found :)⟩

theorem entryAt_append (others : List (List Char × List Char)) (text : List Char) :
    entryAt (entries ++ others) text = (entryAt entries text).or (entryAt others text) :=
  List.find?_append

theorem entryAt_singleton {text : List Char} (occurs : e.1 <+: text) : entryAt [e] text = some e := by
  rw [entryAt, List.find?_singleton, if_pos (List.isPrefixOf_iff_prefix.mpr occurs)]

theorem replaceEach_passing (passed rest : List Char) :
    replaceEach entries passed.length (passed ++ rest) = replaceEach entries 0 rest := by
  induction passed with
  | nil => rfl
  | cons c passed ih => rw [List.length_cons, List.cons_append, replaceEach, ih]

theorem replaceEach_of_found {rest : List Char} (filled : e.1 ≠ [])
    (found : entryAt entries (e.1 ++ rest) = some e) :
    replaceEach entries 0 (e.1 ++ rest) = e.2 ++ replaceEach entries 0 rest := by
  obtain ⟨find, value⟩ := e
  cases find with
  | nil => exact absurd rfl filled
  | cons c find =>
    dsimp only at found ⊢
    rw [List.cons_append] at found ⊢
    rw [replaceEach, found]
    dsimp only
    rw [List.length_cons, Nat.add_sub_cancel, replaceEach_passing]

theorem replaceEach_of_none {c : Char} {cs : List Char}
    (none : entryAt entries (c :: cs) = none) :
    replaceEach entries 0 (c :: cs) = c :: replaceEach entries 0 cs := by
  rw [replaceEach, none]

theorem replaceEach_nil (text : List Char) :
    replaceEach [] 0 text = text := by
  induction text with
  | nil => rfl
  | cons c cs ih => rw [replaceEach_of_none List.find?_nil, ih]

theorem replaceAll_eq_replaceEach {find : List Char} (filled : find ≠ []) (value text : List Char) :
    replaceAll find value text = replaceEach [(find, value)] 0 text := by
  have step (passing : Nat) : replaceFound find value passing text =
      replaceEach [(find, value)] passing text := by
    induction text generalizing passing with
    | nil => rw [replaceFound, replaceEach]
    | cons c cs ih =>
      cases passing with
      | succ passing => rw [replaceFound, replaceEach, ih]
      | zero =>
        rw [replaceFound, replaceEach, entryAt, List.find?_singleton]
        split <;> rw [ih]
  rw [replaceAll, if_neg (by simpa using filled), step]

/-- A value in which nothing begins that is looked for stays as it is. -/
theorem replaceEach_append {value : List Char} (apart : ∀ e ∈ entries, ¬BeginsIn e.1 value)
    (rest : List Char) :
    replaceEach entries 0 (value ++ rest) = value ++ replaceEach entries 0 rest := by
  induction value with
  | nil => rfl
  | cons c value ih =>
    have none : entryAt entries (c :: value ++ rest) = none := by
      rw [entryAt_eq_none_iff]
      intro e inside occurs
      refine apart e inside ⟨c :: value, (List.mem_tails _ _).mpr (List.suffix_refl _), List.cons_ne_nil c value, ?_⟩
      exact List.prefix_or_prefix_of_prefix (List.prefix_append _ rest) occurs
    have later : ∀ e ∈ entries, ¬BeginsIn e.1 value := by
      rintro e inside ⟨left, ending, begins⟩
      have longer := ((List.mem_tails _ _).mp ending).trans (List.suffix_cons c value)
      exact apart e inside ⟨left, (List.mem_tails _ _).mpr longer, begins⟩
    rw [List.cons_append] at none ⊢
    rw [replaceEach_of_none none, ih later, List.cons_append]

end GatewayRouting.Text
