import GatewayRouting.Proofs.Template.PieceLengths

/-!
Marks on the ends of a text, as a predicate on what follows each end: a piece leads from an end to a
marked one exactly when one of its lengths does.
-/

set_option autoImplicit false

namespace GatewayRouting.Piece

variable {f : List Char → Bool} {ok : Char → Bool}

theorem tails_eq_cons (cs : List Char) : ∃ rest, cs.tails = cs :: rest := by
  cases cs with
  | nil => exact ⟨[], rfl⟩
  | cons c cs => exact ⟨cs.tails, List.tails_cons c cs⟩

theorem headD_map_tails (f : List Char → Bool) (cs : List Char) :
    (cs.tails.map f).headD false = f cs := by
  obtain ⟨rest, split⟩ := tails_eq_cons cs
  rw [split]
  rfl

theorem headD_drop_map_tails (f : List Char → Bool) {cs : List Char} {k : Nat} (bound : k ≤ cs.length) :
    ((cs.tails.map f).drop k).headD false = f (cs.drop k) := by
  induction k generalizing cs with
  | zero => simpa using headD_map_tails f cs
  | succ k ih =>
    cases cs with
    | nil => simp at bound
    | cons c cs =>
      rw [List.tails_cons, List.map_cons, List.drop_succ_cons, List.drop_succ_cons]
      exact ih (by simpa using bound)

/-- Marks made from the character before each end, if there is one, and the mark after it. -/
theorem zipWith_tail_map_tails (g : Char → Bool → Bool) (h : List Char → Bool) (cs : List Char) :
    cs.zipWith g (cs.tails.map h).tail ++ [false] =
      cs.tails.map fun rest => match rest with
        | [] => false
        | c :: after => g c (h after) := by
  induction cs with
  | nil => rfl
  | cons c cs ih =>
    obtain ⟨rest, split⟩ := tails_eq_cons cs
    rw [List.tails_cons, List.map_cons, List.map_cons, List.tail_cons]
    rw [split] at ih ⊢
    simp only [List.map_cons, List.zipWith_cons_cons, List.cons_append, List.tail_cons] at ih ⊢
    rw [ih]

/-- Whether characters that satisfy `ok` lead to a marked end. -/
def reaches (ok : Char → Bool) (f : List Char → Bool) (cs : List Char) : Bool :=
  (List.range (run ok cs + 1)).any fun k => f (cs.drop k)

theorem reaches_cons (c : Char) (cs : List Char) :
    reaches ok f (c :: cs) = (f (c :: cs) || (ok c && reaches ok f cs)) := by
  unfold reaches
  by_cases good : ok c = true
  · have longer : run ok (c :: cs) = run ok cs + 1 := by simp [run, good]
    rw [longer, List.range_succ_eq_map, List.any_cons, List.any_map, good, Bool.true_and]
    rfl
  · have none : run ok (c :: cs) = 0 := by simp [run, good]
    simp [none, good]

theorem leading_map_tails (cs : List Char) :
    leading ok cs (cs.tails.map f) = cs.tails.map (reaches ok f) := by
  induction cs with
  | nil => simp [leading, reaches, run]
  | cons c cs ih =>
    rw [List.tails_cons, List.map_cons, List.map_cons, leading, List.headD_cons, List.tail_cons, ih,
      headD_map_tails, reaches_cons]

theorem leadingOn_map_tails (cs : List Char) :
    leadingOn ok cs (cs.tails.map f) =
      cs.tails.map fun rest => (List.range (run ok rest)).any fun k => f (rest.drop (k + 1)) := by
  rw [leadingOn, leading_map_tails, zipWith_tail_map_tails]
  apply List.map_congr_left
  intro rest _
  cases rest with
  | nil => simp [run]
  | cons c after =>
    by_cases good : ok c = true
    · have longer : run ok (c :: after) = run ok after + 1 := by simp [run, good]
      simp only [good, Bool.true_and, longer, reaches, List.drop_succ_cons]
    · have none : run ok (c :: after) = 0 := by simp [run, good]
      simp [none, good]

theorem leadingLiteral_map_tails (caseSensitive : Bool) (text cs : List Char) :
    leadingLiteral caseSensitive text cs (cs.tails.map f) =
      cs.tails.map fun rest => isAtFront caseSensitive text rest && f (rest.drop text.length) := by
  induction cs with
  | nil => cases text <;> simp [leadingLiteral, isAtFront]
  | cons c cs ih =>
    have tails := List.tails_cons c cs
    rw [leadingLiteral]
    have first : (isAtFront caseSensitive text (c :: cs) &&
        (((c :: cs).tails.map f).drop text.length).headD false) =
          (isAtFront caseSensitive text (c :: cs) && f ((c :: cs).drop text.length)) := by
      cases front : isAtFront caseSensitive text (c :: cs) with
      | false => rfl
      | true => rw [headD_drop_map_tails f (isAtFront_iff.mp front).1]
    rw [first, tails, List.map_cons, List.map_cons, List.tail_cons, ih]

theorem zipWith_map_self (g : Bool → Bool → Bool) (h k : List Char → Bool) (texts : List (List Char)) :
    (texts.map h).zipWith g (texts.map k) = texts.map fun rest => g (h rest) (k rest) := by
  induction texts with
  | nil => rfl
  | cons text rest ih => simp only [List.map_cons, List.zipWith_cons_cons, ih]

theorem any_downFrom (n : Nat) (g : Nat → Bool) :
    (downFrom n).any g = (List.range (n + 1)).any g := by
  rw [downFrom, List.any_reverse]

theorem any_downFrom_dropLast (n : Nat) (g : Nat → Bool) :
    (downFrom n).dropLast.any g = (List.range n).any fun k => g (k + 1) := by
  rw [downFrom_dropLast, List.any_reverse, List.any_map]
  rfl

theorem ends_map_tails (caseSensitive : Bool) (p : Piece) (f : List Char → Bool) (cs : List Char) :
    p.ends caseSensitive cs (cs.tails.map f) =
      cs.tails.map fun rest => (p.lengths caseSensitive rest).any fun k => f (rest.drop k) := by
  cases p with
  | literal text =>
    rw [ends, leadingLiteral_map_tails]
    apply List.map_congr_left
    intro rest _
    rw [lengths]
    cases isAtFront caseSensitive text rest <;> simp
  | slash =>
    rw [ends, zipWith_tail_map_tails, zipWith_map_self]
    apply List.map_congr_left
    intro rest _
    cases rest with
    | nil => simp [lengths]
    | cons c after => by_cases found : c = '/' <;> simp [lengths, found, Bool.or_comm]
  | segment =>
    rw [ends, leadingOn_map_tails]
    apply List.map_congr_left
    intro rest _
    rw [lengths, any_downFrom_dropLast]
  | shortSegment =>
    rw [ends, leadingOn_map_tails]
    apply List.map_congr_left
    intro rest _
    rw [lengths, List.any_map]
    rfl
  | anything =>
    rw [ends, leading_map_tails]
    apply List.map_congr_left
    intro rest _
    rw [lengths, any_downFrom]
    rfl
  | something =>
    rw [ends, leadingOn_map_tails]
    apply List.map_congr_left
    intro rest _
    rw [lengths, any_downFrom_dropLast]
  | optionalTail =>
    rw [ends, leading_map_tails, zipWith_tail_map_tails, zipWith_map_self]
    apply List.map_congr_left
    intro rest _
    cases rest with
    | nil => simp [lengths]
    | cons c after =>
      by_cases found : c = '/'
      · subst found
        simp [lengths, List.any_map, any_downFrom, reaches, Function.comp_def]
      · simp [lengths, found]

end GatewayRouting.Piece
