import GatewayRouting.Proofs.Template.Stretches

/-!
A template is read in two ways: as tokens, strictly, when it is compiled, and as spans, leniently, when values
are put into it. In a text that compiles both see the same stretches, and one can be told from the other where
no name has blanks around it.
-/

set_option autoImplicit false

namespace GatewayRouting

namespace Span

/-- A name is read up to its closing brace. -/
theorem scan_name {name : List Char} (absent : '\x7d' ∉ name) (inside rest : List Char) :
    scan (some inside) (name ++ '\x7d' :: rest) = .name (inside ++ name) :: scan none rest := by
  induction name generalizing inside with
  | nil => rw [List.nil_append, scan, if_pos rfl, List.append_nil]
  | cons c name ih =>
    rw [List.mem_cons, not_or] at absent
    rw [List.cons_append, scan, if_neg (Ne.symm absent.1), ih absent.2, List.append_assoc,
      List.singleton_append]

/-- The stretch of a token whose name is written without blanks around it. -/
def ofToken : Token → Span
  | .literal cs => .text cs
  | .placeholder label => .name label.toList

theorem ofToken_token {span : Span} (tight : ∀ inside, span.name? = some inside → Text.trim inside = inside) :
    ofToken span.token = span := by
  cases span with
  | text cs => rfl
  | name inside => rw [token, ofToken, recordedName, String.toList_ofList, tight inside rfl]

/-- Where names are written without blanks around them, the spans of a text are its tokens. -/
theorem ofText_eq_map_ofToken {template : String} {tokens : List Token}
    (accepted : Token.tokenize .bare template = .ok tokens)
    (tight : ∀ inside ∈ templateNames template.toList, Text.trim inside = inside) :
    ofText template.toList = tokens.map ofToken := by
  obtain ⟨_, rfl⟩ := tokenize_eq_ok_iff.mp accepted
  have kept : ∀ span ∈ ofText template.toList, ofToken span.token = span := by
    intro span listed
    exact ofToken_token fun inside named => tight inside (List.mem_filterMap.mpr ⟨span, listed, named⟩)
  rw [List.map_map]
  exact ((List.map_congr_left kept).trans (List.map_id _)).symm

theorem filled_consChar (c : Char) {spans : List Span} (filled : ∀ cs, Span.text cs ∈ spans → cs ≠ []) :
    ∀ cs, Span.text cs ∈ consChar c spans → cs ≠ [] := by
  intro cs listed
  unfold consChar at listed
  split at listed
  · rcases List.mem_cons.mp listed with same | later
    · cases same
      exact List.cons_ne_nil _ _
    · exact filled cs (List.mem_cons_of_mem _ later)
  · rcases List.mem_cons.mp listed with same | later
    · cases same
      exact List.cons_ne_nil _ _
    · exact filled cs later

theorem filled_scan (state : Option (List Char)) (cs : List Char) :
    ∀ text, Span.text text ∈ scan state cs → text ≠ [] := by
  induction cs generalizing state with
  | nil =>
    cases state with
    | none => simp [scan]
    | some inside => simp [scan]
  | cons c rest ih =>
    cases state with
    | none =>
      rw [scan]
      split
      · exact ih _
      · exact filled_consChar c (ih none)
    | some inside =>
      rw [scan]
      split
      · simpa using ih none
      · exact ih _

/-- No literal token is empty. -/
theorem literal_ne_nil {template : String} {tokens : List Token}
    (accepted : Token.tokenize .bare template = .ok tokens) {cs : List Char}
    (inside : Token.literal cs ∈ tokens) : cs ≠ [] := by
  obtain ⟨_, rfl⟩ := tokenize_eq_ok_iff.mp accepted
  obtain ⟨span, listed, same⟩ := List.mem_map.mp inside
  cases span with
  | text text =>
    cases same
    exact filled_scan none _ _ listed
  | name label => cases same

end Span

end GatewayRouting
