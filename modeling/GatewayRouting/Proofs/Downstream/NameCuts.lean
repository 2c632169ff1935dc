import GatewayRouting.Proofs.Template.Grammar
import GatewayRouting.Proofs.Text.Cutting

/-!
Texts cut after the names between braces. A name begins at the first opening brace after the name before it and
ends at the first closing brace, whatever it holds; an opening brace that is never closed begins no name.
-/

set_option autoImplicit false

namespace GatewayRouting

/-- The text cut after each of its names. A part is what stands before a name, and the name; the rest holds no
name. -/
structure CutAtNames (cs : List Char) (parts : List (List Char × List Char)) (rest : List Char) : Prop where
  whole : cs = parts.flatMap (fun part => part.1 ++ (Span.name part.2).source) ++ rest
  opened : ∀ part ∈ parts, '\x7b' ∉ part.1
  closed : ∀ part ∈ parts, '\x7d' ∉ part.2
  unclosed : ∀ after, '\x7b' :: after <:+ rest → '\x7d' ∉ after

namespace Span

/-- Text without an opening brace goes into the first span. -/
theorem ofText_append_of_absent {front : List Char} (absent : '\x7b' ∉ front) (cs : List Char) :
    ofText (front ++ cs) = front.foldr consChar (ofText cs) := by
  induction front with
  | nil => rfl
  | cons c front ih =>
    rw [List.mem_cons, not_or] at absent
    rw [List.cons_append, ofText_cons_of_other (Ne.symm absent.1), ih absent.2, List.foldr_cons]

theorem templateNames_append_of_absent {front : List Char} (absent : '\x7b' ∉ front) (cs : List Char) :
    templateNames (front ++ cs) = templateNames cs := by
  rw [templateNames, ofText_append_of_absent absent, templateNames]
  clear absent
  induction front with
  | nil => rfl
  | cons c front ih => rw [List.foldr_cons, filterMap_name?_consChar, ih]

theorem ofText_source {name : List Char} (closed : '\x7d' ∉ name) (cs : List Char) :
    ofText ((Span.name name).source ++ cs) = .name name :: ofText cs := by
  have written : (Span.name name).source ++ cs = '\x7b' :: name ++ '\x7d' :: cs := by
    rw [source, List.append_assoc]
    rfl
  rw [written, ofText_name closed]

theorem templateNames_source {name : List Char} (closed : '\x7d' ∉ name) (cs : List Char) :
    templateNames ((Span.name name).source ++ cs) = name :: templateNames cs := by
  rw [templateNames, ofText_source closed, List.filterMap_cons]
  rfl

/-- A name that has begun is never ended without a closing brace. -/
theorem scan_of_unclosed {cs : List Char} (absent : '\x7d' ∉ cs) (inside : List Char) :
    scan (some inside) cs = [.text ('\x7b' :: (inside ++ cs))] := by
  induction cs generalizing inside with
  | nil => rw [scan, List.append_nil]
  | cons c rest ih =>
    rw [List.mem_cons, not_or] at absent
    rw [scan, if_neg (Ne.symm absent.1), ih absent.2, List.append_assoc, List.singleton_append]

theorem templateNames_of_unclosed {cs : List Char}
    (unclosed : ∀ after, '\x7b' :: after <:+ cs → '\x7d' ∉ after) : templateNames cs = [] := by
  induction cs with
  | nil => rfl
  | cons c rest ih =>
    by_cases opens : c = '\x7b'
    · subst opens
      have absent := unclosed rest (List.suffix_refl _)
      rw [templateNames, ofText, scan, if_pos rfl, scan_of_unclosed absent]
      rfl
    · rw [templateNames, ofText_cons_of_other opens, filterMap_name?_consChar]
      exact ih fun after ending => unclosed after (ending.trans (List.suffix_cons c rest))

end Span

namespace CutAtNames

variable {cs rest : List Char} {parts : List (List Char × List Char)}

theorem nil_iff :
    CutAtNames cs [] rest ↔ cs = rest ∧ ∀ after, '\x7b' :: after <:+ rest → '\x7d' ∉ after := by
  constructor
  · intro cut
    exact ⟨cut.whole, cut.unclosed⟩
  · rintro ⟨whole, unclosed⟩
    exact ⟨whole, List.forall_mem_nil _, List.forall_mem_nil _, unclosed⟩

theorem cons_iff {front name : List Char} :
    CutAtNames cs ((front, name) :: parts) rest ↔
      '\x7b' ∉ front ∧ '\x7d' ∉ name ∧
        ∃ later, cs = front ++ ((Span.name name).source ++ later) ∧ CutAtNames later parts rest := by
  constructor
  · rintro ⟨whole, opened, closed, unclosed⟩
    obtain ⟨openedHere, openedLater⟩ := List.forall_mem_cons.mp opened
    obtain ⟨closedHere, closedLater⟩ := List.forall_mem_cons.mp closed
    refine ⟨openedHere, closedHere, _, ?_, rfl, openedLater, closedLater, unclosed⟩
    rw [whole, List.flatMap_cons, List.append_assoc, List.append_assoc]
  · rintro ⟨openedHere, closedHere, later, rfl, cut⟩
    refine ⟨?_, List.forall_mem_cons.mpr ⟨openedHere, cut.opened⟩,
      List.forall_mem_cons.mpr ⟨closedHere, cut.closed⟩, cut.unclosed⟩
    rw [List.flatMap_cons, List.append_assoc, List.append_assoc, ← cut.whole]

/-- The names of the parts are those that the reader of spans finds. -/
theorem templateNames_eq (cut : CutAtNames cs parts rest) : templateNames cs = parts.map Prod.snd := by
  induction parts generalizing cs with
  | nil =>
    obtain ⟨rfl, unclosed⟩ := nil_iff.mp cut
    exact Span.templateNames_of_unclosed unclosed
  | cons part parts ih =>
    obtain ⟨opened, closed, later, rfl, others⟩ := cons_iff.mp cut
    rw [Span.templateNames_append_of_absent opened, Span.templateNames_source closed, ih others, List.map_cons]

end CutAtNames

/-- Every text can be cut after its names. -/
theorem exists_cutAtNames (cs : List Char) : ∃ parts rest, CutAtNames cs parts rest := by
  -- A name passes several characters at once, so the induction is on the length.
  induction size : cs.length using Nat.strongRecOn generalizing cs with
  | ind n ih =>
    cases opening : Text.splitOnce '\x7b' cs with
    | none =>
      have absent := Text.splitOnce_eq_none_iff.mp opening
      refine ⟨[], cs, CutAtNames.nil_iff.mpr ⟨rfl, ?_⟩⟩
      intro after ending
      exact absurd (ending.subset List.mem_cons_self) absent
    | some pieces =>
      obtain ⟨front, opened⟩ := pieces
      obtain ⟨rfl, absent⟩ := Text.splitOnce_eq_some opening
      cases closing : Text.splitOnce '\x7d' opened with
      | none =>
        have never := Text.splitOnce_eq_none_iff.mp closing
        refine ⟨[], _, CutAtNames.nil_iff.mpr ⟨rfl, ?_⟩⟩
        rintro after ⟨before, same⟩
        -- The first opening brace is this one or one before it, so all that follows stands behind it.
        rcases Text.append_cons_eq_append_cons_iff.mp same with ⟨_, rfl⟩ | ⟨_, rfl, _⟩ | ⟨_, _, rfl⟩
        · exact never
        · exact absurd (List.mem_append_right before List.mem_cons_self) absent
        · exact fun inside => never (List.mem_append_right _ (List.mem_cons_of_mem _ inside))
      | some more =>
        obtain ⟨name, later⟩ := more
        obtain ⟨rfl, closed⟩ := Text.splitOnce_eq_some closing
        have shorter : later.length < n := by
          simp only [List.length_append, List.length_cons] at size
          omega
        obtain ⟨parts, rest, cut⟩ := ih later.length shorter later rfl
        refine ⟨(front, name) :: parts, rest, CutAtNames.cons_iff.mpr ⟨absent, closed, later, ?_, cut⟩⟩
        rw [Span.source, List.append_assoc]
        rfl

end GatewayRouting
