import GatewayRouting.Downstream.Substitution
import GatewayRouting.Proofs.Except
import GatewayRouting.Template.Token
import Mathlib.Data.List.Infix
import Mathlib.Data.List.TakeWhile

/-!
Which texts have tokens. The lenient reader cuts every text into stretches and loses nothing of it; the strict
one accepts a text exactly when no stretch has a stray brace and no name is blank, and then reads these same
stretches.
-/

set_option autoImplicit false

namespace GatewayRouting

namespace Text

theorem trim_infix (cs : List Char) : trim cs <:+: cs := by
  have ending : (trimStart cs).reverse.dropWhile isBlank <:+ (trimStart cs).reverse :=
    List.dropWhile_suffix _
  have front : trim cs <+: trimStart cs := by
    rw [← List.reverse_suffix, trim, trimEnd, List.reverse_reverse]
    exact ending
  exact front.isInfix.trans (List.dropWhile_suffix _).isInfix

/-- Only blanks leave nothing. -/
theorem trim_eq_nil_iff {cs : List Char} : trim cs = [] ↔ ∀ c ∈ cs, isBlank c = true := by
  rw [trim, trimEnd, List.reverse_eq_nil_iff, List.dropWhile_eq_nil_iff]
  simp only [List.mem_reverse]
  constructor
  · intro blank
    by_cases nothing : trimStart cs = []
    · exact List.dropWhile_eq_nil_iff.mp nothing
    · -- What is left in front begins with a character that is no blank.
      have first : isBlank ((trimStart cs).head nothing) = false :=
        List.head_dropWhile_not isBlank nothing
      rw [blank _ (List.head_mem nothing)] at first
      cases first
  · intro blank c inside
    exact blank c ((List.dropWhile_suffix _).subset inside)

end Text

/-- No brace stands in the text. -/
@[mk_iff]
structure BraceFree (cs : List Char) : Prop where
  opening : '\x7b' ∉ cs
  closing : '\x7d' ∉ cs

/-- What may stand between two braces: no brace, and not blanks alone. -/
@[mk_iff]
structure NameText (inside : List Char) : Prop where
  braceFree : BraceFree inside
  notBlank : ∃ c ∈ inside, Text.isBlank c = false

namespace BraceFree

theorem nil : BraceFree [] := ⟨List.not_mem_nil, List.not_mem_nil⟩

theorem of_subset {cs part : List Char} (free : BraceFree cs) (inside : part ⊆ cs) : BraceFree part :=
  ⟨fun found => free.opening (inside found), fun found => free.closing (inside found)⟩

theorem append_iff {front back : List Char} :
    BraceFree (front ++ back) ↔ BraceFree front ∧ BraceFree back := by
  simp only [braceFree_iff, List.mem_append, not_or]
  tauto

theorem cons_iff {c : Char} {cs : List Char} :
    BraceFree (c :: cs) ↔ (c ≠ '\x7b' ∧ c ≠ '\x7d') ∧ BraceFree cs := by
  simp only [braceFree_iff, List.mem_cons, not_or]
  tauto

end BraceFree

/-- The name that is recorded for what stands between two braces. -/
def recordedName (inside : List Char) : String := String.ofList (Text.trim inside)

theorem recordedName_eq_empty_iff {inside : List Char} :
    recordedName inside = "" ↔ ¬∃ c ∈ inside, Text.isBlank c = false := by
  rw [recordedName, String.ofList_eq_empty_iff, Text.trim_eq_nil_iff]
  simp

namespace Span

/-- The text of a stretch. -/
def source : Span → List Char
  | .text cs => cs
  | .name inside => '\x7b' :: inside ++ ['\x7d']

/-- Whether the strict reader takes the stretch. -/
def WellFormed : Span → Prop
  | .text cs => BraceFree cs
  | .name inside => NameText inside

/-- The token of the stretch. -/
def token : Span → Token
  | .text cs => .literal cs
  | .name inside => .placeholder (recordedName inside)

theorem flatMap_source_consChar (c : Char) (spans : List Span) :
    (consChar c spans).flatMap source = c :: spans.flatMap source := by
  unfold consChar
  split <;> rfl

theorem flatMap_source_scan (state : Option (List Char)) (cs : List Char) :
    (scan state cs).flatMap source = (state.elim [] ('\x7b' :: ·)) ++ cs := by
  induction cs generalizing state with
  | nil => cases state <;> simp [scan, source]
  | cons c rest ih =>
    cases state with
    | none =>
      rw [scan]
      split
      · rename_i opens
        rw [ih, opens]
        rfl
      · rw [flatMap_source_consChar, ih]
        rfl
    | some inside =>
      rw [scan]
      split
      · rename_i closes
        rw [List.flatMap_cons, ih, closes]
        simp [source]
      · rw [ih]
        simp

/-- The stretches of a text put together are the text. -/
theorem flatMap_source_ofText (cs : List Char) : (ofText cs).flatMap source = cs :=
  flatMap_source_scan none cs

theorem map_token_consChar (c : Char) (spans : List Span) :
    (consChar c spans).map token = Token.consChar c (spans.map token) := by
  cases spans with
  | nil => rfl
  | cons first others => cases first <;> rfl

theorem wellFormed_consChar {c : Char} {spans : List Span} :
    (∀ span ∈ consChar c spans, span.WellFormed) ↔
      (c ≠ '\x7b' ∧ c ≠ '\x7d') ∧ ∀ span ∈ spans, span.WellFormed := by
  unfold consChar
  split
  · rw [List.forall_mem_cons, List.forall_mem_cons, WellFormed, WellFormed, BraceFree.cons_iff,
      and_assoc]
  · rw [List.forall_mem_cons, WellFormed, BraceFree.cons_iff]
    simp [BraceFree.nil]

/-- A name that has begun with a brace in it is never well formed. -/
theorem exists_malformed_of_opening {inside : List Char} (nested : '\x7b' ∈ inside) (cs : List Char) :
    ¬∀ span ∈ scan (some inside) cs, span.WellFormed := by
  induction cs generalizing inside with
  | nil =>
    rw [scan, List.forall_mem_singleton]
    exact fun good => good.opening List.mem_cons_self
  | cons c rest ih =>
    rw [scan]
    split
    · rw [List.forall_mem_cons]
      exact fun good => good.1.braceFree.opening nested
    · exact ih (List.mem_append_left _ nested)

theorem scan_eq_ok_iff {template : String} {state : Option (List Char)} {cs : List Char}
    {tokens : List Token} (started : BraceFree (state.getD [])) :
    Token.scan template .bare state cs = .ok tokens ↔
      (∀ span ∈ scan state cs, span.WellFormed) ∧ tokens = (scan state cs).map token := by
  -- Both readers are inside braces at the same characters, so the induction is over both states.
  induction cs generalizing state tokens with
  | nil =>
    cases state with
    | none => simp [Token.scan, scan, eq_comm]
    | some inside =>
      rw [Token.scan, scan, List.forall_mem_singleton]
      constructor
      · intro accepted
        cases accepted
      · exact fun good => absurd List.mem_cons_self good.1.opening
  | cons c rest ih =>
    have outside {later : List Token} : Token.scan template .bare none rest = .ok later ↔
        (∀ span ∈ scan none rest, span.WellFormed) ∧ later = (scan none rest).map token :=
      ih .nil
    cases state with
    | none =>
      rw [Token.scan, scan]
      by_cases opens : c = '\x7b'
      · rw [if_pos opens, if_pos opens]
        exact ih .nil
      · rw [if_neg opens, if_neg opens, wellFormed_consChar, map_token_consChar]
        by_cases closes : c = '\x7d'
        · rw [if_pos closes]
          simp [closes]
        · rw [if_neg closes, map_eq_ok]
          simp only [outside, opens, closes, ne_eq, not_false_eq_true, and_self, true_and]
          constructor
          · rintro ⟨_, ⟨good, rfl⟩, rfl⟩
            exact ⟨good, rfl⟩
          · rintro ⟨good, rfl⟩
            exact ⟨_, ⟨good, rfl⟩, rfl⟩
    | some inside =>
      rw [Token.scan, scan]
      by_cases closes : c = '\x7d'
      · rw [if_pos closes, if_pos closes, List.forall_mem_cons, List.map_cons, WellFormed, token]
        dsimp only
        change (if recordedName inside = "" then _ else _) = _ ↔ _
        by_cases blank : recordedName inside = ""
        · rw [if_pos blank]
          simp [nameText_iff, recordedName_eq_empty_iff.mp blank]
        · have named : NameText inside := ⟨started, not_not.mp (mt recordedName_eq_empty_iff.mpr blank)⟩
          rw [if_neg blank, map_eq_ok]
          simp only [outside, named, true_and]
          constructor
          · rintro ⟨_, ⟨good, rfl⟩, rfl⟩
            exact ⟨good, rfl⟩
          · rintro ⟨good, rfl⟩
            exact ⟨_, ⟨good, rfl⟩, rfl⟩
      · rw [if_neg closes, if_neg closes]
        by_cases opens : c = '\x7b'
        · rw [if_pos opens]
          have malformed := exists_malformed_of_opening
            (List.mem_append_right inside (List.mem_singleton.mpr opens.symm)) rest
          simp [malformed]
        · rw [if_neg opens]
          exact ih (BraceFree.append_iff.mpr
            ⟨started, BraceFree.cons_iff.mpr ⟨⟨opens, closes⟩, .nil⟩⟩)

/-- A text has tokens exactly when its stretches are well formed, and they are the tokens of these. -/
theorem tokenize_eq_ok_iff {template : String} {tokens : List Token} :
    Token.tokenize .bare template = .ok tokens ↔
      (∀ span ∈ ofText template.toList, span.WellFormed) ∧
        tokens = (ofText template.toList).map token :=
  scan_eq_ok_iff .nil

theorem names_map_token (spans : List Span) :
    Token.names (spans.map token) = (spans.filterMap name?).map recordedName := by
  induction spans with
  | nil => rfl
  | cons first others ih =>
    cases first with
    | text cs => exact ih
    | name inside => exact congrArg (recordedName inside :: ·) ih

end Span

end GatewayRouting
