import GatewayRouting.ClaimMapping
import GatewayRouting.Proofs.Text.Cutting
import GatewayRouting.Proofs.Text.Decimal
import GatewayRouting.Proofs.Text.Trimming

/-!
Claim mappings are read back from the way they are written, whatever the claim's name and the delimiter hold
besides the mark between the parts, and a mapping picks one of the parts that its delimiter joins.
-/

set_option autoImplicit false

namespace GatewayRouting.ClaimMapping

def claimText (name : String) : String := "Claims[" ++ name ++ "]"

def valueText (index : Nat) : String := "value[" ++ toString index ++ "]"

/-- The ways to write a mapping: its parts with `>` between them and any blanks around each. -/
def WrittenAs (m : ClaimMapping) (expression : String) : Prop :=
  ∃ claim value, Text.Padded (claimText m.claim).toList claim ∧ Text.Padded (valueText m.index).toList value ∧
    match m.delimiter with
    | none => expression.toList = claim ++ '>' :: value
    | some delimiter => ∃ part, Text.Padded delimiter.toList part ∧
        expression.toList = claim ++ '>' :: (value ++ '>' :: part)

/-- A mapping whose parts can be told apart in writing. The target is not written. -/
structure Writable (m : ClaimMapping) : Prop where
  named : m.claim.toList ≠ []
  claim_apart : '>' ∉ m.claim.toList
  index_lt : m.index < 2 ^ 64
  delimited : ∀ delimiter ∈ m.delimiter, delimiter.toList ≠ []
  delimiter_apart : ∀ delimiter ∈ m.delimiter, '>' ∉ delimiter.toList
  delimiter_first : ∀ delimiter ∈ m.delimiter, ∀ c ∈ delimiter.toList.head?, Text.isBlank c = false
  delimiter_last : ∀ delimiter ∈ m.delimiter, ∀ c ∈ delimiter.toList.getLast?, Text.isBlank c = false

theorem mark_notBlank : Text.isBlank '>' = false := by decide

theorem toList_claimText (name : String) :
    (claimText name).toList = "Claims[".toList ++ (name.toList ++ [']']) := by
  rw [claimText, String.toList_append, String.toList_append, List.append_assoc]
  rfl

theorem toList_valueText (index : Nat) :
    (valueText index).toList = "value[".toList ++ ((toString index).toList ++ [']']) := by
  rw [valueText, String.toList_append, String.toList_append, List.append_assoc]
  rfl

/-- Trimming leaves a text in brackets as it is if its first character is no blank. -/
theorem trim_bracketed {c : Char} {front inside padded : List Char}
    (around : Text.Padded (front ++ (inside ++ [']'])) padded) (first : front.head? = some c)
    (seen : Text.isBlank c = false) : Text.trim padded = front ++ (inside ++ [']']) := by
  have filled : front ≠ [] := by
    rintro rfl
    cases first
  apply around.trim_eq
  · exact List.append_ne_nil_of_left_ne_nil filled _
  · intro other same
    rw [List.head?_append_of_ne_nil _ filled, first, Option.mem_some] at same
    exact same ▸ seen
  · intro last same
    rw [← List.append_assoc, List.getLast?_concat, Option.mem_some] at same
    subst same
    decide

theorem trim_claimText {name : String} {claim : List Char} (around : Text.Padded (claimText name).toList claim) :
    Text.trim claim = (claimText name).toList := by
  have first : "Claims[".toList.head? = some 'C' := by decide
  rw [toList_claimText] at around ⊢
  exact trim_bracketed around first (by decide)

theorem trim_valueText {index : Nat} {value : List Char} (around : Text.Padded (valueText index).toList value) :
    Text.trim value = (valueText index).toList := by
  have first : "value[".toList.head? = some 'v' := by decide
  rw [toList_valueText] at around ⊢
  exact trim_bracketed around first (by decide)

theorem mark_not_mem_claimText {name : String} (apart : '>' ∉ name.toList) : '>' ∉ (claimText name).toList := by
  have front : '>' ∉ "Claims[".toList := by decide
  rw [toList_claimText, List.mem_append, List.mem_append, not_or, not_or]
  exact ⟨front, apart, by decide⟩

theorem mark_not_mem_valueText (index : Nat) : '>' ∉ (valueText index).toList := by
  have front : '>' ∉ "value[".toList := by decide
  rw [toList_valueText, List.mem_append, List.mem_append, not_or, not_or]
  exact ⟨front, Text.not_mem_decimal (by decide) index, by decide⟩

theorem claimName?_claimText {name : String} (named : name.toList ≠ []) :
    claimName? (claimText name).toList = some name.toList := by
  have kept : (!name.toList.isEmpty) = true := by simp [named]
  rw [claimName?, toList_claimText, Text.between_append, Option.filter_some, if_pos kept]

theorem valueIndex?_valueText {index : Nat} (below : index < 2 ^ 64) :
    valueIndex? (valueText index).toList = some index := by
  have bracket : (valueText index).toList ≠ "value".toList := by
    intro same
    have ending := congrArg List.getLast? same
    rw [toList_valueText, ← List.append_assoc, List.getLast?_concat] at ending
    revert ending
    decide
  rw [valueIndex?, if_neg bracket, toList_valueText, Text.between_append, Option.bind_some]
  exact Text.naturalBelow_toString below

theorem ofParts_written (target : String) {name : String} {index : Nat} (named : name.toList ≠ [])
    (below : index < 2 ^ 64) (delimiter : Option (List Char)) :
    ofParts target (claimText name).toList (valueText index).toList delimiter =
      .ok ⟨target, name, (delimiter.filter (!·.isEmpty)).map String.ofList, index⟩ := by
  simp only [ofParts, claimName?_claimText named, valueIndex?_valueText below, String.ofList_toList]

/-- Between the marks of a written mapping stand its parts. -/
theorem parse_of_writtenAs {m : ClaimMapping} (writable : m.Writable) {expression : String}
    (written : m.WrittenAs expression) : parse m.target expression = .ok m := by
  obtain ⟨target, name, delimiter, index⟩ := m
  obtain ⟨claim, value, aroundClaim, aroundValue, rest⟩ := written
  have claimApart : '>' ∉ claim := fun inside =>
    mark_not_mem_claimText writable.claim_apart (aroundClaim.mem_of_notBlank inside mark_notBlank)
  have valueApart : '>' ∉ value := fun inside =>
    mark_not_mem_valueText index (aroundValue.mem_of_notBlank inside mark_notBlank)
  have made := ofParts_written target writable.named writable.index_lt
  cases delimiter with
  | none =>
    have text : expression.toList = claim ++ '>' :: value := rest
    have parts : (Text.splitAll '>' expression.toList).map Text.trim =
        [(claimText name).toList, (valueText index).toList] := by
      rw [text, Text.splitAll_append_cons, Text.splitAll_of_absent claimApart, Text.splitAll_of_absent valueApart]
      simp only [List.singleton_append, List.map_cons, List.map_nil, trim_claimText aroundClaim,
        trim_valueText aroundValue]
    rw [parse, parts]
    exact made none
  | some delimiter =>
    obtain ⟨part, aroundPart, text⟩ := rest
    have filled : delimiter.toList ≠ [] := writable.delimited delimiter rfl
    have partApart : '>' ∉ part := fun inside =>
      writable.delimiter_apart delimiter rfl (aroundPart.mem_of_notBlank inside mark_notBlank)
    have trimmed : Text.trim part = delimiter.toList :=
      aroundPart.trim_eq filled (writable.delimiter_first delimiter rfl) (writable.delimiter_last delimiter rfl)
    have parts : (Text.splitAll '>' expression.toList).map Text.trim =
        [(claimText name).toList, (valueText index).toList, delimiter.toList] := by
      rw [text, Text.splitAll_append_cons, Text.splitAll_append_cons, Text.splitAll_of_absent claimApart,
        Text.splitAll_of_absent valueApart, Text.splitAll_of_absent partApart]
      simp only [List.singleton_append, List.map_cons, List.map_nil, trim_claimText aroundClaim,
        trim_valueText aroundValue, trimmed]
    have kept : (!delimiter.toList.isEmpty) = true := by simp [filled]
    rw [parse, parts]
    refine (made (some delimiter.toList)).trans ?_
    rw [Option.filter_some, if_pos kept, Option.map_some, String.ofList_toList]

/-- A delimiter of one character cuts joined parts where they were joined. -/
theorem splitFound_intercalate {c : Char} {parts : List String} (some : parts ≠ [])
    (absent : ∀ part ∈ parts, c ∉ part.toList) :
    Text.splitFound [c] 0 ((String.singleton c).intercalate parts).toList = parts.map String.toList := by
  have pieces : parts.map String.toList ≠ [] := fun nothing => some (List.map_eq_nil_iff.mp nothing)
  have separate : ∀ piece ∈ parts.map String.toList, c ∉ piece := List.forall_mem_map.mpr absent
  rw [Text.splitFound_singleton, String.toList_intercalate, String.toList_singleton,
    Text.splitAll_intercalate pieces, Text.flatMap_splitAll_of_absent separate]

/-- A mapping is read back from every way to write it; and of parts joined by its delimiter, if that is one
character which they do not hold, it picks the one at its index, or nothing past the end. -/
theorem parse_written_and_select_joined (m : ClaimMapping) :
    (m.Writable → ∀ expression, m.WrittenAs expression → parse m.target expression = .ok m) ∧
    ∀ c, m.delimiter = some (String.singleton c) → ∀ parts : List String, parts ≠ [] →
      (∀ part ∈ parts, c ∉ part.toList) →
      m.select ((String.singleton c).intercalate parts) = parts[m.index]? := by
  refine ⟨fun writable _ written => parse_of_writtenAs writable written, ?_⟩
  intro c delimiter parts some absent
  have cut := splitFound_intercalate some absent
  have text : String.ofList ∘ String.toList = id := funext fun s => String.ofList_toList
  simp only [select, delimiter]
  rw [String.toList_singleton, cut, ← List.getElem?_map, List.map_map, text, List.map_id]

/-- The second part of a claim whose name holds brackets and a space, written with a tab and a line break. -/
theorem parse_written_and_select_joined_of_bracketedName :
    Writable ⟨"UserId", "my [sub]", some "|", 1⟩ ∧
    WrittenAs ⟨"UserId", "my [sub]", some "|", 1⟩ "\tClaims[my [sub]]>value[1] >\n|" ∧
    parse "UserId" "\tClaims[my [sub]]>value[1] >\n|" = .ok ⟨"UserId", "my [sub]", some "|", 1⟩ ∧
    (["usr", "42"] : List String) ≠ [] ∧ (∀ part ∈ ["usr", "42"], '|' ∉ part.toList) ∧
    select ⟨"UserId", "my [sub]", some "|", 1⟩ ((String.singleton '|').intercalate ["usr", "42"]) = some "42" := by
  have writable : Writable ⟨"UserId", "my [sub]", some "|", 1⟩ := by
    refine ⟨by decide, by decide, by decide, by decide, by decide, ?_, ?_⟩
    · rintro delimiter ⟨⟩ c ⟨⟩
      decide
    · rintro delimiter ⟨⟩ c ⟨⟩
      decide
  have tab : ∀ c ∈ ['\t'] ++ [], Text.isBlank c = true := List.all_eq_true.mp rfl
  have space : ∀ c ∈ [] ++ [' '], Text.isBlank c = true := List.all_eq_true.mp rfl
  have lineBreak : ∀ c ∈ ['\n'] ++ [], Text.isBlank c = true := List.all_eq_true.mp rfl
  have written : WrittenAs ⟨"UserId", "my [sub]", some "|", 1⟩ "\tClaims[my [sub]]>value[1] >\n|" :=
    ⟨_, _, ⟨['\t'], [], rfl, tab⟩, ⟨[], [' '], rfl, space⟩, _, ⟨['\n'], [], rfl, lineBreak⟩, by decide⟩
  have parts : (["usr", "42"] : List String) ≠ [] := by decide
  have absent : ∀ part ∈ ["usr", "42"], '|' ∉ part.toList := by decide
  have laws := parse_written_and_select_joined ⟨"UserId", "my [sub]", some "|", 1⟩
  exact ⟨writable, written, laws.1 writable _ written, parts, absent, laws.2 '|' rfl _ parts absent⟩

end GatewayRouting.ClaimMapping
