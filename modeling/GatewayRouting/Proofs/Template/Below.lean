import GatewayRouting.Proofs.Downstream.Filling
import GatewayRouting.Proofs.Template.Grammar
import GatewayRouting.Proofs.Template.SegmentSplits

/-!
Templates whose last placeholder takes all that stands below a path, down to nothing at all.
-/

set_option autoImplicit false

namespace GatewayRouting.UpstreamTemplate

variable {caseSensitive : Bool} {template name : String} {values : List (List Char)}
  {found : List Capture}

/-- A path followed by a slash and a name is a template, if nothing in it is special. -/
theorem compile_below {path label : List Char} (initial : path.head? = some '/')
    (free : BraceFree path) (name : NameText label) (unmarked : '?' ∉ path ∧ '?' ∉ label)
    (text : template.toList = path ++ ['/'] ++ ('\x7b' :: label ++ ['\x7d'])) :
    compile template caseSensitive = .ok (ofTokens template caseSensitive
      [.literal (path ++ ['/']), .placeholder (recordedName label)] none) := by
  have whole : template = String.ofList (path ++ ['/'] ++ ('\x7b' :: label ++ ['\x7d'])) := by
    rw [← text, String.ofList_toList]
  have slashed : BraceFree (path ++ ['/']) :=
    BraceFree.append_iff.mpr ⟨free, ⟨by decide, by decide⟩⟩
  have parts : splitQuery template = (template, none) := by
    rw [whole]
    exact splitQuery_of_absent (by simp [unmarked])
  have read : Token.tokenize .bare template =
      .ok [.literal (path ++ ['/']), .placeholder (recordedName label)] := by
    rw [whole, Token.tokenize_eq_ok_of_spans
      (Span.ofText_append_name (by simp) slashed name.braceFree.closing [])]
    · rfl
    · exact List.forall_mem_cons.mpr ⟨slashed, List.forall_mem_singleton.mpr name⟩
  refine compile_eq_ok_iff.mpr ⟨?_, _, none, ?_, ?_, ?_, rfl⟩
  · rw [text, startsWithSlash, List.append_assoc, List.head?_append, initial]
    rfl
  · rwa [parts]
  · rw [parts]
    rfl
  · rfl

/-- How a path goes on below another one: not at all or with a slash, and without newline. -/
structure Continues (rest : List Char) : Prop where
  separated : rest = [] ∨ rest.head? = some '/'
  oneLine : '\n' ∉ rest

/-- The placeholder takes what follows the slash, if there is one. -/
theorem splits_below_iff (mount : List Char) {path : List Char} :
    Splits caseSensitive [.literal (mount ++ ['/']), .placeholder name] path values ↔
      ∃ front rest, path = front ++ rest ∧ Text.SameText caseSensitive mount front ∧ Continues rest ∧
        values = [rest.tail] := by
  have final : endsInSlash (mount ++ ['/']) = true := by simp [endsInSlash]
  constructor
  · intro splits
    cases splits with
    | literal same others =>
      obtain ⟨front, rfl, sameFront⟩ := Text.SameText.concat_slash_iff.mp same
      cases others with
      | placeholder more _ _ _ => exact absurd rfl more
      | lastPlaceholder absent =>
        exact ⟨front, '/' :: _, List.append_assoc _ _ _, sameFront, ⟨Or.inr rfl, by simpa using absent⟩, rfl⟩
    | missingSlashOfTail _ same =>
      rw [List.dropLast_concat] at same
      exact ⟨path, [], (List.append_nil path).symm, same, ⟨Or.inl rfl, List.not_mem_nil⟩, rfl⟩
  · rintro ⟨front, rest, rfl, same, ⟨separated, oneLine⟩, rfl⟩
    rcases separated with rfl | first
    · rw [List.append_nil]
      exact .missingSlashOfTail final (by rwa [List.dropLast_concat])
    · obtain ⟨value, rfl⟩ := List.head?_eq_some_iff.mp first
      rw [List.mem_cons, not_or] at oneLine
      rw [List.append_cons front]
      exact .literal (Text.SameText.concat_slash_iff.mpr ⟨front, rfl, same⟩) (.lastPlaceholder oneLine.2)

/-- A template that takes everything below a path takes that path in any spelling of the same letters. -/
theorem capturePath_below_eq_some_iff {mount : List Char} (filled : mount ≠ []) {path : String} :
    (ofTokens template caseSensitive [.literal (mount ++ ['/']), .placeholder name] none).capturePath path =
        some found ↔
      ∃ front rest, path.toList = front ++ rest ∧ Text.SameText caseSensitive mount front ∧
        Continues rest ∧ found = [⟨name, String.ofList rest.tail⟩] := by
  have notWhole (label : String) :
      [Token.literal (mount ++ ['/']), .placeholder name] ≠ [.literal ['/'], .placeholder label] := by
    simp [filled]
  rw [capturePath_ofTokens_eq_some_iff]
  constructor
  · rintro ⟨values, split, _, rfl⟩
    obtain ⟨front, rest, text, same, continues, rfl⟩ := (splits_below_iff mount).mp split.splits
    exact ⟨front, rest, text, same, continues, rfl⟩
  · rintro ⟨front, rest, text, same, continues, rfl⟩
    have splits : Splits caseSensitive [.literal (mount ++ ['/']), .placeholder name] path.toList
        [rest.tail] := (splits_below_iff mount).mpr ⟨front, rest, text, same, continues, rfl⟩
    refine ⟨[rest.tail], ⟨splits, by simp, fun label whole => absurd whole (notWhole label)⟩, ?_, rfl⟩
    intro other also
    rw [splits_tail_unique splits also.splits]

/-- The first segment of a path is told apart from all that stands below it. -/
theorem splits_firstSegment_iff {first : String} {segment rest : List Char} (filled : segment ≠ [])
    (absent : '/' ∉ segment) (separated : rest = [] ∨ rest.head? = some '/') :
    Splits caseSensitive [.literal ['/'], .placeholder first, .literal ['/'], .placeholder name]
        ('/' :: segment ++ rest) values ↔
      '\n' ∉ rest ∧ values = [segment, rest.tail] := by
  -- The second literal and the last placeholder take what stands below the empty path.
  rw [splits_literal_iff (by simp) (by simp)]
  simp only [splits_placeholder_iff (List.cons_ne_nil _ _)]
  constructor
  · rintro ⟨part, after, whole, same, value, more, others, rfl, ⟨_, absentToo⟩, tail, rfl⟩
    obtain ⟨nothing, rfl, ends⟩ := Text.SameText.slash_cons_iff.mp same
    cases ends
    obtain ⟨front, last, rfl, ends, continues, rfl⟩ := (splits_below_iff []).mp tail
    cases ends
    obtain ⟨rfl, rfl⟩ := append_inj_of_separator absent absentToo separated continues.separated
      (List.cons.inj whole).2
    exact ⟨continues.oneLine, rfl⟩
  · rintro ⟨oneLine, rfl⟩
    have tail : Splits caseSensitive [.literal ['/'], .placeholder name] rest [rest.tail] :=
      (splits_below_iff []).mpr ⟨[], rest, rfl, .nil, ⟨separated, oneLine⟩, rfl⟩
    exact ⟨['/'], segment ++ rest, rfl, slash_same_slash, segment, rest, [rest.tail], rfl,
      ⟨filled, absent⟩, tail, rfl⟩

theorem capturePath_firstSegment_eq_some_iff {first : String} {segment rest : List Char}
    (filled : segment ≠ []) (absent : '/' ∉ segment) (separated : rest = [] ∨ rest.head? = some '/')
    {path : String} (text : path.toList = '/' :: segment ++ rest) :
    (ofTokens template caseSensitive
        [.literal ['/'], .placeholder first, .literal ['/'], .placeholder name] none).capturePath path =
        some found ↔
      '\n' ∉ rest ∧ found = [⟨first, String.ofList segment⟩, ⟨name, String.ofList rest.tail⟩] := by
  have known (values : List (List Char)) :
      Splits caseSensitive [.literal ['/'], .placeholder first, .literal ['/'], .placeholder name]
          ('/' :: segment ++ rest) values ↔
        '\n' ∉ rest ∧ values = [segment, rest.tail] := splits_firstSegment_iff filled absent separated
  rw [capturePath_ofTokens_eq_some_iff, text]
  constructor
  · rintro ⟨values, split, _, rfl⟩
    obtain ⟨oneLine, rfl⟩ := (known values).mp split.splits
    exact ⟨oneLine, rfl⟩
  · rintro ⟨oneLine, rfl⟩
    refine ⟨[segment, rest.tail], ⟨(known _).mpr ⟨oneLine, rfl⟩, by simp, by simp⟩, ?_, rfl⟩
    intro other also
    obtain ⟨_, rfl⟩ := (known other).mp also.splits
    exact le_rfl

end GatewayRouting.UpstreamTemplate
