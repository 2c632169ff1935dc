import GatewayRouting.Proofs.Downstream.Spans
import GatewayRouting.Proofs.Template.PathCapture

/-!
Values put into the tokens of a template: what stands where, and that substitution writes this text.
-/

set_option autoImplicit false

namespace GatewayRouting

/-- The values under the names, in the same order. -/
def assigned (names : List String) (values : List (List Char)) : List Capture :=
  names.zipWith (fun name value => ⟨name, String.ofList value⟩) values

/-- Every name is found with its own value. -/
def Assigns (captures : List Capture) (names : List String) (values : List (List Char)) : Prop :=
  List.Forall₂ (fun name value => captured? captures name.toList = some value) names values

theorem values_assigned {names : List String} {values : List (List Char)}
    (sizes : values.length = names.length) :
    (assigned names values).map (fun c => c.value.toList) = values := by
  induction names generalizing values with
  | nil =>
    obtain rfl := List.eq_nil_of_length_eq_zero sizes
    rfl
  | cons name rest ih =>
    cases values with
    | nil => cases sizes
    | cons value others =>
      have later := ih (Nat.succ.inj sizes)
      rw [assigned, List.zipWith_cons_cons, List.map_cons, String.toList_ofList]
      exact congrArg (value :: ·) later

theorem names_assigned {names : List String} {values : List (List Char)}
    (sizes : values.length = names.length) : (assigned names values).map Capture.name = names := by
  induction names generalizing values with
  | nil => rfl
  | cons name rest ih =>
    cases values with
    | nil => cases sizes
    | cons value others => exact congrArg (name :: ·) (ih (Nat.succ.inj sizes))

theorem mem_of_mem_assigned {names : List String} {values : List (List Char)} {c : Capture}
    (inside : c ∈ assigned names values) : c.value.toList ∈ values := by
  obtain ⟨i, bound, rfl⟩ := List.mem_iff_getElem.mp inside
  simp [assigned]

theorem captured?_append (first more : List Capture) (name : List Char) :
    captured? (first ++ more) name = (captured? first name).or (captured? more name) := by
  rw [captured?, List.find?_append, Option.map_or]
  rfl

theorem exists_of_captured? {captures : List Capture} {name value : List Char}
    (found : captured? captures name = some value) : ∃ c ∈ captures, c.value.toList = value := by
  obtain ⟨c, known, same⟩ := Option.map_eq_some_iff.mp found
  exact ⟨c, List.mem_of_find?_eq_some known, same⟩

/-- A name that has a value is found in any case. -/
theorem isSome_captured?_assigned {names : List String} {values : List (List Char)}
    (sizes : values.length = names.length) {name : String} (inside : name ∈ names) {label : List Char}
    (same : Text.sameAscii name.toList label = true) :
    (captured? (assigned names values) label).isSome = true := by
  obtain ⟨i, bound, rfl⟩ := List.mem_iff_getElem.mp inside
  have placed : i < (assigned names values).length := by
    rw [assigned, List.length_zipWith, sizes, Nat.min_self]
    exact bound
  rw [captured?, Option.isSome_map, List.find?_isSome]
  refine ⟨(assigned names values)[i], List.getElem_mem placed, ?_⟩
  simpa [assigned] using same

theorem captured?_cons_of_same {c : Capture} {captures : List Capture} {name : String}
    (same : Text.lowerAscii c.name = Text.lowerAscii name) :
    captured? (c :: captures) name.toList = some c.value.toList := by
  have found : Text.sameAscii c.name.toList name.toList = true := Text.sameIgnoringCase_iff.mpr same
  simp only [captured?, List.find?_cons, found, Option.map_some]

theorem captured?_cons_of_other {c : Capture} {captures : List Capture} {name : String}
    (apart : Text.lowerAscii c.name ≠ Text.lowerAscii name) :
    captured? (c :: captures) name.toList = captured? captures name.toList := by
  have passed : Text.sameAscii c.name.toList name.toList = false :=
    Bool.eq_false_iff.mpr (mt Text.sameIgnoringCase_iff.mp apart)
  simp only [captured?, List.find?_cons, passed]

theorem Assigns.cons_of_other {c : Capture} {captures : List Capture} {names : List String}
    {values : List (List Char)} (assigns : Assigns captures names values)
    (apart : Text.lowerAscii c.name ∉ names.map Text.lowerAscii) :
    Assigns (c :: captures) names values := by
  induction assigns with
  | nil => exact .nil
  | cons first _ ih =>
    rw [List.map_cons, List.mem_cons, not_or] at apart
    exact .cons ((captured?_cons_of_other apart.1).trans first) (ih apart.2)

/-- Different names find their values, whatever captures follow. -/
theorem assigns_of_distinct {names : List String} {values : List (List Char)}
    (distinct : (names.map Text.lowerAscii).Nodup) (sizes : values.length = names.length)
    (more : List Capture) : Assigns (assigned names values ++ more) names values := by
  induction names generalizing values with
  | nil =>
    obtain rfl := List.eq_nil_of_length_eq_zero sizes
    exact .nil
  | cons name rest ih =>
    cases values with
    | nil => cases sizes
    | cons value others =>
      rw [List.map_cons, List.nodup_cons] at distinct
      have own : captured? (assigned (name :: rest) (value :: others) ++ more) name.toList = some value :=
        (captured?_cons_of_same rfl).trans (congrArg some String.toList_ofList)
      have later := ih distinct.2 (Nat.succ.inj sizes)
      exact .cons own (later.cons_of_other distinct.1)

namespace UpstreamTemplate

/-- Values that placeholders can take: the last token takes any text without newline, and before it a
placeholder takes a non-empty text without slash. -/
inductive Fits : List Token → List (List Char) → Prop
  | done : Fits [] []
  | literal {text : List Char} {tokens : List Token} {values : List (List Char)} :
      Fits tokens values → Fits (.literal text :: tokens) values
  | placeholder {name : String} {value : List Char} {tokens : List Token}
      {values : List (List Char)} :
      tokens ≠ [] → value ≠ [] → '/' ∉ value → Fits tokens values →
      Fits (.placeholder name :: tokens) (value :: values)
  | lastPlaceholder {name : String} {value : List Char} :
      '\n' ∉ value → Fits [.placeholder name] [value]

theorem Splits.fits {caseSensitive : Bool} {tokens : List Token} {text : List Char}
    {values : List (List Char)} (splits : Splits caseSensitive tokens text values) :
    Fits tokens values := by
  induction splits with
  | done => exact .done
  | literal _ _ ih => exact .literal ih
  | placeholder more filled absent _ ih => exact .placeholder more filled absent ih
  | lastPlaceholder absent => exact .lastPlaceholder absent
  | extraSlash _ _ => exact .literal .done
  | missingSlash _ _ => exact .literal .done
  | missingSlashOfTail _ _ => exact .literal (.lastPlaceholder (by simp))

theorem Fits.length_values {tokens : List Token} {values : List (List Char)}
    (fits : Fits tokens values) : values.length = (Token.names tokens).length := by
  induction fits with
  | done => rfl
  | literal _ ih => exact ih
  | placeholder _ _ _ _ ih => exact congrArg Nat.succ ih
  | lastPlaceholder _ => rfl

theorem captures_eq_some_iff {t : UpstreamTemplate} {path : String} {query : Option String}
    {found : List Capture} :
    t.captures path query = some found ↔
      ∃ ofPath ofQuery, t.capturePath path = some ofPath ∧ t.captureQuery query = some ofQuery ∧
        found = ofPath ++ ofQuery := by
  unfold captures
  cases t.capturePath path <;> cases t.captureQuery query <;> simp [eq_comm]

theorem capturePath_ofTokens_eq_some_iff {template : String} {caseSensitive : Bool}
    {tokens : List Token} {query : Option QueryTemplate} {path : String} {found : List Capture} :
    (ofTokens template caseSensitive tokens query).capturePath path = some found ↔
      ∃ values, PathSplits caseSensitive query.isSome tokens path.toList values ∧
        (∀ other, PathSplits caseSensitive query.isSome tokens path.toList other →
          values.map List.length ≤ other.map List.length) ∧
        found = assigned (Token.names tokens) values := by
  rw [capturePath, Option.map_eq_some_iff]
  constructor
  · rintro ⟨values, captured, rfl⟩
    obtain ⟨split, least⟩ := capture_shape_eq_some_iff.mp captured
    exact ⟨values, split, least, rfl⟩
  · rintro ⟨values, split, least, rfl⟩
    exact ⟨values, capture_shape_eq_some_iff.mpr ⟨split, least⟩, rfl⟩

/-- Whether only a placeholder with an empty value is left. -/
def endsEmpty : List Token → List (List Char) → Bool
  | [.placeholder _], [[]] => true
  | _, _ => false

/-- A literal, without a final slash that an empty value after it takes with it. -/
def keptLiteral (text : List Char) (tokens : List Token) (values : List (List Char)) : List Char :=
  if endsEmpty tokens values && endsInSlash text then text.dropLast else text

/-- The text of tokens with values in place of their placeholders. -/
def written : List Token → List (List Char) → List Char
  | [], _ => []
  | .literal text :: tokens, values => keptLiteral text tokens values ++ written tokens values
  | .placeholder _ :: tokens, values => values.headD [] ++ written tokens values.tail

theorem endsEmpty_iff {tokens : List Token} {values : List (List Char)} :
    endsEmpty tokens values = true ↔ (∃ name, tokens = [.placeholder name]) ∧ values = [[]] := by
  constructor
  · intro ends
    unfold endsEmpty at ends
    split at ends
    · exact ⟨⟨_, rfl⟩, rfl⟩
    · cases ends
  · rintro ⟨⟨name, rfl⟩, rfl⟩
    rfl

theorem written_literal_of_more {text : List Char} {tokens : List Token} {values : List (List Char)}
    (more : (endsEmpty tokens values && endsInSlash text) = false) :
    written (.literal text :: tokens) values = text ++ written tokens values := by
  rw [written, keptLiteral, more]
  rfl

/-- The slash goes with the empty value after it. -/
theorem written_tail_of_empty {text : List Char} {name : String} (final : endsInSlash text = true) :
    written [.literal text, .placeholder name] [[]] = text.dropLast := by
  simp [written, keptLiteral, endsEmpty, final]

end UpstreamTemplate

namespace Span

open UpstreamTemplate

variable {captures : List Capture}

theorem fill_consChar (c : Char) (spans : List Span) (out : List Char) :
    fill captures out (consChar c spans) = fill captures (out ++ [c]) spans := by
  unfold consChar
  split
  · rw [fill, fill, List.append_assoc, List.singleton_append]
  · rw [fill]

/-- A text without opening brace is written as it is. -/
theorem fill_scan_append {cs : List Char} (absent : '\x7b' ∉ cs) (rest out : List Char) :
    fill captures out (scan none (cs ++ rest)) = fill captures (out ++ cs) (scan none rest) := by
  induction cs generalizing out with
  | nil => rw [List.nil_append, List.append_nil]
  | cons c cs ih =>
    rw [List.mem_cons, not_or] at absent
    rw [List.cons_append, scan, if_neg (Ne.symm absent.1), fill_consChar, ih absent.2, List.append_assoc,
      List.singleton_append]

/-- A value that is not empty, or has no slash before it, is written as it is. -/
theorem fill_name_of_kept {label value out : List Char} {spans : List Span}
    (found : captured? captures label = some value) (kept : value ≠ [] ∨ out.getLast? ≠ some '/') :
    fill captures out (.name label :: spans) = fill captures (out ++ value) spans := by
  rw [fill, found]
  dsimp only
  rw [if_neg]
  rcases kept with filled | apart
  · simp [filled]
  · simp [apart]

/-- An empty value at the end takes the slash before it with it. -/
theorem fill_name_of_taken {label out : List Char} (found : captured? captures label = some [])
    (slash : out.getLast? = some '/') : fill captures out [.name label] = out.dropLast := by
  rw [fill, found]
  simp [slash, atSegmentEnd, fill]

/-- Putting values into the tokens writes their text. The front may not end in a slash that an empty value
would take with it. -/
theorem fill_map_ofToken {captures : List Capture} {tokens : List Token} {values : List (List Char)}
    (fits : Fits tokens values) (literals : ∀ cs, Token.literal cs ∈ tokens → cs ≠ [])
    (assigns : Assigns captures (Token.names tokens) values) (out : List Char)
    (start : endsEmpty tokens values = true → out.getLast? ≠ some '/') :
    fill captures out (tokens.map ofToken) = out ++ UpstreamTemplate.written tokens values := by
  induction fits generalizing out with
  | done => rw [List.map_nil, fill, written, List.append_nil]
  | @literal text tokens values _ ih =>
    have filled : text ≠ [] := literals text List.mem_cons_self
    have ended : (out ++ text).getLast? = text.getLast? := List.getLast?_append_of_ne_nil out filled
    rw [List.map_cons, ofToken, fill]
    cases taken : endsEmpty tokens values && endsInSlash text with
    | true =>
      rw [Bool.and_eq_true] at taken
      obtain ⟨empty, final⟩ := taken
      obtain ⟨⟨name, rfl⟩, rfl⟩ := endsEmpty_iff.mp empty
      have slash : (out ++ text).getLast? = some '/' := by simpa [endsInSlash, ended] using final
      rw [List.map_singleton, ofToken, fill_name_of_taken (List.forall₂_cons.mp assigns).1 slash,
        written_tail_of_empty final, List.dropLast_append_of_ne_nil filled]
    | false =>
      have apart : endsEmpty tokens values = true → (out ++ text).getLast? ≠ some '/' := by
        intro empty
        rw [empty, Bool.true_and] at taken
        simpa [endsInSlash, ended] using taken
      have others := ih (fun cs inside => literals cs (List.mem_cons_of_mem _ inside)) assigns
        (out ++ text) apart
      rw [others, written_literal_of_more taken, List.append_assoc]
  | @placeholder name value tokens values _ filled absent _ ih =>
    obtain ⟨found, assigns⟩ := List.forall₂_cons.mp assigns
    have apart : (out ++ value).getLast? ≠ some '/' := by
      rw [List.getLast?_append_of_ne_nil out filled]
      exact fun slash => absent (List.mem_of_getLast? slash)
    have others := ih (fun cs inside => literals cs (List.mem_cons_of_mem _ inside)) assigns
      (out ++ value) fun _ => apart
    rw [List.map_cons, ofToken, fill_name_of_kept found (Or.inl filled), others, written,
      List.append_assoc]
    rfl
  | @lastPlaceholder name value _ =>
    have found := (List.forall₂_cons.mp assigns).1
    have kept : value ≠ [] ∨ out.getLast? ≠ some '/' := by
      cases value with
      | nil => exact Or.inr (start rfl)
      | cons c cs => exact Or.inl (List.cons_ne_nil c cs)
    rw [List.map_singleton, ofToken, fill_name_of_kept found kept, fill]
    simp [written]

end Span

/-- Substitution into a template that compiles writes the text of its tokens. -/
theorem substitute_eq_written {template : String} {tokens : List Token} {values : List (List Char)}
    {captures : List Capture} (accepted : Token.tokenize .bare template = .ok tokens)
    (tight : ∀ inside ∈ templateNames template.toList, Text.trim inside = inside)
    (fits : UpstreamTemplate.Fits tokens values)
    (assigns : Assigns captures (Token.names tokens) values) :
    substitute template.toList captures = UpstreamTemplate.written tokens values := by
  rw [substitute, Span.ofText_eq_map_ofToken accepted tight,
    Span.fill_map_ofToken fits (fun _ => Span.literal_ne_nil accepted) assigns [] (by simp),
    List.nil_append]

end GatewayRouting
