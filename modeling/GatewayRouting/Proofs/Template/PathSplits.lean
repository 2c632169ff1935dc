import GatewayRouting.Proofs.Text.SameText
import GatewayRouting.Template.Upstream

/-!
Splitting a path along the tokens of a template.
-/

set_option autoImplicit false

namespace GatewayRouting.UpstreamTemplate

/-- A text is split along tokens, and the placeholders among them take the values. A final slash may be
missing or follow a literal that has none; before the last placeholder it may be missing too, when nothing
is left for that. -/
inductive Splits (caseSensitive : Bool) : List Token → List Char → List (List Char) → Prop
  | done : Splits caseSensitive [] [] []
  | literal {text part rest : List Char} {tokens : List Token} {values : List (List Char)} :
      Text.SameText caseSensitive text part → Splits caseSensitive tokens rest values →
      Splits caseSensitive (.literal text :: tokens) (part ++ rest) values
  | placeholder {name : String} {value rest : List Char} {tokens : List Token}
      {values : List (List Char)} :
      tokens ≠ [] → value ≠ [] → '/' ∉ value → Splits caseSensitive tokens rest values →
      Splits caseSensitive (.placeholder name :: tokens) (value ++ rest) (value :: values)
  | lastPlaceholder {name : String} {value : List Char} :
      '\n' ∉ value → Splits caseSensitive [.placeholder name] value [value]
  | extraSlash {text part : List Char} :
      endsInSlash text = false → Text.SameText caseSensitive text part →
      Splits caseSensitive [.literal text] (part ++ ['/']) []
  | missingSlash {text part : List Char} :
      endsInSlash text = true → Text.SameText caseSensitive text.dropLast part →
      Splits caseSensitive [.literal text] part []
  | missingSlashOfTail {name : String} {text part : List Char} :
      endsInSlash text = true → Text.SameText caseSensitive text.dropLast part →
      Splits caseSensitive [.literal text, .placeholder name] part [[]]

/-- A path is split along the tokens of a whole path part. The path `/` is taken as it stands, and so is
the slash before a lone placeholder unless a query part follows. -/
structure PathSplits (caseSensitive hasQuery : Bool) (tokens : List Token) (path : List Char)
    (values : List (List Char)) : Prop where
  splits : Splits caseSensitive tokens path values
  root : tokens = [.literal ['/']] → path = ['/']
  whole : ∀ name, tokens = [.literal ['/'], .placeholder name] → hasQuery = false →
    path.head? = some '/'

variable {caseSensitive : Bool}

theorem Splits.length_values {tokens : List Token} {text : List Char} {values : List (List Char)}
    (splits : Splits caseSensitive tokens text values) : values.length = (Token.names tokens).length := by
  induction splits with
  | done => rfl
  | literal _ _ ih => exact ih
  | placeholder _ _ _ _ ih => exact congrArg Nat.succ ih
  | lastPlaceholder _ => rfl
  | extraSlash _ _ => rfl
  | missingSlash _ _ => rfl
  | missingSlashOfTail _ _ => rfl

theorem dropLast_append_slash {text : List Char} (final : endsInSlash text = true) :
    text.dropLast ++ ['/'] = text :=
  List.dropLast_append_getLast? '/' (by simpa [endsInSlash] using final)

theorem eq_cons_of_startsWithSlash {text : List Char} (initial : startsWithSlash text = true) :
    ∃ rest, text = '/' :: rest := by
  cases text with
  | nil => simp [startsWithSlash] at initial
  | cons c rest =>
    have first : c = '/' := by simpa [startsWithSlash] using initial
    exact ⟨rest, by rw [first]⟩

/-- A text with a final slash is another text with a final slash. -/
theorem sameText_of_endsInSlash {text part : List Char} (final : endsInSlash text = true) :
    Text.SameText caseSensitive text part ↔
      ∃ front, part = front ++ ['/'] ∧ Text.SameText caseSensitive text.dropLast front := by
  rw [← Text.SameText.concat_slash_iff, dropLast_append_slash final]

theorem head?_of_sameText {text part : List Char} (initial : startsWithSlash text = true)
    (same : Text.SameText caseSensitive text part) : part.head? = some '/' := by
  obtain ⟨rest, rfl⟩ := eq_cons_of_startsWithSlash initial
  obtain ⟨others, rfl, _⟩ := Text.SameText.slash_cons_iff.mp same
  rfl

theorem head?_of_sameText_dropLast {text part : List Char} (initial : startsWithSlash text = true)
    (same : Text.SameText caseSensitive text.dropLast part) : part = [] ∨ part.head? = some '/' := by
  obtain ⟨rest, rfl⟩ := eq_cons_of_startsWithSlash initial
  cases rest with
  | nil =>
    cases same
    exact Or.inl rfl
  | cons c rest => exact Or.inr (head?_of_sameText rfl same)

/-- Where the tokens start with a slash, so does the text, unless it is missing. -/
theorem Splits.head?_of_startsWithSlash {text rest : List Char} {tokens : List Token}
    {values : List (List Char)} (initial : startsWithSlash text = true)
    (splits : Splits caseSensitive (.literal text :: tokens) rest values) :
    rest = [] ∨ rest.head? = some '/' := by
  cases splits with
  | literal same _ =>
    right
    rw [List.head?_append, head?_of_sameText initial same]
    rfl
  | extraSlash _ same =>
    right
    rw [List.head?_append, head?_of_sameText initial same]
    rfl
  | missingSlash _ same => exact head?_of_sameText_dropLast initial same
  | missingSlashOfTail _ same => exact head?_of_sameText_dropLast initial same

end GatewayRouting.UpstreamTemplate
