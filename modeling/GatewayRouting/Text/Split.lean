/-!
Cutting texts at a character and putting the pieces together again. Joining the pieces of
`splitAll` with the separator gives the text back.
-/

namespace GatewayRouting.Text

/-- The parts before and after the first occurrence of the separator. -/
def splitOnce (separator : Char) : List Char → Option (List Char × List Char)
  | [] => none
  | c :: rest =>
    if c = separator then some ([], rest)
    else (splitOnce separator rest).map fun (before, after) => (c :: before, after)

/-- The pieces between the occurrences of the separator, at least one. -/
def splitAll (separator : Char) : List Char → List (List Char)
  | [] => [[]]
  | c :: rest =>
    if c = separator then [] :: splitAll separator rest
    else match splitAll separator rest with
      | [] => [[c]]
      | piece :: pieces => (c :: piece) :: pieces

/-- The pieces between the occurrences of a non-empty text, found from left to right and without overlaps;
the number counts the characters left of an occurrence that is being passed. -/
def splitFound (separator : List Char) : Nat → List Char → List (List Char)
  | _, [] => [[]]
  | passing + 1, _ :: cs => splitFound separator passing cs
  | 0, c :: cs =>
    if separator.isPrefixOf (c :: cs) then [] :: splitFound separator (separator.length - 1) cs
    else match splitFound separator 0 cs with
      | [] => [[c]]
      | piece :: pieces => (c :: piece) :: pieces

/-- The text between a given beginning and a given end. -/
def between (opening closing cs : List Char) : Option (List Char) :=
  if opening.isPrefixOf cs then
    let inside := cs.drop opening.length
    if closing.isSuffixOf inside then some (inside.take (inside.length - closing.length)) else none
  else none

/-- The parts before and after the last occurrence of the separator. -/
def splitLast (separator : Char) (cs : List Char) : Option (List Char × List Char) :=
  (splitOnce separator cs.reverse).map fun (after, before) => (before.reverse, after.reverse)

/-- The occurrences of a non-empty text replaced, from left to right and without overlaps; the first
argument counts the characters left of an occurrence that is being passed. -/
def replaceFound (find replacement : List Char) : Nat → List Char → List Char
  | _, [] => []
  | passing + 1, _ :: cs => replaceFound find replacement passing cs
  | 0, c :: cs =>
    if find.isPrefixOf (c :: cs) then replacement ++ replaceFound find replacement (find.length - 1) cs
    else c :: replaceFound find replacement 0 cs

/-- Every occurrence replaced. The empty text occurs before every character and at the end. -/
def replaceAll (find replacement cs : List Char) : List Char :=
  if find.isEmpty then replacement ++ cs.flatMap (fun c => c :: replacement)
  else replaceFound find replacement 0 cs

/-- `replaceAll` on strings. -/
def replaced (s find replacement : String) : String :=
  String.ofList (replaceAll find.toList replacement.toList s.toList)

theorem splitAll_ne_nil (separator : Char) (cs : List Char) : splitAll separator cs ≠ [] := by
  cases cs with
  | nil => simp [splitAll]
  | cons c rest =>
    unfold splitAll
    split
    · simp
    · split <;> simp

theorem splitOnce_eq_some {separator : Char} {cs before after : List Char}
    (h : splitOnce separator cs = some (before, after)) :
    cs = before ++ separator :: after ∧ separator ∉ before := by
  induction cs generalizing before with
  | nil => simp [splitOnce] at h
  | cons c rest ih =>
    unfold splitOnce at h
    split at h
    · next hc => simp at h; simp [h.1, h.2, hc]
    · next hc =>
      obtain ⟨⟨b, a⟩, hs, he⟩ := Option.map_eq_some_iff.1 h
      simp only [Prod.mk.injEq] at he
      obtain ⟨rfl, rfl⟩ := he
      obtain ⟨hr, hn⟩ := ih hs
      exact ⟨by simp [← hr], by simp [hn, Ne.symm hc]⟩

end GatewayRouting.Text
