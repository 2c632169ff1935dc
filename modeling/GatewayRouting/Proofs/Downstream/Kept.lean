import GatewayRouting.Proofs.Downstream.NameCuts
import GatewayRouting.Proofs.Downstream.Parts
import GatewayRouting.Proofs.Downstream.RoundTrip

/-!
What stays as it is when values are put into a template: the slash at its start, names that are not listed,
braces that are never closed, and braces inside values. All that an empty value can take away is one slash.
-/

set_option autoImplicit false

namespace GatewayRouting

/-- The text is written whole, or without the slash at its end. -/
def AllButSlash (cs written : List Char) : Prop := written = cs ∨ written ++ ['/'] = cs

namespace AllButSlash

variable {a b written : List Char}

/-- Of two texts in a row only the last that is not empty can lose its slash. -/
theorem append (kept : AllButSlash (a ++ b) written) :
    ∃ first second, written = first ++ second ∧ AllButSlash a first ∧ AllButSlash b second ∧
      (b ≠ [] → first = a) := by
  rcases kept with whole | less
  · exact ⟨a, b, whole, Or.inl rfl, Or.inl rfl, fun _ => rfl⟩
  · rcases List.eq_nil_or_concat b with rfl | ⟨front, c, rfl⟩
    · rw [List.append_nil] at less
      exact ⟨written, [], (List.append_nil written).symm, Or.inr less, Or.inl rfl, fun more => absurd rfl more⟩
    · rw [List.concat_eq_append, ← List.append_assoc] at less
      obtain ⟨same, last⟩ := List.append_inj' less rfl
      rw [List.concat_eq_append, ← last]
      exact ⟨a, front, same, Or.inl rfl, Or.inr rfl, fun _ => rfl⟩

theorem eq_of_last {c : Char} (other : c ≠ '/') (kept : AllButSlash (a ++ [c]) written) : written = a ++ [c] := by
  rcases kept with whole | less
  · exact whole
  · have last := (List.append_inj' less rfl).2
    exact absurd (List.cons.inj last).1.symm other

theorem eq_nil (kept : AllButSlash [] written) : written = [] := by
  rcases kept with whole | less
  · exact whole
  · exact absurd less (List.concat_ne_nil _ _)

theorem of_dropLast (slash : a.getLast? = some '/') : AllButSlash a a.dropLast :=
  Or.inr (List.dropLast_append_getLast? '/' slash)

end AllButSlash

/-- What is written for a name: its own text, braces and all, where no capture goes by it, else the value of the
first capture that does. -/
inductive WrittenFor (captures : List Capture) (name : List Char) : List Char → Prop
  | unlisted : (∀ c ∈ captures, Text.sameAscii c.name.toList name = false) →
      WrittenFor captures name (Span.name name).source
  | value {before after : List Capture} {c : Capture} {written : List Char} :
      captures = before ++ c :: after → (∀ other ∈ before, Text.sameAscii other.name.toList name = false) →
      Text.sameAscii c.name.toList name = true → AllButSlash c.value.toList written →
      WrittenFor captures name written

variable {captures : List Capture}

theorem WrittenFor.of_missing {name : List Char} (missing : captured? captures name = none) :
    WrittenFor captures name (Span.name name).source := by
  rw [captured?, Option.map_eq_none_iff, List.find?_eq_none] at missing
  exact .unlisted fun c known => Bool.eq_false_iff.mpr (missing c known)

theorem WrittenFor.of_found {name value written : List Char} (found : captured? captures name = some value)
    (kept : AllButSlash value written) : WrittenFor captures name written := by
  obtain ⟨c, first, rfl⟩ := Option.map_eq_some_iff.mp found
  obtain ⟨same, before, after, whole, others⟩ := List.find?_eq_some_iff_append.mp first
  refine .value whole ?_ same kept
  intro other known
  simpa using others other known

/-- What is written for a template that is cut after its names: the parts one after the other, then the rest as it
is. -/
inductive WrittenInParts (captures : List Capture) :
    List (List Char × List Char) → List Char → List Char → Prop
  | rest {rest : List Char} : WrittenInParts captures [] rest rest
  | part {front name first written rest result : List Char} {parts : List (List Char × List Char)} :
      AllButSlash front first → WrittenFor captures name written → WrittenInParts captures parts rest result →
      WrittenInParts captures ((front, name) :: parts) rest (first ++ (written ++ result))

/-- A slash that is missing before a name was taken from the text of its part, if there is any. -/
theorem WrittenInParts.part_after {out front name before written rest result : List Char}
    {parts : List (List Char × List Char)} (reached : AllButSlash (out ++ front) before)
    (named : WrittenFor captures name written) (later : WrittenInParts captures parts rest result) :
    ∃ kept whole, AllButSlash out kept ∧ (front ≠ [] → kept = out) ∧
      WrittenInParts captures ((front, name) :: parts) rest whole ∧
      before ++ (written ++ result) = kept ++ whole := by
  obtain ⟨kept, first, rfl, keptOut, keptFront, keptBehindText⟩ := reached.append
  exact ⟨kept, _, keptOut, keptBehindText, .part keptFront named later, List.append_assoc _ _ _⟩

/-- A segment ends in front of text only. -/
theorem CutAtNames.front_ne_nil {cs rest front name : List Char} {parts : List (List Char × List Char)}
    (cut : CutAtNames cs ((front, name) :: parts) rest)
    (segmentEnd : Span.atSegmentEnd (Span.ofText cs) = true) : front ≠ [] := by
  obtain ⟨_, closed, later, rfl, _⟩ := CutAtNames.cons_iff.mp cut
  rintro rfl
  rw [List.nil_append, Span.ofText_source closed] at segmentEnd
  cases segmentEnd

namespace Span

/-- Where no name is left the text is written to its end. -/
theorem fill_of_unclosed {cs : List Char} (unclosed : ∀ after, '\x7b' :: after <:+ cs → '\x7d' ∉ after)
    (out : List Char) : fill captures out (ofText cs) = out ++ cs := by
  induction cs generalizing out with
  | nil => rw [ofText, scan, fill, List.append_nil]
  | cons c rest ih =>
    by_cases opens : c = '\x7b'
    · subst opens
      have absent := unclosed rest (List.suffix_refl _)
      rw [ofText, scan, if_pos rfl, scan_of_unclosed absent, fill, fill, List.nil_append]
    · have later := ih fun after ending => unclosed after (ending.trans (List.suffix_cons c rest))
      rw [ofText_cons_of_other opens, fill_consChar, later, List.append_assoc, List.singleton_append]

/-- One part of a template: an unlisted name is written as it stands, a value after what was there before, but
an empty value at the end of a segment takes a slash from there. -/
theorem fill_part {front name : List Char} (opened : '\x7b' ∉ front) (closed : '\x7d' ∉ name)
    (later out : List Char) :
    (captured? captures name = none ∧
      fill captures out (ofText (front ++ ((Span.name name).source ++ later))) =
        fill captures (out ++ front ++ (Span.name name).source) (ofText later)) ∨
    (∃ value, captured? captures name = some value ∧
      fill captures out (ofText (front ++ ((Span.name name).source ++ later))) =
        fill captures (out ++ front ++ value) (ofText later)) ∨
    (captured? captures name = some [] ∧ atSegmentEnd (ofText later) = true ∧
      (out ++ front).getLast? = some '/' ∧
      fill captures out (ofText (front ++ ((Span.name name).source ++ later))) =
        fill captures (out ++ front).dropLast (ofText later)) := by
  have reached : fill captures out (ofText (front ++ ((Span.name name).source ++ later))) =
      fill captures (out ++ front) (.name name :: ofText later) := by
    rw [ofText, fill_scan_append opened]
    exact congrArg (fill captures (out ++ front)) (ofText_source closed later)
  rw [reached, fill]
  cases found : captured? captures name with
  | none =>
    refine Or.inl ⟨rfl, ?_⟩
    rw [source, List.append_assoc _ ('\x7b' :: name)]
  | some value =>
    dsimp only
    split
    · rename_i taken
      simp only [Bool.and_eq_true, List.isEmpty_iff, beq_iff_eq] at taken
      obtain ⟨⟨rfl, segmentEnd⟩, slash⟩ := taken
      exact Or.inr (Or.inr ⟨rfl, segmentEnd, slash, rfl⟩)
    · exact Or.inr (Or.inl ⟨value, rfl, rfl⟩)

/-- A template is written in its parts. What was written before can lose its last slash only to an empty value,
and keeps it where a segment ends. -/
theorem exists_fill (captures : List Capture) {cs rest : List Char} {parts : List (List Char × List Char)}
    (cut : CutAtNames cs parts rest) (out : List Char) :
    ∃ kept result, AllButSlash out kept ∧ (atSegmentEnd (ofText cs) = true → kept = out) ∧
      WrittenInParts captures parts rest result ∧ fill captures out (ofText cs) = kept ++ result := by
  induction parts generalizing cs out with
  | nil =>
    obtain ⟨rfl, unclosed⟩ := CutAtNames.nil_iff.mp cut
    exact ⟨out, cs, Or.inl rfl, fun _ => rfl, .rest, fill_of_unclosed unclosed out⟩
  | cons part parts ih =>
    obtain ⟨front, name⟩ := part
    obtain ⟨opened, closed, later, rfl, others⟩ := CutAtNames.cons_iff.mp cut
    -- Each case leaves what the part adds, and that the later parts are written after it.
    have parted : ∃ before written result, AllButSlash (out ++ front) before ∧
        WrittenFor captures name written ∧ WrittenInParts captures parts rest result ∧
        fill captures out (ofText (front ++ ((Span.name name).source ++ later))) =
          before ++ (written ++ result) := by
      rcases fill_part opened closed later out with
        ⟨missing, step⟩ | ⟨value, found, step⟩ | ⟨found, segmentEnd, slash, step⟩
      · obtain ⟨kept, result, keptOut, _, inParts, whole⟩ := ih others (out ++ front ++ (Span.name name).source)
        have braced : out ++ front ++ (Span.name name).source = out ++ front ++ ('\x7b' :: name) ++ ['\x7d'] := by
          rw [source, List.append_assoc _ ('\x7b' :: name)]
        rw [braced] at keptOut
        refine ⟨out ++ front, _, result, Or.inl rfl, .of_missing missing, inParts, ?_⟩
        rw [step, whole, keptOut.eq_of_last (by decide), ← braced, List.append_assoc (out ++ front)]
      · obtain ⟨kept, result, keptOut, _, inParts, whole⟩ := ih others (out ++ front ++ value)
        obtain ⟨before, written, rfl, keptBefore, keptValue, _⟩ := keptOut.append
        refine ⟨before, written, result, keptBefore, .of_found found keptValue, inParts, ?_⟩
        rw [step, whole, List.append_assoc]
      · obtain ⟨kept, result, _, keptAtEnd, inParts, whole⟩ := ih others (out ++ front).dropLast
        refine ⟨_, [], result, .of_dropLast slash, .of_found found (Or.inl rfl), inParts, ?_⟩
        rw [step, whole, keptAtEnd segmentEnd, List.nil_append]
    obtain ⟨before, written, result, reached, named, inParts, whole⟩ := parted
    obtain ⟨kept, more, keptOut, keptBehindText, allParts, same⟩ := WrittenInParts.part_after reached named inParts
    exact ⟨kept, more, keptOut, fun segmentEnd => keptBehindText (cut.front_ne_nil segmentEnd), allParts,
      whole.trans same⟩

/-- Something is written already and begins with a slash, or nothing is and a segment ends here. -/
def Rooted (out : List Char) (spans : List Span) : Prop :=
  out.head? = some '/' ∨ out = [] ∧ atSegmentEnd spans = true

namespace Rooted

variable {out : List Char} {spans : List Span}

theorem append (initial : out.head? = some '/') (cs : List Char) : Rooted (out ++ cs) spans := by
  left
  rw [List.head?_append, initial, Option.some_or]

/-- Without question marks a segment ends at a slash only. -/
theorem text {cs : List Char} (rooted : Rooted out (.text cs :: spans)) (noQuery : '?' ∉ cs) :
    Rooted (out ++ cs) spans := by
  rcases rooted with initial | ⟨rfl, segmentEnd⟩
  · exact append initial cs
  · left
    unfold atSegmentEnd at segmentEnd
    split at segmentEnd
    · rename_i nothing
      cases nothing
    · rename_i same
      cases same
      rfl
    · rename_i same
      cases same
      exact absurd List.mem_cons_self noQuery
    · cases segmentEnd

/-- No segment ends in front of a name. -/
theorem head?_of_name {name : List Char} (rooted : Rooted out (.name name :: spans)) : out.head? = some '/' := by
  rcases rooted with initial | ⟨_, segmentEnd⟩
  · exact initial
  · cases segmentEnd

theorem dropLast (initial : out.head? = some '/') (segmentEnd : atSegmentEnd spans = true) :
    Rooted out.dropLast spans := by
  obtain ⟨rest, rfl⟩ := List.head?_eq_some_iff.mp initial
  cases rest with
  | nil => exact Or.inr ⟨rfl, segmentEnd⟩
  | cons c rest => exact Or.inl rfl

/-- The slash may be taken by an empty value, but then another one follows or nothing at all. -/
theorem fill (rooted : Rooted out spans) (noQuery : ∀ span ∈ spans, '?' ∉ span.chars) :
    Rooted (Span.fill captures out spans) [] := by
  induction spans generalizing out with
  | nil => exact rooted
  | cons span spans ih =>
    obtain ⟨here, later⟩ := List.forall_mem_cons.mp noQuery
    cases span with
    | text cs => exact ih (rooted.text here) later
    | name name =>
      have initial := rooted.head?_of_name
      rw [Span.fill]
      cases captured? captures name with
      | none =>
        rw [List.append_assoc]
        exact ih (append initial _) later
      | some value =>
        dsimp only
        split
        · rename_i taken
          simp only [Bool.and_eq_true] at taken
          exact ih (dropLast initial taken.1.2) later
        · exact ih (append initial value) later

end Rooted

end Span

theorem rooted_substitute (captures : List Capture) {template : List Char}
    (initial : template.head? = some '/') (noQuery : '?' ∉ template) :
    Span.Rooted (substitute template captures) [] := by
  have plain : ∀ span ∈ Span.ofText template, '?' ∉ span.chars :=
    Span.absent_scan (by decide) List.not_mem_nil noQuery
  refine Span.Rooted.fill (Or.inr ⟨rfl, ?_⟩) plain
  obtain ⟨rest, rfl⟩ := List.head?_eq_some_iff.mp initial
  rw [Span.ofText_cons_of_other (by decide)]
  unfold Span.consChar
  split <;> rfl

namespace DownstreamUrl

/-- The slash that is missing is put back, and the only one is not taken away again. -/
theorem head?_pathFrom (captures : List Capture) {template : List Char}
    (initial : template.head? = some '/') (noQuery : '?' ∉ template) (path : String) :
    (pathFrom template captures path).head? = some '/' := by
  have filled : (if (substitute template captures).isEmpty then ['/']
      else substitute template captures).head? = some '/' := by
    rcases rooted_substitute captures initial noQuery with kept | ⟨nothing, _⟩
    · split
      · rfl
      · exact kept
    · rw [nothing]
      rfl
  unfold pathFrom
  dsimp only
  generalize (if (substitute template captures).isEmpty then ['/']
    else substitute template captures) = made at filled ⊢
  split
  · rename_i trimmed
    simp only [Bool.and_eq_true, decide_eq_true_eq] at trimmed
    obtain ⟨rest, rfl⟩ := List.head?_eq_some_iff.mp filled
    cases rest with
    | nil => exact absurd trimmed.1.1 (by decide)
    | cons c rest => rfl
  · exact filled

/-- Whatever is captured, a template that begins with a slash makes a path that begins with one. Of every template
the names that no capture goes by and the rest with its unclosed braces are written as they are, and the values
with all braces in them: at most a slash at the end of a value is missing. -/
theorem path_build_rooted_and_substitute_keeps (captures : List Capture) :
    (∀ (downstream : String) (t : UpstreamTemplate) (path : String) (query : Option String),
      downstream.toList.head? = some '/' →
      ∃ rest, (build downstream t captures path query).path.toList = '/' :: rest) ∧
    ∀ template, ∃ parts rest, CutAtNames template parts rest ∧
      WrittenInParts captures parts rest (substitute template captures) := by
  constructor
  · intro downstream t path query initial
    have start := UpstreamTemplate.startsWithSlash_splitQuery (beq_iff_eq.mpr initial)
    have made := head?_pathFrom captures (beq_iff_eq.mp start)
      (UpstreamTemplate.question_not_mem_splitQuery downstream) path
    rw [path_build, String.toList_ofList]
    exact List.head?_eq_some_iff.mp made
  · intro template
    obtain ⟨parts, rest, cut⟩ := exists_cutAtNames template
    obtain ⟨kept, result, keptOut, _, inParts, whole⟩ := Span.exists_fill captures cut []
    refine ⟨parts, rest, cut, ?_⟩
    rwa [substitute, whole, keptOut.eq_nil, List.nil_append]

/-- Both slashes before empty values are taken, one of them from a value, and the braces in that value stay. -/
theorem path_build_rooted_of_emptyValues :
    ∃ t, UpstreamTemplate.compile "/p/\x7btail\x7d" false = .ok t ∧
      "/\x7bnone\x7d/\x7btail\x7d\x7bNone\x7d?q".toList.head? = some '/' ∧
      (∃ rest, (build "/\x7bnone\x7d/\x7btail\x7d\x7bNone\x7d?q" t
        [⟨"none", ""⟩, ⟨"tail", "\x7bnone\x7d/"⟩] "/p/x" none).path.toList = '/' :: rest) ∧
      (build "/\x7bnone\x7d/\x7btail\x7d\x7bNone\x7d?q" t
        [⟨"none", ""⟩, ⟨"tail", "\x7bnone\x7d/"⟩] "/p/x" none).path = "/\x7bnone\x7d" := by
  have evaluated : (UpstreamTemplate.compile "/p/\x7btail\x7d" false).map (fun t =>
      (build "/\x7bnone\x7d/\x7btail\x7d\x7bNone\x7d?q" t
        [⟨"none", ""⟩, ⟨"tail", "\x7bnone\x7d/"⟩] "/p/x" none).path) = .ok "/\x7bnone\x7d" := by
    decide +kernel
  obtain ⟨t, accepted, path⟩ := map_eq_ok.mp evaluated
  have initial : "/\x7bnone\x7d/\x7btail\x7d\x7bNone\x7d?q".toList.head? = some '/' := by decide
  exact ⟨t, accepted, initial, (path_build_rooted_and_substitute_keeps _).1 _ t _ _ initial, path⟩

end DownstreamUrl

end GatewayRouting
