import GatewayRouting.HeaderRules
import GatewayRouting.Proofs.Downstream.NameCuts
import GatewayRouting.Proofs.Except

/-!
What becomes of the entries of header tables. Every entry that applies comes to one rule or to one warning, in
order, and a rule keeps no placeholder that nothing fills in later.
-/

set_option autoImplicit false

namespace GatewayRouting

namespace HeaderRules

/-- What an entry comes to. -/
inductive Outcome where
  | replaces (rule : HeaderReplacement)
  | adds (rule : HeaderAddition)
  | skips (line : LogEntry)

namespace Outcome

def replacement? : Outcome → Option HeaderReplacement
  | replaces rule => some rule
  | _ => none

def addition? : Outcome → Option HeaderAddition
  | adds rule => some rule
  | _ => none

def line? : Outcome → Option LogEntry
  | skips line => some line
  | _ => none

/-- The outcome as rules with their log lines. -/
def logged (outcome : Outcome) : Logged HeaderRules :=
  ⟨⟨outcome.replacement?.toList, outcome.addition?.toList⟩, outcome.line?.toList⟩

end Outcome

/-- Whether a placeholder of this name is filled in, now or when a request comes. -/
def Resolvable (baseUrl : Option String) (name : List Char) : Prop :=
  (name = "BaseUrl".toList ∧ baseUrl.isSome = true) ∨ String.ofList name ∈ RuntimeValues.names

instance (baseUrl : Option String) (name : List Char) : Decidable (Resolvable baseUrl name) := by
  unfold Resolvable
  infer_instance

/-- What stands for a placeholder in a rule: the base address, or the placeholder itself. -/
def standsFor (baseUrl : Option String) (name : List Char) : List Char :=
  if name = "BaseUrl".toList then withoutSlashes (baseUrl.getD "") else (Span.name name).source

/-- The text of a rule, from the parts of the text to resolve. -/
def resolvedText (baseUrl : Option String) (parts : List (List Char × List Char)) (rest : List Char) :
    List Char :=
  parts.flatMap (fun part => part.1 ++ standsFor baseUrl part.2) ++ rest

/-- The part of an entry's value that goes into the rule: what follows the first comma, if there is one. -/
def textToResolve (value : List Char) : List Char :=
  match Text.splitOnce ',' value with
  | some (_, replace) => Text.trim replace
  | none => value

/-- The warning about an entry with a name that nothing fills in. -/
def warningAbout (entry : String × String) (name : List Char) : LogEntry :=
  let place := if ',' ∈ entry.2.toList then "' in header transform for '" else "' in added header '"
  ⟨.warn, "Unable to resolve placeholder '" ++ RuntimeValues.braced (String.ofList name) ++ place ++ entry.1 ++
    "', skipping"⟩

/-- The outcome of an entry whose text to resolve is cut after its names. -/
structure AccountsFor (baseUrl : Option String) (entry : String × String)
    (parts : List (List Char × List Char)) (rest : List Char) (outcome : Outcome) : Prop where
  cut : CutAtNames (textToResolve entry.2.toList) parts rest
  skipped_iff : outcome.line?.isSome = true ↔ ∃ part ∈ parts, ¬Resolvable baseUrl part.2
  skips : ∀ line, outcome = .skips line → ∃ part,
    parts.find? (fun part => ¬Resolvable baseUrl part.2) = some part ∧ line = warningAbout entry part.2
  replaces : ∀ rule, outcome = .replaces rule → ∃ find replace,
    entry.2.toList = find ++ ',' :: replace ∧ ',' ∉ find ∧
      rule = ⟨entry.1, String.ofList (Text.trim find), String.ofList (resolvedText baseUrl parts rest)⟩
  adds : ∀ rule, outcome = .adds rule →
    ',' ∉ entry.2.toList ∧ rule = ⟨entry.1, String.ofList (resolvedText baseUrl parts rest)⟩

section Resolving

variable {baseUrl : Option String} {cs rest : List Char} {parts : List (List Char × List Char)}

theorem resolveSpans_consChar (c : Char) (spans : List Span) :
    resolveSpans baseUrl (Span.consChar c spans) = (resolveSpans baseUrl spans).map (c :: ·) := by
  cases spans with
  | nil => rfl
  | cons first others =>
    cases first with
    | text cs =>
      change (resolveSpans baseUrl others).map ((c :: cs) ++ ·) =
        ((resolveSpans baseUrl others).map (cs ++ ·)).map (c :: ·)
      cases resolveSpans baseUrl others <;> rfl
    | name inside => rfl

theorem resolveSpans_append_of_absent {front : List Char} (absent : '\x7b' ∉ front) (cs : List Char) :
    resolveSpans baseUrl (Span.ofText (front ++ cs)) =
      (resolveSpans baseUrl (Span.ofText cs)).map (front ++ ·) := by
  rw [Span.ofText_append_of_absent absent]
  clear absent
  induction front with
  | nil =>
    change resolveSpans baseUrl (Span.ofText cs) = _
    cases resolveSpans baseUrl (Span.ofText cs) <;> rfl
  | cons c front ih =>
    rw [List.foldr_cons, resolveSpans_consChar, ih]
    cases resolveSpans baseUrl (Span.ofText cs) <;> rfl

theorem resolveSpans_cons_name (name : List Char) (spans : List Span) :
    resolveSpans baseUrl (.name name :: spans) =
      if Resolvable baseUrl name then (resolveSpans baseUrl spans).map (standsFor baseUrl name ++ ·)
      else .error (String.ofList name) := by
  have apart : String.ofList "BaseUrl".toList ∉ RuntimeValues.names := by decide
  rw [resolveSpans.eq_def, standsFor]
  dsimp only
  by_cases base : name = "BaseUrl".toList
  · rw [if_pos base, if_pos base]
    cases baseUrl with
    | none =>
      have unknown : ¬Resolvable none name := by
        rintro (⟨_, given⟩ | runtime)
        · cases given
        · exact apart (base ▸ runtime)
      rw [if_neg unknown, base]
      rfl
    | some url => exact (if_pos (Or.inl ⟨base, rfl⟩)).symm
  · have known : Resolvable baseUrl name ↔ RuntimeValues.names.contains (String.ofList name) = true := by
      rw [List.contains_iff_mem]
      exact or_iff_right fun both => base both.1
    rw [if_neg base, if_neg base]
    by_cases runtime : Resolvable baseUrl name
    · have written (out : List Char) : '\x7b' :: name ++ '\x7d' :: out = (Span.name name).source ++ out := by
        simp [Span.source]
      simp only [if_pos runtime, if_pos (known.mp runtime), written]
    · rw [if_neg runtime, if_neg (mt known.mpr runtime)]

/-- Spans without names are put together again. -/
theorem resolveSpans_of_nameless {spans : List Span} (nameless : spans.filterMap Span.name? = []) :
    resolveSpans baseUrl spans = .ok (spans.flatMap Span.source) := by
  induction spans with
  | nil => rfl
  | cons first others ih =>
    cases first with
    | text cs =>
      rw [resolveSpans, ih nameless, List.flatMap_cons]
      rfl
    | name inside => cases nameless

/-- The first name that nothing fills in is the fault. Without one, every name gives way to what stands for
it and the text around the names stays. -/
theorem resolveSpans_of_cut (cut : CutAtNames cs parts rest) :
    resolveSpans baseUrl (Span.ofText cs) =
      match parts.find? fun part => ¬Resolvable baseUrl part.2 with
      | some part => .error (String.ofList part.2)
      | none => .ok (resolvedText baseUrl parts rest) := by
  induction parts generalizing cs with
  | nil =>
    obtain ⟨rfl, unclosed⟩ := CutAtNames.nil_iff.mp cut
    rw [resolveSpans_of_nameless (Span.templateNames_of_unclosed unclosed), Span.flatMap_source_ofText]
    rfl
  | cons part parts ih =>
    obtain ⟨front, name⟩ := part
    obtain ⟨opened, closed, later, rfl, others⟩ := CutAtNames.cons_iff.mp cut
    rw [resolveSpans_append_of_absent opened, Span.ofText_source closed, resolveSpans_cons_name, ih others,
      List.find?_cons]
    by_cases known : Resolvable baseUrl name
    · rw [if_pos known, decide_eq_false (not_not.mpr known)]
      cases parts.find? fun part => ¬Resolvable baseUrl part.2 with
      | none => simp [Except.map, resolvedText]
      | some other => rfl
    · rw [if_neg known, decide_eq_true known]
      rfl

theorem resolve_of_cut (cut : CutAtNames cs parts rest) :
    resolve baseUrl cs =
      match parts.find? fun part => ¬Resolvable baseUrl part.2 with
      | some part => .error (String.ofList part.2)
      | none => .ok (String.ofList (resolvedText baseUrl parts rest)) := by
  rw [resolve, resolveSpans_of_cut cut]
  cases parts.find? fun part => ¬Resolvable baseUrl part.2 <;> rfl

theorem withoutSlashes_subset (url : String) : withoutSlashes url ⊆ url.toList := by
  intro c inside
  rw [withoutSlashes, List.mem_reverse] at inside
  exact List.mem_reverse.mp ((List.dropWhile_suffix _).subset inside)

/-- A base address without an opening brace brings no names along. -/
theorem mem_names_of_resolvedText (cut : CutAtNames cs parts rest)
    (known : ∀ part ∈ parts, Resolvable baseUrl part.2) (plain : ∀ url ∈ baseUrl, '\x7b' ∉ url.toList)
    {name : List Char} (left : name ∈ templateNames (resolvedText baseUrl parts rest)) :
    String.ofList name ∈ RuntimeValues.names := by
  induction parts generalizing cs with
  | nil =>
    have nothing : templateNames rest = [] := Span.templateNames_of_unclosed cut.unclosed
    change name ∈ templateNames rest at left
    rw [nothing] at left
    cases left
  | cons part parts ih =>
    obtain ⟨opened, closed, later, rfl, others⟩ := CutAtNames.cons_iff.mp cut
    obtain ⟨here, after⟩ := List.forall_mem_cons.mp known
    have written : resolvedText baseUrl (part :: parts) rest =
        part.1 ++ (standsFor baseUrl part.2 ++ resolvedText baseUrl parts rest) := by
      simp [resolvedText]
    rw [written, Span.templateNames_append_of_absent opened] at left
    by_cases base : part.2 = "BaseUrl".toList
    · have absent : '\x7b' ∉ standsFor baseUrl part.2 := by
        rw [standsFor, if_pos base]
        intro inside
        cases baseUrl with
        | none => cases inside
        | some url => exact plain url rfl (withoutSlashes_subset url inside)
      rw [Span.templateNames_append_of_absent absent] at left
      exact ih others after left
    · rw [standsFor, if_neg base, Span.templateNames_source closed, List.mem_cons] at left
      rcases left with rfl | inLater
      · exact here.resolve_left fun both => base both.1
      · exact ih others after inLater

end Resolving

namespace AccountsFor

variable {baseUrl : Option String} {entry : String × String} {rest : List Char}
  {parts : List (List Char × List Char)}

theorem of_unknown (cut : CutAtNames (textToResolve entry.2.toList) parts rest)
    {part : List Char × List Char}
    (unknown : parts.find? (fun part => ¬Resolvable baseUrl part.2) = some part) :
    AccountsFor baseUrl entry parts rest (.skips (warningAbout entry part.2)) where
  cut := cut
  skipped_iff := by
    have inside := List.mem_of_find?_eq_some unknown
    have unfilled := List.find?_some unknown
    exact iff_of_true rfl ⟨part, inside, of_decide_eq_true unfilled⟩
  skips := by
    rintro _ ⟨⟩
    exact ⟨part, unknown, rfl⟩
  replaces := by rintro _ ⟨⟩
  adds := by rintro _ ⟨⟩

/-- Without an unknown name no outcome but a rule accounts for the entry. -/
theorem not_skipped_iff {outcome : Outcome} (rule : outcome.line? = none)
    (known : parts.find? (fun part => ¬Resolvable baseUrl part.2) = none) :
    outcome.line?.isSome = true ↔ ∃ part ∈ parts, ¬Resolvable baseUrl part.2 := by
  have nowhere := List.find?_eq_none.mp known
  rw [rule]
  refine iff_of_false Bool.false_ne_true ?_
  rintro ⟨part, inside, unfilled⟩
  exact nowhere part inside (decide_eq_true unfilled)

theorem of_comma (cut : CutAtNames (textToResolve entry.2.toList) parts rest)
    (known : parts.find? (fun part => ¬Resolvable baseUrl part.2) = none) {find replace : List Char}
    (value : entry.2.toList = find ++ ',' :: replace) (first : ',' ∉ find) :
    AccountsFor baseUrl entry parts rest (.replaces
      ⟨entry.1, String.ofList (Text.trim find), String.ofList (resolvedText baseUrl parts rest)⟩) where
  cut := cut
  skipped_iff := not_skipped_iff rfl known
  skips := by rintro _ ⟨⟩
  replaces := by
    rintro _ ⟨⟩
    exact ⟨find, replace, value, first, rfl⟩
  adds := by rintro _ ⟨⟩

theorem of_noComma (cut : CutAtNames (textToResolve entry.2.toList) parts rest)
    (known : parts.find? (fun part => ¬Resolvable baseUrl part.2) = none) (absent : ',' ∉ entry.2.toList) :
    AccountsFor baseUrl entry parts rest
      (.adds ⟨entry.1, String.ofList (resolvedText baseUrl parts rest)⟩) where
  cut := cut
  skipped_iff := not_skipped_iff rfl known
  skips := by rintro _ ⟨⟩
  replaces := by rintro _ ⟨⟩
  adds := by
    rintro _ ⟨⟩
    exact ⟨absent, rfl⟩

/-- The names of an entry's rule are filled in when a request comes. -/
theorem mem_names {outcome : Outcome} (accounts : AccountsFor baseUrl entry parts rest outcome)
    (plain : ∀ url ∈ baseUrl, '\x7b' ∉ url.toList) (rule : outcome.line? = none) {name : List Char}
    (left : name ∈ templateNames (resolvedText baseUrl parts rest)) :
    String.ofList name ∈ RuntimeValues.names := by
  have known : ∀ part ∈ parts, Resolvable baseUrl part.2 := by
    intro part inside
    by_contra unfilled
    have skipped := accounts.skipped_iff.mpr ⟨part, inside, unfilled⟩
    rw [rule] at skipped
    cases skipped
  exact mem_names_of_resolvedText accounts.cut known plain left

end AccountsFor

/-- Every entry comes to an outcome that accounts for it. -/
theorem exists_ofEntry_eq (baseUrl : Option String) (entry : String × String) :
    ∃ parts rest outcome, AccountsFor baseUrl entry parts rest outcome ∧
      ofEntry baseUrl entry.1 entry.2 = outcome.logged := by
  obtain ⟨parts, rest, cut⟩ := exists_cutAtNames (textToResolve entry.2.toList)
  have resolved := @resolve_of_cut baseUrl _ _ _ cut
  cases comma : Text.splitOnce ',' entry.2.toList with
  | some pieces =>
    obtain ⟨find, replace⟩ := pieces
    obtain ⟨value, first⟩ := Text.splitOnce_eq_some comma
    have present : ',' ∈ entry.2.toList := by simp [value]
    have target : textToResolve entry.2.toList = Text.trim replace := by rw [textToResolve, comma]
    rw [target] at resolved
    cases unknown : parts.find? fun part => ¬Resolvable baseUrl part.2 with
    | some part =>
      rw [unknown] at resolved
      refine ⟨parts, rest, _, AccountsFor.of_unknown cut unknown, ?_⟩
      simp only [ofEntry, comma, resolved, warningAbout, if_pos present]
      rfl
    | none =>
      rw [unknown] at resolved
      refine ⟨parts, rest, _, AccountsFor.of_comma cut unknown value first, ?_⟩
      simp only [ofEntry, comma, resolved]
      rfl
  | none =>
    have absent := Text.splitOnce_eq_none_iff.mp comma
    have target : textToResolve entry.2.toList = entry.2.toList := by rw [textToResolve, comma]
    rw [target] at resolved
    cases unknown : parts.find? fun part => ¬Resolvable baseUrl part.2 with
    | some part =>
      rw [unknown] at resolved
      refine ⟨parts, rest, _, AccountsFor.of_unknown cut unknown, ?_⟩
      simp only [ofEntry, comma, resolved, warningAbout, if_neg absent]
      rfl
    | none =>
      rw [unknown] at resolved
      refine ⟨parts, rest, _, AccountsFor.of_noComma cut unknown absent, ?_⟩
      simp only [ofEntry, comma, resolved]
      rfl

/-- The rules and the warnings of entries are those of their outcomes, in order. -/
theorem exists_ofEntries_eq (baseUrl : Option String) (entries : List (String × String)) :
    ∃ outcomes, List.Forall₂ (fun entry outcome => ∃ parts rest,
        AccountsFor baseUrl entry parts rest outcome) entries outcomes ∧
      ofEntries baseUrl entries =
        ⟨⟨outcomes.filterMap Outcome.replacement?, outcomes.filterMap Outcome.addition?⟩,
          outcomes.filterMap Outcome.line?⟩ := by
  induction entries with
  | nil => exact ⟨[], .nil, rfl⟩
  | cons entry others ih =>
    obtain ⟨parts, rest, outcome, accounts, first⟩ := exists_ofEntry_eq baseUrl entry
    obtain ⟨outcomes, all, later⟩ := ih
    refine ⟨outcome :: outcomes, .cons ⟨parts, rest, accounts⟩ all, ?_⟩
    have step : ofEntries baseUrl (entry :: others) =
        ⟨(ofEntry baseUrl entry.1 entry.2).value.append (ofEntries baseUrl others).value,
          (ofEntry baseUrl entry.1 entry.2).log ++ ((ofEntries baseUrl others).log ++ [])⟩ := rfl
    rw [step, first, later, List.append_nil]
    cases outcome <;> rfl

/-- The text of a rule that an outcome emits. -/
def Outcome.text? : Outcome → Option String
  | replaces rule => some rule.replace
  | adds rule => some rule.value
  | skips _ => none

theorem AccountsFor.text_eq {baseUrl : Option String} {entry : String × String} {rest : List Char}
    {parts : List (List Char × List Char)} {outcome : Outcome}
    (accounts : AccountsFor baseUrl entry parts rest outcome) {text : String}
    (emitted : outcome.text? = some text) :
    outcome.line? = none ∧ text.toList = resolvedText baseUrl parts rest := by
  cases outcome with
  | replaces rule =>
    obtain ⟨_, _, _, _, rfl⟩ := accounts.replaces rule rfl
    cases emitted
    exact ⟨rfl, String.toList_ofList⟩
  | adds rule =>
    obtain ⟨_, rfl⟩ := accounts.adds rule rfl
    cases emitted
    exact ⟨rfl, String.toList_ofList⟩
  | skips line => cases emitted

/-- Every emitted text is that of an outcome. -/
theorem exists_text?_eq {outcomes : List Outcome} {text : String}
    (emitted : text ∈ (outcomes.filterMap Outcome.replacement?).map HeaderReplacement.replace ++
      (outcomes.filterMap Outcome.addition?).map HeaderAddition.value) :
    ∃ outcome ∈ outcomes, outcome.text? = some text := by
  rcases List.mem_append.mp emitted with replaced | added
  · obtain ⟨rule, listed, rfl⟩ := List.mem_map.mp replaced
    obtain ⟨outcome, inside, made⟩ := List.mem_filterMap.mp listed
    cases outcome <;> cases made
    exact ⟨_, inside, rfl⟩
  · obtain ⟨rule, listed, rfl⟩ := List.mem_map.mp added
    obtain ⟨outcome, inside, made⟩ := List.mem_filterMap.mp listed
    cases outcome <;> cases made
    exact ⟨_, inside, rfl⟩

theorem effective_eq (route global : Dictionary String) :
    effective route global = route.entries ++ global.entries.filter fun entry =>
      ∀ name ∈ route.keys, Text.sameIgnoringCase name entry.1 = false := by
  have differs : (fun entry : String × String => !route.keys.any fun name => Text.sameIgnoringCase name entry.1) =
      fun entry => decide (∀ name ∈ route.keys, Text.sameIgnoringCase name entry.1 = false) := by
    funext entry
    rw [Bool.eq_iff_iff, Bool.not_eq_true', List.any_eq_false, decide_eq_true_iff]
    simp only [Bool.not_eq_true]
  rw [effective, differs]

/-- The route's entries and then the global ones for other headers come to one rule or one warning each, in order,
and a warning is given exactly for a name that nothing fills in. If the base address has no opening brace, the
names left in the rules are those that are filled in when a request comes. -/
theorem ofTables_accounts_for_entries (route global : Dictionary String) (baseUrl : Option String) :
    ∃ outcomes : List Outcome,
      List.Forall₂ (fun entry outcome => ∃ parts rest, AccountsFor baseUrl entry parts rest outcome)
        (route.entries ++ global.entries.filter fun entry =>
          ∀ name ∈ route.keys, Text.sameIgnoringCase name entry.1 = false) outcomes ∧
      (ofTables route global baseUrl).value =
        ⟨outcomes.filterMap Outcome.replacement?, outcomes.filterMap Outcome.addition?⟩ ∧
      (ofTables route global baseUrl).log = outcomes.filterMap Outcome.line? ∧
      ((∀ url ∈ baseUrl, '\x7b' ∉ url.toList) →
        ∀ text ∈ (ofTables route global baseUrl).value.replacements.map HeaderReplacement.replace ++
            (ofTables route global baseUrl).value.additions.map HeaderAddition.value,
          ∀ parts rest, CutAtNames text.toList parts rest →
            ∀ part ∈ parts, String.ofList part.2 ∈ RuntimeValues.names) := by
  obtain ⟨outcomes, all, made⟩ := exists_ofEntries_eq baseUrl (effective route global)
  refine ⟨outcomes, effective_eq route global ▸ all, ?_, ?_, ?_⟩
  · rw [ofTables, made]
  · rw [ofTables, made]
  · rw [ofTables, made]
    intro plain text emitted parts rest cut part inside
    obtain ⟨outcome, listed, textOf⟩ := exists_text?_eq emitted
    obtain ⟨entry, _, _, _, accounts⟩ := exists_of_forall₂ all listed
    obtain ⟨rule, written⟩ := accounts.text_eq textOf
    have named : part.2 ∈ templateNames text.toList := by
      rw [cut.templateNames_eq]
      exact List.mem_map_of_mem inside
    rw [written] at named
    exact accounts.mem_names plain rule named

/-- A route that tells the caller where it is and which trace the request belongs to. -/
def traceEntries : Dictionary String :=
  .ofList [("Location", "http://inner, {BaseUrl}/{TraceId}"), ("X-Trace", "{TraceId} \x7b")]

/-- Global entries: one for a header of the route, and one with a name that nothing fills in. -/
def userEntries : Dictionary String := .ofList [("x-trace", "none"), ("X-User", "{User}")]

theorem ofTables_accounts_for_traceEntries :
    (ofTables traceEntries userEntries (some "https://gw/")).value =
        ⟨[⟨"Location", "http://inner", "https://gw/{TraceId}"⟩], [⟨"X-Trace", "{TraceId} \x7b"⟩]⟩ ∧
      (ofTables traceEntries userEntries (some "https://gw/")).log =
        [⟨.warn, "Unable to resolve placeholder '{User}' in added header 'X-User', skipping"⟩] ∧
      ∀ text ∈ ["https://gw/{TraceId}", "{TraceId} \x7b"], ∀ parts rest, CutAtNames text.toList parts rest →
        ∀ part ∈ parts, String.ofList part.2 ∈ RuntimeValues.names := by
  have rules : (ofTables traceEntries userEntries (some "https://gw/")).value =
      ⟨[⟨"Location", "http://inner", "https://gw/{TraceId}"⟩], [⟨"X-Trace", "{TraceId} \x7b"⟩]⟩ := by
    decide +kernel
  have plain : ∀ url ∈ some "https://gw/", '\x7b' ∉ url.toList := by
    rintro _ ⟨⟩
    decide
  obtain ⟨_, _, _, _, left⟩ := ofTables_accounts_for_entries traceEntries userEntries (some "https://gw/")
  have texts := left plain
  rw [rules] at texts
  exact ⟨rules, by decide +kernel, texts⟩

end HeaderRules

end GatewayRouting
