import GatewayRouting.HeaderRules
import GatewayRouting.Proofs.Text.Replacing

/-!
Placeholders in header values are filled in one after the other, so a value that was put in can take part in a
later placeholder. Where it cannot, the result is that of filling in all placeholders of the text at once.
-/

set_option autoImplicit false

namespace GatewayRouting

/-- A name without braces between braces. -/
def Braced (find : List Char) : Prop :=
  ∃ name, '\x7b' ∉ name ∧ '\x7d' ∉ name ∧ find = '\x7b' :: (name ++ ['\x7d'])

/-- Whether the first closing brace, if there is one, comes before any opening brace. -/
def ClosesFirst (text : List Char) : Prop := '\x7d' ∈ text → '\x7b' ∉ text.takeWhile (· != '\x7d')

/-- Whether no brace is opened between an opening brace and the closing one. -/
def Flat (text : List Char) : Prop :=
  ∀ rest ∈ text.tails, rest.head? = some '\x7b' → ClosesFirst rest.tail

instance (text : List Char) : Decidable (ClosesFirst text) := by
  unfold ClosesFirst
  infer_instance

instance (text : List Char) : Decidable (Flat text) := by
  unfold Flat
  infer_instance

/-- Whether the value of the first placeholder cannot take part in an occurrence of the second one in the
text: none begins in the value, and none runs into it. -/
def Inert (text : List Char) (first later : List Char × List Char) : Prop :=
  ¬Text.BeginsIn later.1 first.2 ∧ (Flat text ∨ ¬Text.RunsInto later.1 first.2)

instance (text : List Char) (first later : List Char × List Char) : Decidable (Inert text first later) := by
  unfold Inert
  infer_instance

theorem ClosesFirst.tail {c : Char} {cs : List Char} (closes : ClosesFirst (c :: cs))
    (other : c ≠ '\x7d') : ClosesFirst cs := by
  intro closed opened
  apply closes (List.mem_cons_of_mem c closed)
  rw [List.takeWhile_cons_of_pos (by simpa using other)]
  exact List.mem_cons_of_mem c opened

theorem Flat.of_suffix {text rest : List Char} (flat : Flat text) (ending : rest <:+ text) : Flat rest := by
  intro later inside
  exact flat later ((List.mem_tails _ _).mpr (((List.mem_tails _ _).mp inside).trans ending))

theorem Inert.of_suffix {first later : List Char × List Char} {text rest : List Char}
    (inert : Inert text first later) (ending : rest <:+ text) : Inert rest first later :=
  ⟨inert.1, inert.2.imp_left fun flat => flat.of_suffix ending⟩

namespace Braced

variable {find : List Char}

theorem eq_cons (braced : Braced find) : find = '\x7b' :: find.tail := by
  obtain ⟨name, _, _, rfl⟩ := braced
  rfl

theorem ne_nil (braced : Braced find) : find ≠ [] := by
  obtain ⟨name, _, _, rfl⟩ := braced
  exact List.cons_ne_nil _ _

theorem not_closesFirst (braced : Braced find) {cs : List Char} (occurs : find <+: cs) :
    ¬ClosesFirst cs := by
  obtain ⟨name, _, _, rfl⟩ := braced
  obtain ⟨rest, rfl⟩ := occurs
  intro closes
  exact closes (by simp) (by simp)

/-- Without an opening brace there is no place for it to begin. -/
theorem not_beginsIn (braced : Braced find) {value : List Char} (absent : '\x7b' ∉ value) :
    ¬Text.BeginsIn find value := by
  obtain ⟨name, _, _, rfl⟩ := braced
  rintro ⟨left, ending, filled, begins⟩
  cases left with
  | nil => exact filled rfl
  | cons c left =>
    have first : c = '\x7b' := by
      rcases begins with shorter | longer
      · exact (List.cons_prefix_cons.mp shorter).1
      · exact (List.cons_prefix_cons.mp longer).1.symm
    rw [first] at ending
    exact absent (((List.mem_tails _ _).mp ending).subset List.mem_cons_self)

theorem absent_tail (braced : Braced find) : '\x7b' ∉ find.tail := by
  obtain ⟨name, opened, _, rfl⟩ := braced
  rw [List.tail_cons, List.mem_append, not_or]
  exact ⟨opened, by decide⟩

/-- Its closing brace ends it. -/
theorem eq_nil_of_closing (braced : Braced find) {left : List Char}
    (ending : '\x7d' :: left <:+ find.tail) : left = [] := by
  obtain ⟨name, _, closed, rfl⟩ := braced
  rcases List.suffix_concat_iff.mp ending with nothing | ⟨front, same, inName⟩
  · cases nothing
  · cases front with
    | nil => exact (List.cons.inj same).2
    | cons c front =>
      obtain ⟨rfl, _⟩ := List.cons.inj same
      exact absurd (inName.subset List.mem_cons_self) closed

end Braced

variable {entries : List (List Char × List Char)} {later : List Char × List Char} {find text : List Char}

/-- A proper end of a placeholder that agrees with a value runs into it. -/
theorem Braced.runsInto (braced : Braced find) {left value : List Char} (ending : left <:+ find.tail)
    (filled : left ≠ []) (agrees : left <+: value ∨ value <+: left) : Text.RunsInto find value := by
  refine ⟨left, (List.mem_tails _ _).mpr (ending.trans (List.tail_suffix find)), filled, ?_, agrees⟩
  rintro rfl
  have shorter := ending.length_le
  have nonempty := List.length_pos_iff.mpr braced.ne_nil
  rw [List.length_tail] at shorter
  omega

/-- The end of a placeholder that stands at the front of a filled text stood there in the text itself. -/
theorem prefix_of_prefix_replaceEach (braced : Braced find) (named : ∀ e ∈ entries, Braced e.1)
    {cs : List Char} (safe : ClosesFirst cs ∨ ∀ e ∈ entries, ¬Text.RunsInto find e.2)
    {left : List Char} (ending : left <:+ find.tail) (begins : left <+: Text.replaceEach entries 0 cs) :
    left <+: cs := by
  -- As long as the text closes its brace first, no entry is met on the way to the end of the placeholder.
  -- Else a value met there would agree with what is left of it.
  induction cs generalizing left with
  | nil => exact begins
  | cons c cs ih =>
    cases left with
    | nil => exact List.nil_prefix
    | cons d left =>
      cases found : Text.entryAt entries (c :: cs) with
      | some e =>
        obtain ⟨inside, occurs⟩ := Text.prefix_of_entryAt found
        rcases safe with closes | apart
        · exact absurd closes ((named e inside).not_closesFirst occurs)
        · obtain ⟨rest, same⟩ := occurs
          rw [← same] at found begins
          rw [Text.replaceEach_of_found (named e inside).ne_nil found] at begins
          have agrees := List.prefix_or_prefix_of_prefix begins (List.prefix_append e.2 _)
          exact absurd (braced.runsInto ending (List.cons_ne_nil d left) agrees) (apart e inside)
      | none =>
        rw [Text.replaceEach_of_none found] at begins
        obtain ⟨rfl, others⟩ := List.cons_prefix_cons.mp begins
        rw [List.prefix_cons_inj]
        by_cases closing : d = '\x7d'
        · subst closing
          rw [braced.eq_nil_of_closing ending]
          exact List.nil_prefix
        · exact ih (safe.imp_left fun closes => closes.tail closing)
            ((List.suffix_cons d left).trans ending) others

/-- Filling in makes no placeholder that begins with a character of the text. -/
theorem prefix_cons_of_prefix_replaceEach (braced : Braced later.1) (named : ∀ e ∈ entries, Braced e.1)
    {c : Char} {cs : List Char} (inert : ∀ e ∈ entries, Inert (c :: cs) e later)
    (made : later.1 <+: c :: Text.replaceEach entries 0 cs) : later.1 <+: c :: cs := by
  rw [braced.eq_cons] at made ⊢
  obtain ⟨rfl, others⟩ := List.cons_prefix_cons.mp made
  have safe : ClosesFirst cs ∨ ∀ e ∈ entries, ¬Text.RunsInto later.1 e.2 := by
    by_cases flat : Flat ('\x7b' :: cs)
    · exact Or.inl (flat _ ((List.mem_tails _ _).mpr (List.suffix_refl _)) rfl)
    · exact Or.inr fun e inside => (inert e inside).2.resolve_left flat
  rw [List.prefix_cons_inj]
  exact prefix_of_prefix_replaceEach braced named safe (List.suffix_refl _) others

/-- A placeholder that has no entry stays in the text. -/
theorem replaceEach_append_of_braced (braced : Braced find) (named : ∀ e ∈ entries, Braced e.1)
    {rest : List Char} (none : Text.entryAt entries (find ++ rest) = none) :
    Text.replaceEach entries 0 (find ++ rest) = find ++ Text.replaceEach entries 0 rest := by
  have apart : ∀ e ∈ entries, ¬Text.BeginsIn e.1 find.tail := by
    intro e inside
    exact (named e inside).not_beginsIn braced.absent_tail
  rw [braced.eq_cons, List.cons_append] at none ⊢
  rw [Text.replaceEach_of_none none, Text.replaceEach_append apart]
  rfl

/-- One more placeholder filled in afterwards is as if it had been filled in with the others. -/
theorem replaceEach_replaceEach (braced : Braced later.1) (named : ∀ e ∈ entries, Braced e.1)
    (inert : ∀ e ∈ entries, Inert text e later) :
    Text.replaceEach [later] 0 (Text.replaceEach entries 0 text) =
      Text.replaceEach (entries ++ [later]) 0 text := by
  -- An entry passes its whole placeholder, so the induction is on the length of what is left.
  induction size : text.length using Nat.strongRecOn generalizing text with
  | ind n ih =>
    have continues {rest : List Char} (ending : rest <:+ text) (shorter : rest.length < n) :
        Text.replaceEach [later] 0 (Text.replaceEach entries 0 rest) =
          Text.replaceEach (entries ++ [later]) 0 rest :=
      ih rest.length shorter (fun e inside => (inert e inside).of_suffix ending) rfl
    cases found : Text.entryAt entries text with
    | some e =>
      obtain ⟨inside, rest, rfl⟩ := Text.prefix_of_entryAt found
      have filled := (named e inside).ne_nil
      have both : Text.entryAt (entries ++ [later]) (e.1 ++ rest) = some e := by
        rw [Text.entryAt_append, found, Option.some_or]
      have shorter : rest.length < n := by
        have nonempty := List.length_pos_iff.mpr filled
        rw [List.length_append] at size
        omega
      rw [Text.replaceEach_of_found filled found, Text.replaceEach_of_found filled both,
        Text.replaceEach_append (List.forall_mem_singleton.mpr (inert e inside).1),
        continues (List.suffix_append _ _) shorter]
    | none =>
      by_cases occurs : later.1 <+: text
      · obtain ⟨rest, rfl⟩ := occurs
        have both : Text.entryAt (entries ++ [later]) (later.1 ++ rest) = some later := by
          rw [Text.entryAt_append, found, Text.entryAt_singleton (List.prefix_append _ _), Option.none_or]
        have shorter : rest.length < n := by
          have nonempty := List.length_pos_iff.mpr braced.ne_nil
          rw [List.length_append] at size
          omega
        rw [replaceEach_append_of_braced braced named found,
          Text.replaceEach_of_found braced.ne_nil (Text.entryAt_singleton (List.prefix_append _ _)),
          Text.replaceEach_of_found braced.ne_nil both, continues (List.suffix_append _ _) shorter]
      · cases text with
        | nil => rfl
        | cons c cs =>
          have both : Text.entryAt (entries ++ [later]) (c :: cs) = none := by
            rw [Text.entryAt_append, found, Option.none_or, Text.entryAt_eq_none_iff]
            exact List.forall_mem_singleton.mpr occurs
          have unmade : Text.entryAt [later] (c :: Text.replaceEach entries 0 cs) = none := by
            rw [Text.entryAt_eq_none_iff, List.forall_mem_singleton]
            exact fun made => occurs (prefix_cons_of_prefix_replaceEach braced named inert made)
          rw [Text.replaceEach_of_none found, Text.replaceEach_of_none unmade,
            Text.replaceEach_of_none both,
            continues (List.suffix_cons c cs) (by rw [← size]; exact Nat.lt_succ_self _)]

/-- Placeholders filled in one after the other are filled in at once, where the values are inert. -/
theorem foldl_replaceAll_eq_replaceEach (named : ∀ e ∈ entries, Braced e.1)
    (inert : entries.Pairwise (Inert text)) :
    entries.foldl (fun cs e => Text.replaceAll e.1 e.2 cs) text = Text.replaceEach entries 0 text := by
  induction entries using List.reverseRecOn with
  | nil => exact (Text.replaceEach_nil text).symm
  | append_singleton entries later ih =>
    obtain ⟨before, last⟩ := List.forall_mem_append.mp named
    obtain ⟨pairwise, _, across⟩ := List.pairwise_append.mp inert
    have braced : Braced later.1 := last later List.mem_cons_self
    rw [List.foldl_append, List.foldl_cons, List.foldl_nil, ih before pairwise,
      Text.replaceAll_eq_replaceEach braced.ne_nil]
    exact replaceEach_replaceEach braced before fun e inside => across e inside later List.mem_cons_self

namespace RuntimeValues

/-- The placeholders as they stand in a text, with their values, in the order in which they are filled in. -/
def placeholders (r : RuntimeValues) : List (String × Option String) :=
  [("\x7bRemoteIpAddress\x7d", r.remoteIpAddress), ("\x7bTraceId\x7d", r.traceId),
   ("\x7bUpstreamHost\x7d", r.upstreamHost), ("\x7bDownstreamBaseUrl\x7d", r.downstreamBaseUrl)]

/-- The texts of entries that have a value, with these values. -/
def withValue (entries : List (String × Option String)) : List (List Char × List Char) :=
  entries.filterMap fun entry => entry.2.map fun value => (entry.1.toList, value.toList)

/-- The placeholders whose values are known. -/
def known (r : RuntimeValues) : List (List Char × List Char) := withValue r.placeholders

/-- The text with every known placeholder filled in at once; nothing is looked for in a value. -/
def renderAtOnce (r : RuntimeValues) (text : String) : String :=
  String.ofList (Text.replaceEach r.known 0 text.toList)

theorem placeholders_eq (r : RuntimeValues) :
    r.placeholders = r.named.map fun entry => (braced entry.1, entry.2) := rfl

theorem plain_of_mem_names : ∀ name ∈ names, '\x7b' ∉ name.toList ∧ '\x7d' ∉ name.toList := by
  decide +kernel

theorem braced_of_mem_known {r : RuntimeValues} {e : List Char × List Char} (inside : e ∈ r.known) :
    Braced e.1 := by
  obtain ⟨entry, listed, known⟩ := List.mem_filterMap.mp inside
  obtain ⟨value, _, rfl⟩ := Option.map_eq_some_iff.mp known
  rw [placeholders_eq] at listed
  obtain ⟨own, among, rfl⟩ := List.mem_map.mp listed
  have same : r.named.map Prod.fst = names := rfl
  have name : own.1 ∈ names := same ▸ List.mem_map_of_mem among
  obtain ⟨opened, closed⟩ := plain_of_mem_names own.1 name
  exact ⟨own.1.toList, opened, closed, by simp [braced]⟩

theorem toList_foldl_renderOne (entries : List (String × Option String)) (text : String) :
    (entries.foldl renderOne text).toList =
      (withValue (entries.map fun entry => (braced entry.1, entry.2))).foldl
        (fun cs e => Text.replaceAll e.1 e.2 cs) text.toList := by
  induction entries generalizing text with
  | nil => rfl
  | cons entry rest ih =>
    rw [List.foldl_cons, ih, renderOne]
    cases known : entry.2 with
    | none => simp [withValue, known]
    | some value => simp [withValue, known, Text.replaced]

/-- Filling in the known placeholders one after the other is filling them in at once where no value takes part
in a placeholder that is filled in after it. -/
theorem render_eq_renderAtOnce (r : RuntimeValues) (text : String)
    (inert : r.known.Pairwise (Inert text.toList)) : r.render text = r.renderAtOnce text := by
  rw [renderAtOnce, ← foldl_replaceAll_eq_replaceEach (fun _ => braced_of_mem_known) inert, known,
    placeholders_eq, ← toList_foldl_renderOne, String.ofList_toList]
  rfl

/-- Values may hold placeholders that were filled in before them. -/
theorem render_eq_renderAtOnce_of_earlierPlaceholders :
    let r : RuntimeValues :=
      { traceId := some "", upstreamHost := some "\x7bTraceId\x7d"
        downstreamBaseUrl := some "\x7bUpstreamHost\x7d" }
    let text := "\x7bUpstreamHost\x7d-\x7bTraceId\x7d-\x7bDownstreamBaseUrl\x7d-\x7bRemoteIpAddress\x7d"
    r.known.Pairwise (Inert text.toList) ∧
      r.render text = "\x7bTraceId\x7d--\x7bUpstreamHost\x7d-\x7bRemoteIpAddress\x7d" := by
  intro r text
  have inert : r.known.Pairwise (Inert text.toList) := by decide +kernel
  exact ⟨inert, (render_eq_renderAtOnce r text inert).trans (by decide +kernel)⟩

/-- A host that reads as a later placeholder is replaced as well. -/
theorem render_of_laterPlaceholder :
    RuntimeValues.render
        { upstreamHost := some "\x7bDownstreamBaseUrl\x7d", downstreamBaseUrl := some "http://10.0.0.5:8080" }
        "\x7bUpstreamHost\x7d" = "http://10.0.0.5:8080" ∧
      RuntimeValues.renderAtOnce
        { upstreamHost := some "\x7bDownstreamBaseUrl\x7d", downstreamBaseUrl := some "http://10.0.0.5:8080" }
        "\x7bUpstreamHost\x7d" = "\x7bDownstreamBaseUrl\x7d" := by
  decide +kernel

end RuntimeValues

end GatewayRouting
