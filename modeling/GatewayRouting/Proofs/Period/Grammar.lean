import GatewayRouting.Proofs.Period.Counts
import Mathlib.Data.List.TakeDrop

/-!
Which texts are periods, and which periods: a number of seconds, or counts with units. Counts without a point
add up exactly, since no sum up to `2 ^ 53` milliseconds is rounded.
-/

set_option autoImplicit false

namespace GatewayRouting.Period

/-- A number of seconds, after a plus sign perhaps, that fits 64 bits. -/
def IsSeconds (cs : List Char) (n : Nat) : Prop :=
  ∃ digits, (cs = digits ∨ cs = '+' :: digits) ∧ Text.IsDigits digits ∧ Text.digitsValue digits = n ∧ n < 2 ^ 64

/-- Numbers with their units, at least one. As no unit holds a digit or a point, it ends where the next number
begins. -/
def IsCounts (cs : List Char) (counts : List Count) : Prop :=
  counts ≠ [] ∧ (∀ c ∈ counts, IsNumber c.number) ∧ cs = joined counts

/-! Numbers. -/

theorem number?_of_digits {cs : List Char} (digits : ∀ c ∈ cs, c.isDigit = true) :
    number? cs = if cs.isEmpty then none else some (.ofDecimal false (Text.digitsValue cs) 0) := by
  have whole : cs.span Char.isDigit = (cs, []) := by
    rw [List.span_eq_takeWhile_dropWhile, List.takeWhile_eq_self_iff.mpr digits,
      List.dropWhile_eq_nil_iff.mpr digits]
  rw [number?, whole]

theorem number?_of_point {whole fraction : List Char} (digits : ∀ c ∈ whole, c.isDigit = true) :
    number? (whole ++ '.' :: fraction) =
      if !fraction.all Char.isDigit || (whole.isEmpty && fraction.isEmpty) then none
      else some (.ofDecimal false (Text.digitsValue (whole ++ fraction)) (-fraction.length)) := by
  have cut : (whole ++ '.' :: fraction).span Char.isDigit = (whole, '.' :: fraction) := by
    rw [List.span_eq_takeWhile_dropWhile, List.takeWhile_append_of_pos digits, List.dropWhile_append_of_pos digits,
      List.takeWhile_cons_of_neg (by decide), List.dropWhile_cons_of_neg (by decide), List.append_nil]
  rw [number?, cut]

/-- Digits only, or digits up to a first point. -/
theorem numeric_cases {cs : List Char} (numeric : ∀ c ∈ cs, isNumeric c = true) :
    (∀ c ∈ cs, c.isDigit = true) ∨
      ∃ whole fraction, cs = whole ++ '.' :: fraction ∧ ∀ c ∈ whole, c.isDigit = true := by
  induction cs with
  | nil => exact Or.inl fun _ none => absurd none List.not_mem_nil
  | cons c cs ih =>
    obtain ⟨first, others⟩ := List.forall_mem_cons.mp numeric
    rcases isNumeric_iff.mp first with digit | rfl
    · rcases ih others with digits | ⟨whole, fraction, rfl, digits⟩
      · exact Or.inl (List.forall_mem_cons.mpr ⟨digit, digits⟩)
      · exact Or.inr ⟨c :: whole, fraction, rfl, List.forall_mem_cons.mpr ⟨digit, digits⟩⟩
    · exact Or.inr ⟨[], cs, rfl, fun _ none => absurd none List.not_mem_nil⟩

theorem isNumber_point_iff {whole fraction : List Char} (digits : ∀ c ∈ whole, c.isDigit = true) :
    IsNumber (whole ++ '.' :: fraction) ↔
      (∀ c ∈ fraction, c.isDigit = true) ∧ ¬(whole = [] ∧ fraction = []) := by
  have point : Char.isDigit '.' = false := by decide
  have noPoint {cs : List Char} (digits : ∀ c ∈ cs, c.isDigit = true) : cs.count '.' = 0 := by
    rw [List.count_eq_zero]
    intro inside
    rw [digits '.' inside] at point
    cases point
  constructor
  · intro number
    have single := number.onePoint
    rw [List.count_append, List.count_cons_self, noPoint digits] at single
    have absent : '.' ∉ fraction := List.count_eq_zero.mp (by omega)
    refine ⟨fun c inside => ?_, ?_⟩
    · have known := number.numeric c (List.mem_append_right whole (List.mem_cons_of_mem _ inside))
      exact known.resolve_right fun same => absent (same ▸ inside)
    · rintro ⟨rfl, rfl⟩
      obtain ⟨c, inside, digit⟩ := number.digit
      rw [List.mem_singleton.mp inside, point] at digit
      cases digit
  · rintro ⟨digitsToo, some⟩
    refine ⟨?_, ?_, ?_⟩
    · intro c inside
      rcases List.mem_append.mp inside with front | back
      · exact Or.inl (digits c front)
      · rcases List.mem_cons.mp back with rfl | later
        · exact Or.inr rfl
        · exact Or.inl (digitsToo c later)
    · rw [List.count_append, List.count_cons_self, noPoint digits, noPoint digitsToo]
    · rw [← List.append_eq_nil_iff] at some
      obtain ⟨c, inside⟩ := List.exists_mem_of_ne_nil _ some
      rcases List.mem_append.mp inside with front | back
      · exact ⟨c, List.mem_append_left _ front, digits c front⟩
      · exact ⟨c, List.mem_append_right _ (List.mem_cons_of_mem _ back), digitsToo c back⟩

theorem exists_number?_iff {cs : List Char} (numeric : ∀ c ∈ cs, isNumeric c = true) :
    (∃ x, number? cs = some x) ↔ IsNumber cs := by
  rcases numeric_cases numeric with digits | ⟨whole, fraction, rfl, digits⟩
  · rw [number?_of_digits digits]
    by_cases some : cs = []
    · subst some
      refine iff_of_false ?_ fun number => number.ne_nil rfl
      rintro ⟨_, ⟨⟩⟩
    · rw [if_neg (by simpa using some)]
      exact iff_of_true ⟨_, rfl⟩ (isNumber_of_isDigits ⟨some, digits⟩)
  · rw [number?_of_point digits, isNumber_point_iff digits]
    split
    · rename_i stopped
      refine iff_of_false (fun ⟨_, known⟩ => nomatch known) ?_
      rintro ⟨digitsToo, some⟩
      rw [List.all_eq_true.mpr digitsToo] at stopped
      simp only [Bool.not_true, Bool.false_or, Bool.and_eq_true, List.isEmpty_iff] at stopped
      exact some stopped
    · rename_i passed
      simp only [Bool.or_eq_true, Bool.not_eq_true', Bool.and_eq_true, List.isEmpty_iff, not_or,
        Bool.not_eq_false, List.all_eq_true] at passed
      exact iff_of_true ⟨_, rfl⟩ passed

/-! Counts. -/

/-- A run counts if it is a number with the name of a unit. -/
theorem exists_runMillis_iff {text : String} {run : List Char × List Char}
    (numeric : ∀ c ∈ run.1, isNumeric c = true) :
    (∃ x, runMillis text run = .ok x) ↔ ∃ c : Count, IsNumber c.number ∧ c.run = run := by
  obtain ⟨number, unit⟩ := run
  constructor
  · rintro ⟨x, counted⟩
    rw [runMillis] at counted
    split at counted
    · cases counted
    split at counted
    · cases counted
    split at counted
    · cases counted
    · rename_i value known
      split at counted
      · cases counted
      · rename_i size named
        obtain ⟨u, name, _⟩ := TimeUnit.unitMillis?_eq_some named
        refine ⟨⟨number, u⟩, (exists_number?_iff numeric).mp ⟨value, known⟩, ?_⟩
        rw [Count.run, ← name, String.toList_ofList]
  · rintro ⟨c, number, same⟩
    obtain ⟨value, known⟩ := (exists_number?_iff numeric).mpr (by cases same; exact number)
    cases same
    simp only [runMillis, List.isEmpty_iff, number.ne_nil, c.unit.name_ne_nil, if_false, known,
      String.ofList_toList, TimeUnit.unitMillis?_name]
    exact ⟨_, rfl⟩

theorem exists_total_iff {text : String} {sum : Binary64} {rs : List (List Char × List Char)} :
    (∃ x, total text sum rs = .ok x) ↔ ∀ run ∈ rs, ∃ x, runMillis text run = .ok x := by
  induction rs generalizing sum with
  | nil => exact iff_of_true ⟨sum, rfl⟩ fun _ none => absurd none List.not_mem_nil
  | cons run rest ih =>
    rw [List.forall_mem_cons, total]
    cases first : runMillis text run with
    | error e =>
      refine iff_of_false ?_ ?_
      · rintro ⟨_, ⟨⟩⟩
      · rintro ⟨⟨_, ⟨⟩⟩, _⟩
    | ok millis =>
      refine (@ih (sum + millis)).trans ?_
      exact ⟨fun later => ⟨⟨millis, rfl⟩, later⟩, fun all => all.2⟩

theorem runMillis_of_digits (text : String) {c : Count} (digits : Text.IsDigits c.number)
    (small : c.millis ≤ 2 ^ 53) : ∃ x, runMillis text c.run = .ok x ∧ x.IsWhole c.millis := by
  have filled : ¬c.number.isEmpty = true := by simpa using digits.1
  have fewer : Text.digitsValue c.number ≤ 2 ^ 53 :=
    Nat.le_trans (Nat.le_mul_of_pos_right _ c.unit.millis_pos) small
  have known : number? c.number = some (.ofDecimal false (Text.digitsValue c.number) 0) := by
    rw [number?_of_digits digits.2, if_neg filled]
  refine ⟨.ofDecimal false (Text.digitsValue c.number) 0 * .ofNat c.unit.millis, ?_, ?_⟩
  · simp only [runMillis, Count.run, List.isEmpty_iff, digits.1, c.unit.name_ne_nil, if_false, known,
      String.ofList_toList, TimeUnit.unitMillis?_name]
  · exact (Binary64.ofDecimal_isWhole fewer).mul (Binary64.ofNat_isWhole c.unit.millis_le) small

/-- Each count is added exactly as long as the sum stays small. -/
theorem total_of_digits (text : String) {sum : Binary64} {a : Nat} {counts : List Count} (begun : sum.IsWhole a)
    (digits : ∀ c ∈ counts, Text.IsDigits c.number) (small : a + totalMillis counts ≤ 2 ^ 53) :
    ∃ x, total text sum (counts.map Count.run) = .ok x ∧ x.IsWhole (a + totalMillis counts) := by
  induction counts generalizing sum a with
  | nil => exact ⟨sum, rfl, begun⟩
  | cons c counts ih =>
    obtain ⟨first, others⟩ := List.forall_mem_cons.mp digits
    have parts : totalMillis (c :: counts) = c.millis + totalMillis counts := rfl
    rw [parts] at small ⊢
    obtain ⟨millis, counted, whole⟩ := runMillis_of_digits text first (by omega)
    have together : (sum + millis).IsWhole (a + c.millis) := begun.add whole (by omega)
    obtain ⟨x, summed, wholeToo⟩ := ih together others (by omega)
    refine ⟨x, ?_, ?_⟩
    · rw [List.map_cons, total, counted]
      exact summed
    · rwa [← Nat.add_assoc]

/-! Texts. -/

theorem naturalBelow_wordBound_iff {cs : List Char} {n : Nat} :
    Text.naturalBelow wordBound cs = some n ↔ IsSeconds cs n :=
  Text.naturalBelow_eq_some_iff

theorem parse_of_seconds {s : String} {n : Nat} (seconds : IsSeconds (Text.trim s.toList) n) :
    parse s = .ok (ofSeconds n) := by
  have known := naturalBelow_wordBound_iff.mpr seconds
  have some : ¬(Text.trim s.toList).isEmpty = true := by
    obtain ⟨digits, rfl | same, digital, _⟩ := seconds
    · simpa using digital.1
    · simp [same]
  rw [parse, if_neg some, known]

/-- What is no number of seconds is read run by run. -/
theorem parse_of_noSeconds {s : String} (some : Text.trim s.toList ≠ [])
    (other : ∀ n, ¬IsSeconds (Text.trim s.toList) n) :
    parse s = (total (String.ofList (Text.trim s.toList)) .zero (runs (Text.trim s.toList))).map
      fun millis => ofMillis (millis.toNatBelow (wordBound - 1)) := by
  have none : Text.naturalBelow wordBound (Text.trim s.toList) = none := by
    rw [Option.eq_none_iff_forall_ne_some]
    exact fun n known => other n (naturalBelow_wordBound_iff.mp known)
  rw [parse, if_neg (by simpa using some), none]
  dsimp only
  cases total (String.ofList (Text.trim s.toList)) .zero (runs (Text.trim s.toList)) <;> rfl

theorem not_isSeconds_joined {counts : List Count} (some : counts ≠ []) (n : Nat) :
    ¬IsSeconds (joined counts) n := by
  rintro ⟨digits, written, digital, _⟩
  obtain ⟨c, counts, rfl⟩ := List.exists_cons_of_ne_nil some
  obtain ⟨s, inside⟩ := List.exists_mem_of_ne_nil _ c.unit.name_ne_nil
  have listed : s ∈ joined (c :: counts) :=
    List.mem_append_left _ (List.mem_append_right c.number inside)
  have other : s.isDigit = false := by
    have notNumeric := c.unit.name_notNumeric s inside
    rw [isNumeric, Bool.or_eq_false_iff] at notNumeric
    exact notNumeric.1
  have unsigned : s ≠ '+' := by
    rintro rfl
    revert inside
    cases c.unit <;> decide
  have left : s ∈ digits := by
    rcases written with same | same
    · rwa [same] at listed
    · rw [same] at listed
      exact List.mem_of_ne_of_mem unsigned listed
  rw [digital.2 s left] at other
  cases other

theorem joined_ne_nil {counts : List Count} (some : counts ≠ []) : joined counts ≠ [] := by
  obtain ⟨c, counts, rfl⟩ := List.exists_cons_of_ne_nil some
  intro nothing
  have name := (List.append_eq_nil_iff.mp (List.append_eq_nil_iff.mp nothing).1).2
  exact c.unit.name_ne_nil name

/-- Counts without a point that come to `2 ^ 53` milliseconds at most are read as just that. -/
theorem parse_of_counts {s : String} {counts : List Count} (some : counts ≠ [])
    (digits : ∀ c ∈ counts, Text.IsDigits c.number) (text : Text.trim s.toList = joined counts)
    (small : totalMillis counts ≤ 2 ^ 53) : parse s = .ok (ofMillis (totalMillis counts)) := by
  have filled : Text.trim s.toList ≠ [] := text ▸ joined_ne_nil some
  have other : ∀ n, ¬IsSeconds (Text.trim s.toList) n := text ▸ not_isSeconds_joined some
  have cut : runs (Text.trim s.toList) = counts.map Count.run := by
    rw [text]
    exact runs_joined fun c listed => isNumber_of_isDigits (digits c listed)
  have start : 0 + totalMillis counts ≤ 2 ^ 53 := by omega
  obtain ⟨x, summed, whole⟩ := total_of_digits (String.ofList (Text.trim s.toList)) .zero digits start
  have below : 0 + totalMillis counts ≤ wordBound - 1 := Nat.le_trans start (by decide)
  rw [parse_of_noSeconds filled other, cut, summed, Except.map, whole.toNatBelow_eq below, Nat.zero_add]

/-- If all runs of a text count, they are its counts. -/
theorem exists_counts {text : String} {cs : List Char}
    (each : ∀ run ∈ runs cs, ∃ x, runMillis text run = .ok x) :
    ∃ counts : List Count, (∀ c ∈ counts, IsNumber c.number) ∧ cs = joined counts := by
  have counted {rs : List (List Char × List Char)} (each : ∀ run ∈ rs, ∃ c : Count, IsNumber c.number ∧ c.run = run) :
      ∃ counts : List Count, (∀ c ∈ counts, IsNumber c.number) ∧ counts.map Count.run = rs := by
    induction rs with
    | nil => exact ⟨[], fun _ none => absurd none List.not_mem_nil, rfl⟩
    | cons run rest ih =>
      obtain ⟨⟨c, number, same⟩, others⟩ := List.forall_mem_cons.mp each
      obtain ⟨counts, numbers, rfl⟩ := ih others
      exact ⟨c :: counts, List.forall_mem_cons.mpr ⟨number, numbers⟩, congrArg (· :: _) same⟩
  obtain ⟨counts, numbers, same⟩ := counted fun run listed =>
    (exists_runMillis_iff (numeric_runs cs run listed)).mp (each run listed)
  refine ⟨counts, numbers, ?_⟩
  rw [← flatMap_runs cs, ← same, List.flatMap_map]
  rfl

theorem exists_parse_of_noSeconds_iff {s : String} (other : ∀ n, ¬IsSeconds (Text.trim s.toList) n) :
    (∃ p, parse s = .ok p) ↔ ∃ counts, IsCounts (Text.trim s.toList) counts := by
  by_cases filled : Text.trim s.toList = []
  · refine iff_of_false ?_ ?_
    · rintro ⟨p, read⟩
      rw [parse, filled] at read
      cases read
    · rintro ⟨counts, some, _, text⟩
      exact joined_ne_nil some (text.symm.trans filled)
  have mapped : (∃ p, parse s = .ok p) ↔
      ∃ x, total (String.ofList (Text.trim s.toList)) .zero (runs (Text.trim s.toList)) = .ok x := by
    rw [parse_of_noSeconds filled other]
    cases total (String.ofList (Text.trim s.toList)) .zero (runs (Text.trim s.toList)) with
    | error e => exact iff_of_false (fun ⟨_, known⟩ => nomatch known) fun ⟨_, known⟩ => nomatch known
    | ok x => exact iff_of_true ⟨_, rfl⟩ ⟨x, rfl⟩
  rw [mapped, exists_total_iff]
  constructor
  · intro each
    obtain ⟨counts, numbers, text⟩ := exists_counts each
    refine ⟨counts, ?_, numbers, text⟩
    rintro rfl
    exact filled text
  · rintro ⟨counts, _, numbers, text⟩ run listed
    have numeric := numeric_runs _ run listed
    rw [text, runs_joined numbers] at listed
    obtain ⟨c, inside, same⟩ := List.mem_map.mp listed
    exact (exists_runMillis_iff numeric).mpr ⟨c, numbers c inside, same⟩

/-- A text is a period exactly if, without the blanks around it, it is a number of seconds or counts with units.
A number of seconds is that many seconds. Counts in digits alone come to their sum, in any order and with
repeated units, as long as that is `2 ^ 53` milliseconds at most. -/
theorem parse_accepts_grammar (s : String) :
    ((∃ p, parse s = .ok p) ↔
      (∃ n, IsSeconds (Text.trim s.toList) n) ∨ ∃ counts, IsCounts (Text.trim s.toList) counts) ∧
    (∀ n, IsSeconds (Text.trim s.toList) n → parse s = .ok (ofSeconds n)) ∧
    ∀ counts, IsCounts (Text.trim s.toList) counts → (∀ c ∈ counts, Text.IsDigits c.number) →
      totalMillis counts ≤ 2 ^ 53 → parse s = .ok (ofMillis (totalMillis counts)) := by
  refine ⟨?_, fun n seconds => parse_of_seconds seconds, ?_⟩
  · by_cases seconds : ∃ n, IsSeconds (Text.trim s.toList) n
    · obtain ⟨n, known⟩ := seconds
      exact iff_of_true ⟨_, parse_of_seconds known⟩ (Or.inl ⟨n, known⟩)
    · rw [exists_parse_of_noSeconds_iff (not_exists.mp seconds), or_iff_right seconds]
  · rintro counts ⟨filled, _, text⟩ digits small
    exact parse_of_counts filled digits text small

/-- Minutes before and after an hour, and seconds with a plus sign. -/
theorem parse_accepts_grammar_of_repeatedUnit :
    IsCounts (Text.trim " 05m1h2m\t".toList) [⟨['0', '5'], .minute⟩, ⟨['1'], .hour⟩, ⟨['2'], .minute⟩] ∧
    (∀ c ∈ ([⟨['0', '5'], .minute⟩, ⟨['1'], .hour⟩, ⟨['2'], .minute⟩] : List Count), Text.IsDigits c.number) ∧
    totalMillis [⟨['0', '5'], .minute⟩, ⟨['1'], .hour⟩, ⟨['2'], .minute⟩] ≤ 2 ^ 53 ∧
    parse " 05m1h2m\t" = .ok (ofMillis 4020000) ∧
    IsSeconds (Text.trim "+07".toList) 7 ∧ parse "+07" = .ok (ofSeconds 7) := by
  have digits : ∀ c ∈ ([⟨['0', '5'], .minute⟩, ⟨['1'], .hour⟩, ⟨['2'], .minute⟩] : List Count),
      Text.IsDigits c.number := by
    decide
  have counts : IsCounts (Text.trim " 05m1h2m\t".toList)
      [⟨['0', '5'], .minute⟩, ⟨['1'], .hour⟩, ⟨['2'], .minute⟩] :=
    ⟨List.cons_ne_nil _ _, fun c listed => isNumber_of_isDigits (digits c listed), by decide⟩
  have small : totalMillis [⟨['0', '5'], .minute⟩, ⟨['1'], .hour⟩, ⟨['2'], .minute⟩] ≤ 2 ^ 53 := by decide
  have seconds : IsSeconds (Text.trim "+07".toList) 7 :=
    ⟨['0', '7'], Or.inr (by decide), by decide, by decide, by decide⟩
  exact ⟨counts, digits, small, (parse_accepts_grammar _).2.2 _ counts digits small, seconds,
    (parse_accepts_grammar _).2.1 7 seconds⟩

end GatewayRouting.Period
