import GatewayRouting.Proofs.Document.Json.Numbers
import GatewayRouting.Proofs.Document.Json.Strings

/-!
JSON documents of values: what is written is read back, as long as it is not nested too deeply.
-/

set_option autoImplicit false

namespace GatewayRouting.Json

/-- Values that a JSON document holds as they are, nested at most so deeply. -/
inductive Fits : Nat → Value → Prop where
  | null {d : Nat} : Fits d .null
  | bool {d : Nat} (b : Bool) : Fits d (.bool b)
  | int {d n : Nat} (below : n < wordBound) : Fits d (.int n)
  | float {d : Nat} {x : Binary64} (exact : IsExact x) : Fits d (.float x)
  | text {d : Nat} (s : String) : Fits d (.text s)
  | list {d : Nat} {items : List Value} (each : ∀ v ∈ items, Fits d v) : Fits (d + 1) (.list items)
  | named {d : Nat} {entries : List (String × Value)} (each : ∀ e ∈ entries, Fits d e.2) :
    Fits (d + 1) (.named entries)

/-- The value is read back from its text, with whatever follows left over, in as many steps as the text has
characters. -/
def IsReadBack (v : Value) : Prop :=
  ∀ (steps : Nat) (rest : List Char), (writeValue v).length ≤ steps → EndsNumber rest →
    readValue steps (writeValue v ++ rest) = some (v, rest)

/-- The text of a value begins with neither space nor a closing bracket. -/
def IsOpened (v : Value) : Prop := ∃ c cs, writeValue v = c :: cs ∧ isSpace c = false ∧ c ≠ ']'

theorem skipSpace_cons {c : Char} (token : isSpace c = false) (cs : List Char) : skipSpace (c :: cs) = c :: cs :=
  List.dropWhile_cons_of_neg (by simp [token])

theorem endsNumber_cons {c : Char} (ends : c.isDigit = false ∧ c ≠ '.' ∧ c ≠ 'e' ∧ c ≠ 'E') (cs : List Char) :
    EndsNumber (c :: cs) := by
  rintro other first
  cases first
  exact ends

theorem IsOpened.length_pos {v : Value} (opened : IsOpened v) : 0 < (writeValue v).length := by
  obtain ⟨c, cs, text, _⟩ := opened
  rw [text]
  exact Nat.succ_pos _

/-- There is a step for every value. -/
theorem IsOpened.exists_step {v : Value} (opened : IsOpened v) {steps : Nat} (enough : (writeValue v).length ≤ steps) :
    ∃ fewer, steps = fewer + 1 :=
  Nat.exists_eq_add_one_of_ne_zero (Nat.ne_of_gt (Nat.lt_of_lt_of_le opened.length_pos enough))

/-! Numbers. -/

theorem notSpace_of_number {c : Char} (first : c.isDigit = true ∨ c = '-') : isSpace c = false ∧ c ≠ ']' := by
  constructor
  · rw [← Bool.not_eq_true]
    intro space
    simp only [isSpace, Bool.or_eq_true, beq_iff_eq] at space
    rcases space with ((rfl | rfl) | rfl) | rfl <;> exact absurd first (by decide)
  · rintro rfl
    exact absurd first (by decide)

theorem readValue_number {c : Char} (first : c.isDigit = true ∨ c = '-') (steps : Nat) (cs : List Char) :
    readValue (steps + 1) (c :: cs) = (readNumber (c :: cs)).map fun r => (r.1.value, r.2) := by
  rw [readValue, skipSpace_cons (notSpace_of_number first).1]
  split
  case h_7 => rfl
  all_goals
    rename_i same
    cases (List.cons.inj same).1
    exact absurd first (by decide)

variable {v : Value} {number : NumberText}

theorem isOpened_of_number (read : readNumber (writeValue v) = some (number, [])) : IsOpened v := by
  obtain ⟨c, cs, text, first⟩ := head_of_readNumber read
  exact ⟨c, cs, text, notSpace_of_number first⟩

theorem isReadBack_of_number (read : readNumber (writeValue v) = some (number, [])) (value : number.value = v) :
    IsReadBack v := by
  intro steps rest enough ends
  obtain ⟨fewer, rfl⟩ := (isOpened_of_number read).exists_step enough
  obtain ⟨c, cs, text, first⟩ := head_of_readNumber read
  have later := readNumber_append ends read
  rw [text, List.cons_append] at later ⊢
  rw [readValue_number first, later, Option.map_some, value, List.nil_append]

theorem readNumber_int (n : Nat) :
    readNumber (writeValue (.int n)) = some (⟨false, (toString n).toList, [], none⟩, []) := readNumber_toString n

theorem readNumber_float {x : Binary64} (exact : IsExact x) :
    ∃ number, readNumber (writeValue (.float x)) = some (number, []) ∧ number.value = .float x := by
  obtain ⟨text, number, written, read, value⟩ := exact
  refine ⟨number, ?_, value⟩
  rw [writeValue, written]
  exact read

/-! Lists and records. -/

theorem Fits.isOpened {d : Nat} (fits : Fits d v) : IsOpened v := by
  cases fits with
  | null => exact ⟨_, _, rfl, rfl, by decide⟩
  | bool b => cases b <;> exact ⟨_, _, rfl, rfl, by decide⟩
  | int => exact isOpened_of_number (readNumber_int _)
  | float exact =>
    obtain ⟨number, read, _⟩ := readNumber_float exact
    exact isOpened_of_number read
  | text => exact ⟨_, _, rfl, rfl, by decide⟩
  | list => exact ⟨_, _, rfl, rfl, by decide⟩
  | named => exact ⟨_, _, rfl, rfl, by decide⟩

theorem readItems_written {items : List Value} (each : ∀ v ∈ items, IsOpened v ∧ IsReadBack v) (filled : items ≠ [])
    (steps : Nat) (rest : List Char) (enough : (writeItems items).length < steps) :
    readItems steps (writeItems items ++ ']' :: rest) = some (items, rest) := by
  -- The steps that the others need are left over because the first value's text is not empty.
  induction items generalizing steps with
  | nil => exact absurd rfl filled
  | cons v more ih =>
    obtain ⟨⟨opened, back⟩, others⟩ := List.forall_mem_cons.mp each
    obtain ⟨fewer, rfl⟩ := Nat.exists_eq_add_one_of_ne_zero (Nat.ne_of_gt (Nat.zero_lt_of_lt enough))
    cases more with
    | nil =>
      have bracket := back fewer _ (Nat.le_of_lt_succ enough) (endsNumber_cons (c := ']') (by decide) rest)
      rw [writeItems, readItems, bracket]
      rfl
    | cons w more =>
      have text : writeItems (v :: w :: more) = writeValue v ++ ',' :: writeItems (w :: more) := rfl
      rw [text, List.length_append, List.length_cons] at enough
      have one := opened.length_pos
      have comma := back fewer (',' :: (writeItems (w :: more) ++ ']' :: rest)) (by omega)
        (endsNumber_cons (by decide) _)
      have later := ih others (List.cons_ne_nil w more) fewer (by omega)
      rw [text, List.append_assoc, List.cons_append, readItems, comma]
      change (readItems fewer _).map _ = _
      rw [later]
      rfl

/-- The entries of a record whose keys are texts. -/
def keyed (entries : List (String × Value)) : List (Value × Value) := entries.map fun e => (.text e.1, e.2)

section

variable {steps : Nat} {cs rest : List Char}

theorem readEntries_key (name : String) :
    readEntries (steps + 1) (writeValue (.text name) ++ ':' :: cs) =
      (readValue steps cs).bind fun r =>
        match skipSpace r.2 with
        | ',' :: rest => (readEntries steps rest).map fun es => (es.1.map ((.text name, r.1) :: ·), es.2)
        | '\x7d' :: rest => some (some [(.text name, r.1)], rest)
        | _ => none := by
  have opened : skipSpace (writeValue (.text name) ++ ':' :: cs) =
      '"' :: (name.toList.flatMap writtenChar ++ '"' :: ':' :: cs) := by
    rw [writeValue, writtenString, List.append_assoc]
    rfl
  have colon : skipSpace (':' :: cs) = ':' :: cs := rfl
  have same : String.ofList name.toList = name := String.ofList_toList
  rw [readEntries, opened]
  simp only [readString_written, colon, Option.map_some, same, Option.bind_some]
  cases readValue steps cs <;> rfl

/-- An entry that the brace follows is the last one. -/
theorem readEntries_last (name : String) (read : readValue steps cs = some (v, '\x7d' :: rest)) :
    readEntries (steps + 1) (writeValue (.text name) ++ ':' :: cs) = some (some [(.text name, v)], rest) := by
  rw [readEntries_key, read]
  rfl

/-- An entry that a comma follows stands before the others. -/
theorem readEntries_more (name : String) (read : readValue steps cs = some (v, ',' :: rest)) :
    readEntries (steps + 1) (writeValue (.text name) ++ ':' :: cs) =
      (readEntries steps rest).map fun es => (es.1.map ((.text name, v) :: ·), es.2) := by
  rw [readEntries_key, read]
  rfl

end

theorem readEntries_written {entries : List (String × Value)} (each : ∀ e ∈ entries, IsReadBack e.2)
    (filled : entries ≠ []) (steps : Nat) (rest : List Char)
    (enough : (writeEntries (keyed entries)).length < steps) :
    readEntries steps (writeEntries (keyed entries) ++ '\x7d' :: rest) = some (some (keyed entries), rest) := by
  induction entries generalizing steps with
  | nil => exact absurd rfl filled
  | cons e more ih =>
    obtain ⟨back, others⟩ := List.forall_mem_cons.mp each
    obtain ⟨fewer, rfl⟩ := Nat.exists_eq_add_one_of_ne_zero (Nat.ne_of_gt (Nat.zero_lt_of_lt enough))
    cases more with
    | nil =>
      have text : writeEntries (keyed [e]) = writeValue (.text e.1) ++ ':' :: writeValue e.2 := rfl
      rw [text, List.length_append, List.length_cons] at enough
      have brace := back fewer _ (by omega) (endsNumber_cons (c := '\x7d') (by decide) rest)
      rw [text, List.append_assoc, List.cons_append, readEntries_last e.1 brace]
      rfl
    | cons f more =>
      have text : writeEntries (keyed (e :: f :: more)) =
          writeValue (.text e.1) ++ ':' :: writeValue e.2 ++ ',' :: writeEntries (keyed (f :: more)) := rfl
      rw [text, List.length_append, List.length_append, List.length_cons, List.length_cons] at enough
      have comma := back fewer (',' :: (writeEntries (keyed (f :: more)) ++ '\x7d' :: rest)) (by omega)
        (endsNumber_cons (by decide) _)
      have later := ih others (List.cons_ne_nil f more) fewer (by omega)
      rw [text, List.append_assoc, List.append_assoc, List.cons_append, List.cons_append,
        readEntries_more e.1 comma, later]
      rfl

theorem isReadBack_text (s : String) : IsReadBack (.text s) := by
  intro steps rest enough _
  obtain ⟨fewer, rfl⟩ := (Fits.text (d := 0) s).isOpened.exists_step enough
  have opened : readValue (fewer + 1) (writeValue (.text s) ++ rest) =
      (readString (s.toList.flatMap writtenChar ++ '"' :: rest)).map fun r => (textValue r.1, r.2) := by
    rw [writeValue, writtenString, List.append_assoc]
    rfl
  rw [opened, readString_written, Option.map_some, textValue, String.ofList_toList]

theorem readValue_bracket {c : Char} (token : isSpace c = false ∧ c ≠ ']') (steps : Nat) (cs : List Char) :
    readValue (steps + 1) ('[' :: c :: cs) = (readItems steps (c :: cs)).map fun r => (.list r.1, r.2) := by
  have bracket : skipSpace ('[' :: c :: cs) = '[' :: c :: cs := rfl
  rw [readValue, bracket]
  simp only [skipSpace_cons token.1]
  split
  · rename_i same
    exact absurd (List.cons.inj same).1 token.2
  · rfl

theorem exists_writeItems_cons (v : Value) (more : List Value) :
    ∃ tail, writeItems (v :: more) = writeValue v ++ tail := by
  cases more with
  | nil => exact ⟨[], (List.append_nil _).symm⟩
  | cons w more => exact ⟨',' :: writeItems (w :: more), rfl⟩

theorem isReadBack_list {items : List Value} (each : ∀ v ∈ items, IsOpened v ∧ IsReadBack v) :
    IsReadBack (.list items) := by
  intro steps rest enough _
  have text : writeValue (.list items) ++ rest = '[' :: (writeItems items ++ ']' :: rest) := by
    rw [writeValue, List.append_assoc]
    rfl
  rw [writeValue, List.length_append, List.length_cons, List.length_singleton] at enough
  obtain ⟨fewer, rfl⟩ := Nat.exists_eq_add_one_of_ne_zero (show steps ≠ 0 by omega)
  cases items with
  | nil => rfl
  | cons v more =>
    have read := readItems_written each (List.cons_ne_nil v more) fewer rest (by omega)
    obtain ⟨c, cs, opened, token⟩ := (List.forall_mem_cons.mp each).1.1
    obtain ⟨tail, first⟩ := exists_writeItems_cons v more
    rw [opened] at first
    rw [text]
    rw [first, List.cons_append, List.cons_append] at read ⊢
    rw [readValue_bracket token, read, Option.map_some]

theorem isReadBack_named {entries : List (String × Value)} (each : ∀ e ∈ entries, IsReadBack e.2) :
    IsReadBack (.named entries) := by
  intro steps rest enough _
  have text : writeValue (.named entries) ++ rest = '\x7b' :: (writeEntries (keyed entries) ++ '\x7d' :: rest) := by
    rw [Value.named, writeValue, List.append_assoc]
    rfl
  rw [Value.named, writeValue, List.length_append, List.length_cons, List.length_singleton] at enough
  obtain ⟨fewer, rfl⟩ := Nat.exists_eq_add_one_of_ne_zero (show steps ≠ 0 by omega)
  cases entries with
  | nil => rfl
  | cons e more =>
    have shorter : (writeEntries (keyed (e :: more))).length < fewer :=
      Nat.lt_of_succ_le (Nat.le_of_succ_le_succ enough)
    have read := readEntries_written each (List.cons_ne_nil e more) fewer rest shorter
    obtain ⟨tail, first⟩ : ∃ tail, writeEntries (keyed (e :: more)) ++ '\x7d' :: rest = '"' :: tail := by
      cases more <;> exact ⟨_, rfl⟩
    rw [text]
    rw [first] at read ⊢
    change (readEntries fewer ('"' :: tail)).map _ = _
    rw [read]
    rfl

/-- Values that a document holds are read back, whatever stands behind them. -/
theorem Fits.isReadBack {d : Nat} (fits : Fits d v) : IsReadBack v := by
  -- Induction on the value; lists and records hand on what their parts satisfy.
  induction fits with
  | null =>
    intro steps rest enough _
    obtain ⟨fewer, rfl⟩ := (Fits.null (d := 0)).isOpened.exists_step enough
    rfl
  | bool b =>
    intro steps rest enough _
    obtain ⟨fewer, rfl⟩ := (Fits.bool (d := 0) b).isOpened.exists_step enough
    cases b <;> rfl
  | int below => exact isReadBack_of_number (readNumber_int _) (value_of_natural below)
  | float exact =>
    obtain ⟨number, read, value⟩ := readNumber_float exact
    exact isReadBack_of_number read value
  | text s => exact isReadBack_text s
  | list each ih => exact isReadBack_list fun v listed => ⟨(each v listed).isOpened, ih v listed⟩
  | named each ih => exact isReadBack_named ih

/-! The bound on nesting. -/

theorem boundedItems_eq {depth : Nat} {items : List Value} (each : ∀ v ∈ items, v.bounded depth = v) :
    Value.boundedItems depth items = items := by
  induction items with
  | nil => rfl
  | cons v more ih =>
    obtain ⟨first, others⟩ := List.forall_mem_cons.mp each
    rw [Value.boundedItems, first, ih others]

theorem boundedEntries_eq {depth : Nat} {entries : List (String × Value)}
    (each : ∀ e ∈ entries, e.2.bounded depth = e.2) :
    Value.boundedEntries depth (keyed entries) = keyed entries := by
  induction entries with
  | nil => rfl
  | cons e more ih =>
    obtain ⟨first, others⟩ := List.forall_mem_cons.mp each
    have later : Value.boundedEntries depth (keyed more) = keyed more := ih others
    have text : Value.bounded depth (.text e.1) = .text e.1 := by
      cases depth <;> rfl
    change Value.boundedEntries depth ((.text e.1, e.2) :: keyed more) = _
    rw [Value.boundedEntries, first, text, later]
    rfl

theorem Fits.bounded_eq {d : Nat} (fits : Fits d v) {depth : Nat} (shallow : d ≤ depth) : v.bounded depth = v := by
  induction fits generalizing depth with
  | null => cases depth <;> rfl
  | bool b => cases depth <;> rfl
  | int below => cases depth <;> rfl
  | float exact => cases depth <;> rfl
  | text s => cases depth <;> rfl
  | list each ih =>
    obtain ⟨less, rfl⟩ := Nat.exists_eq_add_one_of_ne_zero (show depth ≠ 0 by omega)
    rw [Value.bounded, boundedItems_eq fun v listed => ih v listed (Nat.le_of_succ_le_succ shallow)]
  | named each ih =>
    obtain ⟨less, rfl⟩ := Nat.exists_eq_add_one_of_ne_zero (show depth ≠ 0 by omega)
    rw [Value.named, Value.bounded]
    exact congrArg Value.record (boundedEntries_eq fun e listed => ih e listed (Nat.le_of_succ_le_succ shallow))

/-- A document of such a value is read as that value. -/
theorem read_write {d : Nat} (fits : Fits d v) (shallow : d ≤ depthBound) : read (write v) = some v := by
  have nothing : EndsNumber [] := fun c first => nomatch first
  have back := fits.isReadBack ((writeValue v).length + 1) [] (Nat.le_succ _) nothing
  rw [List.append_nil] at back
  rw [read, write, String.toList_ofList, back]
  exact congrArg some (fits.bounded_eq shallow)

end GatewayRouting.Json
