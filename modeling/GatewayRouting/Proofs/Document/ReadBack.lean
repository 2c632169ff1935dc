import GatewayRouting.Config.Decode
import GatewayRouting.Config.Encode
import Mathlib.Data.List.Nodup
import Mathlib.Data.Option.Basic

/-!
Values that are read back from the document values they are written as: scalars, lists and dictionaries of such
values, and the fields of sections.
-/

set_option autoImplicit false

namespace GatewayRouting

/-! Dictionaries. -/

namespace Dictionary

variable {β : Type}

/-- A key behind all others goes to the end. -/
theorem putEntry_of_last {key : String} {value : β} {entries : List (String × β)}
    (last : ∀ e ∈ entries, e.1 < key) : putEntry key value entries = entries ++ [(key, value)] := by
  induction entries with
  | nil => rfl
  | cons e rest ih =>
    obtain ⟨first, others⟩ := List.forall_mem_cons.mp last
    rw [putEntry, if_neg (String.lt_asymm first), if_pos first, ih others, List.cons_append]

theorem entries_foldl_put {entries : List (String × β)} {d : Dictionary β}
    (sorted : (d.entries ++ entries).Pairwise fun a b => a.1 < b.1) :
    (entries.foldl (fun d e => d.put e.1 e.2) d).entries = d.entries ++ entries := by
  induction entries generalizing d with
  | nil => exact (List.append_nil _).symm
  | cons e rest ih =>
    have last : ∀ other ∈ d.entries, other.1 < e.1 := fun other listed =>
      (List.pairwise_append.mp sorted).2.2 other listed e List.mem_cons_self
    have longer : (d.put e.1 e.2).entries = d.entries ++ [e] := putEntry_of_last last
    have sortedToo : ((d.put e.1 e.2).entries ++ rest).Pairwise fun a b => a.1 < b.1 := by
      rwa [longer, List.append_assoc, List.singleton_append]
    rw [List.foldl_cons, ih sortedToo, longer, List.append_assoc, List.singleton_append]

theorem ofList_entries (d : Dictionary β) : ofList d.entries = d :=
  ext (entries_foldl_put d.sorted)

end Dictionary

theorem Decode.below_of_lt {bound n : Nat} (less : n < bound) : below bound (.int n) = some n := by
  have inside : (decide ((0 : Int) ≤ n) && decide ((n : Int) < bound)) = true := by
    rw [Bool.and_eq_true, decide_eq_true_eq, decide_eq_true_eq]
    omega
  exact if_pos inside

/-- Nothing that an option takes for null: neither null nor a scalar without quotes. -/
def Value.isPresent : Value → Bool
  | .null => false
  | .plain _ => false
  | _ => true

/-- The value is read back from what it is written as, alone and as an option that is given. -/
structure ReadsBack {α : Type} (read : Decode.Reader α) (write : α → Value) (a : α) : Prop where
  read_write : read (write a) = some a
  present : (write a).isPresent = true

namespace ReadsBack

variable {α : Type} {read : Decode.Reader α} {write : α → Value}

theorem text (s : String) : ReadsBack Decode.text Encode.text s := ⟨rfl, rfl⟩
theorem bool (b : Bool) : ReadsBack Decode.bool Encode.bool b := ⟨rfl, rfl⟩
theorem double (x : Binary64) : ReadsBack Decode.double Encode.double x := ⟨rfl, rfl⟩

theorem word16 (n : UInt16) : ReadsBack Decode.word16 Encode.word16 n := by
  refine ⟨?_, rfl⟩
  rw [Decode.word16, Encode.word16, Decode.below_of_lt n.toNat_lt, Option.map_some, UInt16.ofNat_toNat]

theorem word32 (n : UInt32) : ReadsBack Decode.word32 Encode.word32 n := by
  refine ⟨?_, rfl⟩
  rw [Decode.word32, Encode.word32, Decode.below_of_lt n.toNat_lt, Option.map_some, UInt32.ofNat_toNat]

theorem word64 (n : UInt64) : ReadsBack Decode.word64 Encode.word64 n := by
  refine ⟨?_, rfl⟩
  rw [Decode.word64, Encode.word64, Decode.below_of_lt n.toNat_lt, Option.map_some, UInt64.ofNat_toNat]

theorem headerTrigger (t : HeaderTrigger) : ReadsBack Decode.headerTrigger Encode.headerTrigger t := by
  cases t <;> exact ⟨rfl, rfl⟩

theorem versionPolicy (p : VersionPolicy) : ReadsBack Decode.versionPolicy Encode.versionPolicy p := by
  cases p <;> exact ⟨rfl, rfl⟩

theorem loadBalancerType (t : LoadBalancerType) : ReadsBack Decode.loadBalancerType Encode.loadBalancerType t := by
  cases t <;> exact ⟨rfl, rfl⟩

theorem mapM_write {items : List α} (each : ∀ a ∈ items, ReadsBack read write a) :
    (items.map write).mapM read = some items := by
  induction items with
  | nil => rfl
  | cons a rest ih =>
    obtain ⟨first, others⟩ := List.forall_mem_cons.mp each
    rw [List.map_cons, List.mapM_cons, first.read_write, ih others]
    rfl

theorem list {items : List α} (each : ∀ a ∈ items, ReadsBack read write a) :
    ReadsBack (Decode.list read) (Encode.list write) items :=
  ⟨mapM_write each, rfl⟩

theorem texts (items : List String) : ReadsBack (Decode.list Decode.text) (Encode.list Encode.text) items :=
  list fun s _ => text s

theorem mapM_entry {entries : List (String × α)} (each : ∀ e ∈ entries, ReadsBack read write e.2) :
    ((entries.map fun e => (e.1, write e.2)).map fun e => (Value.text e.1, e.2)).mapM (Decode.entry read) =
      some entries := by
  induction entries with
  | nil => rfl
  | cons e rest ih =>
    obtain ⟨first, others⟩ := List.forall_mem_cons.mp each
    have entry : Decode.entry read (.text e.1, write e.2) = some e := by
      rw [Decode.entry, first.read_write]
      rfl
    rw [List.map_cons, List.map_cons, List.mapM_cons, entry, ih others]
    rfl

theorem dictionary {d : Dictionary α} (each : ∀ e ∈ d.entries, ReadsBack read write e.2) :
    ReadsBack (Decode.dictionary read) (Encode.dictionary write) d := by
  refine ⟨?_, rfl⟩
  rw [Encode.dictionary, Value.named, Decode.dictionary, mapM_entry each, Option.map_some, Dictionary.ofList_entries]

theorem table (d : Dictionary String) :
    ReadsBack (Decode.dictionary Decode.text) (Encode.dictionary Encode.text) d :=
  dictionary fun e _ => text e.2

end ReadsBack

namespace Decode

variable {α : Type} {read : Reader α} {write : α → Value}

/-! Fields. -/

theorem option_write {o : Option α} (each : ∀ a ∈ o, ReadsBack read write a) :
    option read (Encode.option write o) = some o := by
  cases o with
  | none => rfl
  | some a =>
    obtain ⟨back, present⟩ := each a rfl
    rw [Encode.option, option.eq_def]
    split
    · rename_i absent
      rw [absent] at present
      cases present
    · rename_i absent
      rw [absent] at present
      cases present
    · rw [back, Option.map_some]

theorem knownFields_named {names : List String} {entries : List (String × Value)}
    (known : ∀ e ∈ entries, e.1 ∈ names) :
    knownFields names (entries.map fun e => (.text e.1, e.2)) = some entries := by
  induction entries with
  | nil => rfl
  | cons e rest ih =>
    obtain ⟨first, others⟩ := List.forall_mem_cons.mp known
    have meant : fieldOf names (.text e.1) = some (some e.1) := by
      rw [fieldOf, if_pos (List.contains_iff_mem.mpr first)]
    rw [List.map_cons, knownFields, meant]
    change (knownFields names (rest.map fun e => (.text e.1, e.2))).bind _ = _
    rw [ih others]
    rfl

theorem distinctNames_of_nodup {entries : List (String × Value)} (distinct : (entries.map Prod.fst).Nodup) :
    distinctNames entries = true := by
  induction entries with
  | nil => rfl
  | cons e rest ih =>
    obtain ⟨absent, others⟩ := List.nodup_cons.mp distinct
    have other : rest.any (·.1 == e.1) = false := by
      rw [List.any_eq_false]
      intro later listed same
      rw [beq_iff_eq] at same
      exact absent (List.mem_map.mpr ⟨later, listed, same⟩)
    rw [distinctNames, other, ih others]
    rfl

theorem fields_named {names : List String} {entries : List (String × Value)}
    (same : entries.map Prod.fst = names) (distinct : names.Nodup) :
    fields names (.named entries) = some entries := by
  subst same
  have known : ∀ e ∈ entries, e.1 ∈ entries.map Prod.fst := fun e listed => List.mem_map_of_mem listed
  have kept : fields (entries.map Prod.fst) (.named entries) = (some entries).filter distinctNames :=
    congrArg (Option.filter distinctNames) (knownFields_named known)
  rw [kept, Option.filter_some, if_pos (distinctNames_of_nodup distinct)]

/-! A section reads its fields one after the other, in the order in which they are written. -/

/-- These are the last of the fields, and no name occurs twice among all of them. -/
structure Unread (fs entries : List (String × Value)) : Prop where
  distinct : (fs.map Prod.fst).Nodup
  last : entries <:+ fs

variable {fs entries : List (String × Value)} {name : String} {v : Value}

theorem Unread.tail {e : String × Value} (unread : Unread fs (e :: entries)) : Unread fs entries :=
  ⟨unread.distinct, (List.suffix_cons e entries).trans unread.last⟩

theorem Unread.lookup_eq (unread : Unread fs ((name, v) :: entries)) : fs.lookup name = some v := by
  obtain ⟨distinct, front, rfl⟩ := unread
  rw [List.lookup_eq_some_iff]
  refine ⟨front, entries, rfl, ?_⟩
  intro e before
  rw [List.map_append, List.nodup_append] at distinct
  have other : e.1 ≠ name := distinct.2.2 e.1 (List.mem_map_of_mem before) name List.mem_cons_self
  simpa using other.symm

variable {β : Type} {b : β}

/-- A section that is written under its names has what is written as its fields. -/
theorem fields_bind {names : List String} {next : List (String × Value) → Option β}
    (same : entries.map Prod.fst = names) (distinct : names.Nodup)
    (rest : ∀ fs, Unread fs entries → next fs = some b) : (fields names (.named entries) >>= next) = some b := by
  rw [fields_named same distinct]
  exact rest entries ⟨same ▸ distinct, List.suffix_refl entries⟩

theorem required_bind {next : α → Option β} {a : α} (unread : Unread fs ((name, write a) :: entries))
    (back : ReadsBack read write a) (rest : Unread fs entries → next a = some b) :
    (required read fs name >>= next) = some b := by
  rw [required, unread.lookup_eq, Option.bind_some, back.read_write]
  exact rest unread.tail

theorem withDefault_bind {default : α} {next : α → Option β} {a : α} (unread : Unread fs ((name, write a) :: entries))
    (back : ReadsBack read write a) (rest : Unread fs entries → next a = some b) :
    (withDefault default read fs name >>= next) = some b := by
  have field : withDefault default read fs name = some a := by
    rw [withDefault, unread.lookup_eq]
    exact back.read_write
  rw [field]
  exact rest unread.tail

theorem optional_bind {next : Option α → Option β} {o : Option α}
    (unread : Unread fs ((name, Encode.option write o) :: entries)) (each : ∀ a ∈ o, ReadsBack read write a)
    (rest : Unread fs entries → next o = some b) : (optional read fs name >>= next) = some b := by
  have field : optional read fs name = some o := by
    rw [optional, withDefault, unread.lookup_eq]
    exact option_write each
  rw [field]
  exact rest unread.tail

end Decode

end GatewayRouting
