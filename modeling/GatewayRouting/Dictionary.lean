/-!
Dictionaries from texts, in the order of their keys. Every key occurs once, so that two dictionaries
with the same bindings are equal.
-/

namespace GatewayRouting

structure Dictionary (β : Type) where
  entries : List (String × β)
  sorted : entries.Pairwise fun a b => a.1 < b.1
deriving DecidableEq

namespace Dictionary

variable {β : Type}

def empty : Dictionary β := ⟨[], .nil⟩

instance : Inhabited (Dictionary β) := ⟨empty⟩

/-- The entries with this one in its place, instead of one of the same key. -/
def putEntry (key : String) (value : β) : List (String × β) → List (String × β)
  | [] => [(key, value)]
  | e :: rest =>
    if key < e.1 then (key, value) :: e :: rest
    else if e.1 < key then e :: putEntry key value rest
    else (key, value) :: rest

theorem mem_putEntry {key : String} {value : β} {entries : List (String × β)} {x : String × β}
    (h : x ∈ putEntry key value entries) : x = (key, value) ∨ x ∈ entries := by
  induction entries with
  | nil => simpa [putEntry] using h
  | cons e rest ih =>
    unfold putEntry at h
    split at h
    · simpa using h
    · split at h
      · rcases List.mem_cons.1 h with rfl | h
        · simp
        · rcases ih h with h | h
          · exact .inl h
          · simp [h]
      · rcases List.mem_cons.1 h with h | h
        · exact .inl h
        · simp [h]

theorem putEntry_sorted {key : String} {value : β} {entries : List (String × β)}
    (h : entries.Pairwise fun a b => a.1 < b.1) :
    (putEntry key value entries).Pairwise fun a b => a.1 < b.1 := by
  induction entries with
  | nil => simp [putEntry]
  | cons e rest ih =>
    obtain ⟨he, hr⟩ := List.pairwise_cons.1 h
    unfold putEntry
    split
    · next hk =>
      refine List.pairwise_cons.2 ⟨fun x hx => ?_, h⟩
      rcases List.mem_cons.1 hx with rfl | hx
      · exact hk
      · exact String.lt_trans hk (he x hx)
    · split
      · next hk =>
        refine List.pairwise_cons.2 ⟨fun x hx => ?_, ih hr⟩
        rcases mem_putEntry hx with rfl | hx
        · exact hk
        · exact he x hx
      · next hk hk' =>
        have hkey : key = e.1 := String.le_antisymm hk' hk
        exact List.pairwise_cons.2 ⟨fun x hx => hkey ▸ he x hx, hr⟩

def put (key : String) (value : β) (d : Dictionary β) : Dictionary β :=
  ⟨putEntry key value d.entries, putEntry_sorted d.sorted⟩

/-- The later of two entries of one key counts. -/
def ofList (entries : List (String × β)) : Dictionary β :=
  entries.foldl (fun d e => d.put e.1 e.2) empty

def get? (key : String) (d : Dictionary β) : Option β := d.entries.lookup key

def isEmpty (d : Dictionary β) : Bool := d.entries.isEmpty

def keys (d : Dictionary β) : List String := d.entries.map Prod.fst

/-- The entries of both, those of the second in place of the first's. -/
def extend (d upper : Dictionary β) : Dictionary β := upper.entries.foldl (fun d e => d.put e.1 e.2) d

theorem ext {d e : Dictionary β} (h : d.entries = e.entries) : d = e := by
  cases d; cases e; simp_all

end Dictionary

end GatewayRouting
