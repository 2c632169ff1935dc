import GatewayRouting.Address.Ip
import GatewayRouting.Proofs.Text.Cutting
import GatewayRouting.Proofs.Text.Decimal
import GatewayRouting.Proofs.Text.Trimming
import Mathlib.Data.List.Forall2

/-!
Texts of IPv4 addresses. Four octets in decimal are read back as the address they make, and a text with other
characters than digits and dots is no IPv4 address.
-/

set_option autoImplicit false

namespace GatewayRouting

theorem mapM_eq_none {α β : Type} {f : α → Option β} {items : List α} {a : α} (listed : a ∈ items)
    (refused : f a = none) : items.mapM f = none := by
  induction items with
  | nil => cases listed
  | cons first rest ih =>
    rw [List.mapM_cons]
    rcases List.mem_cons.mp listed with rfl | later
    · rw [refused]
      rfl
    · rw [ih later]
      cases f first <;> rfl

namespace Ipv4

/-- Four numbers with dots between them. -/
def dotted (a b c d : Nat) : String := ".".intercalate ([a, b, c, d].map toString)

theorem toList_dotted (a b c d : Nat) :
    (dotted a b c d).toList = ['.'].intercalate ([a, b, c, d].map fun n => (toString n).toList) := by
  rw [dotted, String.toList_intercalate, List.map_map]
  rfl

/-- Digits and dots only. -/
def Numeric (cs : List Char) : Prop := ∀ c ∈ cs, c.isDigit = true ∨ c = '.'

theorem Numeric.not_mem {cs : List Char} (numeric : Numeric cs) {s : Char} (other : s.isDigit = false)
    (apart : s ≠ '.') : s ∉ cs := by
  intro inside
  rcases numeric s inside with digit | dot
  · rw [other] at digit
    cases digit
  · exact apart dot

theorem Numeric.notBlank {cs : List Char} (numeric : Numeric cs) : ∀ c ∈ cs, Text.isBlank c = false := by
  intro c inside
  rcases numeric c inside with digit | rfl
  · exact Text.isBlank_of_isDigit digit
  · decide

theorem numeric_toString (n : Nat) : Numeric (toString n).toList :=
  fun _ inside => Or.inl (Text.isDigit_of_mem_decimal inside)

theorem numeric_dotted (a b c d : Nat) : Numeric (dotted a b c d).toList := by
  intro s inside
  rw [toList_dotted] at inside
  rcases Text.mem_of_mem_intercalate inside with dot | ⟨text, listed, within⟩
  · exact Or.inr dot
  · obtain ⟨n, _, rfl⟩ := List.mem_map.mp listed
    exact numeric_toString n s within

theorem toNat_ofOctets {a b c d : Nat} (ha : a < 256) (hb : b < 256) (hc : c < 256) (hd : d < 256) :
    (ofOctets a b c d).toNat = ((a * 256 + b) * 256 + c) * 256 + d := by
  rw [ofOctets, BitVec.toNat_ofNat]
  omega

theorem octet?_toString {n : Nat} (below : n < 256) : octet? (toString n).toList = some n := by
  have filled : (toString n).toList.isEmpty = false := by
    rw [List.isEmpty_eq_false_iff]
    exact Text.toString_ne_empty n
  have short : ¬3 < (toString n).toList.length := by
    rw [Nat.not_lt, Text.toList_toString, Nat.length_toDigits_le_iff (by decide) (by decide)]
    omega
  have digits : (toString n).toList.all Char.isDigit = true :=
    List.all_eq_true.mpr fun c inside => Text.isDigit_of_mem_decimal inside
  have plain : ¬((toString n).toList.head? = some '0' ∧ 1 < (toString n).toList.length) := by
    by_cases zero : n = 0
    · subst zero
      decide
    · exact fun both => Text.head?_toString_ne_zero (Nat.pos_of_ne_zero zero) both.1
  have value := Text.digitsValue_toString n
  generalize (toString n).toList = text at *
  rw [octet?, value, if_neg (by simpa [filled, digits, short] using plain)]
  exact Option.filter_some_pos (decide_eq_true below)

theorem parse?_dotted {a b c d : Nat} (ha : a < 256) (hb : b < 256) (hc : c < 256) (hd : d < 256) :
    parse? (dotted a b c d).toList = some (ofOctets a b c d) := by
  have undotted : ∀ text ∈ [a, b, c, d].map fun n => (toString n).toList, '.' ∉ text := by
    simp only [List.forall_mem_map]
    exact fun n _ => Text.not_mem_decimal (by decide) n
  have pieces : Text.splitAll '.' (dotted a b c d).toList = [a, b, c, d].map fun n => (toString n).toList := by
    have four : [a, b, c, d].map (fun n => (toString n).toList) ≠ [] := List.cons_ne_nil _ _
    rw [toList_dotted, Text.splitAll_intercalate four, Text.flatMap_splitAll_of_absent undotted]
  rw [parse?, pieces]
  simp only [List.map_cons, List.map_nil, List.mapM_cons, List.mapM_nil, octet?_toString ha,
    octet?_toString hb, octet?_toString hc, octet?_toString hd]
  rfl

/-- The text of an address is that of its four octets. -/
theorem exists_dotted (x : Ipv4) : ∃ a b c d, a < 256 ∧ b < 256 ∧ c < 256 ∧ d < 256 ∧
    x = ofOctets a b c d ∧ x.toText = dotted a b c d := by
  have bound := x.isLt
  refine ⟨x.toNat / 16777216, x.toNat / 65536 % 256, x.toNat / 256 % 256, x.toNat % 256, by omega,
    by omega, by omega, by omega, ?_, rfl⟩
  apply BitVec.eq_of_toNat_eq
  rw [toNat_ofOctets (by omega) (by omega) (by omega) (by omega)]
  omega

theorem toText_ofOctets {a b c d : Nat} (ha : a < 256) (hb : b < 256) (hc : c < 256) (hd : d < 256) :
    (ofOctets a b c d).toText = dotted a b c d := by
  have number := toNat_ofOctets ha hb hc hd
  change dotted ((ofOctets a b c d).toNat / 16777216) ((ofOctets a b c d).toNat / 65536 % 256)
    ((ofOctets a b c d).toNat / 256 % 256) ((ofOctets a b c d).toNat % 256) = _
  congr 1 <;> omega

theorem parse?_toText (x : Ipv4) : parse? x.toText.toList = some x := by
  obtain ⟨a, b, c, d, ha, hb, hc, hd, same, text⟩ := exists_dotted x
  rw [text, parse?_dotted ha hb hc hd, same]

theorem numeric_toText (x : Ipv4) : Numeric x.toText.toList := numeric_dotted _ _ _ _

theorem dot_mem_toText (x : Ipv4) : '.' ∈ x.toText.toList := by
  obtain ⟨a, b, c, d, _, _, _, _, _, text⟩ := exists_dotted x
  rw [text, toList_dotted, List.map_cons, List.map_cons, List.intercalate_cons_cons]
  exact List.mem_append_left _ (List.mem_append_right _ (List.mem_singleton_self '.'))

/-- An octet has digits only. -/
theorem isDigit_of_octet? {cs : List Char} {n : Nat} (read : octet? cs = some n) {s : Char}
    (inside : s ∈ cs) : s.isDigit = true := by
  unfold octet? at read
  split at read
  · cases read
  · rename_i good
    simp only [Bool.or_eq_true, Bool.not_eq_true', not_or, Bool.not_eq_false] at good
    exact List.all_eq_true.mp good.1.2 s inside

/-- A character that is neither a digit nor a dot spoils an address. -/
theorem parse?_eq_none {cs : List Char} {s : Char} (inside : s ∈ cs) (other : s.isDigit = false)
    (apart : s ≠ '.') : parse? cs = none := by
  have whole : ['.'].intercalate (Text.splitAll '.' cs) = cs := Text.intercalate_splitAll cs
  rw [← whole] at inside
  obtain ⟨piece, listed, within⟩ := (Text.mem_of_mem_intercalate inside).resolve_left apart
  have refused : octet? piece = none := by
    rw [Option.eq_none_iff_forall_ne_some]
    intro n read
    have digit := isDigit_of_octet? read within
    rw [other] at digit
    cases digit
  rw [parse?, mapM_eq_none listed refused]

end Ipv4

namespace Ipv6

theorem splitGap_eq_none {cs : List Char} (absent : ':' ∉ cs) : splitGap cs = none := by
  induction cs with
  | nil => rfl
  | cons c rest ih =>
    rw [List.mem_cons, not_or] at absent
    have other : c ≠ ':' := Ne.symm absent.1
    rw [splitGap.eq_2 _ _ fun _ first _ => other first, ih absent.2]
    rfl

/-- One piece makes two groups at most. -/
theorem length_groupsIn {cs : List Char} (absent : ':' ∉ cs) {list : List Nat}
    (read : groupsIn true cs = some list) : list.length ≤ 2 := by
  unfold groupsIn at read
  split at read
  · cases read
    exact Nat.zero_le 2
  · rw [Text.splitAll_of_absent absent, groupsOf] at read
    split at read
    · cases read
      exact Nat.le_succ 1
    · cases read
      exact Nat.le_refl 2
    · cases read

/-- An address has a colon. -/
theorem parse?_eq_none {cs : List Char} (absent : ':' ∉ cs) : parse? cs = none := by
  rw [parse?, splitGap_eq_none absent]
  cases read : groupsIn true cs with
  | none => rfl
  | some list =>
    have few : (list.length == 8) = false := by
      have atMost := length_groupsIn absent read
      rw [beq_eq_false_iff_ne]
      omega
    change (Option.filter _ (some list)).map ofGroups = none
    simp only [Option.filter_some, few]
    rfl

end Ipv6

end GatewayRouting
