import GatewayRouting.Proofs.Text.AsciiCase
import GatewayRouting.Text.Percent

/-!
Percent-decoding. It makes a text shorter or leaves it as it is, and which of the two it does depends neither on
the case of letters nor on what stands in front.
-/

set_option autoImplicit false

namespace GatewayRouting.Text

/-- The bytes of a text in UTF-8. -/
def utf8Bytes (cs : List Char) : List UInt8 := cs.flatMap String.utf8EncodeChar

@[simp] theorem utf8Bytes_cons (c : Char) (cs : List Char) :
    utf8Bytes (c :: cs) = String.utf8EncodeChar c ++ utf8Bytes cs := rfl

@[simp] theorem utf8Bytes_append (front rest : List Char) :
    utf8Bytes (front ++ rest) = utf8Bytes front ++ utf8Bytes rest := List.flatMap_append

/-- An escaped text stands for the text whose bytes it spells. -/
theorem percentText?_eq_some_iff {cs : List Char} {s : String} :
    percentText? cs = some s ↔ percentBytes cs = utf8Bytes s.toList := by
  have spelled : (⟨(percentBytes cs).toArray⟩ : ByteArray) = s.toByteArray ↔
      percentBytes cs = utf8Bytes s.toList := by
    have same : (⟨(percentBytes cs).toArray⟩ : ByteArray) = (percentBytes cs).toByteArray :=
      ByteArray.ext List.data_toByteArray.symm
    rw [same, ← String.utf8Encode_toList, List.utf8Encode, List.toByteArray_inj]
    rfl
  rw [← spelled, percentText?, String.fromUTF8?]
  split
  · rw [Option.some.injEq, ← String.toByteArray_inj]
    rfl
  · rename_i invalid
    refine iff_of_false (by simp) fun same => invalid ?_
    rw [same]
    exact s.isValidUTF8

theorem percentBytes_of_other {c : Char} (other : c ≠ '%') (rest : List Char) :
    percentBytes (c :: rest) = String.utf8EncodeChar c ++ percentBytes rest := by
  rw [percentBytes]
  intro _ _ _ same
  exact absurd same other

theorem percentBytes_append {front : List Char} (plain : '%' ∉ front) (rest : List Char) :
    percentBytes (front ++ rest) = utf8Bytes front ++ percentBytes rest := by
  induction front with
  | nil => rfl
  | cons c front ih =>
    rw [List.mem_cons, not_or] at plain
    rw [List.cons_append, percentBytes_of_other (Ne.symm plain.1), ih plain.2, utf8Bytes_cons,
      List.append_assoc]

/-- An escape spells one byte with three characters; everything else spells itself. -/
theorem percentBytes_cases (cs : List Char) :
    percentBytes cs = utf8Bytes cs ∨ (percentBytes cs).length < (utf8Bytes cs).length := by
  have percent : String.utf8EncodeChar '%' = [0x25] := by decide
  have positive (c : Char) : 0 < (String.utf8EncodeChar c).length :=
    List.length_pos_iff.mpr String.utf8EncodeChar_ne_nil
  fun_induction percentBytes cs with
  | case1 => exact Or.inl rfl
  | case2 high low rest byte escape ih =>
    right
    have same := ih.imp (congrArg List.length) id
    have first := positive high
    have second := positive low
    simp only [utf8Bytes_cons, percent, List.length_append, List.length_cons, List.length_nil]
    omega
  | case3 high low rest plain ih =>
    refine ih.imp (fun same => ?_) fun shorter => ?_
    · rw [same, utf8Bytes_cons '%', percent]
      rfl
    · rw [utf8Bytes_cons '%', percent]
      simpa using shorter
  | case4 c rest plain ih =>
    refine ih.imp (fun same => ?_) fun shorter => ?_
    · rw [same, utf8Bytes_cons]
    · rw [utf8Bytes_cons, List.length_append, List.length_append]
      omega

theorem utf8EncodeChar_of_ascii {c : Char} (ascii : c.toNat < 128) :
    String.utf8EncodeChar c = [UInt8.ofNat c.toNat] := by
  have low : c.val.toNat ≤ 127 := Nat.le_of_lt_succ ascii
  rw [String.utf8EncodeChar, if_pos low]
  rfl

theorem ascii_lt_of_mem_utf8EncodeChar {c : Char} (other : 128 ≤ c.toNat) {byte : UInt8}
    (inside : byte ∈ String.utf8EncodeChar c) : 128 ≤ byte.toNat := by
  have high : ¬c.val.toNat ≤ 127 := Nat.not_le_of_lt other
  rw [String.utf8EncodeChar, if_neg high] at inside
  split at inside
  · simp only [List.mem_cons, List.not_mem_nil, or_false] at inside
    rcases inside with rfl | rfl <;> simp only [UInt8.toNat_ofNat'] <;> omega
  · split at inside
    · simp only [List.mem_cons, List.not_mem_nil, or_false] at inside
      rcases inside with rfl | rfl | rfl <;> simp only [UInt8.toNat_ofNat'] <;> omega
    · simp only [List.mem_cons, List.not_mem_nil, or_false] at inside
      rcases inside with rfl | rfl | rfl | rfl <;> simp only [UInt8.toNat_ofNat'] <;> omega

/-- The bytes are the same, or both are those of characters of ASCII. -/
def SameBeyondAscii (a b : UInt8) : Prop := a = b ∨ a.toNat < 128 ∧ b.toNat < 128

theorem SameBeyondAscii.refl (bytes : List UInt8) : List.Forall₂ SameBeyondAscii bytes bytes :=
  List.forall₂_same.mpr fun _ _ => Or.inl rfl

theorem SameBeyondAscii.symm {a b : UInt8} (same : SameBeyondAscii a b) : SameBeyondAscii b a :=
  same.imp Eq.symm And.symm

theorem SameBeyondAscii.eq_of_le {bytes others : List UInt8} (beyond : ∀ b ∈ others, 128 ≤ b.toNat)
    (same : List.Forall₂ SameBeyondAscii bytes others) : bytes = others := by
  induction same with
  | nil => rfl
  | @cons a b bytes others first _ ih =>
    obtain ⟨own, later⟩ := List.forall_mem_cons.mp beyond
    rw [ih later]
    rcases first with rfl | ⟨_, ascii⟩
    · rfl
    · omega

theorem exists_char_of_same {bytes : List UInt8} {c : Char}
    (same : List.Forall₂ SameBeyondAscii bytes (String.utf8EncodeChar c)) :
    ∃ other, bytes = String.utf8EncodeChar other := by
  by_cases ascii : c.toNat < 128
  · rw [utf8EncodeChar_of_ascii ascii] at same
    obtain ⟨byte, _, known, nothing, rfl⟩ := List.forall₂_cons_right_iff.mp same
    cases nothing
    have small : byte.toNat < 128 := by
      rcases known with rfl | ⟨small, _⟩
      · rw [UInt8.toNat_ofNat']
        omega
      · exact small
    have value : (Char.ofNat byte.toNat).toNat = byte.toNat := by
      rw [Char.ofNat, dif_pos (Or.inl (by omega))]
      rfl
    refine ⟨Char.ofNat byte.toNat, ?_⟩
    rw [utf8EncodeChar_of_ascii (by rwa [value]), value, UInt8.ofNat_toNat]
  · have beyond : ∀ b ∈ String.utf8EncodeChar c, 128 ≤ b.toNat := fun _ =>
      ascii_lt_of_mem_utf8EncodeChar (Nat.le_of_not_lt ascii)
    exact ⟨c, SameBeyondAscii.eq_of_le beyond same⟩

/-- Bytes that differ in ASCII alone are those of texts together. -/
theorem exists_utf8Bytes_of_same {bytes : List UInt8} {cs : List Char}
    (same : List.Forall₂ SameBeyondAscii bytes (utf8Bytes cs)) : ∃ others, bytes = utf8Bytes others := by
  induction cs generalizing bytes with
  | nil =>
    cases same
    exact ⟨[], rfl⟩
  | cons c rest ih =>
    rw [utf8Bytes_cons] at same
    obtain ⟨more, later⟩ := ih (List.forall₂_drop_append _ _ _ same)
    obtain ⟨first, own⟩ := exists_char_of_same (List.forall₂_take_append _ _ _ same)
    refine ⟨first :: more, ?_⟩
    rw [utf8Bytes_cons, ← own, ← later, List.take_append_drop]

/-- Lower case changes no byte but those of ASCII. -/
theorem sameBeyondAscii_toLower (c : Char) :
    List.Forall₂ SameBeyondAscii (String.utf8EncodeChar c.toLower) (String.utf8EncodeChar c) := by
  have lowered := toNat_toLower c
  by_cases upper : 65 ≤ c.toNat ∧ c.toNat ≤ 90
  · rw [if_pos upper] at lowered
    rw [utf8EncodeChar_of_ascii (by omega), utf8EncodeChar_of_ascii (c := c) (by omega)]
    refine .cons (Or.inr ?_) .nil
    rw [UInt8.toNat_ofNat', UInt8.toNat_ofNat']
    omega
  · rw [if_neg upper, Char.toNat_inj] at lowered
    rw [lowered]
    exact SameBeyondAscii.refl _

theorem hexValue_from_first_upper :
    ∀ i : Fin 26, hexValue (Char.ofNat (65 + i)).toLower = hexValue (Char.ofNat (65 + i)) := by
  decide

theorem hexValue_toLower (c : Char) : hexValue c.toLower = hexValue c := by
  have lowered := toNat_toLower c
  by_cases upper : 65 ≤ c.toNat ∧ c.toNat ≤ 90
  · have known := hexValue_from_first_upper ⟨c.toNat - 65, by omega⟩
    have place : 65 + (c.toNat - 65) = c.toNat := by omega
    rwa [place, Char.ofNat_toNat] at known
  · rw [if_neg upper, Char.toNat_inj] at lowered
    rw [lowered]

theorem escapedByte_toLower (high low : Char) :
    escapedByte high.toLower low.toLower = escapedByte high low := by
  rw [escapedByte, hexValue_toLower, hexValue_toLower]
  rfl

/-- An escape does not depend on case, and all else that is spelled changes with it in ASCII alone. -/
theorem sameBeyondAscii_percentBytes (cs : List Char) :
    List.Forall₂ SameBeyondAscii (percentBytes (cs.map Char.toLower)) (percentBytes cs) := by
  have percent : '%'.toLower = '%' := by decide
  fun_induction percentBytes cs with
  | case1 => exact .nil
  | case2 high low rest byte escape ih =>
    rw [List.map_cons, List.map_cons, List.map_cons, percent, percentBytes, escapedByte_toLower, escape]
    exact .cons (Or.inl rfl) ih
  | case3 high low rest plain ih =>
    rw [List.map_cons, List.map_cons, List.map_cons, percent, percentBytes, escapedByte_toLower, plain]
    exact .cons (Or.inl rfl) ih
  | case4 c rest plain ih =>
    rw [List.map_cons, percentBytes]
    · exact List.rel_append (sameBeyondAscii_toLower c) ih
    · intro high low others first more
      obtain ⟨_, later, rfl, _, more⟩ := List.map_eq_cons_iff.mp more
      obtain ⟨_, _, rfl, _, _⟩ := List.map_eq_cons_iff.mp more
      exact plain _ _ _ ((toLower_eq_iff (by decide)).mp first) rfl

/-- The text has an escape, and its bytes are those of a text. -/
@[mk_iff]
structure Changes (cs : List Char) : Prop where
  isText : ∃ decoded, percentBytes cs = utf8Bytes decoded
  shorter : (percentBytes cs).length < (utf8Bytes cs).length

theorem percentDecoded_eq_self_iff {s : String} : percentDecoded s = s ↔ ¬Changes s.toList := by
  unfold percentDecoded
  cases found : percentText? s.toList with
  | none =>
    refine iff_of_true rfl fun changes => ?_
    obtain ⟨decoded, spelled⟩ := changes.isText
    rw [← String.toList_ofList (l := decoded), ← percentText?_eq_some_iff, found] at spelled
    cases spelled
  | some decoded =>
    rw [Option.getD_some]
    constructor
    · rintro rfl changes
      rw [percentText?_eq_some_iff] at found
      exact absurd changes.shorter (by rw [found]; exact Nat.lt_irrefl _)
    · intro unchanged
      rcases percentBytes_cases s.toList with same | shorter
      · rw [percentText?_eq_some_iff.mpr same] at found
        exact (Option.some.inj found).symm
      · exact absurd ⟨⟨_, percentText?_eq_some_iff.mp found⟩, shorter⟩ unchanged

theorem utf8ByteSize_eq (s : String) : s.utf8ByteSize = (utf8Bytes s.toList).length := by
  rw [← String.size_toByteArray, ← String.utf8Encode_toList, List.utf8Encode, List.size_toByteArray]
  rfl

/-- Decoding that changes a text makes it shorter. -/
theorem utf8ByteSize_percentDecoded_lt {s : String} (changed : percentDecoded s ≠ s) :
    (percentDecoded s).utf8ByteSize < s.utf8ByteSize := by
  have changes : Changes s.toList := not_not.mp (mt percentDecoded_eq_self_iff.mpr changed)
  unfold percentDecoded at changed ⊢
  cases found : percentText? s.toList with
  | none =>
    rw [found] at changed
    exact absurd rfl changed
  | some decoded =>
    rw [Option.getD_some, utf8ByteSize_eq, utf8ByteSize_eq, ← percentText?_eq_some_iff.mp found]
    exact changes.shorter

theorem length_utf8Bytes_map_toLower (cs : List Char) :
    (utf8Bytes (cs.map Char.toLower)).length = (utf8Bytes cs).length := by
  induction cs with
  | nil => rfl
  | cons c rest ih =>
    rw [List.map_cons, utf8Bytes_cons, utf8Bytes_cons, List.length_append, List.length_append, ih,
      (sameBeyondAscii_toLower c).length_eq]

theorem utf8ByteSize_lowerAscii (s : String) : (lowerAscii s).utf8ByteSize = s.utf8ByteSize := by
  rw [utf8ByteSize_eq, utf8ByteSize_eq, lowerAscii, String.toList_ofList, length_utf8Bytes_map_toLower]

theorem changes_map_toLower {cs : List Char} : Changes (cs.map Char.toLower) ↔ Changes cs := by
  have same := sameBeyondAscii_percentBytes cs
  have back : List.Forall₂ SameBeyondAscii (percentBytes cs) (percentBytes (cs.map Char.toLower)) :=
    (same.imp fun _ _ => SameBeyondAscii.symm).flip
  rw [changes_iff, changes_iff, length_utf8Bytes_map_toLower, same.length_eq]
  refine and_congr_left fun _ => ⟨?_, ?_⟩
  · rintro ⟨decoded, spelled⟩
    exact exists_utf8Bytes_of_same (spelled ▸ back)
  · rintro ⟨decoded, spelled⟩
    exact exists_utf8Bytes_of_same (spelled ▸ same)

/-- Whether decoding changes a text does not depend on case. -/
theorem percentDecoded_eq_self_congr {a b : String} (same : lowerAscii a = lowerAscii b) :
    percentDecoded a = a ↔ percentDecoded b = b := by
  rw [percentDecoded_eq_self_iff, percentDecoded_eq_self_iff, ← changes_map_toLower,
    String.ofList_inj.mp same, changes_map_toLower]

/-- A text that decoding changes is changed behind other text too. -/
theorem percentDecoded_eq_self_of_append {front rest : List Char} (plain : '%' ∉ front)
    (fixed : percentDecoded (String.ofList (front ++ rest)) = String.ofList (front ++ rest)) :
    percentDecoded (String.ofList rest) = String.ofList rest := by
  rw [percentDecoded_eq_self_iff, String.toList_ofList] at fixed ⊢
  refine fun changes => fixed ⟨?_, ?_⟩
  · obtain ⟨decoded, spelled⟩ := changes.isText
    exact ⟨front ++ decoded, by rw [percentBytes_append plain, spelled, utf8Bytes_append]⟩
  · have shorter := changes.shorter
    rw [percentBytes_append plain, utf8Bytes_append, List.length_append, List.length_append]
    omega

end GatewayRouting.Text
