import GatewayRouting.Address.Rule
import GatewayRouting.Proofs.Address.Blocks
import GatewayRouting.Proofs.Address.Texts

/-!
The forms in which a rule about addresses is written. A network and the range of its block contain the same
addresses, a single address is a network of its own, and the last octet alone ends a range.
-/

set_option autoImplicit false

namespace GatewayRouting

open Ipv4 (AgreeOn Bounds Numeric dotted ofOctets)

/-- The address is an IPv4 address that agrees with this one in the first bits. -/
def IpAddress.InBlock (x : Ipv4) (bits : Nat) (ip : IpAddress) : Prop := ∃ y, ip = v4 y ∧ AgreeOn bits x y

namespace AddressRule

theorem trim_joined {front back : List Char} (first : Numeric front) (second : Numeric back) {mark : Char}
    (seen : Text.isBlank mark = false) : Text.trim (front ++ mark :: back) = front ++ mark :: back := by
  apply Text.trim_eq_self_of_notBlank
  intro c inside
  rcases List.mem_append.mp inside with inFront | later
  · exact first.notBlank c inFront
  · rcases List.mem_cons.mp later with rfl | inBack
    · exact seen
    · exact second.notBlank c inBack

theorem networkParts_of_absent {cs : List Char} (absent : '/' ∉ cs) : networkParts cs = some (cs, none) := by
  rw [networkParts, Text.splitOnce_eq_none_iff.mpr absent]

/-! Networks. -/

theorem parse?_toText (x : Ipv4) : parse? x.toText = some (network4 x 32) := by
  have numeric := Ipv4.numeric_toText x
  have network : network? x.toText.toList = some (network4 x 32) := by
    rw [network?, networkParts_of_absent (numeric.not_mem (by decide) (by decide))]
    simp only [Option.bind_eq_bind, Option.bind_some, Ipv4.parse?_toText]
  rw [parse?, Text.trim_eq_self_of_notBlank numeric.notBlank]
  simp only [network]

theorem bits4?_toString {bits : Nat} (few : bits ≤ 32) : bits4? (toString bits).toList = some bits := by
  rw [bits4?, Text.naturalBelow_toString (by omega)]
  exact if_pos few

theorem parse?_slash (x : Ipv4) {bits : Nat} (few : bits ≤ 32) :
    parse? (x.toText ++ "/" ++ toString bits) = some (network4 x bits) := by
  have numeric := Ipv4.numeric_toText x
  have numericBits := Ipv4.numeric_toString bits
  have text : (x.toText ++ "/" ++ toString bits).toList = x.toText.toList ++ '/' :: (toString bits).toList := by
    simp
  have parts : networkParts (x.toText.toList ++ '/' :: (toString bits).toList) =
      some (x.toText.toList, some (toString bits).toList) := by
    rw [networkParts, Text.splitOnce_append_cons (numeric.not_mem (by decide) (by decide))]
    have single : ¬(toString bits).toList.contains '/' = true := by
      rw [List.contains_iff_mem]
      exact numericBits.not_mem (by decide) (by decide)
    exact if_neg single
  have network : network? (x.toText.toList ++ '/' :: (toString bits).toList) = some (network4 x bits) := by
    rw [network?, parts]
    simp only [Option.bind_eq_bind, Option.bind_some, Ipv4.parse?_toText, bits4?_toString few,
      Option.map_some]
  rw [parse?, text, trim_joined numeric numericBits (by decide)]
  simp only [network]

/-! Ranges. -/

theorem rangeEnd?_toText (first last : Ipv4) : rangeEnd? first last.toText.toList = some last := by
  rw [rangeEnd?, Text.naturalBelow_eq_none (Ipv4.dot_mem_toText last) (by decide) (by decide)]
  exact Ipv4.parse?_toText last

theorem rangeEnd?_toString (first : Ipv4) {last : Nat} (below : last < 256) :
    rangeEnd? first (toString last).toList = some (BitVec.ofNat 32 (first.toNat / 256 * 256 + last)) := by
  rw [rangeEnd?, Text.naturalBelow_toString below]

/-- Numbers with a dash between them are no network. -/
theorem network?_dash {front back : List Char} (first : Numeric front) (second : Numeric back) :
    network? (front ++ '-' :: back) = none := by
  have absent {s : Char} (other : s.isDigit = false) (apart : s ≠ '.') (undashed : s ≠ '-') :
      s ∉ front ++ '-' :: back := by
    rw [List.mem_append, List.mem_cons, not_or, not_or]
    exact ⟨first.not_mem other apart, undashed, second.not_mem other apart⟩
  have dash : '-' ∈ front ++ '-' :: back := List.mem_append_right _ List.mem_cons_self
  rw [network?, networkParts_of_absent (absent (by decide) (by decide) (by decide))]
  simp only [Option.bind_eq_bind, Option.bind_some, Ipv4.parse?_eq_none dash (by decide) (by decide),
    Ipv6.parse?_eq_none (absent (by decide) (by decide) (by decide)), Option.map_none]

theorem parse?_dash (first : Ipv4) {ending : String} (numericEnding : Numeric ending.toList) :
    parse? (first.toText ++ "-" ++ ending) = (rangeEnd? first ending.toList).bind fun last =>
      if first ≤ last then some (range first last) else none := by
  have numeric := Ipv4.numeric_toText first
  have text : (first.toText ++ "-" ++ ending).toList = first.toText.toList ++ '-' :: ending.toList := by
    simp
  rw [parse?, text, trim_joined numeric numericEnding (by decide)]
  simp only [network?_dash numeric numericEnding]
  rw [range?, Text.splitOnce_append_cons (numeric.not_mem (by decide) (by decide))]
  simp only [Option.bind_eq_bind, Option.bind_some, Text.trim_eq_self_of_notBlank numeric.notBlank,
    Text.trim_eq_self_of_notBlank numericEnding.notBlank, Ipv4.parse?_toText]

theorem parse?_range {first last : Ipv4} (ordered : first ≤ last) :
    parse? (first.toText ++ "-" ++ last.toText) = some (range first last) := by
  rw [parse?_dash first (Ipv4.numeric_toText last), rangeEnd?_toText, Option.bind_some, if_pos ordered]

/-- A range ends at an address or at its last octet, and not before it begins. -/
theorem parse?_octetRange {a b c d e : Nat} (ha : a < 256) (hb : b < 256) (hc : c < 256) (hd : d < 256)
    (he : e < 256) :
    parse? (dotted a b c d ++ "-" ++ toString e) = parse? (dotted a b c d ++ "-" ++ dotted a b c e) ∧
      (parse? (dotted a b c d ++ "-" ++ toString e) = none ↔ e < d) := by
  have start := Ipv4.toNat_ofOctets ha hb hc hd
  have stop := Ipv4.toNat_ofOctets ha hb hc he
  have moved : BitVec.ofNat 32 ((ofOctets a b c d).toNat / 256 * 256 + e) = ofOctets a b c e := by
    apply BitVec.eq_of_toNat_eq
    rw [BitVec.toNat_ofNat, start, stop]
    omega
  have short : parse? (dotted a b c d ++ "-" ++ toString e) =
      if ofOctets a b c d ≤ ofOctets a b c e then some (range (ofOctets a b c d) (ofOctets a b c e))
      else none := by
    rw [← Ipv4.toText_ofOctets ha hb hc hd, parse?_dash _ (Ipv4.numeric_toString e), rangeEnd?_toString _ he,
      Option.bind_some, moved]
  have long : parse? (dotted a b c d ++ "-" ++ dotted a b c e) =
      if ofOctets a b c d ≤ ofOctets a b c e then some (range (ofOctets a b c d) (ofOctets a b c e))
      else none := by
    rw [← Ipv4.toText_ofOctets ha hb hc hd, ← Ipv4.toText_ofOctets ha hb hc he,
      parse?_dash _ (Ipv4.numeric_toText _), rangeEnd?_toText, Option.bind_some]
  refine ⟨short.trans long.symm, ?_⟩
  have ordered : ofOctets a b c d ≤ ofOctets a b c e ↔ d ≤ e := by
    rw [BitVec.le_def, start, stop]
    omega
  rw [short]
  by_cases before : e < d
  · exact iff_of_true (if_neg (mt ordered.mp (by omega))) before
  · rw [if_pos (ordered.mpr (by omega))]
    exact iff_of_false (Option.some_ne_none _) before

/-! What the rules contain. -/

theorem contains_network4_iff {x : Ipv4} {bits : Nat} (few : bits ≤ 32) {ip : IpAddress} :
    (network4 x bits).contains ip = true ↔ ip.InBlock x bits := by
  cases ip with
  | v4 y =>
    change (x >>> (32 - bits) == y >>> (32 - bits)) = true ↔ _
    rw [beq_iff_eq, ← Ipv4.agreeOn_iff_shift few]
    constructor
    · intro agree
      exact ⟨y, rfl, agree⟩
    · rintro ⟨_, ⟨⟩, agree⟩
      exact agree
  | v6 y =>
    refine iff_of_false Bool.false_ne_true ?_
    rintro ⟨_, ⟨⟩, _⟩

theorem contains_range_iff {x first last : Ipv4} {bits : Nat} (few : bits ≤ 32)
    (bounds : Bounds x bits first last) {ip : IpAddress} :
    (range first last).contains ip = true ↔ ip.InBlock x bits := by
  cases ip with
  | v4 y =>
    change (decide (first ≤ y) && decide (y ≤ last)) = true ↔ _
    rw [Bool.and_eq_true, decide_eq_true_eq, decide_eq_true_eq, ← bounds.agreeOn_iff few]
    constructor
    · intro agree
      exact ⟨y, rfl, agree⟩
    · rintro ⟨_, ⟨⟩, agree⟩
      exact agree
  | v6 y =>
    refine iff_of_false Bool.false_ne_true ?_
    rintro ⟨_, ⟨⟩, _⟩

/-- A network contains what the range from the first to the last address of its block contains: the addresses
of the block. A single address is written as a network of all bits or as a range too. The last octet alone
ends a range like the whole address, and a range that ends before it begins is none. -/
theorem parse?_forms_agree (x : Ipv4) {bits : Nat} (few : bits ≤ 32) :
    (∃ first last, Bounds x bits first last ∧ ∃ network range,
      parse? (x.toText ++ "/" ++ toString bits) = some network ∧
      parse? (first.toText ++ "-" ++ last.toText) = some range ∧
      ∀ ip, (network.contains ip = true ↔ ip.InBlock x bits) ∧ network.contains ip = range.contains ip) ∧
    (∃ bare network range,
      parse? x.toText = some bare ∧
      parse? (x.toText ++ "/32") = some network ∧
      parse? (x.toText ++ "-" ++ x.toText) = some range ∧
      ∀ ip, bare.contains ip = network.contains ip ∧ bare.contains ip = range.contains ip) ∧
    ∀ a b c d e, a < 256 → b < 256 → c < 256 → d < 256 → e < 256 →
      parse? (dotted a b c d ++ "-" ++ toString e) = parse? (dotted a b c d ++ "-" ++ dotted a b c e) ∧
        (parse? (dotted a b c d ++ "-" ++ toString e) = none ↔ e < d) := by
  refine ⟨?_, ?_, fun a b c d e ha hb hc hd he => parse?_octetRange ha hb hc hd he⟩
  · obtain ⟨first, last, bounds⟩ := Ipv4.exists_bounds x few
    have ordered : first ≤ last := bounds.first_le last bounds.last_agrees
    refine ⟨first, last, bounds, _, _, parse?_slash x few, parse?_range ordered, ?_⟩
    intro ip
    have inNetwork : (network4 x bits).contains ip = true ↔ ip.InBlock x bits := contains_network4_iff few
    have inRange : (range first last).contains ip = true ↔ ip.InBlock x bits := contains_range_iff few bounds
    exact ⟨inNetwork, Bool.eq_iff_iff.mpr (inNetwork.trans inRange.symm)⟩
  · have all : (32 : Nat) ≤ 32 := Nat.le_refl 32
    have whole : parse? (x.toText ++ "/32") = some (network4 x 32) := by
      have text : x.toText ++ "/" ++ toString 32 = x.toText ++ "/32" := by
        rw [String.append_assoc]
        rfl
      rw [← text]
      exact parse?_slash x all
    have alone := Ipv4.bounds_self x
    have ordered := alone.first_le x alone.first_agrees
    refine ⟨_, _, _, parse?_toText x, whole, parse?_range ordered, ?_⟩
    intro ip
    refine ⟨rfl, Bool.eq_iff_iff.mpr ?_⟩
    exact (contains_network4_iff all).trans (contains_range_iff all alone).symm

theorem parse?_forms_agree_of_hostBits :
    (10 : Nat) ≤ 32 ∧ ∃ first last, Bounds (ofOctets 10 70 3 9) 10 first last ∧ ∃ network range,
      parse? ("10.70.3.9" ++ "/" ++ toString 10) = some network ∧
      parse? (first.toText ++ "-" ++ last.toText) = some range ∧
      ∀ ip, network.contains ip = range.contains ip := by
  have few : (10 : Nat) ≤ 32 := by decide
  obtain ⟨⟨first, last, bounds, network, range, readNetwork, readRange, agree⟩, _⟩ :=
    parse?_forms_agree (ofOctets 10 70 3 9) few
  exact ⟨few, first, last, bounds, network, range, readNetwork, readRange, fun ip => (agree ip).2⟩

end AddressRule

end GatewayRouting
