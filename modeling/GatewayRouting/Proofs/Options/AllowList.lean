import GatewayRouting.Proofs.Options.Merging

/-!
The addresses that an allow list lets through. Entries that are no rules are dropped, and a list that loses
all of its entries in this way no longer refuses anything.
-/

set_option autoImplicit false

namespace GatewayRouting

/-- Some entry is a rule that contains the address. -/
def AddressRule.Covers (entries : List String) (ip : IpAddress) : Prop :=
  ∃ entry ∈ entries, ∃ rule, parse? entry = some rule ∧ rule.contains ip = true

theorem AddressRule.any_contains_iff {entries : List String} {ip : IpAddress} :
    (entries.filterMap parse?).any (·.contains ip) = true ↔ Covers entries ip := by
  simp only [List.any_eq_true, List.mem_filterMap, Covers]
  constructor
  · rintro ⟨rule, ⟨entry, listed, read⟩, inside⟩
    exact ⟨entry, listed, rule, read, inside⟩
  · rintro ⟨entry, listed, rule, read, inside⟩
    exact ⟨rule, ⟨entry, listed, read⟩, inside⟩

theorem AddressRule.filterMap_parse?_isEmpty {entries : List String} :
    (entries.filterMap parse?).isEmpty = true ↔ ∀ entry ∈ entries, parse? entry = none := by
  rw [List.isEmpty_iff, List.filterMap_eq_nil_iff]

namespace SecuritySection

open AddressRule (Covers)

/-- An address gets through when the allow list covers it or has no rule at all, and the block list does not
cover it or yields to the allow list. -/
theorem isAllowed_options_iff {s : SecuritySection} {ip : IpAddress} :
    s.options.isAllowed ip = true ↔
      (Covers s.allowedList ip ∨ ∀ entry ∈ s.allowedList, AddressRule.parse? entry = none) ∧
        (Covers s.blockedList ip → s.excludeAllowedFromBlocked = true ∧ Covers s.allowedList ip) := by
  rw [← AddressRule.filterMap_parse?_isEmpty, ← AddressRule.any_contains_iff,
    ← AddressRule.any_contains_iff]
  unfold SecurityOptions.isAllowed options
  dsimp only
  cases (s.allowedList.filterMap AddressRule.parse?).any (·.contains ip) <;>
    cases (s.blockedList.filterMap AddressRule.parse?).any (·.contains ip) <;>
      cases s.excludeAllowedFromBlocked <;> simp

end SecuritySection

namespace SecurityOptions

open AddressRule (Covers)

/-- An address that the allow list of the chosen section does not cover is kept out exactly when some entry of
the list is a rule, or the block list covers it. A list of malformed entries alone is no better than none. -/
theorem isAllowed_only_if_covered_iff {own global : Option SecuritySection} {s : SecuritySection}
    (found : chosen own global = some s) (ip : IpAddress) :
    ((merge own global).value.isAllowed ip = true → Covers s.allowedList ip) ↔
      (∃ entry ∈ s.allowedList, (AddressRule.parse? entry).isSome = true) ∨ Covers s.blockedList ip := by
  rw [value_merge_of_chosen found, SecuritySection.isAllowed_options_iff]
  constructor
  · intro only
    by_cases blocked : Covers s.blockedList ip
    · exact Or.inr blocked
    by_cases read : ∃ entry ∈ s.allowedList, (AddressRule.parse? entry).isSome = true
    · exact Or.inl read
    have malformed : ∀ entry ∈ s.allowedList, AddressRule.parse? entry = none := by
      intro entry listed
      rw [← Option.not_isSome_iff_eq_none]
      exact fun rule => read ⟨entry, listed, rule⟩
    obtain ⟨entry, listed, rule, made, _⟩ :=
      only ⟨Or.inr malformed, fun covered => absurd covered blocked⟩
    rw [malformed entry listed] at made
    cases made
  · rintro kept ⟨covered | malformed, yields⟩
    · exact covered
    · rcases kept with ⟨entry, listed, read⟩ | blocked
      · rw [malformed entry listed] at read
        cases read
      · exact (yields blocked).2

/-- One malformed entry and one rule: whoever the rule does not cover is refused. -/
theorem isAllowed_only_if_covered_beside_malformed :
    chosen (some { allowedList := ["garbage", "172.16.0.0/12"] })
        (some { blockedList := ["10.0.0.1"] }) =
      some { allowedList := ["garbage", "172.16.0.0/12"] } ∧
    ∀ ip, (merge (some { allowedList := ["garbage", "172.16.0.0/12"] })
        (some { blockedList := ["10.0.0.1"] })).value.isAllowed ip = true →
      Covers ["garbage", "172.16.0.0/12"] ip := by
  have found : chosen (some { allowedList := ["garbage", "172.16.0.0/12"] })
      (some { blockedList := ["10.0.0.1"] }) =
      some { allowedList := ["garbage", "172.16.0.0/12"] } := by decide
  refine ⟨found, fun ip => ?_⟩
  rw [isAllowed_only_if_covered_iff found]
  exact Or.inl ⟨"172.16.0.0/12", by decide, by decide +kernel⟩

/-- An allow list with a malformed entry alone lets an address through that it does not cover. -/
theorem isAllowed_of_malformed_list :
    ¬∀ (own global : Option SecuritySection) (s : SecuritySection), chosen own global = some s →
      s.allowedList ≠ [] → ∀ ip, (merge own global).value.isAllowed ip = true → Covers s.allowedList ip := by
  intro refuses
  obtain ⟨entry, listed, rule, read, _⟩ :=
    refuses (some { allowedList := ["garbage"] }) none { allowedList := ["garbage"] } rfl (by decide)
      (.v4 (Ipv4.ofOctets 1 2 3 4)) (by decide +kernel)
  rw [List.mem_singleton.mp listed, show AddressRule.parse? "garbage" = none by decide +kernel] at read
  cases read

end SecurityOptions

end GatewayRouting
