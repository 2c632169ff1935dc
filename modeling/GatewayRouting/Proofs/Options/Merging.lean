import GatewayRouting.Config.Validate
import GatewayRouting.Options.Qos
import GatewayRouting.Options.Security

/-!
What merged options owe to each of the two sections that they are merged from. A field comes from one of
them or is the default; the address rules come from one of them as a whole.
-/

set_option autoImplicit false

namespace GatewayRouting

namespace Options

variable {σ α : Type}

theorem chosen_eq_some {own global : Option σ} {field : σ → Option α} {value : α}
    (found : chosen own global field = some value) :
    (∃ s ∈ own, field s = some value) ∨ ∃ s ∈ global, field s = some value := by
  unfold chosen at found
  cases ours : own.bind field with
  | some first =>
    rw [ours] at found
    cases found
    exact Or.inl (Option.bind_eq_some_iff.mp ours)
  | none =>
    rw [ours] at found
    exact Or.inr (Option.bind_eq_some_iff.mp found)

/-- Nothing is settled that stands in neither section and is not the default. -/
theorem settled_cases (own global : Option σ) (field : σ → Option α) (default : α) :
    settled own global field default = default ∨
      (∃ s ∈ own, field s = some (settled own global field default)) ∨
      ∃ s ∈ global, field s = some (settled own global field default) := by
  unfold settled
  cases found : chosen own global field with
  | none => exact Or.inl rfl
  | some value => exact Or.inr (chosen_eq_some found)

theorem settled_eq_match (own global : Option σ) (field : σ → Option α) (default : α) :
    settled own global field default =
      match own.bind field, global.bind field with
      | some value, _ => value
      | none, some value => value
      | none, none => default := by
  unfold settled chosen
  cases own.bind field <;> cases global.bind field <;> rfl

end Options

namespace AuthenticationOptions

/-- The schemes that a section names, if there is one. -/
def namedKeys (s : Option AuthenticationSection) : List String := s.elim [] (·.schemes)

/-- Whether anonymous access is allowed: the own word counts, then the global one. -/
def allowsAnonymous (own global : Option AuthenticationSection) : Bool :=
  match own.bind (·.allowAnonymous), global.bind (·.allowAnonymous) with
  | some value, _ => value
  | none, some value => value
  | none, none => false

/-- The schemes that count: the own ones, if there are any. -/
def effectiveKeys (own global : Option AuthenticationSection) : List String :=
  if namedKeys own = [] then namedKeys global else namedKeys own

theorem bind_nonEmpty_schemes (s : Option AuthenticationSection) :
    (s.bind fun a => nonEmpty a.schemes) = if namedKeys s = [] then none else some (namedKeys s) := by
  cases s with
  | none => rfl
  | some a => by_cases empty : a.schemes = [] <;> simp [nonEmpty, namedKeys, empty]

theorem settled_schemes (own global : Option AuthenticationSection) :
    Options.settled own global (fun s => nonEmpty s.schemes) [] = effectiveKeys own global := by
  rw [Options.settled_eq_match, bind_nonEmpty_schemes, bind_nonEmpty_schemes, effectiveKeys]
  by_cases ours : namedKeys own = []
  · by_cases theirs : namedKeys global = [] <;> simp [ours, theirs]
  · simp [ours]

theorem settled_allowAnonymous (own global : Option AuthenticationSection) :
    Options.settled own global (·.allowAnonymous) false = allowsAnonymous own global := by
  rw [Options.settled_eq_match, allowsAnonymous]
  cases own.bind (·.allowAnonymous) <;> cases global.bind (·.allowAnonymous) <;> rfl

variable {own global : Option AuthenticationSection} {options : AuthenticationOptions}

theorem merge_eq_none_iff :
    merge own global = none ↔ allowsAnonymous own global = true ∨ effectiveKeys own global = [] := by
  unfold merge
  rw [settled_schemes, settled_allowAnonymous]
  cases allowsAnonymous own global with
  | true => simp
  | false => by_cases empty : effectiveKeys own global = [] <;> simp [empty]

theorem keys_of_merge (merged : merge own global = some options) :
    options.providerKeys = effectiveKeys own global := by
  unfold merge at merged
  rw [settled_schemes] at merged
  dsimp only at merged
  split at merged
  · cases merged
  · split at merged
    · cases merged
    · cases merged
      rfl

theorem effectiveKeys_eq_nil_iff :
    effectiveKeys own global = [] ↔ namedKeys own = [] ∧ namedKeys global = [] := by
  unfold effectiveKeys
  split <;> simp [*]

end AuthenticationOptions

namespace QosOptions

variable {own global : Option QosSection}

/-- A breaker cannot be put together from sections neither of which asks for one. -/
theorem merge_eq_none (key : String) (ours : ∀ s ∈ own, Configuration.wantsQos s = false)
    (theirs : ∀ s ∈ global, Configuration.wantsQos s = false) : merge key own global = none := by
  -- The two settings may come from different sections; this one is enough to rule a breaker out.
  have exceptions : Options.settled own global (·.exceptionsAllowedBeforeBreaking) 0 = 0 := by
    have idle {s : QosSection} {value : UInt32} (unwanted : Configuration.wantsQos s = false)
        (set : s.exceptionsAllowedBeforeBreaking = some value) : value = 0 := by
      simp only [Configuration.wantsQos, set, Bool.or_eq_false_iff, decide_eq_false_iff_not,
        Option.getD_some] at unwanted
      exact UInt32.le_zero_iff.mp (UInt32.not_lt.mp unwanted.1)
    rcases Options.settled_cases own global (·.exceptionsAllowedBeforeBreaking) 0 with
      unset | ⟨s, inside, set⟩ | ⟨s, inside, set⟩
    · exact unset
    · exact idle (ours s inside) set
    · exact idle (theirs s inside) set
  unfold merge
  rw [exceptions]
  rfl

end QosOptions

namespace SecuritySection

def ListsSome (s : SecuritySection) : Prop := s.allowedList ≠ [] ∨ s.blockedList ≠ []

/-- The rules of the section. Entries that are no rules are left out. -/
def options (s : SecuritySection) : SecurityOptions where
  allowed := s.allowedList.filterMap AddressRule.parse?
  blocked := s.blockedList.filterMap AddressRule.parse?
  excludeAllowedFromBlocked := s.excludeAllowedFromBlocked

theorem hasEntries_iff {s : SecuritySection} : s.hasEntries = true ↔ s.ListsSome := by
  simp [hasEntries, ListsSome]

/-- A section that lists nothing is passed over. -/
theorem filter_hasEntries {o : Option SecuritySection} (idle : ∀ s ∈ o, ¬s.ListsSome) :
    o.filter (·.hasEntries) = none := by
  rw [Option.filter_eq_none_iff]
  exact fun s inside => mt hasEntries_iff.mp (idle s inside)

end SecuritySection

namespace SecurityOptions

variable {own global : Option SecuritySection} {s : SecuritySection}

theorem value_rules (list : List String) : (rules list).value = list.filterMap AddressRule.parse? := by
  induction list with
  | nil => rfl
  | cons text rest ih =>
    unfold rules at ih ⊢
    rw [Logged.filterMap]
    simp only [Logged.value_bind, Logged.value_pure, ih]
    cases found : AddressRule.parse? text with
    | none => simp [found]
    | some rule => simp [found]

theorem value_merge_of_chosen (found : chosen own global = some s) :
    (merge own global).value = s.options := by
  unfold merge
  rw [found]
  simp only [Logged.value_bind, Logged.value_pure, value_rules, SecuritySection.options]

theorem merge_of_own (ours : own = some s) (lists : s.ListsSome) :
    (merge own global).value = s.options := by
  apply value_merge_of_chosen
  simp [chosen, ours, SecuritySection.hasEntries_iff.mpr lists]

theorem merge_of_global (ours : ∀ t ∈ own, ¬t.ListsSome) (theirs : global = some s)
    (lists : s.ListsSome) : (merge own global).value = s.options := by
  apply value_merge_of_chosen
  simp [chosen, SecuritySection.filter_hasEntries ours, theirs, SecuritySection.hasEntries_iff.mpr lists]

theorem merge_of_neither (ours : ∀ t ∈ own, ¬t.ListsSome) (theirs : ∀ t ∈ global, ¬t.ListsSome) :
    (merge own global).value = {} := by
  unfold merge chosen
  rw [SecuritySection.filter_hasEntries ours, SecuritySection.filter_hasEntries theirs]
  rfl

end SecurityOptions

end GatewayRouting
