import GatewayRouting.Proofs.Resolution.HostCase
import GatewayRouting.Proofs.Text.Decimal

/-!
Ports of hosts. A route's host without port stands for that host at every port, and with a port for itself
alone.
-/

set_option autoImplicit false

namespace GatewayRouting.Host

open Text

/-- A host that a port can follow: a name without colons, or an address in brackets that are closed at its end
and not before. -/
def IsBare (host : List Char) : Prop :=
  if host.head? = some '[' then host.getLast? = some ']' ∧ ']' ∉ host.dropLast else ':' ∉ host

instance (host : List Char) : Decidable (IsBare host) :=
  inferInstanceAs (Decidable (if host.head? = some '[' then _ else _))

variable {host port : List Char}

/-- The two forms of a bare host. -/
theorem isBare_iff :
    IsBare host ↔ (host.head? ≠ some '[' ∧ ':' ∉ host) ∨
      ∃ inside, host = inside ++ [']'] ∧ host.head? = some '[' ∧ ']' ∉ inside := by
  rw [IsBare]
  split
  · rename_i opened
    constructor
    · rintro ⟨closed, absent⟩
      exact Or.inr ⟨host.dropLast, (List.dropLast_append_getLast? _ closed).symm, opened, absent⟩
    · rintro (⟨name, _⟩ | ⟨inside, rfl, _, absent⟩)
      · exact absurd opened name
      · rw [List.dropLast_concat]
        exact ⟨List.getLast?_concat, absent⟩
  · rename_i name
    constructor
    · exact fun absent => Or.inl ⟨name, absent⟩
    · rintro (⟨_, absent⟩ | ⟨_, _, opened, _⟩)
      · exact absent
      · exact absurd opened name

/-- A port does not change whether a host starts with a bracket. -/
theorem head?_append_port (name port : List Char) :
    (name ++ ':' :: port).head? = some '[' ↔ name.head? = some '[' := by
  rw [List.head?_append]
  cases name.head? <;> simp

/-- Everything after the first closing bracket is cut off, whatever it is. -/
theorem withoutPort_of_brackets {inside : List Char} (opened : host.head? = some '[') (absent : ']' ∉ inside)
    {after : List Char} (closed : host = inside ++ ']' :: after) : withoutPort host = inside ++ [']'] := by
  rw [withoutPort, if_pos (beq_iff_eq.mpr opened), closed, splitOnce_append_cons absent]

theorem withoutPort_of_name (name : host.head? ≠ some '[') (absent : ':' ∉ host) : withoutPort host = host := by
  rw [withoutPort, if_neg (mt beq_iff_eq.mp name), splitLast_eq_none_iff.mpr absent]

theorem withoutPort_of_port {name : List Char} (unopened : host.head? ≠ some '[') (absent : ':' ∉ name)
    (number : (naturalBelow (Nat.pow 2 16) port).isSome = true) (cut : host = name ++ ':' :: port) :
    withoutPort host = name := by
  have digits : ':' ∉ port := by
    intro inside
    rw [naturalBelow_eq_none inside (by decide) (by decide)] at number
    cases number
  rw [withoutPort, if_neg (mt beq_iff_eq.mp unopened), cut, splitLast_append_cons name digits]
  simp [absent, number]

/-- What is left of a host is the whole of it, or has no port. -/
theorem withoutPort_eq_self_or_isBare (host : List Char) : withoutPort host = host ∨ IsBare (withoutPort host) := by
  unfold withoutPort
  split
  · rename_i opened
    rw [beq_iff_eq] at opened
    cases cut : splitOnce ']' host with
    | none => exact Or.inl rfl
    | some parts =>
      obtain ⟨inside, after⟩ := parts
      obtain ⟨rfl, absent⟩ := splitOnce_eq_some cut
      refine Or.inr (isBare_iff.mpr (Or.inr ⟨inside, rfl, ?_, absent⟩))
      cases inside <;> exact opened
  · rename_i unopened
    rw [beq_iff_eq] at unopened
    cases cut : splitLast ':' host with
    | none => exact Or.inl rfl
    | some parts =>
      obtain ⟨name, port⟩ := parts
      obtain rfl := splitLast_eq_some cut
      dsimp only
      split
      · rename_i ported
        simp only [Bool.and_eq_true, Bool.not_eq_true', List.contains_eq_mem, decide_eq_false_iff_not] at ported
        exact Or.inr (isBare_iff.mpr (Or.inl ⟨mt (head?_append_port name port).mpr unopened, ported.1⟩))
      · exact Or.inl rfl

theorem IsBare.withoutPort_eq (bare : IsBare host) : withoutPort host = host := by
  rcases isBare_iff.mp bare with ⟨name, absent⟩ | ⟨inside, closed, opened, absent⟩
  · exact withoutPort_of_name name absent
  · rw [withoutPort_of_brackets opened absent closed, closed]

/-- A port after a bare host is found. -/
theorem IsBare.withoutPort_append (bare : IsBare host)
    (number : (naturalBelow (Nat.pow 2 16) port).isSome = true) : withoutPort (host ++ ':' :: port) = host := by
  rcases isBare_iff.mp bare with ⟨name, absent⟩ | ⟨inside, rfl, opened, absent⟩
  · exact withoutPort_of_port (mt (head?_append_port host port).mp name) absent number rfl
  · have closed : inside ++ [']'] ++ ':' :: port = inside ++ ']' :: ':' :: port := by simp
    exact withoutPort_of_brackets ((head?_append_port _ port).mpr opened) absent closed

theorem withoutPort_withoutPort (host : List Char) : withoutPort (withoutPort host) = withoutPort host := by
  rcases withoutPort_eq_self_or_isBare host with whole | bare
  · rw [whole, whole]
  · exact bare.withoutPort_eq

/-- A route's host without port is compared with what is left of the request's. -/
theorem accepts_iff_of_noPort {route : String} (noPort : withoutPort route.toList = route.toList)
    (request : String) :
    accepts route request = true ↔
      route.toList.map Char.toLower = (withoutPort request.toList).map Char.toLower := by
  simp only [accepts, sameIgnoringCase, sameAscii, noPort, beq_self_eq_true, Bool.true_and, Bool.or_eq_true,
    beq_iff_eq]
  constructor
  · rintro (same | same)
    · rw [← withoutPort_map_toLower, ← same, withoutPort_map_toLower, noPort]
    · exact same.symm
  · exact fun same => Or.inr same.symm

theorem accepts_iff_of_port {route : String} (port : withoutPort route.toList ≠ route.toList)
    (request : String) : accepts route request = true ↔ lowerAscii route = lowerAscii request := by
  rw [accepts, beq_false_of_ne port, Bool.false_and, Bool.or_false, sameIgnoringCase_iff]

/-- A route's host without port takes a host, alone and at every port, exactly when they differ in case at most; one
with a port takes only itself. Both sides may be written in any case, and no second port is cut off. -/
theorem accepts_host_at_every_port (route : String) :
    (withoutPort route.toList = route.toList → ∀ host : String, IsBare host.toList → ∀ port < Nat.pow 2 16,
      accepts route host = accepts route (host ++ ":" ++ toString port) ∧
        (accepts route host = true ↔ lowerAscii route = lowerAscii host)) ∧
    (withoutPort route.toList ≠ route.toList → ∀ request,
      (accepts route request = true ↔ lowerAscii request = lowerAscii route)) ∧
    (∀ request otherRoute otherRequest, lowerAscii otherRoute = lowerAscii route →
      lowerAscii otherRequest = lowerAscii request →
      accepts otherRoute otherRequest = accepts route request) ∧
    ∀ host, withoutPort (withoutPort host) = withoutPort host := by
  refine ⟨?_, ?_, ?_, withoutPort_withoutPort⟩
  · intro noPort host bare port below
    have number : (naturalBelow (Nat.pow 2 16) (toString port).toList).isSome = true := by
      rw [naturalBelow_toString below]
      rfl
    have ported : (host ++ ":" ++ toString port).toList = host.toList ++ ':' :: (toString port).toList := by
      simp
    have alone := accepts_iff_of_noPort noPort host
    have atPort := accepts_iff_of_noPort noPort (host ++ ":" ++ toString port)
    rw [bare.withoutPort_eq] at alone
    rw [ported, bare.withoutPort_append number] at atPort
    refine ⟨Bool.eq_iff_iff.mpr (alone.trans atPort.symm), ?_⟩
    rw [alone, lowerAscii, lowerAscii, String.ofList_inj]
  · intro port request
    rw [accepts_iff_of_port port, eq_comm]
  · intro request otherRoute otherRequest sameRoute sameRequest
    rw [accepts_congr_route sameRoute, accepts_congr route sameRequest]

/-- The colons inside brackets are no port, and the one behind them is. -/
theorem accepts_host_at_every_port_of_brackets :
    withoutPort "[::A]".toList = "[::A]".toList ∧ IsBare "[::a]".toList ∧ 8080 < Nat.pow 2 16 ∧
      accepts "[::A]" "[::a]" = true ∧ accepts "[::A]" ("[::a]" ++ ":" ++ toString 8080) = true ∧
      withoutPort "[::A]:81".toList ≠ "[::A]:81".toList ∧ accepts "[::A]:81" "[::a]" = false ∧
      lowerAscii "[::a]:81" = lowerAscii "[::A]:81" ∧ accepts "[::a]:81" "[::A]:81" = true := by
  have noPort : withoutPort "[::A]".toList = "[::A]".toList := by decide
  have bare : IsBare "[::a]".toList := by decide
  have port : withoutPort "[::A]:81".toList ≠ "[::A]:81".toList := by decide
  have plain := (accepts_host_at_every_port "[::A]").1 noPort "[::a]" bare 8080 (by decide)
  have ported := (accepts_host_at_every_port "[::A]:81").2.1 port
  have folded := (accepts_host_at_every_port "[::A]:81").2.2.1
  have taken : accepts "[::A]" "[::a]" = true := plain.2.mpr (by decide)
  have other : accepts "[::A]:81" "[::a]" = false :=
    Bool.eq_false_iff.mpr (mt (ported "[::a]").mp (by decide))
  have own : accepts "[::a]:81" "[::A]:81" = true :=
    (folded "[::A]:81" "[::a]:81" "[::A]:81" (by decide) rfl).trans ((ported "[::A]:81").mpr rfl)
  exact ⟨noPort, bare, by decide, taken, plain.1.symm.trans taken, port, other, by decide, own⟩

end GatewayRouting.Host
