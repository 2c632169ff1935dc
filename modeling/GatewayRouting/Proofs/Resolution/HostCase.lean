import GatewayRouting.Proofs.Text.AsciiCase
import GatewayRouting.Proofs.Text.Cutting
import GatewayRouting.Resolution

/-!
Hosts are compared without regard to ASCII case: brackets, colons and port digits have no case.
-/

set_option autoImplicit false

namespace GatewayRouting.Host

open Text

theorem head?_bracket_map_toLower (host : List Char) :
    ((host.map Char.toLower).head? == some '[') = (host.head? == some '[') := by
  cases host with
  | nil => rfl
  | cons c rest =>
    rw [Bool.eq_iff_iff]
    simp [toLower_eq_iff (show '['.isAlpha = false by decide)]

theorem contains_colon_map_toLower (name : List Char) :
    (name.map Char.toLower).contains ':' = name.contains ':' := by
  rw [Bool.eq_iff_iff]
  simp [toLower_eq_iff (show ':'.isAlpha = false by decide)]

/-- The port of a host is found in the same place in every case. -/
theorem withoutPort_map_toLower (host : List Char) :
    withoutPort (host.map Char.toLower) = (withoutPort host).map Char.toLower := by
  unfold withoutPort
  rw [head?_bracket_map_toLower, splitOnce_map_toLower (by decide), splitLast_map_toLower (by decide)]
  split
  · cases splitOnce ']' host with
    | none => rfl
    | some parts =>
      obtain ⟨inside, after⟩ := parts
      simp only [Option.map_some, List.map_append, List.map_cons, List.map_nil]
      rfl
  · cases splitLast ':' host with
    | none => rfl
    | some parts =>
      obtain ⟨name, port⟩ := parts
      simp only [Option.map_some, contains_colon_map_toLower, naturalBelow_map_toLower]
      split <;> rfl

theorem accepts_congr (route : String) {a b : String} (same : lowerAscii a = lowerAscii b) :
    accepts route a = accepts route b := by
  have texts : a.toList.map Char.toLower = b.toList.map Char.toLower := String.ofList_inj.mp same
  have ports : (withoutPort a.toList).map Char.toLower = (withoutPort b.toList).map Char.toLower := by
    rw [← withoutPort_map_toLower, ← withoutPort_map_toLower, texts]
  simp only [accepts, sameIgnoringCase, sameAscii, texts, ports]

theorem prefix_withoutPort (host : List Char) : withoutPort host <+: host := by
  unfold withoutPort
  split
  · cases cut : splitOnce ']' host with
    | none => exact List.prefix_rfl
    | some parts =>
      obtain ⟨inside, after⟩ := parts
      exact ⟨after, by simp [(splitOnce_eq_some cut).1]⟩
  · cases cut : splitLast ':' host with
    | none => exact List.prefix_rfl
    | some parts =>
      obtain ⟨name, port⟩ := parts
      dsimp only
      split
      · exact ⟨':' :: port, (splitLast_eq_some cut).symm⟩
      · exact List.prefix_rfl

/-- Whether a host has a port does not depend on case. -/
theorem withoutPort_eq_self_congr {a b : List Char} (same : a.map Char.toLower = b.map Char.toLower) :
    withoutPort a = a ↔ withoutPort b = b := by
  have whole (host : List Char) : withoutPort host = host ↔ (withoutPort host).length = host.length :=
    ⟨congrArg List.length, (prefix_withoutPort host).eq_of_length⟩
  have sizes := congrArg List.length same
  have cut := congrArg List.length (congrArg withoutPort same)
  rw [withoutPort_map_toLower, withoutPort_map_toLower] at cut
  rw [List.length_map, List.length_map] at sizes cut
  rw [whole, whole, sizes, cut]

/-- Routes whose hosts differ in case only take the same hosts. -/
theorem accepts_congr_route {a b : String} (same : lowerAscii a = lowerAscii b) (request : String) :
    accepts a request = accepts b request := by
  have texts : a.toList.map Char.toLower = b.toList.map Char.toLower := String.ofList_inj.mp same
  have bare : (withoutPort a.toList == a.toList) = (withoutPort b.toList == b.toList) := by
    rw [Bool.eq_iff_iff, beq_iff_eq, beq_iff_eq, withoutPort_eq_self_congr texts]
  simp only [accepts, sameIgnoringCase, sameAscii, texts, bare]

end GatewayRouting.Host
