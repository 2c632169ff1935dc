import GatewayRouting.Proofs.Cache.Key
import GatewayRouting.Proofs.Except
import Mathlib.Logic.Relation

/-!
What demands look at in a query: for each of their keys the values that the query has for it, in order.
Queries that agree on these are captured from alike, and so are requests with such queries routed alike.
-/

set_option autoImplicit false

namespace GatewayRouting

namespace Query

/-- The values that parameters have for a key, undecoded and in order. -/
def valuesOf (key : String) (parameters : List Parameter) : List String :=
  (parameters.filter (·.hasKey key)).map (·.value)

/-- The parameters have the same values for every key that is demanded. -/
def AgreeOn (list : List Demand) (these those : List Parameter) : Prop :=
  ∀ d ∈ list, valuesOf d.key these = valuesOf d.key those

instance (list : List Demand) (these those : List Parameter) : Decidable (AgreeOn list these those) := by
  unfold AgreeOn
  infer_instance

/-- A change to parameters that demands do not look at: two of different keys change places, a key is
spelled in another way, or a parameter that is not demanded is left out. -/
inductive Change (list : List Demand) : List Parameter → List Parameter → Prop
  | swap (front : List Parameter) {p q : Parameter} (rest : List Parameter) :
      Text.sameIgnoringCase p.decodedKey q.decodedKey = false →
      Change list (front ++ p :: q :: rest) (front ++ q :: p :: rest)
  | respell (front : List Parameter) {p q : Parameter} (rest : List Parameter) :
      Text.sameIgnoringCase p.decodedKey q.decodedKey = true → p.value = q.value →
      Change list (front ++ p :: rest) (front ++ q :: rest)
  | leaveOut (front : List Parameter) {p : Parameter} (rest : List Parameter) :
      (∀ d ∈ list, p.hasKey d.key = false) → Change list (front ++ p :: rest) (front ++ rest)

variable {list : List Demand} {these those : List Parameter}

theorem valuesOf_append (key : String) (front rest : List Parameter) :
    valuesOf key (front ++ rest) = valuesOf key front ++ valuesOf key rest := by
  rw [valuesOf, List.filter_append, List.map_append]
  rfl

theorem valuesOf_cons (key : String) (p : Parameter) (rest : List Parameter) :
    valuesOf key (p :: rest) = (if p.hasKey key then [p.value] else []) ++ valuesOf key rest := by
  unfold valuesOf
  rw [List.filter_cons]
  split <;> rfl

/-- A key is at most one of two that differ. -/
theorem hasKey_of_different {p q : Parameter} (apart : Text.sameIgnoringCase p.decodedKey q.decodedKey = false)
    {key : String} (own : p.hasKey key = true) : q.hasKey key = false := by
  cases other : q.hasKey key with
  | false => rfl
  | true =>
    have same := (Text.sameIgnoringCase_iff.mp own).trans (Text.sameIgnoringCase_iff.mp other).symm
    rw [Text.sameIgnoringCase_iff.mpr same] at apart
    cases apart

theorem hasKey_of_same {p q : Parameter} (same : Text.sameIgnoringCase p.decodedKey q.decodedKey = true)
    (key : String) : p.hasKey key = q.hasKey key := by
  rw [Bool.eq_iff_iff]
  unfold Parameter.hasKey
  rw [Text.sameIgnoringCase_iff, Text.sameIgnoringCase_iff, Text.sameIgnoringCase_iff.mp same]

theorem Change.agreeOn (change : Change list these those) : AgreeOn list these those := by
  intro d listed
  cases change with
  | @swap front p q rest apart =>
    simp only [valuesOf_append, valuesOf_cons]
    cases own : p.hasKey d.key with
    | false => simp
    | true => simp [hasKey_of_different apart own]
  | respell front rest same value =>
    simp only [valuesOf_append, valuesOf_cons, hasKey_of_same same, value]
  | leaveOut front rest absent =>
    simp [valuesOf_append, valuesOf_cons, absent d listed]

/-- Any number of such changes, made or taken back. -/
theorem agreeOn_of_changes (changes : Relation.EqvGen (Change list) these those) :
    AgreeOn list these those := by
  induction changes with
  | rel _ _ change => exact change.agreeOn
  | refl _ => exact fun _ _ => rfl
  | symm _ _ _ ih => exact fun d listed => (ih d listed).symm
  | trans _ _ _ _ _ first later => exact fun d listed => (first d listed).trans (later d listed)

end Query

namespace QueryTemplate

open Query (valuesOf AgreeOn)

variable {list : List Demand} {these those : List Parameter}

/-- A demand is met, and captures, by the values of its own key. -/
theorem captureDemand_eq (parameters : List Parameter) (d : Demand) :
    captureDemand parameters d =
      match d.value with
      | .literal text =>
        if (valuesOf d.key parameters).any (Text.percentDecoded · == text) then some [] else none
      | .placeholder name => (valuesOf d.key parameters).head?.map fun value => [⟨name, value⟩] := by
  unfold captureDemand valuesOf
  cases d.value with
  | literal text =>
    dsimp only
    rw [List.any_map]
    rfl
  | placeholder name =>
    dsimp only
    rw [List.head?_map, Option.map_map]
    rfl

theorem captureDemands_congr (agree : AgreeOn list these those) :
    captureDemands these list = captureDemands those list := by
  induction list with
  | nil => rfl
  | cons d rest ih =>
    obtain ⟨first, others⟩ := List.forall_mem_cons.mp agree
    rw [captureDemands, captureDemands, ih others, captureDemand_eq, captureDemand_eq, first]

/-- Nothing is captured from a query but by demands of the list. -/
def LooksAt (list : List Demand) : Option QueryTemplate → Prop
  | none => True
  | some (.catchAll _) => False
  | some (.demands own) => own ⊆ list

end QueryTemplate

namespace UpstreamTemplate

open Query (AgreeOn)

variable {list : List Demand} {t : UpstreamTemplate} {query other : Option String}

theorem captures_congr_of_looksAt (looks : QueryTemplate.LooksAt list t.query)
    (agree : AgreeOn list (Query.parameters (query.getD "")) (Query.parameters (other.getD "")))
    (path : String) : t.captures path query = t.captures path other := by
  have onQuery : t.captureQuery query = t.captureQuery other := by
    unfold captureQuery
    unfold QueryTemplate.LooksAt at looks
    split at looks
    · rename_i absent
      rw [absent]
    · cases looks
    · rename_i own demands
      rw [demands]
      exact QueryTemplate.captureDemands_congr fun d listed => agree d (looks listed)
  rw [captures, captures, onQuery]

/-- Demands look at nothing in a query but at the values of their keys: what is captured is the same, for
every path, from queries that agree on these. Queries agree when one comes from the other by parameters of
different keys changing places, keys being spelled in another way, and parameters that are not demanded
coming and going. A request is resolved alike with either query where no template demands more. -/
theorem captures_eq_of_agreeOn (list : List Demand) :
    (∀ t : UpstreamTemplate, t.query = some (.demands list) → ∀ query other : Option String,
      AgreeOn list (Query.parameters (query.getD "")) (Query.parameters (other.getD "")) →
        ∀ path, t.captures path query = t.captures path other) ∧
    (∀ these those, Relation.EqvGen (Query.Change list) these those → AgreeOn list these those) ∧
    ∀ candidates : List Candidate,
      (∀ c ∈ candidates, QueryTemplate.LooksAt list c.upstream.template.query) →
        ∀ (request : Request) (other : Option String),
          AgreeOn list (Query.parameters (request.query.getD "")) (Query.parameters (other.getD "")) →
            resolve candidates { request with query := other } = resolve candidates request := by
  refine ⟨?_, fun _ _ => Query.agreeOn_of_changes, ?_⟩
  · intro t demands query other agree
    have looks : QueryTemplate.LooksAt list t.query := by
      rw [demands]
      exact List.Subset.refl list
    exact captures_congr_of_looksAt looks agree
  · intro candidates looks request other agree
    apply resolve_congr
    intro c listed
    have same := captures_congr_of_looksAt (looks c listed) agree request.path
    unfold Upstream.captures
    rw [same]
    rfl

/-- A query in another order, with an escape in a key and without the parameter that is not demanded. -/
theorem captures_eq_of_respelledKey :
    ∃ t, compile "/u?kind=full&since=\x7bs\x7d" false = .ok t ∧
      t.captures "/u" (some "KIND=full&x=1&since=a%20b&since=c") = some [⟨"s", "a%20b"⟩] ∧
      t.captures "/u" (some "since=a%20b&since=c&%6Bind=full") = some [⟨"s", "a%20b"⟩] := by
  have evaluated : (compile "/u?kind=full&since=\x7bs\x7d" false).map (fun t =>
      (t.query, t.captures "/u" (some "KIND=full&x=1&since=a%20b&since=c"))) =
      .ok (some (.demands [⟨"kind", .literal "full"⟩, ⟨"since", .placeholder "s"⟩]),
        some [⟨"s", "a%20b"⟩]) := by
    decide +kernel
  obtain ⟨t, accepted, same⟩ := map_eq_ok.mp evaluated
  obtain ⟨demands, captured⟩ := Prod.mk.inj same
  have agree : AgreeOn [⟨"kind", .literal "full"⟩, ⟨"since", .placeholder "s"⟩]
      (Query.parameters "KIND=full&x=1&since=a%20b&since=c")
      (Query.parameters "since=a%20b&since=c&%6Bind=full") := by
    decide +kernel
  have same := (captures_eq_of_agreeOn _).1 t demands (some "KIND=full&x=1&since=a%20b&since=c")
    (some "since=a%20b&since=c&%6Bind=full") agree "/u"
  exact ⟨t, accepted, captured, same ▸ captured⟩

end UpstreamTemplate

end GatewayRouting
