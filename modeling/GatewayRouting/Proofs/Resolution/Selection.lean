import GatewayRouting.Resolution
import Mathlib.Data.List.MinMax
import Mathlib.Data.Prod.Lex

/-!
Resolution passes over candidates that cannot outrank the best one so far. It chooses as if every
candidate were matched first and the greatest rank taken afterwards.
-/

set_option autoImplicit false

namespace GatewayRouting

namespace HeaderTrigger

/-- Whether a request meets the header templates, each by the first value that can be read and matches. -/
def isMetBy (request : Request) (templates : List HeaderTemplate) : HeaderTrigger → Bool
  | .all => templates.all fun t => (t.captureFrom request).isSome
  | .any => templates.any fun t => (t.captureFrom request).isSome

end HeaderTrigger

namespace Upstream

/-- The filters of a route other than its header templates. -/
def acceptsTarget (u : Upstream) (request : Request) : Bool :=
  u.allowsMethod request.method && u.allowsHost request.host &&
    u.template.isMatch request.path request.query

/-- All filters of a route. A route without header templates demands nothing of the headers. -/
def accepts (u : Upstream) (request : Request) : Bool :=
  u.acceptsTarget request &&
    (u.headerTemplates.isEmpty || u.headerTrigger.isMetBy request u.headerTemplates)

/-- What a route captures from a request that it accepts. -/
def placeholders (u : Upstream) (request : Request) : List Capture :=
  (u.template.capturePath request.path).getD [] ++
    (u.template.captureQuery request.query).getD [] ++
    u.headerTemplates.flatMap fun t => (t.captureFrom request).getD []

end Upstream

namespace RouteTo

/-- Rank as a pair: the template priority first, then whether the route is bound to a host. -/
def rankPair (c : Candidate) : ℕ ×ₗ Bool := toLex (c.priority, c.upstream.host.isSome)

end RouteTo

/-- The first candidate of the greatest rank among those that satisfy `keeps`. -/
def chooseAmong (keeps : Candidate → Bool) (candidates : List Candidate) (request : Request) :
    Resolution :=
  match (candidates.filter keeps).argmax RouteTo.rankPair with
  | some c => .matched ⟨c, c.upstream.placeholders request⟩
  | none => .notFound

namespace Upstream

theorem flatten_filterMap_captureFrom (templates : List HeaderTemplate) (request : Request) :
    (templates.filterMap (·.captureFrom request)).flatten =
      templates.flatMap fun t => (t.captureFrom request).getD [] := by
  induction templates with
  | nil => rfl
  | cons t rest ih => cases captured : t.captureFrom request <;> simp [captured, ih]

theorem filterMap_length_eq_iff (templates : List HeaderTemplate) (request : Request) :
    (templates.filterMap (·.captureFrom request)).length = templates.length ↔
      ∀ t ∈ templates, (t.captureFrom request).isSome := by
  rw [← List.countP_eq_length, List.length_filterMap_eq_countP]

theorem filterMap_isEmpty_eq (templates : List HeaderTemplate) (request : Request) :
    (!(templates.filterMap (·.captureFrom request)).isEmpty) =
      templates.any fun t => (t.captureFrom request).isSome := by
  induction templates with
  | nil => rfl
  | cons t rest ih => cases captured : t.captureFrom request <;> simp [captured, ← ih]

theorem captureHeaders_eq (u : Upstream) (request : Request) :
    u.captureHeaders request =
      if u.headerTemplates.isEmpty || u.headerTrigger.isMetBy request u.headerTemplates then
        some (u.headerTemplates.flatMap fun t => (t.captureFrom request).getD [])
      else none := by
  unfold captureHeaders
  dsimp only
  rw [flatten_filterMap_captureFrom]
  cases trigger : u.headerTrigger with
  | any =>
    simp only [HeaderTrigger.isMetBy, filterMap_isEmpty_eq]
    rfl
  | all =>
    have enough : ((u.headerTemplates.filterMap (·.captureFrom request)).length ==
        u.headerTemplates.length) = (u.headerTemplates.isEmpty ||
          u.headerTemplates.all fun t => (t.captureFrom request).isSome) := by
      rw [Bool.eq_iff_iff, beq_iff_eq, filterMap_length_eq_iff]
      cases u.headerTemplates <;> simp
    simp only [HeaderTrigger.isMetBy, enough]
    rfl

/-- A route matches as a whole exactly when each of its filters accepts. -/
theorem captures_eq (u : Upstream) (request : Request) :
    u.captures request = if u.accepts request then some (u.placeholders request) else none := by
  unfold captures accepts acceptsTarget placeholders UpstreamTemplate.isMatch UpstreamTemplate.captures
  rw [captureHeaders_eq]
  cases u.allowsMethod request.method <;> cases u.allowsHost request.host <;>
    cases u.template.capturePath request.path <;> cases u.template.captureQuery request.query <;>
    simp
  split <;> simp

end Upstream

namespace Rank

theorem lower_rank_iff (c d : Candidate) : c.rank.lower d.rank = true ↔ c.rankPair < d.rankPair := by
  change (decide (c.priority < d.priority) || (c.priority == d.priority &&
    !c.upstream.host.isSome && d.upstream.host.isSome)) = true ↔ _
  simp only [RouteTo.rankPair, Prod.Lex.toLex_lt_toLex, Bool.or_eq_true, decide_eq_true_eq,
    Bool.and_eq_true, beq_iff_eq, Bool.not_eq_true', and_assoc, Bool.lt_iff]

end Rank

/-- One step of the search: a candidate replaces the best one so far exactly when it is accepted and
of greater rank. Not matching it at all is right because a candidate of no greater rank changes nothing. -/
theorem improve_chooseAmong (candidates : List Candidate) (c : Candidate) (request : Request) :
    Resolution.improve request
        (chooseAmong (fun d => d.upstream.accepts request) candidates request) c =
      chooseAmong (fun d => d.upstream.accepts request) (candidates ++ [c]) request := by
  unfold chooseAmong
  rw [List.filter_append]
  by_cases accepted : c.upstream.accepts request = true
  · rw [List.filter_singleton, accepted, cond_true, List.argmax_concat]
    cases best : (candidates.filter fun d => d.upstream.accepts request).argmax RouteTo.rankPair with
    | none => simp [Resolution.improve, Resolution.holdsAgainst, Upstream.captures_eq, accepted]
    | some b =>
      by_cases greater : b.rankPair < c.rankPair
      · have outranks := (Rank.lower_rank_iff b c).mpr greater
        simp [Resolution.improve, Resolution.holdsAgainst, Upstream.captures_eq, accepted, greater,
          outranks]
      · have holds : b.rank.lower c.rank = false := by
          rw [← Bool.not_eq_true, Rank.lower_rank_iff]
          exact greater
        simp [Resolution.improve, Resolution.holdsAgainst, greater, holds]
  · rw [List.filter_singleton, Bool.eq_false_of_not_eq_true accepted, cond_false, List.append_nil]
    have refused : c.upstream.captures request = none := by
      rw [Upstream.captures_eq, if_neg accepted]
    simp [Resolution.improve, refused]

/-- The invariant of the search over every front of the list. -/
theorem resolve_eq_chooseAmong (candidates : List Candidate) (request : Request) :
    resolve candidates request =
      chooseAmong (fun c => c.upstream.accepts request) candidates request := by
  induction candidates using List.reverseRecOn with
  | nil => rfl
  | append_singleton before c ih =>
    rw [← improve_chooseAmong, ← ih]
    simp only [resolve, List.foldl_append, List.foldl_cons, List.foldl_nil]

section Permutation

variable {α β : Type} [LinearOrder β] {f : α → β}

theorem head?_filter_of_argmax {l : List α} {m : α} (greatest : l.argmax f = some m) :
    (l.filter fun a => f a = f m).head? = some m := by
  induction l with
  | nil => simp at greatest
  | cons a rest ih =>
    rw [List.argmax_cons] at greatest
    cases tail : rest.argmax f with
    | none =>
      rw [tail] at greatest
      cases greatest
      simp
    | some b =>
      rw [tail] at greatest
      dsimp only at greatest
      by_cases below : f a < f b
      · rw [if_pos below] at greatest
        cases greatest
        rw [List.filter_cons_of_neg (by simpa using below.ne)]
        exact ih tail
      · rw [if_neg below] at greatest
        cases greatest
        simp

/-- Only the order among items of equal value decides which of the greatest comes first. -/
theorem argmax_congr_of_filter {l k : List α}
    (same : ∀ value, (l.filter fun a => f a = value) = k.filter fun a => f a = value) :
    l.argmax f = k.argmax f := by
  have members : ∀ a, a ∈ l ↔ a ∈ k := by
    intro a
    have classes : (a ∈ l.filter fun b => f b = f a) ↔ a ∈ k.filter fun b => f b = f a := by
      rw [same]
    simpa using classes
  cases left : l.argmax f with
  | none =>
    have empty : k = [] := by
      rw [List.argmax_eq_none] at left
      subst left
      exact List.eq_nil_iff_forall_not_mem.mpr fun a inside => by simpa using (members a).mpr inside
    rw [empty, List.argmax_nil]
  | some m =>
    have inside : m ∈ k := (members m).mp (List.argmax_mem left)
    cases right : k.argmax f with
    | none => simp [List.argmax_eq_none.mp right] at inside
    | some n =>
      have upper : f m ≤ f n := List.le_of_mem_argmax inside right
      have lower : f n ≤ f m :=
        List.le_of_mem_argmax ((members n).mpr (List.argmax_mem right)) left
      have first := head?_filter_of_argmax left
      rwa [le_antisymm upper lower, same, head?_filter_of_argmax right, eq_comm] at first

end Permutation

theorem chooseAmong_congr (keeps : Candidate → Bool) (request : Request)
    {candidates others : List Candidate}
    (same : ∀ rank, (others.filter fun c => c.rankPair = rank) =
      candidates.filter fun c => c.rankPair = rank) :
    chooseAmong keeps others request = chooseAmong keeps candidates request := by
  unfold chooseAmong
  rw [argmax_congr_of_filter (f := RouteTo.rankPair) (k := candidates.filter keeps)]
  intro rank
  rw [List.filter_comm, same, List.filter_comm]

/-- Resolution answers the first candidate of the greatest rank among those whose filters all accept
the request, with its captures of the path, the query and the headers. Reordering the candidates
without reordering any of equal rank changes nothing. -/
theorem resolve_first_of_greatest_rank (candidates : List Candidate) (request : Request) :
    resolve candidates request =
        chooseAmong (fun c => c.upstream.accepts request) candidates request ∧
      ∀ others : List Candidate,
        (∀ rank, (others.filter fun c => c.rankPair = rank) =
          candidates.filter fun c => c.rankPair = rank) →
        resolve others request = resolve candidates request := by
  refine ⟨resolve_eq_chooseAmong candidates request, ?_⟩
  intro others same
  rw [resolve_eq_chooseAmong, resolve_eq_chooseAmong]
  exact chooseAmong_congr _ request same

/-- A route to the path `/` for one host or for all, without header templates. -/
def rootCandidate (host : Option String) : Candidate where
  identityKey := ""
  upstream :=
    { template :=
        { raw := "/", pieces := [.literal ['/']], kind := .root, caseSensitive := true
          pathNames := [], query := none }
      headerTrigger := .any
      host }
  downstream := {}
  target := .single (.hosts "http" [])

/-- A host-bound route wins over a wildcard of the same template, wherever they stand. -/
theorem resolve_bound_over_wildcard :
    resolve [rootCandidate none, rootCandidate (some "a")] ⟨⟨"GET"⟩, "/", none, some "a", []⟩ =
      resolve [rootCandidate (some "a"), rootCandidate none] ⟨⟨"GET"⟩, "/", none, some "a", []⟩ := by
  apply (resolve_first_of_greatest_rank _ _).2
  intro rank
  have apart : (rootCandidate none).rankPair ≠ (rootCandidate (some "a")).rankPair := by decide
  by_cases wildcard : (rootCandidate none).rankPair = rank
  · subst wildcard
    simp [apart.symm]
  · by_cases bound : (rootCandidate (some "a")).rankPair = rank <;> simp [wildcard, bound]

/-- Read without the exception for routes that have no header templates, "at least one under `any`"
would turn this request away. -/
theorem resolve_any_without_templates :
    resolve [rootCandidate none] ⟨⟨"GET"⟩, "/", none, none, []⟩ ≠
      chooseAmong
        (fun c => c.upstream.acceptsTarget ⟨⟨"GET"⟩, "/", none, none, []⟩ &&
          c.upstream.headerTrigger.isMetBy ⟨⟨"GET"⟩, "/", none, none, []⟩ c.upstream.headerTemplates)
        [rootCandidate none] ⟨⟨"GET"⟩, "/", none, none, []⟩ := by
  decide

end GatewayRouting
