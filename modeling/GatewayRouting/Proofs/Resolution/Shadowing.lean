import GatewayRouting.Proofs.Resolution.HostCase
import GatewayRouting.Proofs.Resolution.Selection
import GatewayRouting.Proofs.Route.Filters
import GatewayRouting.Proofs.Template.QueryOutline

/-!
Routes that a route before them shadows. The check for duplicates compares templates, hosts, methods and header
templates; of two routes that it reports the second is never reached where the first is no stricter in what is
left: case, the trigger of the header templates and the values in the query.
-/

set_option autoImplicit false

namespace GatewayRouting

/-- A route takes a request that another one takes no more strictly, in what the check for duplicates does
not compare. -/
structure Upstream.NoStricter (u v : Upstream) : Prop where
  caseMode : u.template.caseSensitive = true → v.template.caseSensitive = true
  trigger : u.headerTrigger = .all → v.headerTrigger = .any → u.headerTemplates.length ≤ 1
  literals : u.template.queryLiterals = v.template.queryLiterals

theorem UpstreamTemplate.isMatch_eq (t : UpstreamTemplate) (path : String) (query : Option String) :
    t.isMatch path query = ((t.capturePath path).isSome && (t.captureQuery query).isSome) := by
  unfold isMatch captures
  cases t.capturePath path <;> cases t.captureQuery query <;> rfl

namespace HeaderTemplate

variable {name template : String} {strict loose : Bool} {t u : HeaderTemplate} {request : Request}

/-- A header template that is met is met where case counts for less. -/
theorem isSome_captureFrom_of_compile (weaker : loose = true → strict = true)
    (compiled : compile name template loose = .ok t) (otherCompiled : compile name template strict = .ok u)
    (captured : (u.captureFrom request).isSome = true) : (t.captureFrom request).isSome = true := by
  obtain ⟨tokens, read, _, rfl⟩ := compile_eq_ok_iff.mp compiled
  obtain ⟨others, otherRead, _, rfl⟩ := compile_eq_ok_iff.mp otherCompiled
  cases read.symm.trans otherRead
  have each (value : String) (fits : ((ofTokens name template strict tokens).captures value).isSome = true) :
      ((ofTokens name template loose tokens).captures value).isSome = true := by
    rw [captures, Option.isSome_map] at fits ⊢
    exact Pattern.isSome_capture_of_sensitive weaker fits
  rw [captureFrom, List.findSome?_isSome_iff] at captured ⊢
  obtain ⟨value, sent, met⟩ := captured
  refine ⟨value, sent, ?_⟩
  split at met
  · rename_i readable
    rw [if_pos readable]
    exact each value met
  · cases met

end HeaderTemplate

namespace HeaderTrigger

/-- Header templates that are met under one trigger are met under another that is no stricter. -/
theorem isMetBy_of_noStricter {templates others : List HeaderTemplate} {trigger other : HeaderTrigger}
    {request : Request}
    (each : List.Forall₂ (fun t u => (u.captureFrom request).isSome = true →
      (t.captureFrom request).isSome = true) templates others)
    (few : trigger = .all → other = .any → templates.length ≤ 1)
    (met : (others.isEmpty || other.isMetBy request others) = true) :
    (templates.isEmpty || trigger.isMetBy request templates) = true := by
  cases each with
  | nil => rfl
  | @cons t u templates others first rest =>
    simp only [List.isEmpty_cons, Bool.false_or] at met ⊢
    have all (known : ∀ u ∈ others, (u.captureFrom request).isSome = true) :
        ∀ t ∈ templates, (t.captureFrom request).isSome = true := by
      intro t inside
      obtain ⟨u, listed, stronger⟩ := exists_of_forall₂ rest.flip inside
      exact stronger (known u listed)
    have some (known : ∃ u ∈ others, (u.captureFrom request).isSome = true) :
        ∃ t ∈ templates, (t.captureFrom request).isSome = true := by
      obtain ⟨u, inside, found⟩ := known
      obtain ⟨t, listed, stronger⟩ := exists_of_forall₂ rest inside
      exact ⟨t, listed, stronger found⟩
    cases trigger with
    | all =>
      cases other with
      | all =>
        simp only [isMetBy, List.all_cons, Bool.and_eq_true, List.all_eq_true] at met ⊢
        exact ⟨first met.1, all met.2⟩
      | any =>
        have single : templates = [] := by simpa using few rfl rfl
        subst single
        cases rest
        simp only [isMetBy, List.any_cons, List.any_nil, List.all_cons, List.all_nil, Bool.or_false,
          Bool.and_true] at met ⊢
        exact first met
    | any =>
      cases other with
      | all =>
        simp only [isMetBy, List.all_cons, List.any_cons, Bool.and_eq_true, Bool.or_eq_true] at met ⊢
        exact Or.inl (first met.1)
      | any =>
        simp only [isMetBy, List.any_cons, Bool.or_eq_true, List.any_eq_true] at met ⊢
        exact met.imp first some

end HeaderTrigger

namespace RouteSection

variable {a b : RouteSection} {u v : Upstream}

theorem CompilesTo.headers_noStricter (first : a.CompilesTo u) (second : b.CompilesTo v)
    (headers : a.headerTemplates = b.headerTemplates) (weaker : a.caseSensitive = true → b.caseSensitive = true)
    (request : Request) :
    List.Forall₂ (fun t k => (k.captureFrom request).isSome = true → (t.captureFrom request).isSome = true)
      u.headerTemplates v.headerTemplates := by
  have compiled := first.headers
  have otherCompiled := second.headers
  rw [← headers] at otherCompiled
  generalize a.headerTemplates.entries = entries at compiled otherCompiled
  generalize u.headerTemplates = templates at compiled
  generalize v.headerTemplates = others at otherCompiled
  induction compiled generalizing others with
  | nil =>
    cases otherCompiled
    exact .nil
  | cons own _ ih =>
    cases otherCompiled with
    | cons otherOwn otherRest =>
      exact .cons (HeaderTemplate.isSome_captureFrom_of_compile weaker own otherOwn) (ih _ otherRest)

theorem CompilesTo.allowsHost_eq (first : a.CompilesTo u) (second : b.CompilesTo v)
    (host : a.upstreamHost.map Text.lowerAscii = b.upstreamHost.map Text.lowerAscii)
    (asked : Option String) : u.allowsHost asked = v.allowsHost asked := by
  unfold Upstream.allowsHost
  rw [first.host, second.host]
  cases own : a.upstreamHost with
  | none =>
    rw [own, Option.map_none, eq_comm, Option.map_eq_none_iff] at host
    rw [host]
  | some name =>
    rw [own, Option.map_some, eq_comm, Option.map_eq_some_iff] at host
    obtain ⟨other, known, same⟩ := host
    rw [known]
    cases asked with
    | none => rfl
    | some request => exact (Host.accepts_congr_route same request).symm

/-- Of two sections that agree as they are written, the first takes every request that the second takes, if it
is no stricter and takes the method. -/
theorem CompilesTo.accepts_of_sameAsWritten (first : a.CompilesTo u) (second : b.CompilesTo v)
    (same : a.SameAsWritten b) (noStricter : u.NoStricter v) {request : Request}
    (method : u.allowsMethod request.method = true) (accepted : v.accepts request = true) :
    u.accepts request = true := by
  have weaker : a.caseSensitive = true → b.caseSensitive = true := by
    rw [← UpstreamTemplate.caseSensitive_of_compile first.template,
      ← UpstreamTemplate.caseSensitive_of_compile second.template]
    exact noStricter.caseMode
  have texts := same.template.lowerAscii_eq
  have headers := first.headers_noStricter second same.headers weaker request
  simp only [Upstream.accepts, Upstream.acceptsTarget, Bool.and_eq_true] at accepted ⊢
  obtain ⟨⟨⟨_, host⟩, target⟩, met⟩ := accepted
  refine ⟨⟨⟨method, ?_⟩, ?_⟩, HeaderTrigger.isMetBy_of_noStricter headers noStricter.trigger met⟩
  · rwa [first.allowsHost_eq second same.host]
  · rw [UpstreamTemplate.isMatch_eq, Bool.and_eq_true] at target ⊢
    have exact : b.caseSensitive = true → a.upstreamPathTemplate = b.upstreamPathTemplate :=
      fun sensitive => same.template.eq_of_caseSensitive (Or.inr sensitive)
    refine ⟨UpstreamTemplate.isSome_capturePath_of_compile texts exact weaker first.template
      second.template target.1, ?_⟩
    rw [UpstreamTemplate.isSome_captureQuery_of_compile texts noStricter.literals first.template
      second.template]
    exact target.2

/-- Sections that agree as they are written make routes of one rank. -/
theorem rankPair_of_sameAsWritten {global : GlobalSection} {r s : Route}
    (first : (a.assemble global).result = .ok r) (second : (b.assemble global).result = .ok s)
    (same : a.SameAsWritten b) : r.toCandidate.rankPair = s.toCandidate.rankPair := by
  have compiled := compilesTo_of_assemble first
  have otherCompiled := compilesTo_of_assemble second
  have kind : r.upstream.template.kind = s.upstream.template.kind :=
    (UpstreamTemplate.outline_of_compile same.template.lowerAscii_eq compiled.template
      otherCompiled.template).2.1
  have bound : r.upstream.host.isSome = s.upstream.host.isSome := by
    rw [compiled.host, otherCompiled.host]
    simpa using congrArg Option.isSome same.host
  change toLex (r.upstream.template.kind.priority, r.upstream.host.isSome) =
    toLex (s.upstream.template.kind.priority, s.upstream.host.isSome)
  rw [kind, bound]

end RouteSection

section Shadowed

variable {c d : Candidate} {request : Request}

/-- A candidate changes nothing where one before it, of its rank, accepts whatever it accepts. -/
theorem improve_of_shadowed {front : List Candidate} (before : c ∈ front)
    (rank : c.rankPair = d.rankPair)
    (shadows : d.upstream.accepts request = true → c.upstream.accepts request = true) :
    Resolution.improve request (resolve front request) d = resolve front request := by
  unfold Resolution.improve
  split
  · rfl
  · rename_i unheld
    rw [Upstream.captures_eq]
    by_cases accepted : d.upstream.accepts request = true
    · exfalso
      apply unheld
      have candidate : c ∈ front.filter fun c => c.upstream.accepts request :=
        List.mem_filter.mpr ⟨before, shadows accepted⟩
      rw [resolve_eq_chooseAmong, chooseAmong]
      cases best : (front.filter fun c => c.upstream.accepts request).argmax RouteTo.rankPair with
      | none =>
        rw [List.argmax_eq_none.mp best] at candidate
        cases candidate
      | some m =>
        have greatest : c.rankPair ≤ m.rankPair := List.le_of_mem_argmax candidate best
        have notLower : ¬m.rank.lower d.rank = true := by
          rw [Rank.lower_rank_iff, ← rank]
          exact not_lt.mpr greatest
        simpa [Resolution.holdsAgainst] using notLower
    · rw [if_neg accepted]

/-- Such a candidate may as well be left out. -/
theorem resolve_of_shadowed (rank : c.rankPair = d.rankPair)
    (shadows : d.upstream.accepts request = true → c.upstream.accepts request = true)
    (before between after : List Candidate) :
    resolve (before ++ c :: between ++ d :: after) request =
      resolve (before ++ c :: between ++ after) request := by
  have inside : c ∈ before ++ c :: between := by simp
  have same := improve_of_shadowed inside rank shadows
  unfold resolve at same ⊢
  rw [List.foldl_append, List.foldl_cons, same, ← List.foldl_append]

end Shadowed

namespace Configuration

/-- The check reports the pair of sections, of which the first is declared before the second. -/
structure Reports (config : Configuration) (a b : RouteSection) : Prop where
  inOrder : [a, b].Sublist config.routes
  duplicate : isDuplicate a b = true

/-- The check passes exactly when it has nothing to report. -/
theorem checkDuplicates_eq_ok_iff_reports {config : Configuration} :
    checkDuplicates config.routes = .ok () ↔ ∀ a b, ¬config.Reports a b := by
  rw [checkDuplicates_eq_ok, List.pairwise_iff_forall_sublist]
  constructor
  · intro none a b reported
    have unreported := none reported.inOrder
    rw [reported.duplicate] at unreported
    cases unreported
  · intro none a b inOrder
    exact Bool.eq_false_iff.mpr fun duplicate => none a b ⟨inOrder, duplicate⟩

variable {config : Configuration} {a b : RouteSection} {r s : Route}

/-- Of two sections that are reported, the second makes a route that is never reached by a request whose method
the first takes, if the first is no stricter in what the check does not compare: it captures from every request
that the second captures from, and resolution is the same without the second. -/
theorem never_reached_of_reports (reported : config.Reports a b)
    (first : (a.assemble config.global).result = .ok r)
    (second : (b.assemble config.global).result = .ok s)
    (noStricter : r.upstream.NoStricter s.upstream) (request : Request)
    (method : r.upstream.allowsMethod request.method = true) :
    ((s.upstream.captures request).isSome = true → (r.upstream.captures request).isSome = true) ∧
      ∀ before between after : List Candidate,
        resolve (before ++ r.toCandidate :: between ++ s.toCandidate :: after) request =
          resolve (before ++ r.toCandidate :: between ++ after) request := by
  have same := isDuplicate_eq_true_iff.mp reported.duplicate
  have shadows : s.upstream.accepts request = true → r.upstream.accepts request = true :=
    (RouteSection.compilesTo_of_assemble first).accepts_of_sameAsWritten
      (RouteSection.compilesTo_of_assemble second) same noStricter method
  constructor
  · rw [Upstream.captures_eq, Upstream.captures_eq]
    intro captured
    have accepted : s.upstream.accepts request = true := by
      by_contra refused
      rw [if_neg refused] at captured
      cases captured
    rw [if_pos (shadows accepted)]
    rfl
  · exact resolve_of_shadowed (RouteSection.rankPair_of_sameAsWritten first second same) shadows

/-- Two routes whose templates differ in case only, with another one between them. -/
def otherCase : Configuration where
  routes :=
    [{ RouteSection.toOneHost "/Items/\x7bid\x7d?v=x" with upstreamMethods := ["get", "PUT"] },
      .toOneHost "/other",
      { RouteSection.toOneHost "/items/\x7bID\x7d?V=x" with upstreamMethods := ["GET"] }]

theorem never_reached_of_otherCase :
    ∃ a b r s, otherCase.Reports a b ∧ (a.assemble otherCase.global).result = .ok r ∧
      (b.assemble otherCase.global).result = .ok s ∧
      ∀ before between after,
        resolve (before ++ r.toCandidate :: between ++ s.toCandidate :: after)
            ⟨⟨"GET"⟩, "/ITEMS/7", some "v=x", none, []⟩ =
          resolve (before ++ r.toCandidate :: between ++ after)
            ⟨⟨"GET"⟩, "/ITEMS/7", some "v=x", none, []⟩ := by
  have ofFirst : (otherCase.routes[0].assemble otherCase.global).result.map (fun r =>
      (r.upstream.template.caseSensitive, r.upstream.headerTrigger, r.upstream.template.queryLiterals,
        r.upstream.allowsMethod ⟨"GET"⟩)) = .ok (false, .all, ["x"], true) := by
    decide +kernel
  have ofSecond : (otherCase.routes[2].assemble otherCase.global).result.map (fun s =>
      (s.upstream.headerTrigger, s.upstream.template.queryLiterals)) = .ok (.all, ["x"]) := by
    decide +kernel
  obtain ⟨r, first, own⟩ := map_eq_ok.mp ofFirst
  obtain ⟨s, second, other⟩ := map_eq_ok.mp ofSecond
  simp only [Prod.mk.injEq] at own other
  have reported : otherCase.Reports otherCase.routes[0] otherCase.routes[2] :=
    ⟨by decide +kernel, by decide +kernel⟩
  have noStricter : r.upstream.NoStricter s.upstream :=
    { caseMode := by simp [own.1]
      trigger := by simp [other.1]
      literals := own.2.2.1.trans other.2.symm }
  have shadowed := never_reached_of_reports reported first second noStricter
    ⟨⟨"GET"⟩, "/ITEMS/7", some "v=x", none, []⟩ own.2.2.2
  exact ⟨_, _, r, s, reported, first, second, shadowed.2⟩

/-- Two routes with the same two header templates, of which the first demands both and the second one. -/
def bothTriggers : Configuration where
  routes :=
    [{ RouteSection.toOneHost "/a" with headerTemplates := .ofList [("X-A", "\x7ba\x7d"), ("X-B", "\x7bb\x7d")] },
      { RouteSection.toOneHost "/a" with
        headerTemplates := .ofList [("X-A", "\x7ba\x7d"), ("X-B", "\x7bb\x7d")]
        headerTrigger := .any }]

/-- The routes are reported, and a request with one of the headers reaches the second. -/
theorem reached_of_otherTrigger :
    ∃ a b r s, bothTriggers.Reports a b ∧ (a.assemble bothTriggers.global).result = .ok r ∧
      (b.assemble bothTriggers.global).result = .ok s ∧
      r.upstream.allowsMethod ⟨"GET"⟩ = true ∧ s.upstream.allowsMethod ⟨"GET"⟩ = true ∧
      r.upstream.captures ⟨⟨"GET"⟩, "/a", none, none, [⟨"x-a", "1"⟩]⟩ = none ∧
      resolve [r.toCandidate, s.toCandidate] ⟨⟨"GET"⟩, "/a", none, none, [⟨"x-a", "1"⟩]⟩ =
        .matched ⟨s.toCandidate, [⟨"a", "1"⟩]⟩ := by
  have ofFirst : (bothTriggers.routes[0].assemble bothTriggers.global).result.map (fun r =>
      (r.upstream.allowsMethod ⟨"GET"⟩,
        r.upstream.captures ⟨⟨"GET"⟩, "/a", none, none, [⟨"x-a", "1"⟩]⟩)) = .ok (true, none) := by
    decide +kernel
  have ofSecond : (bothTriggers.routes[1].assemble bothTriggers.global).result.map (fun s =>
      (s.upstream.allowsMethod ⟨"GET"⟩,
        s.upstream.captures ⟨⟨"GET"⟩, "/a", none, none, [⟨"x-a", "1"⟩]⟩)) =
      .ok (true, some [⟨"a", "1"⟩]) := by
    decide +kernel
  obtain ⟨r, first, own⟩ := map_eq_ok.mp ofFirst
  obtain ⟨s, second, other⟩ := map_eq_ok.mp ofSecond
  obtain ⟨allowed, missed⟩ := Prod.mk.inj own
  obtain ⟨otherAllowed, met⟩ := Prod.mk.inj other
  have reported : bothTriggers.Reports bothTriggers.routes[0] bothTriggers.routes[1] :=
    ⟨by decide +kernel, by decide +kernel⟩
  refine ⟨_, _, r, s, reported, first, second, allowed, otherAllowed, missed, ?_⟩
  have missedHere : r.toCandidate.upstream.captures ⟨⟨"GET"⟩, "/a", none, none, [⟨"x-a", "1"⟩]⟩ = none :=
    missed
  have metHere : s.toCandidate.upstream.captures ⟨⟨"GET"⟩, "/a", none, none, [⟨"x-a", "1"⟩]⟩ =
      some [⟨"a", "1"⟩] := met
  simp [resolve, Resolution.improve, Resolution.holdsAgainst, missedHere, metHere]

end Configuration

end GatewayRouting
