import GatewayRouting.Proofs.State.Run

/-!
What a reload leaves behind when it is accepted and when it is not, and what the counters of a routing
state count over any calls.
-/

set_option autoImplicit false

namespace GatewayRouting

namespace Call

def isResolve : Call → Bool
  | .resolve _ => true
  | .reload .. => false

def isReload : Call → Bool
  | .resolve _ => false
  | .reload .. => true

end Call

namespace Answer

def isMatched : Answer → Bool
  | .resolution (.matched _) => true
  | _ => false

def isNotFound : Answer → Bool
  | .resolution .notFound => true
  | _ => false

def isReloaded : Answer → Bool
  | .reload (.ok _) => true
  | _ => false

def isRefused : Answer → Bool
  | .reload (.error _) => true
  | _ => false

end Answer

namespace Metrics

theorem matched_countResolution (m : Metrics) (resolution : Resolution) :
    (m.countResolution resolution).matched =
      m.matched + if (Answer.resolution resolution).isMatched then 1 else 0 := by
  cases resolution <;> rfl

theorem notFound_countResolution (m : Metrics) (resolution : Resolution) :
    (m.countResolution resolution).notFound =
      m.notFound + if (Answer.resolution resolution).isNotFound then 1 else 0 := by
  cases resolution <;> rfl

theorem reloads_countResolution (m : Metrics) (resolution : Resolution) :
    (m.countResolution resolution).reloadSuccesses = m.reloadSuccesses ∧
      (m.countResolution resolution).reloadFailures = m.reloadFailures ∧
      (m.countResolution resolution).tableRoutes = m.tableRoutes := by
  cases resolution <;> exact ⟨rfl, rfl, rfl⟩

end Metrics

namespace RoutingState

/-- Each counter goes up by one with the answers of its own kind, and with no other. -/
theorem step_counters (s : RoutingState) (call : Call) :
    (s.step call).2.metrics.matched =
        s.metrics.matched + (if (s.step call).1.isMatched then 1 else 0) ∧
      (s.step call).2.metrics.notFound =
        s.metrics.notFound + (if (s.step call).1.isNotFound then 1 else 0) ∧
      (s.step call).2.metrics.reloadSuccesses =
        s.metrics.reloadSuccesses + (if (s.step call).1.isReloaded then 1 else 0) ∧
      (s.step call).2.metrics.reloadFailures =
        s.metrics.reloadFailures + (if (s.step call).1.isRefused then 1 else 0) := by
  rcases s.step_cases call with ⟨request, resolution, rfl, _, stepped⟩ | ⟨request, rfl, _, stepped⟩ |
    ⟨config, capabilities, error, rfl, _, stepped⟩ | ⟨config, capabilities, table, rfl, _, stepped⟩
  · rw [stepped]
    obtain ⟨successes, failures, _⟩ := s.metrics.countHit.reloads_countResolution resolution
    exact ⟨Metrics.matched_countResolution _ _, Metrics.notFound_countResolution _ _, successes, failures⟩
  · rw [stepped]
    obtain ⟨successes, failures, _⟩ := s.metrics.reloads_countResolution (s.table.resolve request)
    exact ⟨Metrics.matched_countResolution _ _, Metrics.notFound_countResolution _ _, successes, failures⟩
  · rw [stepped]
    exact ⟨rfl, rfl, rfl, rfl⟩
  · rw [stepped]
    exact ⟨rfl, rfl, rfl, rfl⟩

/-- A counter that goes up with the answers of one kind counts them over a run. -/
theorem run_counter (counter : RoutingState → Nat) (counts : Answer → Bool)
    (stepped : ∀ (s : RoutingState) (call : Call), counter (s.step call).2 =
      counter s + if counts (s.step call).1 then 1 else 0) (s : RoutingState) (calls : List Call) :
    counter (s.run calls).2 = counter s + (s.run calls).1.countP counts := by
  induction calls generalizing s with
  | nil => simp
  | cons call rest ih =>
    rw [run_cons, ih, stepped, List.countP_cons]
    omega

/-- Two kinds of answers that between them are those to one kind of call. -/
theorem run_countP {first second : Answer → Bool} {asks : Call → Bool}
    (stepped : ∀ (s : RoutingState) (call : Call), (if asks call then 1 else 0) =
      (if first (s.step call).1 then 1 else 0) + if second (s.step call).1 then 1 else 0)
    (s : RoutingState) (calls : List Call) :
    (s.run calls).1.countP first + (s.run calls).1.countP second = calls.countP asks := by
  induction calls generalizing s with
  | nil => rfl
  | cons call rest ih =>
    rw [run_cons, List.countP_cons, List.countP_cons, List.countP_cons, stepped s call,
      ← ih (s.step call).2]
    omega

theorem step_resolve_kinds (s : RoutingState) (call : Call) :
    (if call.isResolve then 1 else 0) =
      (if (s.step call).1.isMatched then 1 else 0) +
        if (s.step call).1.isNotFound then 1 else 0 := by
  cases call with
  | resolve request =>
    change 1 = (if (Answer.resolution (s.resolve request).1).isMatched then 1 else 0) +
      if (Answer.resolution (s.resolve request).1).isNotFound then 1 else 0
    cases (s.resolve request).1 <;> rfl
  | reload config capabilities => rfl

theorem step_reload_kinds (s : RoutingState) (call : Call) :
    (if call.isReload then 1 else 0) =
      (if (s.step call).1.isReloaded then 1 else 0) +
        if (s.step call).1.isRefused then 1 else 0 := by
  cases call with
  | resolve request => rfl
  | reload config capabilities =>
    change 1 =
      (if (Answer.reload (s.reload config capabilities).value.1).isReloaded then 1 else 0) +
        if (Answer.reload (s.reload config capabilities).value.1).isRefused then 1 else 0
    cases (s.reload config capabilities).value.1 <;> rfl

/-- The capacity stays what it was at the start, and the gauge shows the size of the table in force. -/
structure Settled (capacity : Nat) (s : RoutingState) : Prop where
  capacity : s.cacheCapacity = capacity
  gauge : s.metrics.tableRoutes = s.table.candidates.length

theorem ofTable_settled (table : RouteTable) (capacity : Nat) :
    Settled capacity (ofTable table capacity) := ⟨rfl, rfl⟩

theorem Settled.step {capacity : Nat} {s : RoutingState} (settled : Settled capacity s) (call : Call) :
    Settled capacity (s.step call).2 := by
  rcases s.step_cases call with ⟨request, resolution, rfl, _, stepped⟩ | ⟨request, rfl, _, stepped⟩ |
    ⟨config, capabilities, error, rfl, _, stepped⟩ | ⟨config, capabilities, table, rfl, _, stepped⟩
  · rw [stepped]
    refine ⟨settled.capacity, ?_⟩
    exact (s.metrics.countHit.reloads_countResolution resolution).2.2.trans settled.gauge
  · rw [stepped]
    refine ⟨settled.capacity, ?_⟩
    exact (s.metrics.reloads_countResolution (s.table.resolve request)).2.2.trans settled.gauge
  · rw [stepped]
    exact ⟨settled.capacity, settled.gauge⟩
  · rw [stepped]
    exact ⟨settled.capacity, rfl⟩

theorem Settled.run {capacity : Nat} {s : RoutingState} (settled : Settled capacity s)
    (calls : List Call) : Settled capacity (s.run calls).2 := by
  induction calls generalizing s with
  | nil => exact settled
  | cons call rest ih => exact ih (settled.step call)

/-- A reload is all or nothing. -/
theorem Settled.reload_cases {capacity : Nat} {s : RoutingState} (settled : Settled capacity s)
    (config : Configuration) (capabilities : Capabilities) :
    (∃ table, config.validate capabilities = .ok () ∧
        (RouteTable.ofConfiguration config).result = .ok table ∧
        (s.reload config capabilities).value.1 = .ok () ∧
        (s.reload config capabilities).value.2.snapshot = ⟨table, .empty capacity⟩) ∨
      (¬(config.validate capabilities = .ok () ∧
          ∃ table, (RouteTable.ofConfiguration config).result = .ok table) ∧
        (∃ error, (s.reload config capabilities).value.1 = .error error) ∧
        (s.reload config capabilities).value.2.snapshot = s.snapshot) := by
  cases built : (RouteTable.build config capabilities).value with
  | ok table =>
    obtain ⟨valid, made⟩ := RouteTable.build_eq_ok.mp built
    refine Or.inl ⟨table, valid, made, ?_⟩
    rw [reload_of_built built, ← settled.capacity]
    exact ⟨rfl, rfl⟩
  | error error =>
    refine Or.inr ⟨?_, ?_⟩
    · rintro ⟨valid, table, made⟩
      have accepted := RouteTable.build_eq_ok.mpr ⟨valid, made⟩
      rw [built] at accepted
      cases accepted
    · rw [reload_of_error built]
      exact ⟨⟨error, rfl⟩, rfl⟩

/-- After any calls a reload succeeds exactly when the configuration is valid and its table can be made.
Then that table is in force with an empty cache; otherwise the table and its cache stay. The counters
agree with the calls and their answers, and the gauge with the table. -/
theorem run_accounts_for_calls (table : RouteTable) (capacity : Nat) (calls : List Call) :
    let answers := ((ofTable table capacity).run calls).1
    let s := ((ofTable table capacity).run calls).2
    (∀ (config : Configuration) (capabilities : Capabilities),
      (∃ next, config.validate capabilities = .ok () ∧
          (RouteTable.ofConfiguration config).result = .ok next ∧
          (s.reload config capabilities).value.1 = .ok () ∧
          (s.reload config capabilities).value.2.snapshot = ⟨next, .empty capacity⟩) ∨
        (¬(config.validate capabilities = .ok () ∧
            ∃ next, (RouteTable.ofConfiguration config).result = .ok next) ∧
          (∃ error, (s.reload config capabilities).value.1 = .error error) ∧
          (s.reload config capabilities).value.2.snapshot = s.snapshot)) ∧
      s.metrics.reloadSuccesses = answers.countP Answer.isReloaded ∧
      s.metrics.reloadFailures = answers.countP Answer.isRefused ∧
      s.metrics.reloadSuccesses + s.metrics.reloadFailures = calls.countP Call.isReload ∧
      s.metrics.matched = answers.countP Answer.isMatched ∧
      s.metrics.notFound = answers.countP Answer.isNotFound ∧
      s.metrics.matched + s.metrics.notFound = calls.countP Call.isResolve ∧
      s.metrics.tableRoutes = s.table.candidates.length := by
  intro answers s
  have settled : Settled capacity s := (ofTable_settled table capacity).run calls
  have successes : s.metrics.reloadSuccesses = 0 + answers.countP Answer.isReloaded :=
    run_counter (·.metrics.reloadSuccesses) Answer.isReloaded (fun s call => (step_counters s call).2.2.1)
      (ofTable table capacity) calls
  have failures : s.metrics.reloadFailures = 0 + answers.countP Answer.isRefused :=
    run_counter (·.metrics.reloadFailures) Answer.isRefused (fun s call => (step_counters s call).2.2.2)
      (ofTable table capacity) calls
  have matched : s.metrics.matched = 0 + answers.countP Answer.isMatched :=
    run_counter (·.metrics.matched) Answer.isMatched (fun s call => (step_counters s call).1)
      (ofTable table capacity) calls
  have notFound : s.metrics.notFound = 0 + answers.countP Answer.isNotFound :=
    run_counter (·.metrics.notFound) Answer.isNotFound (fun s call => (step_counters s call).2.1)
      (ofTable table capacity) calls
  have reloads : answers.countP Answer.isReloaded + answers.countP Answer.isRefused =
      calls.countP Call.isReload := run_countP step_reload_kinds (ofTable table capacity) calls
  have resolutions : answers.countP Answer.isMatched + answers.countP Answer.isNotFound =
      calls.countP Call.isResolve := run_countP step_resolve_kinds (ofTable table capacity) calls
  refine ⟨settled.reload_cases, ?_, ?_, ?_, ?_, ?_, ?_, settled.gauge⟩ <;> omega

end RoutingState

end GatewayRouting
