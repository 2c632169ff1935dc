import GatewayRouting.Proofs.Except
import GatewayRouting.Proofs.Route.AssemblyLaws
import GatewayRouting.State

/-!
Calls on a routing state one after another. What a call can do is said here once: a reload depends on
the configuration alone, a resolution on the cache and the table of the snapshot.
-/

set_option autoImplicit false

namespace GatewayRouting

/-- What can be asked of a routing state. -/
inductive Call where
  | resolve (request : Request)
  | reload (config : Configuration) (capabilities : Capabilities)

/-- What a routing state answers. -/
inductive Answer where
  | resolution (resolution : Resolution)
  | reload (result : Except BuildError Unit)

namespace Configuration

/-- Whether the configuration is valid and its table can be made. -/
def isAccepted (config : Configuration) (capabilities : Capabilities) : Bool :=
  (config.validate capabilities).isOk && (RouteTable.ofConfiguration config).result.isOk

end Configuration

namespace RouteTable

theorem build_eq_ok {config : Configuration} {capabilities : Capabilities} {table : RouteTable} :
    (build config capabilities).value = .ok table ↔
      config.validate capabilities = .ok () ∧ (ofConfiguration config).result = .ok table := by
  unfold build Assembly.result
  cases config.validate capabilities with
  | error e => simp
  | ok _ =>
    change (ofConfiguration config).run.value.mapError BuildError.assembly = .ok table ↔ _
    rw [mapError_eq_ok]
    simp only [true_and]

theorem isOk_build (config : Configuration) (capabilities : Capabilities) :
    (build config capabilities).value.isOk = config.isAccepted capabilities := by
  unfold build Configuration.isAccepted Assembly.result
  cases config.validate capabilities with
  | error e => rfl
  | ok _ =>
    change ((ofConfiguration config).run.value.mapError BuildError.assembly).isOk = _
    cases (ofConfiguration config).run.value <;> rfl

end RouteTable

namespace RoutingState

theorem ofConfiguration_eq_ok {config : Configuration} {capabilities : Capabilities} {capacity : Nat}
    {s : RoutingState} :
    (ofConfiguration config capabilities capacity).value = .ok s ↔
      ∃ table, config.validate capabilities = .ok () ∧
        (RouteTable.ofConfiguration config).result = .ok table ∧ s = ofTable table capacity := by
  change (RouteTable.build config capabilities).value.map (ofTable · capacity) = .ok s ↔ _
  simp only [← and_assoc, ← RouteTable.build_eq_ok]
  cases (RouteTable.build config capabilities).value <;> simp [Except.map, eq_comm]

/-- One call. -/
def step (s : RoutingState) : Call → Answer × RoutingState
  | .resolve request =>
    let (resolution, after) := s.resolve request
    (.resolution resolution, after)
  | .reload config capabilities =>
    let (result, after) := (s.reload config capabilities).value
    (.reload result, after)

/-- Calls one after another, with the answer to each. -/
def run (s : RoutingState) : List Call → List Answer × RoutingState
  | [] => ([], s)
  | call :: rest =>
    let (answers, after) := (s.step call).2.run rest
    ((s.step call).1 :: answers, after)

@[simp] theorem run_nil (s : RoutingState) : s.run [] = ([], s) := rfl

@[simp] theorem run_cons (s : RoutingState) (call : Call) (rest : List Call) :
    s.run (call :: rest) =
      ((s.step call).1 :: ((s.step call).2.run rest).1, ((s.step call).2.run rest).2) := rfl

variable {s : RoutingState} {config : Configuration} {capabilities : Capabilities} {request : Request}

theorem reload_of_built {table : RouteTable}
    (built : (RouteTable.build config capabilities).value = .ok table) :
    (s.reload config capabilities).value = (.ok (), s.publish table) := by
  unfold reload
  rw [Logged.value_bind, built]
  rfl

theorem reload_of_error {error : BuildError}
    (failed : (RouteTable.build config capabilities).value = .error error) :
    (s.reload config capabilities).value = (.error error, s.refuse) := by
  unfold reload
  rw [Logged.value_bind, failed]
  rfl

theorem resolve_of_hit {resolution : Resolution} (hit : s.snapshot.cached? request = some resolution) :
    s.resolve request =
      (resolution, { s with metrics := s.metrics.countHit.countResolution resolution }) := by
  unfold resolve
  rw [hit]

theorem resolve_of_miss (miss : s.snapshot.cached? request = none) :
    s.resolve request =
      (s.table.resolve request,
        { s with
          snapshot := s.snapshot.remember request (s.table.resolve request)
          metrics := s.metrics.countResolution (s.table.resolve request) }) := by
  unfold resolve
  rw [miss]

/-- All that a call can do to a state. -/
theorem step_cases (s : RoutingState) (call : Call) :
    (∃ request resolution, call = .resolve request ∧ s.snapshot.cached? request = some resolution ∧
      s.step call =
        (.resolution resolution, { s with metrics := s.metrics.countHit.countResolution resolution })) ∨
    (∃ request, call = .resolve request ∧ s.snapshot.cached? request = none ∧
      s.step call =
        (.resolution (s.table.resolve request),
          { s with
            snapshot := s.snapshot.remember request (s.table.resolve request)
            metrics := s.metrics.countResolution (s.table.resolve request) })) ∨
    (∃ config capabilities error, call = .reload config capabilities ∧
      (RouteTable.build config capabilities).value = .error error ∧
      s.step call = (.reload (.error error), s.refuse)) ∨
    (∃ config capabilities table, call = .reload config capabilities ∧
      (RouteTable.build config capabilities).value = .ok table ∧
      s.step call = (.reload (.ok ()), s.publish table)) := by
  cases call with
  | resolve request =>
    cases found : s.snapshot.cached? request with
    | some resolution =>
      refine Or.inl ⟨request, resolution, rfl, found, ?_⟩
      simp only [step, resolve_of_hit found]
    | none =>
      refine Or.inr (Or.inl ⟨request, rfl, found, ?_⟩)
      simp only [step, resolve_of_miss found]
  | reload config capabilities =>
    cases built : (RouteTable.build config capabilities).value with
    | error error =>
      refine Or.inr (Or.inr (Or.inl ⟨config, capabilities, error, rfl, built, ?_⟩))
      simp only [step, reload_of_error built]
    | ok table =>
      refine Or.inr (Or.inr (Or.inr ⟨config, capabilities, table, rfl, built, ?_⟩))
      simp only [step, reload_of_built built]

end RoutingState

end GatewayRouting
