import GatewayRouting.Proofs.State.Progress
import GatewayRouting.Proofs.State.Uncached

/-!
A routing state that many requests share, whose steps come in any order between each other and between
reloads. A snapshot that is replaced stays with the requests that hold it.
-/

set_option autoImplicit false

namespace GatewayRouting

/-- A request waits, or holds the snapshot of some number and works on it. -/
inductive Stage where
  | waiting
  | working (number : Nat) (progress : Progress)

structure Task where
  request : Request
  stage : Stage

/-- What can happen next. -/
inductive Event where
  | arrive (request : Request)
  /-- The request of that number takes its next step. -/
  | advance (task : Nat)
  | reload (config : Configuration) (capabilities : Capabilities)
deriving DecidableEq

/-- Snapshots are numbered in the order in which they are published. -/
structure SharedState where
  cacheCapacity : Nat
  snapshots : List Snapshot
  published : snapshots ≠ []
  tasks : List Task

namespace SharedState

/-- A routing state that no request has come to yet. -/
def ofState (s : RoutingState) : SharedState where
  cacheCapacity := s.cacheCapacity
  snapshots := [s.snapshot]
  published := List.cons_ne_nil _ _
  tasks := []

/-- The snapshot in force. -/
def current (w : SharedState) : Snapshot := w.snapshots.getLast w.published

/-- The number of the snapshot in force. -/
def currentNumber (w : SharedState) : Nat := w.snapshots.length - 1

/-- The answer to a request, once there is one. -/
def answer? (w : SharedState) (task : Nat) : Option Resolution :=
  match w.tasks[task]? with
  | some ⟨_, .working _ progress⟩ => progress.answer?
  | _ => none

def arrive (w : SharedState) (request : Request) : SharedState :=
  { w with tasks := w.tasks ++ [⟨request, .waiting⟩] }

/-- A waiting request takes the snapshot in force. -/
def load (w : SharedState) (task : Nat) (request : Request) : SharedState :=
  { w with tasks := w.tasks.set task ⟨request, .working w.currentNumber .looking⟩ }

/-- A request takes a step on the snapshot that it holds. -/
def work (w : SharedState) (task : Nat) (request : Request) (number : Nat) (progress : Progress)
    (s : Snapshot) : SharedState :=
  { w with
    snapshots := w.snapshots.set number (progress.next request s).2
    published := by simpa using w.published
    tasks := w.tasks.set task ⟨request, .working number (progress.next request s).1⟩ }

def publish (w : SharedState) (table : RouteTable) : SharedState :=
  { w with
    snapshots := w.snapshots ++ [.ofTable table w.cacheCapacity]
    published := by simp }

def advance (w : SharedState) (task : Nat) : SharedState :=
  match w.tasks[task]? with
  | some ⟨request, .waiting⟩ => w.load task request
  | some ⟨request, .working number progress⟩ =>
    match w.snapshots[number]? with
    | some s => w.work task request number progress s
    | none => w
  | none => w

def step (w : SharedState) : Event → SharedState
  | .arrive request => w.arrive request
  | .advance task => w.advance task
  | .reload config capabilities =>
    match (RouteTable.build config capabilities).value with
    | .ok table => w.publish table
    | .error _ => w

def run (w : SharedState) (events : List Event) : SharedState := events.foldl step w

@[simp] theorem run_nil (w : SharedState) : w.run [] = w := rfl

@[simp] theorem run_cons (w : SharedState) (event : Event) (rest : List Event) :
    w.run (event :: rest) = (w.step event).run rest := rfl

theorem step_of_waiting {w : SharedState} {task : Nat} {request : Request}
    (waiting : w.tasks[task]? = some ⟨request, .waiting⟩) :
    w.step (.advance task) = w.load task request := by
  simp only [step, advance, waiting]

theorem step_of_working {w : SharedState} {task : Nat} {request : Request} {number : Nat}
    {progress : Progress} {s : Snapshot}
    (working : w.tasks[task]? = some ⟨request, .working number progress⟩)
    (held : w.snapshots[number]? = some s) :
    w.step (.advance task) = w.work task request number progress s := by
  simp only [step, advance, working, held]

theorem step_of_built {w : SharedState} {config : Configuration} {capabilities : Capabilities}
    {table : RouteTable} (built : (RouteTable.build config capabilities).value = .ok table) :
    w.step (.reload config capabilities) = w.publish table := by
  simp only [step, built]

theorem step_of_error {w : SharedState} {config : Configuration} {capabilities : Capabilities}
    {error : BuildError} (failed : (RouteTable.build config capabilities).value = .error error) :
    w.step (.reload config capabilities) = w := by
  simp only [step, failed]

/-- All that an event can do. -/
theorem step_cases (w : SharedState) (event : Event) :
    w.step event = w ∨
    (∃ request, event = .arrive request ∧ w.step event = w.arrive request) ∨
    (∃ task request, event = .advance task ∧ w.tasks[task]? = some ⟨request, .waiting⟩ ∧
      w.step event = w.load task request) ∨
    (∃ task request number progress s, event = .advance task ∧
      w.tasks[task]? = some ⟨request, .working number progress⟩ ∧ w.snapshots[number]? = some s ∧
      w.step event = w.work task request number progress s) ∨
    (∃ config capabilities table, event = .reload config capabilities ∧
      (RouteTable.build config capabilities).value = .ok table ∧ w.step event = w.publish table) := by
  cases event with
  | arrive request => exact Or.inr (Or.inl ⟨request, rfl, rfl⟩)
  | advance task =>
    cases found : w.tasks[task]? with
    | none =>
      left
      simp only [step, advance, found]
    | some asked =>
      obtain ⟨request, stage⟩ := asked
      cases stage with
      | waiting => exact Or.inr (Or.inr (Or.inl ⟨task, request, rfl, found, step_of_waiting found⟩))
      | working number progress =>
        cases held : w.snapshots[number]? with
        | none =>
          left
          simp only [step, advance, found, held]
        | some s =>
          exact Or.inr (Or.inr (Or.inr (Or.inl
            ⟨task, request, number, progress, s, rfl, found, held, step_of_working found held⟩)))
  | reload config capabilities =>
    cases built : (RouteTable.build config capabilities).value with
    | error error => exact Or.inl (step_of_error built)
    | ok table =>
      exact Or.inr (Or.inr (Or.inr (Or.inr
        ⟨config, capabilities, table, rfl, built, step_of_built built⟩)))

theorem getElem?_currentNumber (w : SharedState) : w.snapshots[w.currentNumber]? = some w.current := by
  unfold current currentNumber
  rw [← List.getLast?_eq_getElem?, List.getLast?_eq_some_getLast w.published]

/-- A reload leaves in force what it leaves in force when nothing else is going on. -/
theorem current_step_reload {w : SharedState} {s : RoutingState} (same : w.current = s.snapshot)
    (capacity : w.cacheCapacity = s.cacheCapacity) (config : Configuration) (capabilities : Capabilities) :
    (w.step (.reload config capabilities)).current = (s.reload config capabilities).value.2.snapshot := by
  cases built : (RouteTable.build config capabilities).value with
  | ok table =>
    rw [RoutingState.reload_of_built built, step_of_built built]
    simp only [current, publish, RoutingState.publish, capacity, List.getLast_append_singleton]
  | error error =>
    rw [RoutingState.reload_of_error built, step_of_error built]
    exact same

theorem cacheCapacity_run (w : SharedState) (events : List Event) :
    (w.run events).cacheCapacity = w.cacheCapacity := by
  induction events generalizing w with
  | nil => rfl
  | cons event rest ih =>
    rw [run_cons, ih]
    rcases w.step_cases event with stepped | ⟨_, _, stepped⟩ | ⟨_, _, _, _, stepped⟩ |
      ⟨_, _, _, _, _, _, _, _, stepped⟩ | ⟨_, _, _, _, _, stepped⟩ <;> rw [stepped] <;> rfl

/-- A snapshot stays, with its table. Only a request that holds it changes its cache. -/
theorem snapshots_step (w : SharedState) (event : Event) {number : Nat} {s : Snapshot}
    (held : w.snapshots[number]? = some s) :
    ∃ after, (w.step event).snapshots[number]? = some after ∧ after.table = s.table ∧
      (after = s ∨ ∃ task request progress, event = .advance task ∧
        w.tasks[task]? = some ⟨request, .working number progress⟩ ∧
        after = (Progress.next request s progress).2) := by
  rcases w.step_cases event with stepped | ⟨request, rfl, stepped⟩ | ⟨task, request, rfl, _, stepped⟩ |
    ⟨task, request, other, progress, t, rfl, working, taken, stepped⟩ |
    ⟨config, capabilities, table, rfl, _, stepped⟩
  · exact ⟨s, by rw [stepped, held], rfl, Or.inl rfl⟩
  · exact ⟨s, by rw [stepped]; exact held, rfl, Or.inl rfl⟩
  · exact ⟨s, by rw [stepped]; exact held, rfl, Or.inl rfl⟩
  · rw [stepped]
    by_cases same : other = number
    · subst same
      obtain rfl : t = s := Option.some.inj (taken.symm.trans held)
      have inside : other < w.snapshots.length := (List.getElem?_eq_some_iff.mp held).1
      exact ⟨_, List.getElem?_set_self inside, Progress.table_next request t progress,
        Or.inr ⟨task, request, progress, rfl, working, rfl⟩⟩
    · exact ⟨s, (List.getElem?_set_ne same).trans held, rfl, Or.inl rfl⟩
  · rw [stepped]
    have inside : number < w.snapshots.length := (List.getElem?_eq_some_iff.mp held).1
    exact ⟨s, (List.getElem?_append_left inside).trans held, rfl, Or.inl rfl⟩

theorem snapshots_run (w : SharedState) (events : List Event) {number : Nat} {s : Snapshot}
    (held : w.snapshots[number]? = some s) :
    ∃ after, (w.run events).snapshots[number]? = some after ∧ after.table = s.table := by
  induction events generalizing w s with
  | nil => exact ⟨s, held, rfl⟩
  | cons event rest ih =>
    obtain ⟨next, kept, table, _⟩ := w.snapshots_step event held
    obtain ⟨after, found, sameTable⟩ := ih (w.step event) kept
    exact ⟨after, found, sameTable.trans table⟩

/-- How a request comes to hold a snapshot and to be where it is. -/
theorem tasks_of_step (w : SharedState) (event : Event) {task number : Nat} {request : Request}
    {progress : Progress}
    (found : (w.step event).tasks[task]? = some ⟨request, .working number progress⟩) :
    w.tasks[task]? = some ⟨request, .working number progress⟩ ∨
    (number = w.currentNumber ∧ progress = .looking) ∨
    (∃ before s, w.tasks[task]? = some ⟨request, .working number before⟩ ∧
      w.snapshots[number]? = some s ∧ progress = (Progress.next request s before).1) := by
  rcases w.step_cases event with stepped | ⟨other, rfl, stepped⟩ | ⟨moved, other, rfl, _, stepped⟩ |
    ⟨moved, other, taken, before, s, rfl, working, held, stepped⟩ |
    ⟨config, capabilities, table, rfl, _, stepped⟩
  · rw [stepped] at found
    exact Or.inl found
  · rw [stepped, arrive, List.getElem?_append] at found
    split at found
    · exact Or.inl found
    · have last := List.mem_of_getElem? found
      rw [List.mem_singleton] at last
      cases last
  · rw [stepped, load, List.getElem?_set] at found
    split at found
    · split at found
      · cases found
        exact Or.inr (Or.inl ⟨rfl, rfl⟩)
      · cases found
    · exact Or.inl found
  · rw [stepped, work, List.getElem?_set] at found
    split at found
    · rename_i same
      subst same
      split at found
      · cases found
        exact Or.inr (Or.inr ⟨before, s, working, held, rfl⟩)
      · cases found
    · exact Or.inl found
  · rw [stepped] at found
    exact Or.inl found

/-- A request keeps the snapshot that it holds. Its own steps bring it closer to its answer, the others
leave it where it is. -/
theorem tasks_step (w : SharedState) (event : Event) {task number : Nat} {request : Request}
    {progress : Progress} {s : Snapshot}
    (working : w.tasks[task]? = some ⟨request, .working number progress⟩)
    (held : w.snapshots[number]? = some s) :
    ∃ after, (w.step event).tasks[task]? = some ⟨request, .working number after⟩ ∧
      after.remaining ≤ progress.remaining - if event = .advance task then 1 else 0 := by
  have inside : task < w.tasks.length := (List.getElem?_eq_some_iff.mp working).1
  by_cases own : event = .advance task
  · subst own
    rw [step_of_working working held, if_pos rfl]
    exact ⟨_, List.getElem?_set_self inside, Progress.remaining_next request s progress⟩
  · -- No other event writes at this place of the list, an arrival writes behind it.
    refine ⟨progress, ?_, by simp [own]⟩
    rcases w.step_cases event with stepped | ⟨other, rfl, stepped⟩ | ⟨moved, other, rfl, _, stepped⟩ |
      ⟨moved, other, taken, before, t, rfl, _, _, stepped⟩ |
      ⟨config, capabilities, table, rfl, _, stepped⟩
    · rw [stepped, working]
    · rw [stepped]
      exact (List.getElem?_append_left inside).trans working
    · rw [stepped]
      exact (List.getElem?_set_ne (fun same => own (congrArg Event.advance same))).trans working
    · rw [stepped]
      exact (List.getElem?_set_ne (fun same => own (congrArg Event.advance same))).trans working
    · rw [stepped]
      exact working

/-- A request keeps its snapshot over any steps, and after five of its own it is answered. -/
theorem tasks_run (w : SharedState) (events : List Event) {task number : Nat} {request : Request}
    {progress : Progress} {s : Snapshot}
    (working : w.tasks[task]? = some ⟨request, .working number progress⟩)
    (held : w.snapshots[number]? = some s) :
    ∃ after, (w.run events).tasks[task]? = some ⟨request, .working number after⟩ ∧
      after.remaining ≤ progress.remaining - events.count (.advance task) := by
  induction events generalizing w progress s with
  | nil => exact ⟨progress, working, Nat.le_refl _⟩
  | cons event rest ih =>
    obtain ⟨next, stillWorking, closer⟩ := w.tasks_step event working held
    obtain ⟨t, stillHeld, _⟩ := w.snapshots_step event held
    obtain ⟨after, found, close⟩ := ih (w.step event) stillWorking stillHeld
    refine ⟨after, found, ?_⟩
    rw [List.count_cons]
    simp only [beq_iff_eq]
    omega

/-- Every snapshot answers as its table does, also one that is no longer in force, and every request has
no other resolution than that of the table that it took. -/
structure Sound (w : SharedState) : Prop where
  faithful : ∀ s ∈ w.snapshots, s.Faithful
  fromTable : ∀ {task number : Nat} {request : Request} {progress : Progress},
    w.tasks[task]? = some ⟨request, .working number progress⟩ →
      ∃ s, w.snapshots[number]? = some s ∧ progress.FromTable s.table request

theorem ofState_sound {s : RoutingState} (faithful : s.snapshot.Faithful) : (ofState s).Sound := by
  constructor
  · intro t inside
    rw [List.mem_singleton.mp inside]
    exact faithful
  · intro task number request progress found
    cases found

theorem Sound.faithful_step {w : SharedState} (sound : w.Sound) (event : Event) :
    ∀ s ∈ (w.step event).snapshots, s.Faithful := by
  intro after inside
  rcases w.step_cases event with stepped | ⟨request, rfl, stepped⟩ | ⟨task, request, rfl, _, stepped⟩ |
    ⟨task, request, number, progress, s, rfl, working, held, stepped⟩ |
    ⟨config, capabilities, table, rfl, built, stepped⟩
  · rw [stepped] at inside
    exact sound.faithful after inside
  · rw [stepped] at inside
    exact sound.faithful after inside
  · rw [stepped] at inside
    exact sound.faithful after inside
  · rw [stepped] at inside
    rcases List.mem_or_eq_of_mem_set inside with before | rfl
    · exact sound.faithful after before
    · obtain ⟨t, taken, fromTable⟩ := sound.fromTable working
      obtain rfl : s = t := Option.some.inj (held.symm.trans taken)
      exact Progress.faithful_next (sound.faithful s (List.mem_of_getElem? held)) fromTable
  · rw [stepped] at inside
    rcases List.mem_append.mp inside with before | fresh
    · exact sound.faithful after before
    · rw [List.mem_singleton.mp fresh]
      have made := (RouteTable.build_eq_ok.mp built).2
      exact Snapshot.ofTable_faithful (RouteTable.ofConfiguration_knowsHeaders made) w.cacheCapacity

theorem Sound.step {w : SharedState} (sound : w.Sound) (event : Event) : (w.step event).Sound := by
  refine ⟨sound.faithful_step event, ?_⟩
  intro task number request progress found
  rcases w.tasks_of_step event found with same | ⟨rfl, rfl⟩ | ⟨before, s, working, held, rfl⟩
  · obtain ⟨s, held, fromTable⟩ := sound.fromTable same
    obtain ⟨after, kept, table, _⟩ := w.snapshots_step event held
    exact ⟨after, kept, by rw [table]; exact fromTable⟩
  · obtain ⟨after, kept, _⟩ := w.snapshots_step event w.getElem?_currentNumber
    exact ⟨after, kept, Progress.looking_fromTable after.table request⟩
  · obtain ⟨t, taken, fromTable⟩ := sound.fromTable working
    obtain rfl : s = t := Option.some.inj (held.symm.trans taken)
    obtain ⟨after, kept, table, _⟩ := w.snapshots_step event held
    refine ⟨after, kept, ?_⟩
    rw [table]
    exact fromTable.next (sound.faithful s (List.mem_of_getElem? held))

theorem Sound.run {w : SharedState} (sound : w.Sound) (events : List Event) : (w.run events).Sound := by
  induction events generalizing w with
  | nil => exact sound
  | cons event rest ih => exact ih (sound.step event)

/-- A request never touches a snapshot that it does not hold. -/
theorem Sound.snapshots_of_other {w : SharedState} (sound : w.Sound) {task number : Nat}
    {request : Request} {progress : Progress}
    (working : w.tasks[task]? = some ⟨request, .working number progress⟩) (later : List Event)
    {other : Nat} (apart : other ≠ number) :
    ((w.run later).step (.advance task)).snapshots[other]? = (w.run later).snapshots[other]? := by
  obtain ⟨s, held, _⟩ := sound.fromTable working
  obtain ⟨after, stillWorking, _⟩ := w.tasks_run later working held
  obtain ⟨t, stillHeld, _⟩ := w.snapshots_run later held
  rw [step_of_working stillWorking stillHeld]
  exact List.getElem?_set_ne apart.symm

/-- What a request is answered that takes the snapshot in force now, whatever happens afterwards. -/
theorem Sound.answer?_of_waiting {w : SharedState} (sound : w.Sound) {task : Nat} {request : Request}
    (waiting : w.tasks[task]? = some ⟨request, .waiting⟩) (later : List Event) :
    (∀ resolution, ((w.step (.advance task)).run later).answer? task = some resolution →
        resolution = w.current.table.resolve request) ∧
      (5 ≤ later.count (.advance task) →
        ((w.step (.advance task)).run later).answer? task =
          some (w.current.table.resolve request)) := by
  have inside : task < w.tasks.length := (List.getElem?_eq_some_iff.mp waiting).1
  have loaded : (w.step (.advance task)).tasks[task]? =
      some ⟨request, .working w.currentNumber .looking⟩ := by
    rw [step_of_waiting waiting]
    exact List.getElem?_set_self inside
  -- Other requests may fill the snapshot's cache meanwhile. Its table stays, which is all that counts.
  obtain ⟨s, held, sameTable, _⟩ := w.snapshots_step (.advance task) w.getElem?_currentNumber
  obtain ⟨progress, working, close⟩ := (w.step (.advance task)).tasks_run later loaded held
  obtain ⟨after, stillHeld, table⟩ := (w.step (.advance task)).snapshots_run later held
  obtain ⟨t, taken, fromTable⟩ := ((sound.step (.advance task)).run later).fromTable working
  obtain rfl : after = t := Option.some.inj (stillHeld.symm.trans taken)
  have answer : ((w.step (.advance task)).run later).answer? task = progress.answer? := by
    simp only [answer?, working]
  have right : ∀ resolution, progress.answer? = some resolution →
      resolution = w.current.table.resolve request := by
    intro resolution answered
    rw [← sameTable, ← table]
    exact fromTable resolution (Progress.resolution?_of_answer? answered)
  rw [answer]
  refine ⟨right, ?_⟩
  intro enough
  have finished : progress.remaining = 0 := by
    change progress.remaining ≤ 5 - later.count (.advance task) at close
    omega
  obtain ⟨resolution, answered⟩ := Progress.isSome_answer?_of_remaining finished
  rw [answered, right resolution answered]

/-- Whatever steps requests and reloads take in whatever order, every entry of every snapshot's cache is
what the snapshot's own table answers, a request leaves all snapshots alone but the one that it took at
its start, a reload adds a snapshot with an empty cache, which no request that is on its way can reach,
and a request is answered as the table that was in force when it started. -/
theorem run_answers_as_loaded {table : RouteTable} (capacity : Nat)
    (origin : table = .empty ∨ ∃ config, (RouteTable.ofConfiguration config).result = .ok table)
    (events : List Event) :
    let w := (ofState (.ofTable table capacity)).run events
    (∀ s ∈ w.snapshots, ∀ entry ∈ s.cache.entries,
      (∃ request, entry.1 = s.key request) ∧
        ∀ request, entry.1 = s.key request →
          entry.2 = GatewayRouting.resolve s.table.candidates request) ∧
    (∀ (task number : Nat) (request : Request) (progress : Progress),
      w.tasks[task]? = some ⟨request, .working number progress⟩ →
        number < w.snapshots.length ∧
          ∀ (later : List Event) (other : Nat), other ≠ number →
            ((w.run later).step (.advance task)).snapshots[other]? = (w.run later).snapshots[other]?) ∧
    (∀ (config : Configuration) (capabilities : Capabilities) (next : RouteTable),
      (RouteTable.build config capabilities).value = .ok next →
        (w.step (.reload config capabilities)).snapshots = w.snapshots ++ [⟨next, .empty capacity⟩]) ∧
    ∀ (task : Nat) (request : Request), w.tasks[task]? = some ⟨request, .waiting⟩ →
      ∀ later : List Event,
        (∀ resolution, ((w.step (.advance task)).run later).answer? task = some resolution →
          resolution = GatewayRouting.resolve w.current.table.candidates request) ∧
        (5 ≤ later.count (.advance task) →
          ((w.step (.advance task)).run later).answer? task =
            some (GatewayRouting.resolve w.current.table.candidates request)) := by
  intro w
  have knows : table.KnowsHeaders := by
    rcases origin with rfl | ⟨config, made⟩
    · exact RouteTable.empty_knowsHeaders
    · exact RouteTable.ofConfiguration_knowsHeaders made
  have start : (ofState (.ofTable table capacity)).Sound :=
    ofState_sound (Snapshot.ofTable_faithful knows capacity)
  have sound : w.Sound := start.run events
  refine ⟨?_, ?_, ?_, ?_⟩
  · intro s inside entry listed
    have faithful := sound.faithful s inside
    obtain ⟨request, key, _⟩ := faithful.entries entry listed
    exact ⟨⟨request, key⟩, fun other sameKey => faithful.entry_eq listed sameKey⟩
  · intro task number request progress working
    obtain ⟨s, held, _⟩ := sound.fromTable working
    refine ⟨(List.getElem?_eq_some_iff.mp held).1, ?_⟩
    intro later other apart
    exact sound.snapshots_of_other working later apart
  · intro config capabilities next built
    have same : w.cacheCapacity = capacity := cacheCapacity_run _ events
    rw [step_of_built built, ← same]
    rfl
  · intro task request waiting later
    exact sound.answer?_of_waiting waiting later

/-- A request for the path `/a/b` and the host `h`. -/
def boundRequest : Request := ⟨⟨"GET"⟩, "/a/b", none, some "h", []⟩

/-- The request takes the table of one route, a reload leaves no route, and then the request goes on. -/
theorem run_answers_as_loaded_around_reload :
    ∃ table, (RouteTable.ofConfiguration RoutingState.boundConfiguration).result = .ok table ∧
      ((((ofState (.ofTable table 1)).run [.arrive boundRequest]).step (.advance 0)).run
          (.reload {} {} :: List.replicate 5 (.advance 0))).answer? 0 =
        some (GatewayRouting.resolve table.candidates boundRequest) := by
  have accepted : (RouteTable.ofConfiguration RoutingState.boundConfiguration).result.isOk = true := by
    rfl
  obtain ⟨table, made⟩ := exists_of_isOk accepted
  have enough : 5 ≤ (Event.reload {} {} :: List.replicate 5 (.advance 0)).count (.advance 0) := by
    decide
  exact ⟨table, made, ((run_answers_as_loaded 1 (Or.inr ⟨_, made⟩) [.arrive boundRequest]).2.2.2
    0 boundRequest rfl _).2 enough⟩

end SharedState

end GatewayRouting
