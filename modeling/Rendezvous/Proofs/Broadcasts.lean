import Mathlib.Data.List.Perm.Basic
import Rendezvous.Bus

/-!
# Every handler once

An event sets off the same calls in either way of publishing.  Without a pool they are made in
depth-first order: a call is followed by all that it sets off, before the next handler begins.  In a
pool any number of workers take jobs out of the queue and run them side by side; whatever is not
called yet is owed by a job that waits, or by a handler that is still to hand one in, and nothing is
owed in the end.
-/

namespace Rendezvous.Bus

/-! ## At once -/

/-- Where each of some steps adds calls, their sequence adds them one after another. -/
theorem Work.on_forM {α : Type} {step : α → Work Unit} {added : α → List Call}
    (adds : ∀ value desk,
      (step value).on desk = (.ok (), { desk with calls := desk.calls ++ added value }))
    (list : List α) (desk : Desk) :
    (list.forM step).on desk
      = (.ok (), { desk with calls := desk.calls ++ list.flatMap added }) := by
  induction list generalizing desk with
  | nil =>
    rw [List.flatMap_nil, List.append_nil]
    rfl
  | cons value rest ih =>
    rw [List.forM_eq_forM, List.forM_cons, Work.on_bind_of_ok (adds value desk),
      ← List.forM_eq_forM, ih, List.flatMap_cons, List.append_assoc]

/-- The same handlers, of which other ones fail. -/
def Hub.failing (fails : Subscription → Bool) (hub : Hub) : Hub :=
  { hub with
    subscriptions := hub.subscriptions.map fun subscription =>
      { subscription with fails := fails subscription } }

def Job.failing (fails : Subscription → Bool) (job : Job) : Job :=
  { job with subscription := { job.subscription with fails := fails job.subscription } }

namespace Hub

/-- What a handler publishes in turn is called right after it. -/
theorem on_run_of_onward {hub : Hub} {counter : Int}
    (onward : 0 < counter → ∀ next desk, (hub.runAll next (counter - 1)).on desk
      = (.ok 0,
          { desk with calls := desk.calls ++ (hub.depthFirst next (counter - 1)).map Job.call }))
    (subscription : Subscription) (desk : Desk) :
    (Job.run ⟨subscription, counter⟩ fun _ next => hub.runAll next (counter - 1)).on desk
      = (.ok (), { desk with
          calls := desk.calls ++ (hub.setsOff ⟨subscription, counter⟩).map Job.call }) := by
  rw [Job.on_run, Job.republish, setsOff]
  split
  next positive =>
    split
    next next _ =>
      rw [Work.desk_discard, onward positive]
      dsimp only
      rw [List.append_assoc]
      rfl
    next => rfl
  next => rfl

/-- Without a pool the calls are those of the depth-first order, and nothing fails. -/
theorem on_runAll (hub : Hub) (topic : String) (counter : Int) (desk : Desk) :
    (hub.runAll topic counter).on desk
      = (.ok 0,
          { desk with calls := desk.calls ++ (hub.depthFirst topic counter).map Job.call }) := by
  have adds := on_run_of_onward fun _ next desk => on_runAll hub next (counter - 1) desk
  rw [runAll, Work.on_bind_of_ok (Work.on_forM adds _ desk), depthFirst_eq, jobs,
    List.flatMap_map, List.map_flatMap]
  rfl
termination_by counter.toNat

theorem handlers_of_failing {hub hub' : Hub} {fails : Subscription → Bool}
    (same : hub'.subscriptions = (hub.failing fails).subscriptions) (topic : String) :
    hub'.handlers topic = (hub.handlers topic).map fun subscription =>
      { subscription with fails := fails subscription } := by
  rw [handlers, handlers, same, failing, List.filter_map]
  rfl

/-- The order of the jobs depends neither on which handlers fail nor on there being a pool. -/
theorem depthFirst_of_failing {hub hub' : Hub} {fails : Subscription → Bool}
    (same : hub'.subscriptions = (hub.failing fails).subscriptions) (topic : String)
    (counter : Int) :
    hub'.depthFirst topic counter = (hub.depthFirst topic counter).map (Job.failing fails) := by
  rw [depthFirst, depthFirst, handlers_of_failing same, List.flatMap_map, List.map_flatMap]
  congr 1
  funext subscription
  rw [List.map_cons]
  congr 1
  split
  next positive =>
    dsimp only
    split
    next next _ => exact depthFirst_of_failing same next (counter - 1)
    next => rfl
  next => rfl
termination_by counter.toNat

theorem drain_of_empty (hub : Hub) {desk : Desk} (empty : desk.jobs = []) :
    hub.drain desk = desk := by
  rw [drain]
  split
  next => rfl
  next job rest waiting =>
    rw [empty] at waiting
    cases waiting

end Hub

/-! ## In a pool -/

/-- A pool with its workers: what handlers left behind, and for each handler that is being run the
jobs that it is still to hand in. -/
structure Crew where
  desk : Desk
  busy : List (List Job)

namespace Crew

/-- What one worker does next. -/
inductive Step (hub : Hub) : Crew → Crew → Prop where
  /-- takes any job out of the queue, and calls its handler -/
  | begin (calls : List Call) (before after : List Job) (job : Job) (busy : List (List Job)) :
      Step hub ⟨⟨calls, before ++ job :: after⟩, busy⟩
        ⟨⟨calls ++ [job.call], before ++ after⟩, hub.followers job :: busy⟩
  /-- hands in a job that its handler publishes -/
  | submit (calls : List Call) (jobs : List Job) (before after : List (List Job)) (job : Job)
      (rest : List Job) :
      Step hub ⟨⟨calls, jobs⟩, before ++ (job :: rest) :: after⟩
        ⟨⟨calls, jobs ++ [job]⟩, before ++ rest :: after⟩
  /-- is done with its handler, whether that fails or not -/
  | finish (desk : Desk) (before after : List (List Job)) :
      Step hub ⟨desk, before ++ [] :: after⟩ ⟨desk, before ++ after⟩

/-- A number of steps one after another. -/
inductive Run (hub : Hub) : Nat → Crew → Crew → Prop where
  | none (crew : Crew) : Run hub 0 crew crew
  | more {count : Nat} {crew next last : Crew} (step : Step hub crew next)
      (run : Run hub count next last) : Run hub (count + 1) crew last

variable {hub : Hub} {crew crew' crew'' : Crew} {count count' : Nat} {made made' : List Job}

theorem Run.append (first : Run hub count crew crew') (second : Run hub count' crew' crew'') :
    Run hub (count' + count) crew crew'' := by
  induction first with
  | none => exact second
  | more step _ ih => exact .more step (ih second)

/-- The jobs that wait or are still to be handed in, with all that they set off. -/
def owed (hub : Hub) (crew : Crew) : List Job :=
  (crew.desk.jobs ++ crew.busy.flatten).flatMap hub.setsOff

/-- In some steps some jobs are called, which were owed before and are not owed any more.  Each of
them takes three steps: one to hand it in, one to begin it and one to be done with it. -/
structure Makes (hub : Hub) (crew crew' : Crew) (made : List Job) (steps : Nat) : Prop where
  calls : crew'.desk.calls = crew.desk.calls ++ made.map Job.call
  owed : (crew.owed hub).Perm (made ++ crew'.owed hub)
  steps : 3 * made.length + crew.busy.length + crew'.desk.jobs.length
    = crew'.busy.length + crew.desk.jobs.length + steps

theorem makes_none (hub : Hub) (crew : Crew) : Makes hub crew crew [] 0 :=
  ⟨(List.append_nil _).symm, .refl _, by simp⟩

theorem Makes.trans (first : Makes hub crew crew' made count)
    (second : Makes hub crew' crew'' made' count') :
    Makes hub crew crew'' (made ++ made') (count' + count) := by
  refine ⟨?_, ?_, ?_⟩
  · rw [second.calls, first.calls, List.map_append, List.append_assoc]
  · rw [List.append_assoc]
    exact first.owed.trans (second.owed.append_left made)
  · have taken := first.steps
    have taken' := second.steps
    rw [List.length_append]
    omega

/-- A step calls a job that was owed, or leaves both calls and debts as they are. -/
theorem Step.makes (step : Step hub crew crew') : ∃ made, Makes hub crew crew' made 1 := by
  cases step with
  | begin calls before after job busy =>
    refine ⟨[job], rfl, ?_, by simp; omega⟩
    have taken : (before ++ job :: after ++ busy.flatten).Perm
        (job :: (before ++ after ++ busy.flatten)) := List.perm_middle.append_right _
    have added : (hub.followers job ++ (before ++ after ++ busy.flatten)).Perm
        (before ++ after ++ (hub.followers job :: busy).flatten) :=
      List.perm_append_comm_assoc _ _ _
    apply (taken.flatMap_right hub.setsOff).trans
    rw [List.flatMap_cons, Hub.setsOff_eq, List.cons_append, ← List.flatMap_append]
    exact (added.flatMap_right hub.setsOff).cons job
  | submit calls jobs before after job rest =>
    refine ⟨[], (List.append_nil _).symm, ?_, by simp; omega⟩
    have moved : (jobs ++ (before ++ (job :: rest) :: after).flatten).Perm
        (jobs ++ [job] ++ (before ++ rest :: after).flatten) := by
      simp only [List.flatten_append, List.flatten_cons, List.append_assoc, List.cons_append,
        List.nil_append]
      exact List.perm_middle.append_left jobs
    exact moved.flatMap_right hub.setsOff
  | finish desk before after =>
    refine ⟨[], (List.append_nil _).symm, ?_, by simp; omega⟩
    apply List.Perm.of_eq
    simp [owed]

theorem Run.makes (run : Run hub count crew crew') : ∃ made, Makes hub crew crew' made count := by
  induction run with
  | none crew => exact ⟨[], makes_none hub crew⟩
  | more step _ ih =>
    obtain ⟨first, called⟩ := step.makes
    obtain ⟨rest, called'⟩ := ih
    exact ⟨first ++ rest, called.trans called'⟩

/-- Where nothing can be done any more, nothing waits and nobody is at work. -/
theorem idle_of_stuck (stuck : ∀ next, ¬ Step hub crew next) :
    crew.desk.jobs = [] ∧ crew.busy = [] := by
  obtain ⟨⟨calls, jobs⟩, busy⟩ := crew
  cases jobs with
  | cons job rest => exact absurd (.begin calls [] rest job busy) (stuck _)
  | nil =>
    cases busy with
    | nil => exact ⟨rfl, rfl⟩
    | cons due rest =>
      cases due with
      | nil => exact absurd (.finish ⟨calls, []⟩ [] rest) (stuck _)
      | cons job later => exact absurd (.submit calls [] [] rest job later) (stuck _)

theorem length_jobs_le_owed (hub : Hub) (crew : Crew) :
    crew.desk.jobs.length ≤ (crew.owed hub).length := by
  have one : ∀ jobs : List Job, jobs.length ≤ (jobs.flatMap hub.setsOff).length := by
    intro jobs
    induction jobs with
    | nil => exact Nat.le_refl _
    | cons job rest ih =>
      rw [List.flatMap_cons, List.length_append, Hub.setsOff_eq, List.length_cons,
        List.length_cons]
      omega
  rw [owed, List.flatMap_append, List.length_append]
  exact Nat.le_trans (one _) (Nat.le_add_right _ _)

/-! ## One worker -/

/-- What a handler is to hand in comes into the queue. -/
theorem run_submits (hub : Hub) (due jobs : List Job) (calls : List Call)
    (busy : List (List Job)) :
    Run hub due.length ⟨⟨calls, jobs⟩, due :: busy⟩ ⟨⟨calls, jobs ++ due⟩, [] :: busy⟩ := by
  induction due generalizing jobs with
  | nil =>
    rw [List.append_nil]
    exact .none _
  | cons job rest ih =>
    rw [List.append_cons]
    exact .more (.submit calls jobs [] busy job rest) (ih (jobs ++ [job]))

/-- A worker that runs a job of a pool that is open goes through the steps of it. -/
theorem run_work (live : hub.closed = false) (calls : List Call) (job : Job) (rest : List Job) :
    ∃ count,
      Run hub count ⟨⟨calls, job :: rest⟩, []⟩ ⟨((hub.work job).on ⟨calls, rest⟩).2, []⟩ := by
  rw [Hub.on_work, live, if_neg Bool.false_ne_true]
  have called : Run hub 1 ⟨⟨calls, job :: rest⟩, []⟩
      ⟨⟨calls ++ [job.call], rest⟩, [hub.followers job]⟩ :=
    .more (.begin calls [] rest job []) (.none _)
  have handed := run_submits hub (hub.followers job) rest (calls ++ [job.call]) []
  have done : Run hub 1 ⟨⟨calls ++ [job.call], rest ++ hub.followers job⟩, [[]]⟩
      ⟨⟨calls ++ [job.call], rest ++ hub.followers job⟩, []⟩ := .more (.finish _ [] []) (.none _)
  exact ⟨_, called.append (handed.append done)⟩

/-- One worker empties the queue. -/
theorem run_drain (live : hub.closed = false) (desk : Desk) :
    (∃ count, Run hub count ⟨desk, []⟩ ⟨hub.drain desk, []⟩) ∧ (hub.drain desk).jobs = [] := by
  rw [Hub.drain]
  split
  next waiting => exact ⟨⟨0, .none _⟩, waiting⟩
  next job rest waiting =>
    have := hub.length_setsOff_work waiting
    obtain ⟨⟨later, drained⟩, empty⟩ :=
      run_drain live ((hub.work job).on { desk with jobs := rest }).2
    obtain ⟨first, worked⟩ := run_work live desk.calls job rest
    rw [← waiting] at worked
    exact ⟨⟨_, worked.append drained⟩, empty⟩
termination_by (desk.jobs.flatMap hub.setsOff).length
decreasing_by exact this

/-- From a pool whose workers are all free every run is finite, and has called what was owed by the
time that nothing can be done any more. -/
theorem Run.perm_calls {desk : Desk} {last : Crew} (run : Run hub count ⟨desk, []⟩ last) :
    count ≤ 3 * (desk.jobs.flatMap hub.setsOff).length
    ∧ ((∀ next, ¬ Step hub last next) →
      last.desk.calls.Perm (desk.calls ++ (desk.jobs.flatMap hub.setsOff).map Job.call)) := by
  obtain ⟨made, called⟩ := run.makes
  have start : (⟨desk, []⟩ : Crew).owed hub = desk.jobs.flatMap hub.setsOff := by
    rw [owed, List.flatten_nil, List.append_nil]
  have owed' := called.owed
  rw [start] at owed'
  constructor
  · have steps := called.steps
    have waiting := last.length_jobs_le_owed hub
    rw [owed'.length_eq, List.length_append]
    dsimp only [List.length_nil] at steps
    omega
  · intro stuck
    obtain ⟨empty, free⟩ := idle_of_stuck stuck
    rw [owed, empty, free, List.flatten_nil, List.append_nil, List.flatMap_nil,
      List.append_nil] at owed'
    rw [called.calls]
    exact (owed'.symm.map Job.call).append_left desk.calls

theorem not_step_of_idle {next : Crew} (empty : crew.desk.jobs = []) (free : crew.busy = []) :
    ¬ Step hub crew next := by
  intro step
  cases step with
  | begin => simp at empty
  | submit => simp at free
  | finish => simp at free

end Crew

/-! ## Either way -/

/-- Whichever handlers fail, every handler is called once for each event that it is told of.
Without a pool publishing comes to no futures, and makes the calls of the depth-first order.  With a
pool it comes to a future for each handler of the topic; whatever the workers do next, they come to
an end, and by then the same calls were made, in some order. -/
theorem every_handler_called_once (subscriptions : List Subscription)
    (fails : Subscription → Bool) (topic : String) (counter : Int) :
    let alone := Hub.failing fails ⟨subscriptions, false, false⟩
    let pool := Hub.failing fails ⟨subscriptions, true, false⟩
    let handlers := subscriptions.filter fun subscription => subscription.topic = topic
    let traversal := (Hub.depthFirst ⟨subscriptions, false, false⟩ topic counter).map Job.call
    (∀ desk, (alone.dispatch topic counter).on desk
      = (.ok 0, { desk with calls := desk.calls ++ traversal }))
    ∧ alone.publish topic counter = (.ok 0, traversal)
    ∧ (∀ desk, (pool.dispatch topic counter).on desk
      = (.ok handlers.length, { desk with jobs := desk.jobs ++ pool.jobs topic counter }))
    ∧ (∀ count last, Crew.Run pool count ⟨((pool.dispatch topic counter).on .empty).2, []⟩ last →
      count ≤ 3 * traversal.length
      ∧ ((∀ next, ¬ Crew.Step pool last next) → last.desk.calls.Perm traversal))
    ∧ (pool.publish topic counter).1 = .ok handlers.length
    ∧ (pool.publish topic counter).2.Perm traversal := by
  intro alone pool handlers traversal
  have ordered : ∀ hub : Hub, hub.subscriptions = alone.subscriptions →
      (hub.depthFirst topic counter).map Job.call = traversal := by
    intro hub same
    rw [Hub.depthFirst_of_failing same, List.map_map]
    rfl
  have together : ∀ desk, (alone.dispatch topic counter).on desk
      = (.ok 0, { desk with calls := desk.calls ++ traversal }) := by
    intro desk
    rw [← ordered alone rfl]
    exact Hub.on_runAll alone topic counter desk
  have number : (pool.jobs topic counter).length = handlers.length := by
    have known : pool.handlers topic
        = (Hub.handlers ⟨subscriptions, true, false⟩ topic).map _ :=
      Hub.handlers_of_failing rfl topic
    rw [Hub.jobs, List.length_map, known, List.length_map]
    rfl
  have queued : ∀ desk, (pool.dispatch topic counter).on desk
      = (.ok handlers.length, { desk with jobs := desk.jobs ++ pool.jobs topic counter }) := by
    intro desk
    rw [← number]
    exact Hub.on_submitEach_of_open rfl (pool.jobs topic counter) desk
  have owes : ((pool.jobs topic counter).flatMap pool.setsOff).map Job.call = traversal := by
    rw [← Hub.depthFirst_eq]
    exact ordered pool rfl
  have runs : ∀ count last,
      Crew.Run pool count ⟨((pool.dispatch topic counter).on .empty).2, []⟩ last →
      count ≤ 3 * traversal.length
      ∧ ((∀ next, ¬ Crew.Step pool last next) → last.desk.calls.Perm traversal) := by
    intro count last run
    rw [queued] at run
    obtain ⟨short, called⟩ := run.perm_calls
    dsimp only [Desk.empty, List.nil_append] at short called
    rw [← List.length_map Job.call, owes] at short
    rw [owes] at called
    exact ⟨short, called⟩
  refine ⟨together, ?_, queued, runs, ?_, ?_⟩
  · rw [Hub.publish, together]
    dsimp only
    rw [Hub.drain_of_empty _ rfl]
    rfl
  · rw [Hub.publish, queued]
  · obtain ⟨⟨count, drained⟩, empty⟩ :=
      Crew.run_drain (rfl : pool.closed = false) ((pool.dispatch topic counter).on .empty).2
    exact (runs count _ drained).2 fun next => Crew.not_step_of_idle empty rfl

/-- Two handlers publish to each other's topics as long as they may, and one of them fails after it
has.  A worker has called both in three rounds of taking, handing in and being done. -/
theorem every_handler_called_once_sample :
    let clerk : Subscription := ⟨"met", "clerk", some "left", true⟩
    let porter : Subscription :=
      ⟨"left", "porter", ⟨fun counter => if counter = 1 then some "met" else none⟩, false⟩
    let fails : Subscription → Bool := fun subscription => subscription.name = "clerk"
    let pool := Hub.failing fails ⟨[clerk, porter], true, false⟩
    let last : Crew :=
      ⟨⟨[⟨"clerk", "met", 2⟩, ⟨"porter", "left", 1⟩, ⟨"clerk", "met", 0⟩], []⟩, []⟩
    Crew.Run pool 8 ⟨((pool.dispatch "met" 2).on .empty).2, []⟩ last
      ∧ (∀ next, ¬ Crew.Step pool last next)
      ∧ last.desk.calls.Perm
          ((Hub.depthFirst ⟨[clerk, porter], false, false⟩ "met" 2).map Job.call) := by
  intro clerk porter fails pool last
  have first : pool.followers ⟨clerk, 2⟩ = [⟨porter, 1⟩] := rfl
  have second : pool.followers ⟨porter, 1⟩ = [⟨clerk, 0⟩] := rfl
  have third : pool.followers ⟨clerk, 0⟩ = [] := rfl
  have run : Crew.Run pool 8 ⟨((pool.dispatch "met" 2).on .empty).2, []⟩ last := by
    refine .more (.begin [] [] [] ⟨clerk, 2⟩ []) ?_
    rw [first]
    refine .more (.submit _ [] [] [] ⟨porter, 1⟩ []) (.more (.finish _ [] []) ?_)
    refine .more (.begin _ [] [] ⟨porter, 1⟩ []) ?_
    rw [second]
    refine .more (.submit _ [] [] [] ⟨clerk, 0⟩ []) (.more (.finish _ [] []) ?_)
    refine .more (.begin _ [] [] ⟨clerk, 0⟩ []) ?_
    rw [third]
    exact .more (.finish _ [] []) (.none _)
  have stuck : ∀ next, ¬ Crew.Step pool last next := fun _ => Crew.not_step_of_idle rfl rfl
  have called := every_handler_called_once [clerk, porter] fails "met" 2
  exact ⟨run, stuck, (called.2.2.2.1 _ _ run).2 stuck⟩

end Rendezvous.Bus
