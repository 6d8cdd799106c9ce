import Rendezvous.Failure

/-!
# The event bus

Handlers subscribe to topics, and a published event is handed to every handler of its
topic in the order of subscription.  A handler may publish in turn, with a counter one
smaller, while the counter is positive; whether it does, and to which topic, may depend on
the counter.  Without a pool a handler is done, with all that it sets off, before the next
one begins.  With a pool the handlers wait in a queue.  A handler that fails keeps nobody
else from being called.
-/

namespace Rendezvous.Bus

/-- The topic that a handler publishes to, by the counter that it is called with. -/
structure Rule where
  topic? : Int → Option String

/-- The same topic, or none, whatever the counter. -/
instance : Coe (Option String) Rule := ⟨fun topic => ⟨fun _ => topic⟩⟩

structure Subscription where
  topic : String
  name : String
  republishes : Rule
  fails : Bool

structure Call where
  name : String
  topic : String
  counter : Int
deriving DecidableEq

/-- A handler with the counter that it is to be called with. -/
structure Job where
  subscription : Subscription
  counter : Int

def Job.call (job : Job) : Call := ⟨job.subscription.name, job.subscription.topic, job.counter⟩

/-! ## Handlers -/

/-- What handlers leave behind: the calls that were made, and the jobs that wait for the pool. -/
structure Desk where
  calls : List Call
  jobs : List Job

def Desk.empty : Desk := ⟨[], []⟩

/-- What is done at a desk comes to a value or fails, and leaves a desk behind in either case. -/
structure Work (α : Type) where
  on : Desk → Except Failure α × Desk

namespace Work

instance : Monad Work where
  pure value := ⟨fun desk => (.ok value, desk)⟩
  bind work next := ⟨fun desk =>
    match work.on desk with
    | (.ok value, left) => (next value).on left
    | (.error failure, left) => (.error failure, left)⟩

def fail {α : Type} (failure : Failure) : Work α := ⟨fun desk => (.error failure, desk)⟩

/-- Does something whose failure does not get any further. -/
def absorb (work : Work Unit) : Work Unit := ⟨fun desk => (.ok (), (work.on desk).2)⟩

def note (call : Call) : Work Unit :=
  ⟨fun desk => (.ok (), { desk with calls := desk.calls ++ [call] })⟩

def wait (job : Job) : Work Unit :=
  ⟨fun desk => (.ok (), { desk with jobs := desk.jobs ++ [job] })⟩

variable {α β : Type} {work : Work α} {next : α → Work β} {desk left : Desk}

theorem on_bind_of_ok {value : α} (done : work.on desk = (.ok value, left)) :
    (work >>= next).on desk = (next value).on left := by
  simp only [bind, done]

theorem on_bind_of_error {failure : Failure} (failed : work.on desk = (.error failure, left)) :
    (work >>= next).on desk = (.error failure, left) := by
  simp only [bind, failed]

theorem on_absorb (work : Work Unit) (desk : Desk) :
    (absorb work).on desk = (.ok (), (work.on desk).2) := rfl

/-- What comes last and leaves nothing behind does not show at the desk. -/
theorem desk_bind (idle : ∀ value desk, ((next value).on desk).2 = desk) (work : Work α)
    (desk : Desk) : ((work >>= next).on desk).2 = (work.on desk).2 := by
  rcases done : work.on desk with ⟨_ | value, left⟩
  · rw [on_bind_of_error done]
  · rw [on_bind_of_ok done, idle]

theorem desk_discard (work : Work α) (desk : Desk) :
    ((discard work : Work Unit).on desk).2 = (work.on desk).2 :=
  desk_bind (fun _ _ => rfl) work desk

end Work

/-- What a handler publishes in turn. -/
def Job.republish (job : Job) (publish : 0 < job.counter → String → Work Nat) : Work Unit :=
  if positive : 0 < job.counter then
    match job.subscription.republishes.topic? job.counter with
    | some next => discard (publish positive next)
    | none => pure ()
  else pure ()

/-- A handler notes its call, publishes in turn, and fails if it is one that does. -/
def Job.handle (job : Job) (publish : 0 < job.counter → String → Work Nat) : Work Unit := do
  Work.note job.call
  job.republish publish
  if job.subscription.fails then Work.fail .outage

def Job.run (job : Job) (publish : 0 < job.counter → String → Work Nat) : Work Unit :=
  Work.absorb (job.handle publish)

/-- Whether a handler fails, or what it publishes, does not show in how its run ends. -/
theorem Job.on_run (job : Job) (publish : 0 < job.counter → String → Work Nat) (desk : Desk) :
    (job.run publish).on desk = (.ok (),
      ((job.republish publish).on { desk with calls := desk.calls ++ [job.call] }).2) := by
  have noted : (Work.note job.call).on desk
      = (.ok (), { desk with calls := desk.calls ++ [job.call] }) := rfl
  rw [run, Work.on_absorb, handle, Work.on_bind_of_ok noted, Work.desk_bind]
  intro _ left
  split <;> rfl

/-! ## Publishing -/

structure Hub where
  subscriptions : List Subscription
  /-- Whether handlers run in a pool. -/
  pooled : Bool
  closed : Bool

namespace Hub

def empty (pooled : Bool) : Hub := ⟨[], pooled, false⟩

def subscribe (hub : Hub) (subscription : Subscription) : Hub :=
  { hub with subscriptions := hub.subscriptions ++ [subscription] }

/-- Closing does nothing where there is no pool. -/
def shutdown (hub : Hub) : Hub := { hub with closed := hub.closed || hub.pooled }

def handlers (hub : Hub) (topic : String) : List Subscription :=
  hub.subscriptions.filter fun subscription => subscription.topic = topic

/-- Runs every handler at once, which makes no futures. -/
def runAll (hub : Hub) (topic : String) (counter : Int) : Work Nat := do
  (hub.handlers topic).forM fun subscription =>
    Job.run ⟨subscription, counter⟩ fun positive next => hub.runAll next (counter - 1)
  pure 0
termination_by counter.toNat
decreasing_by
  dsimp only at positive
  omega

/-- Hands a job to the pool, which takes none after it is closed. -/
def submit (hub : Hub) (job : Job) : Work Unit :=
  if hub.closed then Work.fail .outage else Work.wait job

/-- Hands one job after another to the pool, and tells how many futures that makes. -/
def submitEach (hub : Hub) : List Job → Work Nat
  | [] => pure 0
  | job :: rest => do
      hub.submit job
      let futures ← hub.submitEach rest
      pure (futures + 1)

def jobs (hub : Hub) (topic : String) (counter : Int) : List Job :=
  (hub.handlers topic).map fun subscription => ⟨subscription, counter⟩

def submitAll (hub : Hub) (topic : String) (counter : Int) : Work Nat :=
  hub.submitEach (hub.jobs topic counter)

def dispatch (hub : Hub) (topic : String) (counter : Int) : Work Nat :=
  if hub.pooled then hub.submitAll topic counter else hub.runAll topic counter

/-- What a worker of the pool does with a job. -/
def work (hub : Hub) (job : Job) : Work Unit :=
  job.run fun _ next => hub.submitAll next (job.counter - 1)

/-! ## Working off the queue -/

/-- The jobs that the handler of a job publishes in turn. -/
def followers (hub : Hub) (job : Job) : List Job :=
  if 0 < job.counter then
    match job.subscription.republishes.topic? job.counter with
    | some next => hub.jobs next (job.counter - 1)
    | none => []
  else []

/-- The jobs that an event comes to, where each is followed by those that it sets off. -/
def depthFirst (hub : Hub) (topic : String) (counter : Int) : List Job :=
  (hub.handlers topic).flatMap fun subscription =>
    ⟨subscription, counter⟩ ::
      if 0 < counter then
        match subscription.republishes.topic? counter with
        | some next => hub.depthFirst next (counter - 1)
        | none => []
      else []
termination_by counter.toNat

/-- A job and all that it sets off. -/
def setsOff (hub : Hub) (job : Job) : List Job :=
  job ::
    if 0 < job.counter then
      match job.subscription.republishes.topic? job.counter with
      | some next => hub.depthFirst next (job.counter - 1)
      | none => []
    else []

theorem depthFirst_eq (hub : Hub) (topic : String) (counter : Int) :
    hub.depthFirst topic counter = (hub.jobs topic counter).flatMap hub.setsOff := by
  rw [depthFirst, jobs, List.flatMap_map]
  rfl

theorem setsOff_eq (hub : Hub) (job : Job) :
    hub.setsOff job = job :: (hub.followers job).flatMap hub.setsOff := by
  rw [setsOff, followers]
  split
  · split
    · rw [depthFirst_eq]
    · rfl
  · rfl

variable {hub : Hub} {job : Job}

/-- A pool that is not closed takes every job. -/
theorem on_submitEach_of_open (live : hub.closed = false) (jobs : List Job) (desk : Desk) :
    (hub.submitEach jobs).on desk = (.ok jobs.length, { desk with jobs := desk.jobs ++ jobs }) := by
  induction jobs generalizing desk with
  | nil =>
    rw [List.append_nil]
    rfl
  | cons job rest ih =>
    have taken : (hub.submit job).on desk = (.ok (), { desk with jobs := desk.jobs ++ [job] }) := by
      rw [submit, live]
      rfl
    rw [submitEach, Work.on_bind_of_ok taken, Work.on_bind_of_ok (ih _), List.append_assoc]
    rfl

/-- A closed pool takes none. -/
theorem on_submitEach_of_closed (closed : hub.closed = true) (jobs : List Job) (desk : Desk) :
    (hub.submitEach jobs).on desk = (if jobs.isEmpty then .ok 0 else .error .outage, desk) := by
  cases jobs with
  | nil => rfl
  | cons job rest =>
    have refused : (hub.submit job).on desk = (.error .outage, desk) := by
      rw [submit, closed]
      rfl
    rw [submitEach, Work.on_bind_of_error refused]
    rfl

/-- A worker notes the call, and adds to the queue what the handler publishes. -/
theorem on_work (hub : Hub) (job : Job) (desk : Desk) :
    (hub.work job).on desk
      = (.ok (), ⟨desk.calls ++ [job.call],
          desk.jobs ++ if hub.closed then [] else hub.followers job⟩) := by
  rw [work, Job.on_run, Job.republish, followers]
  split
  · split
    next next _ =>
      rw [Work.desk_discard, submitAll]
      cases closed : hub.closed with
      | true => rw [on_submitEach_of_closed closed, if_pos rfl, List.append_nil]
      | false => rw [on_submitEach_of_open closed, if_neg Bool.false_ne_true]
    next =>
      rw [ite_self, List.append_nil]
      rfl
  · rw [ite_self, List.append_nil]
    rfl

/-- A worker that takes a job out of the queue leaves less to be done. -/
theorem length_setsOff_work (hub : Hub) {desk : Desk} {rest : List Job}
    (waiting : desk.jobs = job :: rest) :
    (((hub.work job).on { desk with jobs := rest }).2.jobs.flatMap hub.setsOff).length
      < (desk.jobs.flatMap hub.setsOff).length := by
  rw [on_work, waiting, List.flatMap_append, List.flatMap_cons, List.length_append,
    List.length_append, setsOff_eq, List.length_cons]
  dsimp only
  split
  · simp
  · omega

/-- One worker takes the jobs out of the queue in their order, until none is left. -/
def drain (hub : Hub) (desk : Desk) : Desk :=
  match waiting : desk.jobs with
  | [] => desk
  | job :: rest =>
      have := hub.length_setsOff_work waiting
      hub.drain ((hub.work job).on { desk with jobs := rest }).2
termination_by (desk.jobs.flatMap hub.setsOff).length
decreasing_by exact this

/-- Publishes an event and waits until all is done: how many futures that made, and all calls. -/
def publish (hub : Hub) (topic : String) (counter : Int) : Except Failure Nat × List Call :=
  let (outcome, desk) := (hub.dispatch topic counter).on .empty
  (outcome, (hub.drain desk).calls)

end Hub

end Rendezvous.Bus
