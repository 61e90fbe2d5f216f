import ModbusTcp.FrameFactory

/-!
# Factories side by side

A workshop holds factories, each at a place of its own.  A factory builds requests, learns one more resolver, or
is copied.  The copy gets the next free place; it knows what the original knows and goes on with the numbers of
the original, and from then on what happens to the one does not concern the other.

* `FrameFactory.Request`, `FrameFactory.build` — the requests of the register model, and building one.
* `Workshop.step`, `Workshop.after` — a job, and a history of jobs.
* `Workshop.Job.effect` — what a job makes of the factory at a place; `Workshop.getElem?_after` says so of a
  history, and `Workshop.getElem?_copy` what a copy is.
* `Workshop.Job.addedTo` — the resolver that a job adds to the factory at a place; by `Workshop.resolvers_after`
  nothing else changes its resolvers.
-/

namespace ModbusTcp

/-- A request that a factory can build. -/
inductive FrameFactory.Request where
  | readRegisters (start count : UInt16)
  | readInputRegisters (start count : UInt16)
  | writeRegister (address value : UInt16)
  | writeMultiple (start : UInt16) (values : List UInt16)
deriving DecidableEq, Repr

/-- Builds a request to a unit. -/
def FrameFactory.build (factory : FrameFactory) (unit : UInt8) : Request → Frame × FrameFactory
  | .readRegisters start count => factory.readRegisters unit start count
  | .readInputRegisters start count => factory.readInputRegisters unit start count
  | .writeRegister address value => factory.writeRegister unit address value
  | .writeMultiple start values => factory.writeMultiple unit start values

/-- Factories by their places. -/
structure Workshop where
  factories : List FrameFactory

namespace Workshop

/-- What is done with the factory at a place. -/
inductive Job where
  | build (place : Nat) (unit : UInt8) (request : FrameFactory.Request)
  | copy (place : Nat)
  | add (place : Nat) (resolver : Resolver)

/-- The resolver that a job adds to the factory at a place. -/
def Job.addedTo (place : Nat) : Job → Option Resolver
  | .add other resolver => if other = place then some resolver else none
  | .build .. | .copy _ => none

/-- Does a job, which may give a frame.  At a place without a factory there is nothing to do. -/
def step (workshop : Workshop) : Job → Option Frame × Workshop
  | .build place unit request =>
    match workshop.factories[place]? with
    | some factory =>
      let (frame, factory) := factory.build unit request
      (some frame, ⟨workshop.factories.set place factory⟩)
    | none => (none, workshop)
  | .copy place => (none, ⟨workshop.factories ++ workshop.factories[place]?.toList⟩)
  | .add place resolver => (none, ⟨workshop.factories.modify place (·.add resolver)⟩)

/-- The workshop after a history of jobs. -/
def after (workshop : Workshop) : List Job → Workshop
  | [] => workshop
  | job :: jobs => (workshop.step job).2.after jobs

/-! ### The factory at a place -/

/-- What a job makes of the factory at a place. -/
def Job.effect (place : Nat) (factory : FrameFactory) : Job → FrameFactory
  | .build other unit request => if other = place then (factory.build unit request).2 else factory
  | .add other resolver => if other = place then factory.add resolver else factory
  | .copy _ => factory

variable {workshop : Workshop} {place : Nat} {factory : FrameFactory}

theorem getElem?_step (there : workshop.factories[place]? = some factory) (job : Job) :
    (workshop.step job).2.factories[place]? = some (job.effect place factory) := by
  have inside : place < workshop.factories.length := (List.getElem?_eq_some_iff.mp there).1
  cases job with
  | build other unit request =>
    rw [step, Job.effect]
    by_cases same : other = place
    · subst same
      rw [there, if_pos rfl]
      exact List.getElem?_set_self inside
    · rw [if_neg same]
      cases workshop.factories[other]? with
      | none => exact there
      | some others => exact (List.getElem?_set_ne same).trans there
  | copy other => exact (List.getElem?_append_left inside).trans there
  | add other resolver =>
    rw [step, Job.effect, List.getElem?_modify, there, Option.map_eq_map, Option.map_some]

/-- After a history a factory is what the jobs at its place have made of it. -/
theorem getElem?_after (there : workshop.factories[place]? = some factory) (jobs : List Job) :
    (workshop.after jobs).factories[place]? = some (jobs.foldl (Job.effect place) factory) := by
  induction jobs generalizing workshop factory with
  | nil => exact there
  | cons job jobs ih => exact ih (getElem?_step there job)

/-- A copy is at first what the original is. -/
theorem getElem?_copy (there : workshop.factories[place]? = some factory) :
    (workshop.step (.copy place)).2.factories[workshop.factories.length]? = some factory := by
  rw [step, there]
  exact List.getElem?_concat_length

theorem resolvers_effect (place : Nat) (factory : FrameFactory) (job : Job) :
    (job.effect place factory).resolvers = factory.resolvers ++ (job.addedTo place).toList := by
  cases job with
  | build other unit request =>
    have kept : (factory.build unit request).2.resolvers = factory.resolvers := by cases request <;> rfl
    rw [Job.effect, apply_ite FrameFactory.resolvers, kept, ite_self]
    exact (List.append_nil _).symm
  | copy other => exact (List.append_nil _).symm
  | add other resolver =>
    rw [Job.effect, Job.addedTo]
    by_cases same : other = place
    · rw [if_pos same, if_pos same]
      rfl
    · rw [if_neg same, if_neg same]
      exact (List.append_nil _).symm

/-- A factory knows what it has known before and what has been added to it, in this order. -/
theorem resolvers_after (place : Nat) (factory : FrameFactory) (jobs : List Job) :
    (jobs.foldl (Job.effect place) factory).resolvers =
      factory.resolvers ++ jobs.filterMap (Job.addedTo place) := by
  induction jobs generalizing factory with
  | nil => exact (List.append_nil _).symm
  | cons job jobs ih =>
    rw [List.foldl_cons, ih, resolvers_effect, List.append_assoc, List.filterMap_cons]
    cases job.addedTo place <;> rfl

end Workshop

end ModbusTcp
