import Mathlib.Data.List.Induction
import ModbusTcp.Workshop

/-!
# The numbers of frames

A factory numbers its frames one after the other, and the number behind the highest is zero.  Nothing but its own
requests moves it on, whatever is done with the other factories of the workshop.  A copy has a count of its own, which
goes on from where the original stands when it is copied; so its first number is told from the history of all
factories that it comes from.

* `Workshop.frames` — the frames that the factory at a place builds during a history.
* `FrameFactory.series` — frames around requests under consecutive numbers.
* `Workshop.Job.asked`, `Workshop.standing_after` — the requests made of a factory, and that they alone tell its
  frames.
* `Workshop.Origin` — where the factory at a place comes from, and its first number.
* `Workshop.Numbered` — how the frames of a factory are numbered.
* **`Workshop.numbered_of_origin`** — every factory has an origin, and its frames are numbered from there.
-/

namespace ModbusTcp

/-! ### Frames under consecutive numbers -/

namespace FrameFactory

/-- The PDU that asks for a request. -/
def Request.pdu : Request → Pdu
  | .readRegisters start count => .ofFunction .readHoldingRegisters (.body (.readRegisters start count))
  | .readInputRegisters start count => .ofFunction .readInputRegisters (.body (.readRegisters start count))
  | .writeRegister address value => .ofFunction .writeSingleRegister (.body (.writeRegister address value))
  | .writeMultiple start values => .ofFunction .writeMultipleRegisters (.body (.writeMultiple start values))

/-- Building a frame takes one number, whatever is requested. -/
theorem build_eq (factory : FrameFactory) (unit : UInt8) (request : Request) :
    factory.build unit request =
      (.ofPdu factory.nextId factory.protocolId unit request.pdu, { factory with nextId := factory.nextId + 1 }) := by
  cases request <;> rfl

/-- Frames around requests to units, under consecutive numbers from the first one. -/
def series (first protocol : UInt16) (requests : List (UInt8 × Request)) : List Frame :=
  requests.mapIdx fun index (unit, request) => .ofPdu (first + .ofNat index) protocol unit request.pdu

theorem series_cons (first protocol : UInt16) (unit : UInt8) (request : Request)
    (requests : List (UInt8 × Request)) :
    series first protocol ((unit, request) :: requests) =
      .ofPdu first protocol unit request.pdu :: series (first + 1) protocol requests := by
  have next (index : Nat) : first + UInt16.ofNat (index + 1) = first + 1 + UInt16.ofNat index := by
    rw [UInt16.ofNat_add, UInt16.add_comm (.ofNat index), ← UInt16.add_assoc]
    rfl
  rw [series, List.mapIdx_cons]
  simp only [next]
  show Frame.ofPdu (first + 0) .. :: _ = _
  rw [UInt16.add_zero]
  rfl

/-- The frame at an index of a series. -/
theorem ids_of_getElem?_series {first protocol : UInt16} {requests : List (UInt8 × Request)} {index : Nat}
    {frame : Frame} (there : (series first protocol requests)[index]? = some frame) :
    frame.header.transactionId = first + .ofNat index ∧ frame.header.protocolId = protocol := by
  rw [series, List.getElem?_mapIdx] at there
  obtain ⟨request, _, rfl⟩ := Option.map_eq_some_iff.mp there
  exact ⟨rfl, rfl⟩

/-- Numbers less than a whole turn apart are different. -/
theorem id_ne (first : UInt16) {i j : Nat} (before : i < j) (near : j - i < 65536) :
    first + .ofNat i ≠ first + .ofNat j := by
  intro same
  have same : (UInt16.ofNat i).toNat = (UInt16.ofNat j).toNat :=
    congrArg UInt16.toNat ((UInt16.add_right_inj first).mp same)
  rw [UInt16.toNat_ofNat', UInt16.toNat_ofNat'] at same
  omega

end FrameFactory

namespace Workshop

open FrameFactory (series)

/-! ### The frames of a factory -/

/-- The place that a job is done at. -/
def Job.place : Job → Nat
  | .build place .. | .copy place | .add place _ => place

/-- The request that a job makes of the factory at a place. -/
def Job.asked (place : Nat) : Job → Option (UInt8 × FrameFactory.Request)
  | .build other unit request => if other = place then some (unit, request) else none
  | .copy _ | .add .. => none

/-- The frames that the factory at a place builds during a history. -/
def frames (workshop : Workshop) (place : Nat) : List Job → List Frame
  | [] => []
  | job :: jobs =>
    (if job.place = place then (workshop.step job).1.toList else []) ++ (workshop.step job).2.frames place jobs

variable {workshop : Workshop} {place : Nat} {factory : FrameFactory}

theorem after_append (workshop : Workshop) (before later : List Job) :
    workshop.after (before ++ later) = (workshop.after before).after later := by
  induction before generalizing workshop with
  | nil => rfl
  | cons job before ih => exact ih _

theorem frames_append (workshop : Workshop) (place : Nat) (before later : List Job) :
    workshop.frames place (before ++ later) =
      workshop.frames place before ++ (workshop.after before).frames place later := by
  induction before generalizing workshop with
  | nil => rfl
  | cons job before ih =>
    rw [List.cons_append, frames, ih, frames, List.append_assoc]
    rfl

theorem step_build (there : workshop.factories[place]? = some factory) (unit : UInt8)
    (request : FrameFactory.Request) :
    (workshop.step (.build place unit request)).1 =
      some (.ofPdu factory.nextId factory.protocolId unit request.pdu) := by
  rw [step, there]
  exact congrArg (fun built => some built.1) (factory.build_eq unit request)

/-- A job makes the factory at its place build a frame if it asks for one. -/
theorem step_of_place (there : workshop.factories[place]? = some factory) (job : Job) :
    (if job.place = place then (workshop.step job).1.toList else []) =
      ((job.asked place).map fun (unit, request) =>
        Frame.ofPdu factory.nextId factory.protocolId unit request.pdu).toList := by
  cases job with
  | build other unit request =>
    rw [Job.place, Job.asked]
    by_cases same : other = place
    · subst same
      rw [if_pos rfl, if_pos rfl, step_build there]
      rfl
    · rw [if_neg same, if_neg same]
      rfl
  | copy other => exact ite_self []
  | add other resolver => exact ite_self []

/-- A job moves the number of the factory at a place on if it asks it for a frame. -/
theorem ids_effect (place : Nat) (factory : FrameFactory) (job : Job) :
    (job.effect place factory).nextId = factory.nextId + .ofNat (job.asked place).toList.length ∧
      (job.effect place factory).protocolId = factory.protocolId := by
  cases job with
  | build other unit request =>
    rw [Job.effect, Job.asked, FrameFactory.build_eq]
    by_cases same : other = place
    · rw [if_pos same, if_pos same]
      exact ⟨rfl, rfl⟩
    · rw [if_neg same, if_neg same]
      exact ⟨(UInt16.add_zero _).symm, rfl⟩
  | copy other => exact ⟨(UInt16.add_zero _).symm, rfl⟩
  | add other resolver =>
    rw [Job.effect, apply_ite FrameFactory.nextId, apply_ite FrameFactory.protocolId]
    exact ⟨(ite_self _).trans (UInt16.add_zero _).symm, ite_self _⟩

/-- A factory that has built some frames stands behind them in its numbers, and they are around the requests
made of it. -/
theorem standing_after (there : workshop.factories[place]? = some factory) (jobs : List Job) :
    workshop.frames place jobs = series factory.nextId factory.protocolId (jobs.filterMap (Job.asked place)) ∧
      ∃ standing, (workshop.after jobs).factories[place]? = some standing ∧
        standing.nextId = factory.nextId + .ofNat (workshop.frames place jobs).length ∧
        standing.protocolId = factory.protocolId := by
  induction jobs generalizing workshop factory with
  | nil => exact ⟨rfl, factory, there, (UInt16.add_zero _).symm, rfl⟩
  | cons job jobs ih =>
    obtain ⟨numbered, standing, stands, next, protocol⟩ := ih (getElem?_step there job)
    obtain ⟨moved, kept⟩ := ids_effect place factory job
    rw [frames, step_of_place there, List.filterMap_cons]
    rw [moved, kept] at numbered
    rw [moved] at next
    rw [kept] at protocol
    cases asked : job.asked place with
    | none =>
      rw [asked] at numbered next
      refine ⟨?_, standing, stands, ?_, protocol⟩
      · exact numbered.trans (congrArg (series · _ _) (UInt16.add_zero _))
      · exact next.trans (congrArg (· + _) (UInt16.add_zero _))
    | some request =>
      obtain ⟨unit, request⟩ := request
      rw [asked] at numbered next
      refine ⟨?_, standing, stands, ?_, protocol⟩
      · rw [FrameFactory.series_cons, numbered]
        rfl
      · rw [next, UInt16.add_assoc, ← UInt16.ofNat_add]
        congr 2
        simp [Nat.add_comm]

/-! ### Where factories come from -/

/-- There are as many factories after a job as before, or one more, which is a copy. -/
theorem length_step_cases (workshop : Workshop) (job : Job) :
    (workshop.step job).2.factories.length = workshop.factories.length ∨
      ∃ place, job = .copy place ∧ place < workshop.factories.length ∧
        (workshop.step job).2.factories.length = workshop.factories.length + 1 := by
  cases job with
  | build other unit request =>
    rw [step]
    cases workshop.factories[other]? with
    | none => exact .inl rfl
    | some factory => exact .inl List.length_set
  | copy other =>
    rw [step]
    cases original : workshop.factories[other]? with
    | none => exact .inl (congrArg List.length (List.append_nil _))
    | some factory =>
      exact .inr ⟨other, rfl, (List.getElem?_eq_some_iff.mp original).1, List.length_append⟩
  | add other resolver => exact .inl (List.length_modify ..)

theorem length_le_after (workshop : Workshop) (jobs : List Job) :
    workshop.factories.length ≤ (workshop.after jobs).factories.length := by
  induction jobs generalizing workshop with
  | nil => exact Nat.le_refl _
  | cons job jobs ih =>
    have grown : workshop.factories.length ≤ (workshop.step job).2.factories.length := by
      rcases workshop.length_step_cases job with same | ⟨_, _, _, more⟩ <;> omega
    exact Nat.le_trans grown (ih _)

/-- Nothing is built at a place before there is a factory. -/
theorem frames_of_vacant (jobs : List Job) (vacant : (workshop.after jobs).factories.length ≤ place) :
    workshop.frames place jobs = [] := by
  induction jobs generalizing workshop with
  | nil => rfl
  | cons job jobs ih =>
    have still : workshop.factories.length ≤ place :=
      Nat.le_trans (workshop.length_le_after (job :: jobs)) vacant
    have nobody : workshop.factories[place]? = none := List.getElem?_eq_none still
    rw [frames, ih vacant, List.append_nil]
    split
    · next same =>
      cases job with
      | build other unit request =>
        obtain rfl : other = place := same
        rw [step, nobody]
        rfl
      | copy other => rfl
      | add other resolver => rfl
    · rfl

/-- Where the factory at a place comes from, and the first number and the protocol id of its frames: it has been there
from the beginning, with what it has been given, or it has been copied, and goes on from the number that was next for
the original then. -/
inductive Origin (workshop : Workshop) : List Job → Nat → UInt16 → UInt16 → Prop
  | given {place : Nat} {factory : FrameFactory} (there : workshop.factories[place]? = some factory)
      (jobs : List Job) : Origin workshop jobs place factory.nextId factory.protocolId
  | copied {before : List Job} {place : Nat} {first protocol : UInt16}
      (original : Origin workshop before place first protocol) (later : List Job) :
      Origin workshop (before ++ .copy place :: later) (workshop.after before).factories.length
        (first + .ofNat (workshop.frames place before).length) protocol

/-- How the frames of the factory at a place are numbered during a history. -/
structure Numbered (workshop : Workshop) (jobs : List Job) (place : Nat) (first protocol : UInt16) : Prop where
  /-- The numbers are consecutive, and every frame has the protocol id. -/
  consecutive : ∀ index frame, (workshop.frames place jobs)[index]? = some frame →
    frame.header.transactionId = first + .ofNat index ∧ frame.header.protocolId = protocol
  /-- Two frames of less than a whole turn have different numbers. -/
  distinct : ∀ i j left right, (workshop.frames place jobs)[i]? = some left →
    (workshop.frames place jobs)[j]? = some right → i < j → j - i < 65536 →
    left.header.transactionId ≠ right.header.transactionId
  /-- From any moment on at which the factory is there, it builds a frame around each request made of it. -/
  answers : ∀ before later, jobs = before ++ later → place < (workshop.after before).factories.length →
    workshop.frames place jobs = workshop.frames place before ++
      series (first + .ofNat (workshop.frames place before).length) protocol (later.filterMap (Job.asked place))
  /-- One more frame that another factory builds then changes nothing. -/
  apart : ∀ before later other unit request, jobs = before ++ later →
    place < (workshop.after before).factories.length → other ≠ place →
    workshop.frames place (before ++ .build other unit request :: later) = workshop.frames place jobs

namespace Origin

variable {jobs : List Job} {first protocol : UInt16}

/-- A history that goes on does not change where a factory has come from. -/
theorem append (origin : workshop.Origin jobs place first protocol) (more : List Job) :
    workshop.Origin (jobs ++ more) place first protocol := by
  cases origin with
  | given there => exact .given there _
  | copied original later =>
    rw [List.append_assoc, List.cons_append]
    exact .copied original _

/-- The factory is there, its frames are numbered from its first number, and its next number is the one behind
them. -/
theorem standing (origin : workshop.Origin jobs place first protocol) :
    (∃ requests, workshop.frames place jobs = series first protocol requests) ∧
      ∃ standing, (workshop.after jobs).factories[place]? = some standing ∧
        standing.nextId = first + .ofNat (workshop.frames place jobs).length ∧ standing.protocolId = protocol := by
  induction origin with
  | given there jobs =>
    obtain ⟨numbered, standing⟩ := standing_after there jobs
    exact ⟨⟨_, numbered⟩, standing⟩
  | @copied before place first protocol original later ih =>
    obtain ⟨-, standing, there, next, same⟩ := ih
    -- The copy has built nothing before it is made, and stands then where the original stands.
    have nothing : workshop.frames (workshop.after before).factories.length before = [] :=
      frames_of_vacant before (Nat.le_refl _)
    obtain ⟨numbered, further⟩ := standing_after (getElem?_copy there) later
    have built : workshop.frames (workshop.after before).factories.length (before ++ .copy place :: later) =
        ((workshop.after before).step (.copy place)).2.frames (workshop.after before).factories.length later := by
      rw [frames_append, nothing, frames]
      exact congrArg (· ++ _) (ite_self [])
    rw [built, after_append]
    rw [next, same] at numbered further
    exact ⟨⟨_, numbered⟩, further⟩

end Origin

/-- Every factory comes from somewhere. -/
theorem exists_origin (workshop : Workshop) (jobs : List Job)
    (there : place < (workshop.after jobs).factories.length) :
    ∃ first protocol, workshop.Origin jobs place first protocol := by
  -- The induction is on the history from its end: the last job adds a factory at most.
  induction jobs using List.reverseRecOn generalizing place with
  | nil => exact ⟨_, _, .given (List.getElem?_eq_getElem there) []⟩
  | append_singleton before job ih =>
    by_cases early : place < (workshop.after before).factories.length
    · obtain ⟨first, protocol, origin⟩ := ih early
      exact ⟨first, protocol, origin.append [job]⟩
    · rw [after_append] at there
      rcases (workshop.after before).length_step_cases job with same | ⟨original, rfl, inside, more⟩
      · exact absurd (same ▸ there) early
      · obtain rfl : place = (workshop.after before).factories.length := by
          have there : place < ((workshop.after before).step (.copy original)).2.factories.length := there
          omega
        obtain ⟨first, protocol, origin⟩ := ih inside
        exact ⟨_, protocol, .copied origin []⟩

/-- A factory that is there at some moment has come from where it comes from before that. -/
theorem Origin.restrict {before later : List Job} {first protocol : UInt16}
    (origin : workshop.Origin (before ++ later) place first protocol)
    (there : place < (workshop.after before).factories.length) : workshop.Origin before place first protocol := by
  generalize whole : before ++ later = jobs at origin
  cases origin with
  | given stands => exact .given stands before
  | @copied earlier original first protocol origin more =>
    rcases List.append_eq_append_iff.mp whole with ⟨between, rfl, _⟩ | ⟨between, rfl, rest⟩
    · -- The copy is made later than that, so there can be no factory at its place.
      have fewer := (workshop.after before).length_le_after between
      rw [← after_append] at fewer
      omega
    · cases between with
      | nil =>
        rw [List.append_nil] at there
        exact absurd there (Nat.lt_irrefl _)
      | cons job between =>
        obtain ⟨rfl, _⟩ := List.cons.inj rest
        exact .copied origin between

/-- From any moment on at which a factory is there, it builds a frame around each request made of it. -/
theorem Origin.answers {before later : List Job} {first protocol : UInt16}
    (origin : workshop.Origin (before ++ later) place first protocol)
    (there : place < (workshop.after before).factories.length) :
    workshop.frames place (before ++ later) = workshop.frames place before ++
      series (first + .ofNat (workshop.frames place before).length) protocol
        (later.filterMap (Job.asked place)) := by
  obtain ⟨-, standing, stands, next, same⟩ := (origin.restrict there).standing
  rw [frames_append, (standing_after stands later).1, next, same]

/-- **Transaction ids are consecutive per factory and independent across copies.**  Take any factories and any history
of building frames, copying factories and adding resolvers.  Every factory that is there in the end comes from
somewhere, through any number of copies; its ids are consecutive from the first on that it has been given, or that was
next for its original when it was copied, so that less than a whole turn no two of them are the same, and every frame
has its protocol id.  It builds a frame around each request made of it, and what other factories build does not change
that. -/
theorem numbered_of_origin (workshop : Workshop) (jobs : List Job) :
    (∀ place, place < (workshop.after jobs).factories.length →
      ∃ first protocol, workshop.Origin jobs place first protocol) ∧
    ∀ place first protocol, workshop.Origin jobs place first protocol →
      workshop.Numbered jobs place first protocol := by
  refine ⟨fun place there => exists_origin workshop jobs there, fun place first protocol origin => ?_⟩
  obtain ⟨⟨requests, numbered⟩, -⟩ := origin.standing
  have consecutive (index : Nat) (frame : Frame) (built : (workshop.frames place jobs)[index]? = some frame) :
      frame.header.transactionId = first + .ofNat index ∧ frame.header.protocolId = protocol :=
    FrameFactory.ids_of_getElem?_series (numbered ▸ built)
  refine { consecutive, distinct := ?_, answers := ?_, apart := ?_ }
  · intro i j left right atI atJ before near
    rw [(consecutive i left atI).1, (consecutive j right atJ).1]
    exact FrameFactory.id_ne first before near
  · rintro before later rfl there
    exact origin.answers there
  · rintro before later other unit request rfl there differ
    obtain ⟨standing, stands⟩ : ∃ standing, (workshop.after before).factories[place]? = some standing :=
      ⟨_, List.getElem?_eq_getElem there⟩
    have unasked : Job.asked place (.build other unit request) = none := if_neg differ
    rw [frames_append, frames_append, (standing_after stands _).1, (standing_after stands _).1,
      List.filterMap_cons_none unasked]

/-- A copy of a copy of a factory that is about to use its highest number.  One frame has been built before each
copy, so the second copy goes on behind both, also if the original builds another one then. -/
theorem numbered_of_second_copy :
    let workshop : Workshop := ⟨[{ protocolId := 7, nextId := 65535 }]⟩
    let read (place : Nat) : Job := .build place 1 (.readRegisters 0 1)
    let jobs : List Job := [read 0, .copy 0, read 1, .copy 1, read 2, read 2]
    let pdu : Pdu := .ofFunction .readHoldingRegisters (.body (.readRegisters 0 1))
    workshop.Origin jobs 2 1 7 ∧ (workshop.after jobs).factories.length = 3 ∧
      workshop.frames 2 jobs = [.ofPdu 1 7 1 pdu, .ofPdu 2 7 1 pdu] ∧
      workshop.frames 2 [read 0, .copy 0, read 1, .copy 1, read 0, read 2, read 2] = workshop.frames 2 jobs := by
  intro workshop read jobs pdu
  have there : workshop.factories[0]? = some { protocolId := 7, nextId := 65535 } := rfl
  have given : workshop.Origin [read 0] 0 65535 7 := .given there [read 0]
  have wraps : (65535 : UInt16) + .ofNat (workshop.frames 0 [read 0]).length = 0 := by decide
  have copied : workshop.Origin [read 0, .copy 0, read 1] 1 0 7 := wraps ▸ .copied given [read 1]
  have next : (0 : UInt16) + .ofNat (workshop.frames 1 [read 0, .copy 0, read 1]).length = 1 := by decide
  have copiedAgain : workshop.Origin jobs 2 1 7 := next ▸ .copied copied [read 2, read 2]
  have numbered : workshop.Numbered jobs 2 1 7 := (numbered_of_origin workshop jobs).2 2 1 7 copiedAgain
  refine ⟨copiedAgain, by decide, ?_, ?_⟩
  · rw [numbered.answers [read 0, .copy 0, read 1, .copy 1] [read 2, read 2] rfl (by decide)]
    decide
  · exact numbered.apart [read 0, .copy 0, read 1, .copy 1] [read 2, read 2] 0 1 (.readRegisters 0 1) rfl (by decide)
      (by decide)

end Workshop

end ModbusTcp
