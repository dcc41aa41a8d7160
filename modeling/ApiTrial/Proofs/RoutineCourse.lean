import ApiTrial.Fixture.Build
import ApiTrial.Proofs.FixtureParts
import ApiTrial.Proofs.RoutineReaches

/-! The course of a run: every request that is sent with what is seen of it, every pause and every
event, in order. The course of two parts is the course of the first and then that of the second. A
time limit cuts a course off at one of its waits and leaves what is in front of that wait as it
was. -/
namespace ApiTrial

inductive Mark where
  | sent (request : WireRequest) (seen : Attempt)
  | paused (time : Nat)
  | noted (event : Event)

namespace Mark

def event? : Mark → Option Event
  | noted event => some event
  | _ => none

def request? : Mark → Option WireRequest
  | sent request _ => some request
  | _ => none

def isWait : Mark → Bool
  | noted _ => false
  | _ => true

inductive CutShort : Mark → Mark → Prop
  | sent (request : WireRequest) (seen cut : Attempt) : CutShort (sent request seen) (sent request cut)
  | paused (time cut : Nat) (h : cut ≤ time) : CutShort (paused time) (paused cut)

/-- A course and what is left of it when one of its waits is cut short: nothing follows that wait. -/
inductive CutOff : List Mark → List Mark → Prop
  | here (wait cut : Mark) (rest : List Mark) (h : CutShort wait cut) : CutOff (wait :: rest) [cut]
  | later (mark : Mark) (course cut : List Mark) (h : CutOff course cut) :
      CutOff (mark :: course) (mark :: cut)

def events (course : List Mark) : List Event := course.filterMap event?

def requests (course : List Mark) : List WireRequest := course.filterMap request?

def waits (course : List Mark) : List Mark := course.filter isWait

@[simp] theorem events_nil : events [] = [] := rfl

@[simp] theorem requests_nil : requests [] = [] := rfl

@[simp] theorem events_append (a b : List Mark) : events (a ++ b) = events a ++ events b :=
  List.filterMap_append

@[simp] theorem requests_append (a b : List Mark) : requests (a ++ b) = requests a ++ requests b :=
  List.filterMap_append

@[simp] theorem events_noted (event : Event) : events [noted event] = [event] := rfl

@[simp] theorem requests_noted (event : Event) : requests [noted event] = [] := rfl

@[simp] theorem requests_waits (course : List Mark) : requests (waits course) = requests course := by
  rw [requests, waits, List.filterMap_filter]
  congr 1
  funext mark
  cases mark <;> rfl

/-- A course that is cut off shows what the whole course shows in front. -/
theorem events_of_cutOff (course cut : List Mark) (h : CutOff course cut) :
    events cut <+: events course := by
  induction h with
  | here wait cut rest h =>
    have hnone : cut.event? = none := by cases h <;> rfl
    rw [events, List.filterMap_cons_none hnone]
    exact List.nil_prefix
  | later mark course cut h ih =>
    rw [events, events, List.filterMap_cons, List.filterMap_cons]
    cases mark.event? with
    | none => exact ih
    | some event => exact List.cons_prefix_cons.mpr ⟨rfl, ih⟩

/-- The request of a wait that is cut short has been sent all the same. -/
theorem requests_of_cutOff (course cut : List Mark) (h : CutOff course cut) :
    requests cut <+: requests course := by
  induction h with
  | here wait cut rest h =>
    cases h with
    | sent request seen cut => exact List.cons_prefix_cons.mpr ⟨rfl, List.nil_prefix⟩
    | paused time cut h => exact List.nil_prefix
  | later mark course cut h ih =>
    rw [requests, requests, List.filterMap_cons, List.filterMap_cons]
    cases mark.request? with
    | none => exact ih
    | some request => exact List.cons_prefix_cons.mpr ⟨rfl, ih⟩

structure Closed (P : List Mark → Prop) : Prop where
  nil : P []
  append : ∀ a b, P a → P b → P (a ++ b)

end Mark

namespace Routine
variable {α β : Type} (network : Network)

/-- The course of a routine that is run alone. -/
def course : Routine α → World → List Mark
  | done _, _ => []
  | act change next, world => course (next world) (change world)
  | send request patience next, world =>
    .sent request ((network world.sent request).seenWithin patience) ::
      course (next ((network world.sent request).seenWithin patience)) (world.sending request)
  | pause time next, world => .paused time :: course next world
  | note event next, world => .noted event :: course next world

theorem course_bind (routine : Routine α) (f : α → Routine β) (world : World) :
    course network (routine.bind f) world =
      course network routine world ++
        course network (f (run network routine world).1) (run network routine world).2 := by
  induction routine generalizing world with
  | done a => rfl
  | act change next ih => exact ih world (change world)
  | send request patience next ih =>
    rw [bind, course, course, run, List.cons_append, ih]
  | pause time next ih => rw [bind, course, course, run, List.cons_append, ih]
  | note event next ih => rw [bind, course, course, run, List.cons_append, ih]

/-- What a routine lets be seen is what is noted in its course. -/
theorem run_collect_eq (routine : Routine α) (world : World) :
    run network routine.collect world =
      ((Mark.events (course network routine world), (run network routine world).1),
        (run network routine world).2) := by
  induction routine generalizing world with
  | done a => rfl
  | act change next ih => exact ih world (change world)
  | send request patience next ih => exact ih _ _
  | pause time next ih => exact ih world
  | note event next ih =>
    rw [collect, run, run_bind, ih]
    rfl

/-- Collecting the events of a routine takes them out of its course. -/
theorem course_collect (routine : Routine α) (world : World) :
    course network routine.collect world = Mark.waits (course network routine world) := by
  induction routine generalizing world with
  | done a => rfl
  | act change next ih => exact ih world (change world)
  | send request patience next ih => exact congrArg (List.cons _) (ih _ _)
  | pause time next ih => exact congrArg (List.cons _) (ih world)
  | note event next ih =>
    rw [collect, course_bind, ih]
    exact List.append_nil _

/-- With a time limit, either the first of two parts comes to its end as it would without, and the
second has what is left of the time, or the first part is cut off. -/
theorem within_bind_cases (routine : Routine α) (f : α → Routine β) (limit : Nat) (world : World) :
    (∃ left, run network ((routine.bind f).within limit) world =
        run network ((f (run network routine world).1).within left) (run network routine world).2 ∧
      course network ((routine.bind f).within limit) world = course network routine world ++
        course network ((f (run network routine world).1).within left)
          (run network routine world).2) ∨
    ∃ after, run network ((routine.bind f).within limit) world = (none, after) ∧
      routine.Reaches network world after ∧
      Mark.CutOff (course network routine world)
        (course network ((routine.bind f).within limit) world) := by
  induction routine generalizing limit world with
  | done a => exact Or.inl ⟨limit, rfl, rfl⟩
  | act change next ih =>
    rcases ih world limit (change world) with hend | ⟨after, hrun, hreach, hcut⟩
    · exact Or.inl hend
    · exact Or.inr ⟨after, hrun, .step _ world _ hreach, hcut⟩
  | send request patience next ih =>
    rw [bind, within, run, run, course, course]
    by_cases hl : limit ≤ ((network world.sent request).seenWithin (min patience limit)).elapsed
    · rw [if_pos hl]
      exact Or.inr ⟨_, rfl, .step _ world _ (.start _ _), .here _ _ _ (.sent request _ _)⟩
    · -- There is time left behind the wait, so its end was not brought about by the limit.
      have hsame := seenWithin_min patience limit (network world.sent request) (by omega)
      rw [if_neg hl, hsame]
      rcases ih ((network world.sent request).seenWithin patience)
        (limit - ((network world.sent request).seenWithin patience).elapsed)
        (world.sending request) with ⟨left, hrun, hcourse⟩ | ⟨after, hrun, hreach, hcut⟩
      · exact Or.inl ⟨left, hrun, by rw [hcourse, List.cons_append]⟩
      · exact Or.inr ⟨after, hrun, .step _ world _ hreach, .later _ _ _ hcut⟩
  | pause time next ih =>
    rw [bind, within]
    by_cases hl : limit ≤ time
    · rw [if_pos hl]
      exact Or.inr ⟨world, rfl, .start _ world, .here _ _ _ (.paused time limit hl)⟩
    · rw [if_neg hl]
      rcases ih (limit - time) world with ⟨left, hrun, hcourse⟩ | ⟨after, hrun, hreach, hcut⟩
      · exact Or.inl ⟨left, hrun, by rw [course, course, hcourse]; rfl⟩
      · exact Or.inr ⟨after, hrun, .step _ world _ hreach, .later _ _ _ hcut⟩
  | note event next ih =>
    rcases ih limit world with ⟨left, hrun, hcourse⟩ | ⟨after, hrun, hreach, hcut⟩
    · exact Or.inl ⟨left, hrun, by rw [bind, within, course, course, hcourse]; rfl⟩
    · exact Or.inr ⟨after, hrun, .step _ world _ hreach, .later _ _ _ hcut⟩

/-- A routine with a time limit either comes to its end as it would without, or is cut off. -/
theorem within_cases (routine : Routine α) (limit : Nat) (world : World) :
    (run network (routine.within limit) world =
        (some (run network routine world).1, (run network routine world).2) ∧
      course network (routine.within limit) world = course network routine world) ∨
    ((run network (routine.within limit) world).1 = none ∧
      Mark.CutOff (course network routine world) (course network (routine.within limit) world)) := by
  have h := within_bind_cases network routine done limit world
  rw [bind_done] at h
  rcases h with ⟨left, hrun, hcourse⟩ | ⟨after, hrun, -, hcut⟩
  · exact Or.inl ⟨hrun, hcourse.trans (List.append_nil _)⟩
  · exact Or.inr ⟨congrArg Prod.fst hrun, hcut⟩

end Routine

namespace Trial
variable {α β : Type} (network : Network)

/-- The course of a trial. -/
def course (trial : Trial α) (world : World) : List Mark := trial.run.course network world

@[simp] theorem course_pure (a : α) (world : World) :
    course network (pure a : Trial α) world = [] := rfl

@[simp] theorem course_throw (e : Error) (world : World) :
    course network (throw e : Trial α) world = [] := rfl

@[simp] theorem course_read (view : World → α) (world : World) :
    course network (Trial.read view) world = [] := rfl

@[simp] theorem course_readExcept (view : World → Except Error α) (world : World) :
    course network (ExceptT.mk (Routine.read view)) world = [] := rfl

@[simp] theorem course_modify (change : World → World) (world : World) :
    course network (Trial.modify change) world = [] := rfl

@[simp] theorem course_update (change : World → α × World) (world : World) :
    course network (ExceptT.lift (Routine.update change)) world = [] := rfl

@[simp] theorem course_ofExcept (result : Except Error α) (world : World) :
    course network (Trial.ofExcept result) world = [] := rfl

@[simp] theorem course_tell (event : Event) (world : World) :
    course network (Trial.tell event) world = [.noted event] := rfl

@[simp] theorem course_mapError (f : Error → Error) (trial : Trial α) (world : World) :
    course network (Trial.mapError f trial) world = course network trial world := by
  show Routine.course network ((fun r : Except Error α => r.mapError f) <$> trial.run) world = _
  rw [map_eq_pure_bind]
  exact (Routine.course_bind network trial.run _ world).trans (List.append_nil _)

theorem course_bind (trial : Trial α) (f : α → Trial β) (world : World) :
    course network (trial >>= f) world = course network trial world ++
      Routine.course network (ExceptT.bindCont f (exec network trial world).1)
        (exec network trial world).2 :=
  Routine.course_bind network trial.run (ExceptT.bindCont f) world

theorem course_bind_of_ok (trial : Trial α) (f : α → Trial β) (world middle : World) (a : α)
    (h : exec network trial world = (.ok a, middle)) :
    course network (trial >>= f) world =
      course network trial world ++ course network (f a) middle := by
  rw [course_bind, h]
  rfl

/-- Nothing of the second part is in the course behind an error. -/
theorem course_bind_of_error (trial : Trial α) (f : α → Trial β) (world after : World) (e : Error)
    (h : exec network trial world = (.error e, after)) :
    course network (trial >>= f) world = course network trial world := by
  rw [course_bind, h]
  exact List.append_nil _

/-- A second part that never has a course adds nothing to that of the first. -/
theorem course_bind_of_quiet (trial : Trial α) (f : α → Trial β) (world : World)
    (hf : ∀ a w, course network (f a) w = []) :
    course network (trial >>= f) world = course network trial world := by
  rcases hx : exec network trial world with ⟨outcome, after⟩
  cases outcome with
  | error e => exact course_bind_of_error network trial f world after e hx
  | ok a => rw [course_bind_of_ok network trial f world after a hx, hf, List.append_nil]

/-- How a trial goes when it is run alone: its outcome, the world behind it, and its course. -/
structure Goes (trial : Trial α) (world : World) (outcome : Except Error α) (after : World)
    (marks : List Mark) : Prop where
  exec : exec network trial world = (outcome, after)
  course : course network trial world = marks

theorem goes_bind (trial : Trial α) (f : α → Trial β) (world middle after : World) (a : α)
    (outcome : Except Error β) (front back : List Mark)
    (h : Goes network trial world (.ok a) middle front)
    (hf : Goes network (f a) middle outcome after back) :
    Goes network (trial >>= f) world outcome after (front ++ back) where
  exec := by rw [exec_bind_of_ok network trial f world middle a h.exec, hf.exec]
  course := by rw [course_bind_of_ok network trial f world middle a h.exec, h.course, hf.course]

/-- What goes well in two parts goes well in each of them. -/
theorem goes_of_bind (trial : Trial α) (f : α → Trial β) (world after : World) (b : β)
    (marks : List Mark) (h : Goes network (trial >>= f) world (.ok b) after marks) :
    ∃ a middle front back, Goes network trial world (.ok a) middle front ∧
      Goes network (f a) middle (.ok b) after back ∧ marks = front ++ back := by
  obtain ⟨a, middle, ht, hf⟩ := exec_bind_ok network trial f world after b h.exec
  refine ⟨a, middle, _, _, ⟨ht, rfl⟩, ⟨hf, rfl⟩, ?_⟩
  rw [← h.course, course_bind_of_ok network trial f world middle a ht]

/-- What goes well with its errors told in other words goes well. -/
theorem goes_of_mapError (f : Error → Error) (trial : Trial α) (world after : World) (a : α)
    (marks : List Mark) (h : Goes network (Trial.mapError f trial) world (.ok a) after marks) :
    Goes network trial world (.ok a) after marks where
  exec := exec_mapError_ok network f trial world after a h.exec
  course := by rw [← h.course, course_mapError]

theorem goes_bind_of_error (trial : Trial α) (f : α → Trial β) (world after : World) (e : Error)
    (marks : List Mark) (h : Goes network trial world (.error e) after marks) :
    Goes network (trial >>= f) world (.error e) after marks where
  exec := exec_bind_of_error network trial f world after e h.exec
  course := by rw [course_bind_of_error network trial f world after e h.exec, h.course]

structure EndsAs (trial : Trial α) (limit : Nat) (world : World)
    (outcome : Option (Except Error α)) (after : World) (marks : List Mark) : Prop where
  run : Routine.run network (trial.run.within limit) world = (outcome, after)
  course : Routine.course network (trial.run.within limit) world = marks

/-- With a time limit, the first of two parts goes well and leaves the rest of the time to the
second, or it fails, or it is cut off. -/
theorem endsAs_bind (trial : Trial α) (f : α → Trial β) (limit : Nat) (world after : World)
    (outcome : Option (Except Error β)) (marks : List Mark)
    (h : EndsAs network (trial >>= f) limit world outcome after marks) :
    (∃ a middle left back, exec network trial world = (.ok a, middle) ∧
      EndsAs network (f a) left middle outcome after back ∧
      marks = course network trial world ++ back) ∨
    (∃ e, exec network trial world = (.error e, after) ∧ outcome = some (.error e) ∧
      marks = course network trial world) ∨
    (outcome = none ∧ trial.Reaches network world after ∧
      Mark.CutOff (course network trial world) marks) := by
  obtain ⟨hrun, hcourse⟩ := h
  rcases Routine.within_bind_cases network trial.run (ExceptT.bindCont f) limit world with
    ⟨left, hr, hc⟩ | ⟨reached, hr, hreach, hcut⟩
  · rcases hx : exec network trial world with ⟨result, middle⟩
    rw [exec] at hx
    have hend := hr.symm.trans hrun
    have hmarks := hc.symm.trans hcourse
    rw [hx] at hend hmarks
    cases result with
    | ok a => exact Or.inl ⟨a, middle, left, _, rfl, ⟨hend, rfl⟩, hmarks.symm⟩
    | error e =>
      obtain ⟨rfl, rfl⟩ := Prod.mk.inj hend
      exact Or.inr (Or.inl ⟨e, rfl, rfl, hmarks.symm.trans (List.append_nil _)⟩)
  · obtain ⟨rfl, rfl⟩ := Prod.mk.inj (hr.symm.trans hrun)
    have hmarks : Mark.CutOff (course network trial world) marks := hcourse ▸ hcut
    exact Or.inr (Or.inr ⟨rfl, hreach, hmarks⟩)

theorem endsAs_tell (event : Event) (f : Unit → Trial β) (limit : Nat) (world after : World)
    (outcome : Option (Except Error β)) (marks : List Mark)
    (h : EndsAs network (Trial.tell event >>= f) limit world outcome after marks) :
    ∃ back, EndsAs network (f ()) limit world outcome after back ∧ marks = .noted event :: back :=
  ⟨_, ⟨h.run, rfl⟩, h.course.symm⟩

theorem endsAs_modify (change : World → World) (f : Unit → Trial β) (limit : Nat)
    (world after : World) (outcome : Option (Except Error β)) (marks : List Mark)
    (h : EndsAs network (Trial.modify change >>= f) limit world outcome after marks) :
    EndsAs network (f ()) limit (change world) outcome after marks :=
  ⟨h.run, h.course⟩

/-- Nothing follows an error. -/
theorem endsAs_throw_bind (e : Error) (f : α → Trial β) (limit : Nat) (world after : World)
    (outcome : Option (Except Error β)) (marks : List Mark)
    (h : EndsAs network ((throw e : Trial α) >>= f) limit world outcome after marks) :
    after = world ∧ marks = [] :=
  ⟨(congrArg Prod.snd h.run).symm, h.course.symm⟩

def Courses (P : List Mark → Prop) (trial : Trial α) : Prop :=
  ∀ world, P (course network trial world)

variable (P : List Mark → Prop) (hp : Mark.Closed P)
include hp

theorem courses_bind (trial : Trial α) (f : α → Trial β) (h : Courses network P trial)
    (hf : ∀ a, Courses network P (f a)) : Courses network P (trial >>= f) := by
  intro world
  rcases hx : exec network trial world with ⟨outcome, middle⟩
  cases outcome with
  | ok a =>
    rw [course_bind_of_ok network trial f world middle a hx]
    exact hp.append _ _ (h world) (hf a middle)
  | error e =>
    rw [course_bind_of_error network trial f world middle e hx]
    exact h world

end Trial

namespace Fixture
variable (network : Network) (P : List Mark → Prop) (hp : Mark.Closed P)
include hp

/-- All that has a course in a build is the requests that the build sends. -/
theorem Context.closed_courses (context : Context)
    (hr : ∀ template, Trial.Courses network P (context.client.execute template context.scope)) :
    context.Closed fun _ trial => trial.Courses network P where
  pure := fun _ _ _ => hp.nil
  bind := fun _ _ => Trial.courses_bind network P hp
  set := fun _ _ _ => hp.nil
  has := fun _ _ => hp.nil
  request := by
    intro stage template expect
    apply Trial.courses_bind network P hp
    · intro world
      rw [Trial.course_mapError]
      exact hr template world
    · intro response world
      split <;> exact hp.nil
  extract := fun _ _ _ _ => hp.nil
  outputs := fun _ _ => hp.nil

variable (registry : Registry) (client : Client) (caller : ScopeId)

/-- A build has courses as wanted if its body has. -/
theorem courses_buildOne (fixture : Fixture) (call : Call) (inherited : List Outputs)
    (hb : ∀ scope, Trial.Courses network P
      (fixture.build ⟨fixture.name, client, scope⟩ call.params)) :
    Trial.Courses network P (buildOne client caller fixture call inherited) := by
  apply Trial.courses_bind network P hp
  · exact fun _ => hp.nil
  intro scope
  apply Trial.courses_bind network P hp
  · exact fun _ => hp.nil
  rintro (_ | key)
  · apply Trial.courses_bind network P hp
    · intro world
      rw [Trial.course_mapError]
      exact hb scope world
    · exact fun _ _ => hp.nil
  · exact fun _ => hp.nil

variable (hb : ∀ fixture ∈ registry, ∀ scope params,
  Trial.Courses network P (fixture.build ⟨fixture.name, client, scope⟩ params))
include hb

/-- A plan has courses as wanted if its builds have. -/
theorem courses_buildRest (plan : List Call) (built : Built) :
    Trial.Courses network P (buildRest registry client caller built plan) := by
  induction plan generalizing built with
  | nil => exact fun _ => hp.nil
  | cons call rest ih =>
    rw [buildRest, Registry.get]
    cases hf : registry.get? call.name with
    | none => exact fun _ => hp.nil
    | some fixture =>
      have hfixture := hb fixture (List.mem_of_find?_eq_some hf)
      show Trial.Courses network P (Trial.ofExcept (fixture.inherited call built) >>= _)
      apply Trial.courses_bind network P hp
      · exact fun _ => hp.nil
      intro inherited
      apply Trial.courses_bind network P hp
      · exact courses_buildOne network P hp client caller fixture call inherited fun scope =>
          hfixture scope call.params
      · exact fun outputs => ih _

theorem courses_buildAll (calls : List Call) :
    Trial.Courses network P (buildAll registry client caller calls) := by
  apply Trial.courses_bind network P hp
  · exact fun _ => hp.nil
  intro plan
  apply Trial.courses_bind network P hp
  · exact courses_buildRest network P hp registry client caller hb plan []
  intro built
  apply Trial.courses_bind network P hp
  · exact fun _ => hp.nil
  · exact fun _ _ => hp.nil

end Fixture

end ApiTrial
