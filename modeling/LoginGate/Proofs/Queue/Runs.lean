/-
# Runs of a queue

A queue is told of four kinds of events: a job is submitted, a call has completed, the first job in
line has waited too long, a caller has gone away.  `Run` is a queue together with everything that
has happened to it: the calls that were started and have not completed yet, and the log of all
events with the effects that they had.  `Run.Step` admits every event that can occur at a moment:

* a submission brings a job of its own ticket;
* a completion belongs to a call in flight, and the transport may have replied anything;
* expiry may be looked for at any moment;
* the caller of any job that was submitted may go away.  A caller who goes away before the queue
  has taken the job counts as one who goes away right after, since taking a job never looks at
  its caller.

The queue's handle stays alive throughout a run: no event closes the queue, so neither a submission
nor a start ever finds it closed.  Instants never decrease.  A run is `Reachable` when such steps
lead to it from the empty queue, and `Reachable.rec_steps` is the induction over them.
`leads_replay` and `reachable_replay` make runs of lists of events.
-/
import Mathlib.Logic.Relation
import LoginGate.Queue.Basic
import LoginGate.Queue.Exchange

namespace LoginGate.Queue

/-! ## 1. Events -/

/-- A call that was started. -/
structure Flight where
  job : Job
  probe : Bool
  deriving DecidableEq, Repr

/-- What a queue is told of. -/
inductive Event where
  | submit (job : Job)
  /-- The last attempt of a call ended with the reply. -/
  | complete (job : Job) (reply : Reply) (probe : Bool)
  | expire
  | abandon (ticket : Nat)
  deriving DecidableEq, Repr

/-- The job that an event submits. -/
def Event.submitted? : Event → Option Job
  | submit job => some job
  | _ => none

theorem eq_submit_of_submitted? {event : Event} {job : Job} (h : event.submitted? = some job) :
    event = .submit job := by
  cases event <;> cases h
  rfl

/-- The ticket of the caller that goes away with an event. -/
def Event.gone? : Event → Option Nat
  | abandon ticket => some ticket
  | _ => none

/-- The call that an event completes. -/
def Event.completed? : Event → Option Flight
  | complete job _ probe => some ⟨job, probe⟩
  | _ => none

/-- A queue after an event at an instant, and the effects of the event. -/
def react (settings : Settings) (now : Nat) (q : Queue) : Event → Queue × List Effect
  | .submit job => q.submit settings now job
  | .complete job reply probe => q.complete settings now job reply.answer probe
  | .expire => q.expire settings now
  | .abandon ticket => (q.abandon ticket, [])

/-! ## 2. Effects by kind -/

namespace Effect

/-- The job that an effect concerns. -/
def job : Effect → Job
  | start job _ | answer job _ | discard job => job

/-- The call that an effect starts. -/
def started? : Effect → Option Flight
  | start job probe => some ⟨job, probe⟩
  | _ => none

/-- The job that an effect answers, with the answer. -/
def answered? : Effect → Option (Job × Answer)
  | answer job a => some (job, a)
  | _ => none

/-- The job that an effect discards. -/
def discarded? : Effect → Option Job
  | discard job => some job
  | _ => none

end Effect

/-- The calls that effects start, in order. -/
def starts (effects : List Effect) : List Flight := effects.filterMap Effect.started?

/-- The jobs that effects answer, in order. -/
def answers (effects : List Effect) : List (Job × Answer) := effects.filterMap Effect.answered?

/-- The jobs that effects discard, in order. -/
def discards (effects : List Effect) : List Job := effects.filterMap Effect.discarded?

@[simp] theorem starts_nil : starts [] = [] := rfl
@[simp] theorem answers_nil : answers [] = [] := rfl
@[simp] theorem discards_nil : discards [] = [] := rfl

section Cons

variable (job : Job) (probe : Bool) (a : Answer) (l : List Effect)

@[simp] theorem starts_start : starts (.start job probe :: l) = ⟨job, probe⟩ :: starts l := rfl
@[simp] theorem starts_answer : starts (.answer job a :: l) = starts l := rfl
@[simp] theorem starts_discard : starts (.discard job :: l) = starts l := rfl
@[simp] theorem answers_start : answers (.start job probe :: l) = answers l := rfl
@[simp] theorem answers_answer : answers (.answer job a :: l) = (job, a) :: answers l := rfl
@[simp] theorem answers_discard : answers (.discard job :: l) = answers l := rfl
@[simp] theorem discards_start : discards (.start job probe :: l) = discards l := rfl
@[simp] theorem discards_answer : discards (.answer job a :: l) = discards l := rfl
@[simp] theorem discards_discard : discards (.discard job :: l) = job :: discards l := rfl

end Cons

@[simp] theorem starts_append (l m : List Effect) : starts (l ++ m) = starts l ++ starts m :=
  List.filterMap_append

@[simp] theorem answers_append (l m : List Effect) : answers (l ++ m) = answers l ++ answers m :=
  List.filterMap_append

@[simp] theorem discards_append (l m : List Effect) :
    discards (l ++ m) = discards l ++ discards m :=
  List.filterMap_append

theorem mem_starts {f : Flight} {l : List Effect} : f ∈ starts l ↔ .start f.job f.probe ∈ l := by
  rw [starts, List.mem_filterMap]
  refine ⟨?_, fun h => ⟨_, h, rfl⟩⟩
  rintro ⟨e, he, hf⟩
  cases e <;> cases hf
  exact he

theorem mem_answers {p : Job × Answer} {l : List Effect} :
    p ∈ answers l ↔ .answer p.1 p.2 ∈ l := by
  rw [answers, List.mem_filterMap]
  refine ⟨?_, fun h => ⟨_, h, rfl⟩⟩
  rintro ⟨e, he, hp⟩
  cases e <;> cases hp
  exact he

theorem mem_discards {job : Job} {l : List Effect} : job ∈ discards l ↔ .discard job ∈ l := by
  rw [discards, List.mem_filterMap]
  refine ⟨?_, fun h => ⟨_, h, rfl⟩⟩
  rintro ⟨e, he, hj⟩
  cases e <;> cases hj
  exact he

/-- An effect starts, answers or discards its job, and does one of the three only. -/
theorem map_job_perm (effects : List Effect) :
    (effects.map Effect.job).Perm
      ((starts effects).map Flight.job ++ (answers effects).map Prod.fst ++ discards effects) := by
  induction effects with
  | nil => exact List.Perm.refl _
  | cons e rest ih =>
    cases e with
    | start j p => exact ih.cons j
    | answer j a =>
      refine (ih.cons j).trans ?_
      simp only [starts_answer, answers_answer, discards_answer, List.map_cons, List.append_assoc]
      exact List.perm_middle.symm
    | discard j =>
      refine (ih.cons j).trans ?_
      simp only [starts_discard, answers_discard, discards_discard]
      exact List.perm_middle.symm

/-! ## 3. Runs -/

/-- An event at an instant with its effects. -/
structure Entry where
  instant : Nat
  event : Event
  effects : List Effect
  deriving DecidableEq, Repr

/-- A queue and everything that has happened to it, the first event first. -/
structure Run where
  queue : Queue := {}
  now : Nat := 0
  /-- Calls that were started and whose completion the queue was not told of yet. -/
  flights : List Flight := []
  log : List Entry := []
  deriving DecidableEq, Repr

/-- The calls that are left in flight after an event. -/
def Event.leaves (flights : List Flight) : Event → List Flight
  | complete job _ probe => flights.erase ⟨job, probe⟩
  | _ => flights

namespace Run

/-- All effects so far. -/
def effects (r : Run) : List Effect := r.log.flatMap Entry.effects

/-- The jobs that were submitted. -/
def submitted (r : Run) : List Job := r.log.filterMap (·.event.submitted?)

/-- The tickets of the callers that have gone away. -/
def gone (r : Run) : List Nat := r.log.filterMap (·.event.gone?)

/-- The calls that were started. -/
def started (r : Run) : List Flight := starts r.effects

/-- The jobs that were answered, with their answers. -/
def answered (r : Run) : List (Job × Answer) := answers r.effects

/-- The jobs that left the line without an answer. -/
def discarded (r : Run) : List Job := discards r.effects

/-- The calls whose completion the queue was told of. -/
def completed (r : Run) : List Flight := r.log.filterMap (·.event.completed?)

/-- Whether an event can occur. -/
def Admits (r : Run) : Event → Prop
  | .submit job => job.ticket ∉ r.submitted.map Job.ticket
  | .complete job _ probe => ⟨job, probe⟩ ∈ r.flights
  | .expire => True
  | .abandon ticket => ticket ∈ r.submitted.map Job.ticket

instance (r : Run) : DecidablePred r.Admits
  | .submit job => inferInstanceAs (Decidable (job.ticket ∉ r.submitted.map Job.ticket))
  | .complete job _ probe => inferInstanceAs (Decidable (Flight.mk job probe ∈ r.flights))
  | .expire => inferInstanceAs (Decidable True)
  | .abandon ticket => inferInstanceAs (Decidable (ticket ∈ r.submitted.map Job.ticket))

/-- A run after an event at an instant. -/
def after (settings : Settings) (now : Nat) (event : Event) (r : Run) : Run :=
  { queue := (r.queue.react settings now event).1
    now
    flights := event.leaves r.flights ++ starts (r.queue.react settings now event).2
    log := r.log ++ [⟨now, event, (r.queue.react settings now event).2⟩] }

/-- An event that can occur, at the present instant or later. -/
inductive Step (settings : Settings) (r : Run) : Run → Prop
  | event {now : Nat} {event : Event} (later : r.now ≤ now) (admitted : r.Admits event) :
    Step settings r (r.after settings now event)

/-- Steps lead from one run to another. -/
abbrev Leads (settings : Settings) : Run → Run → Prop := Relation.ReflTransGen (Step settings)

/-- Steps lead to the run from the empty queue. -/
def Reachable (settings : Settings) (r : Run) : Prop := Leads settings {} r

/-! ## 4. Views of a run after an event -/

section Views

variable (settings : Settings) (now : Nat) (event : Event) (r : Run)

@[simp] theorem queue_after :
    (r.after settings now event).queue = (r.queue.react settings now event).1 := rfl

@[simp] theorem now_after : (r.after settings now event).now = now := rfl

@[simp] theorem flights_after :
    (r.after settings now event).flights =
      event.leaves r.flights ++ starts (r.queue.react settings now event).2 := rfl

@[simp] theorem effects_after :
    (r.after settings now event).effects = r.effects ++ (r.queue.react settings now event).2 := by
  simp [effects, after]

@[simp] theorem started_after :
    (r.after settings now event).started =
      r.started ++ starts (r.queue.react settings now event).2 := by
  simp [started]

@[simp] theorem answered_after :
    (r.after settings now event).answered =
      r.answered ++ answers (r.queue.react settings now event).2 := by
  simp [answered]

@[simp] theorem discarded_after :
    (r.after settings now event).discarded =
      r.discarded ++ discards (r.queue.react settings now event).2 := by
  simp [discarded]

@[simp] theorem submitted_after :
    (r.after settings now event).submitted = r.submitted ++ event.submitted?.toList := by
  cases h : event.submitted? <;> simp [submitted, after, h]

@[simp] theorem gone_after :
    (r.after settings now event).gone = r.gone ++ event.gone?.toList := by
  cases h : event.gone? <;> simp [gone, after, h]

@[simp] theorem completed_after :
    (r.after settings now event).completed = r.completed ++ event.completed?.toList := by
  cases h : event.completed? <;> simp [completed, after, h]

end Views

/-- The record after an event is what was on record and the event. -/
theorem mem_log_after {settings : Settings} {now : Nat} {event : Event} {r : Run} {e : Entry} :
    e ∈ (r.after settings now event).log ↔
      e ∈ r.log ∨ e = ⟨now, event, (r.queue.react settings now event).2⟩ := by
  simp [Run.after]

theorem mem_answered {r : Run} {e : Entry} (he : e ∈ r.log) {p : Job × Answer}
    (hp : p ∈ answers e.effects) : p ∈ r.answered :=
  mem_answers.mpr (List.mem_flatMap.mpr ⟨e, he, mem_answers.mp hp⟩)

theorem mem_discarded {r : Run} {e : Entry} (he : e ∈ r.log) {job : Job}
    (hj : job ∈ discards e.effects) : job ∈ r.discarded :=
  mem_discards.mpr (List.mem_flatMap.mpr ⟨e, he, mem_discards.mp hj⟩)

/-! ## 5. Induction and replay -/

theorem Reachable.start (settings : Settings) : Reachable settings {} :=
  Relation.ReflTransGen.refl

theorem Reachable.after {settings : Settings} {r : Run} {now : Nat} {event : Event}
    (h : r.Reachable settings) (later : r.now ≤ now) (admitted : r.Admits event) :
    (r.after settings now event).Reachable settings :=
  Relation.ReflTransGen.tail h (.event later admitted)

/-- **Induction over a run.**  What holds of the empty queue and is kept by every event that can
occur holds of every reachable run. -/
@[elab_as_elim]
theorem Reachable.rec_steps {settings : Settings} {P : Run → Prop} {r : Run}
    (h : r.Reachable settings) (start : P {})
    (step : ∀ (r : Run) (now : Nat) (event : Event), r.Reachable settings → r.now ≤ now →
      r.Admits event → P r → P (r.after settings now event)) : P r := by
  induction h with
  | refl => exact start
  | tail hr hs ih =>
    cases hs with
    | event later admitted => exact step _ _ _ hr later admitted ih

/-- What has happened stays on record. -/
theorem log_prefix_of_leads {settings : Settings} {r r' : Run} (h : Leads settings r r') :
    r.log <+: r'.log := by
  induction h with
  | refl => exact List.prefix_refl _
  | tail _ hs ih =>
    cases hs with
    | event later admitted => exact ih.trans (List.prefix_append _ _)

/-- A call that was started stays among those that were. -/
theorem mem_started_of_log_prefix {r r' : Run} (h : r.log <+: r'.log) {f : Flight}
    (hf : f ∈ r.started) : f ∈ r'.started := by
  obtain ⟨later, hlog⟩ := h
  have heffects : r'.effects = r.effects ++ later.flatMap Entry.effects := by
    rw [effects, ← hlog, List.flatMap_append, ← effects]
  rw [started, heffects, starts_append]
  exact List.mem_append_left _ hf

/-- **What is in flight** is what was started and has not completed. -/
theorem Reachable.started_perm {settings : Settings} {r : Run} (h : r.Reachable settings) :
    r.started.Perm (r.completed ++ r.flights) := by
  refine h.rec_steps (P := fun r => r.started.Perm (r.completed ++ r.flights)) (List.Perm.refl _)
    fun r now event _ _ admitted ih => ?_
  rw [started_after, completed_after, flights_after, ← List.append_assoc]
  refine List.Perm.append_right _ (ih.trans ?_)
  rw [List.append_assoc]
  refine List.Perm.append_left _ ?_
  cases event with
  | complete job reply probe => exact List.perm_cons_erase admitted
  | submit job => exact List.Perm.refl _
  | expire => exact List.Perm.refl _
  | abandon ticket => exact List.Perm.refl _

/-- A run after a list of events with their instants. -/
def replay (settings : Settings) (events : List (Nat × Event)) (r : Run) : Run :=
  events.foldl (fun r e => r.after settings e.1 e.2) r

/-- Whether the events of a list can occur one after another. -/
def AdmitsAll (settings : Settings) : List (Nat × Event) → Run → Prop
  | [], _ => True
  | (now, event) :: rest, r =>
    r.now ≤ now ∧ r.Admits event ∧ AdmitsAll settings rest (r.after settings now event)

instance (settings : Settings) : ∀ (events : List (Nat × Event)) (r : Run),
    Decidable (AdmitsAll settings events r)
  | [], _ => inferInstanceAs (Decidable True)
  | (now, event) :: rest, r =>
    have := instDecidableAdmitsAll settings rest (r.after settings now event)
    inferInstanceAs (Decidable (r.now ≤ now ∧ r.Admits event ∧
      AdmitsAll settings rest (r.after settings now event)))

theorem leads_replay {settings : Settings} {events : List (Nat × Event)} {r : Run}
    (h : AdmitsAll settings events r) : Leads settings r (r.replay settings events) := by
  induction events generalizing r with
  | nil => exact Relation.ReflTransGen.refl
  | cons e rest ih =>
    obtain ⟨later, admitted, h⟩ := h
    exact Relation.ReflTransGen.head (.event later admitted) (ih h)

theorem reachable_replay {settings : Settings} {events : List (Nat × Event)} {r : Run}
    (hr : r.Reachable settings) (h : AdmitsAll settings events r) :
    (r.replay settings events).Reachable settings :=
  Relation.ReflTransGen.trans hr (leads_replay h)

end Run

namespace Example

/-- A job of a ticket, for runs that are written out. -/
def job (ticket : Nat) : Job := { ticket, call := { method := .get, url := "" }, retries := 0 }

end Example

end LoginGate.Queue
