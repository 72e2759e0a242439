/-
# Requests that come together, one by one

Requests that come together are begun one after the other, and each of them gets the verdict on its
own plan (`outcomes_authenticate`): which plan that is depends on the registry alone, and what is
checked or submitted for it only on the session that the requests before it have led to.  Two sets
of settings under which all plans are the same lead to the same session and the same report
(`authenticate_congr`).
-/
import LoginGate.Dispatch.Session

namespace LoginGate

/-! ## 1. The verdict on one request -/

/-- The answer to a call that was begun in one session, read off the timeline in which all calls are
answered; there is none if the handling broke down. -/
def Backend.answer? (backend : Backend) (before : Session) (after : Timeline) (t : AuthType)
    (queue : Nat) (call : Call) : Option Answer :=
  match backend with
  | .immediate answer =>
    match answer t call with
    | .answered a => some a
    | .brokeDown _ => none
  | .queues => after.answerOf? (before.timeline.submit queue call before.retries).2

/-- The verdict on a request with a plan. -/
def Plan.verdict (backend : Backend) (unix : Int) (before : Session) (after : Timeline)
    (r : Request) : Plan → Verdict
  | settled verdict => verdict
  | checkToken appId token =>
    .ofIdentity
      (Nintendo.verify before.nintendo appId before.cache before.now token unix).2.2
  | call provider queue outgoing _ =>
    match backend.answer? before after r.authType queue outgoing with
    | some a => .ofAnswer provider r.userId a
    | none => .breakdown

namespace Session

/-! ## 2. Beginning requests -/

namespace Batch

section Begin

variable (backend : Backend) (settings : AuthSettings) (unix : Int)

/-- **Beginning a request adds where it stands**, and from there it comes to the verdict on its own
plan. -/
theorem begin_standings (b : Batch) (r : Request) :
    ∃ standing,
      (b.begin backend settings unix r).standings = b.standings ++ [(r.authType, standing)] ∧
      ∀ after, verdict after standing =
        (Plan.ofRequest b.session.registry settings unix r).verdict backend unix b.session after
          r := by
  rw [begin]
  cases Plan.ofRequest b.session.registry settings unix r with
  | settled v => exact ⟨_, rfl, fun _ => rfl⟩
  | checkToken appId token => exact ⟨_, rfl, fun _ => rfl⟩
  | call provider queue call query =>
    cases backend with
    | queues => exact ⟨_, rfl, fun _ => rfl⟩
    | immediate answer =>
      dsimp only [beginImmediate, Plan.verdict, Backend.answer?]
      cases answer r.authType call <;> exact ⟨_, rfl, fun _ => rfl⟩

/-- Beginning a request changes no more of the session than the certificates and the queues. -/
theorem begin_session (b : Batch) (r : Request) :
    ∃ cache timeline, (b.begin backend settings unix r).session =
      { b.session with cache, timeline } := by
  rw [begin]
  cases Plan.ofRequest b.session.registry settings unix r with
  | settled v => exact ⟨_, _, rfl⟩
  | checkToken appId token => exact ⟨_, _, rfl⟩
  | call provider queue call query =>
    cases backend with
    | queues => exact ⟨_, _, rfl⟩
    | immediate answer =>
      dsimp only [beginImmediate]
      cases answer r.authType call <;> exact ⟨_, _, rfl⟩

theorem foldl_begin_standings (b : Batch) (requests : List Request) :
    ∃ later, later.length = requests.length ∧
      (requests.foldl (begin backend settings unix) b).standings = b.standings ++ later := by
  induction requests generalizing b with
  | nil => exact ⟨[], rfl, (List.append_nil _).symm⟩
  | cons r requests ih =>
    obtain ⟨standing, hr, -⟩ := begin_standings backend settings unix b r
    obtain ⟨later, hlength, hlater⟩ := ih (b.begin backend settings unix r)
    refine ⟨(r.authType, standing) :: later, by rw [List.length_cons, hlength]; rfl, ?_⟩
    rw [List.foldl_cons, hlater, hr, List.append_assoc]
    rfl

theorem foldl_begin_session (b : Batch) (requests : List Request) :
    ∃ cache timeline, (requests.foldl (begin backend settings unix) b).session =
      { b.session with cache, timeline } := by
  induction requests generalizing b with
  | nil => exact ⟨_, _, rfl⟩
  | cons r requests ih =>
    obtain ⟨_, _, hr⟩ := begin_session backend settings unix b r
    obtain ⟨cache, timeline, hrest⟩ := ih (b.begin backend settings unix r)
    exact ⟨cache, timeline, by rw [List.foldl_cons, hrest, hr]⟩

end Begin

section Congr

variable {backend : Backend} {settings settings' : AuthSettings} {unix : Int}

/-- Settings matter to a request through its plan only. -/
theorem begin_congr {b : Batch} {r : Request}
    (h : Plan.ofRequest b.session.registry settings unix r =
      Plan.ofRequest b.session.registry settings' unix r) :
    b.begin backend settings unix r = b.begin backend settings' unix r := by
  rw [begin, begin, h]

theorem foldl_begin_congr {b : Batch} {requests : List Request}
    (h : ∀ r ∈ requests, Plan.ofRequest b.session.registry settings unix r =
      Plan.ofRequest b.session.registry settings' unix r) :
    requests.foldl (begin backend settings unix) b =
      requests.foldl (begin backend settings' unix) b := by
  induction requests generalizing b with
  | nil => rfl
  | cons r requests ih =>
    rw [List.foldl_cons, List.foldl_cons, begin_congr (h r List.mem_cons_self)]
    obtain ⟨_, _, hsession⟩ := begin_session backend settings' unix b r
    refine ih fun x hx => ?_
    rw [hsession]
    exact h x (List.mem_cons_of_mem r hx)

end Congr

end Batch

/-! ## 3. Whole batches -/

section Authenticate

variable {s : Session} {backend : Backend} {settings settings' : AuthSettings} {unix : Int}

/-- The requests that come together in a session after all of them were begun. -/
def begun (s : Session) (backend : Backend) (settings : AuthSettings) (unix : Int)
    (requests : List Request) : Batch :=
  requests.foldl (Batch.begin backend settings unix) { session := s, finish := s.now }

/-- Beginning requests changes no more of the session than the certificates and the queues. -/
theorem begun_session (s : Session) (backend : Backend) (settings : AuthSettings) (unix : Int)
    (requests : List Request) :
    ∃ cache timeline, (s.begun backend settings unix requests).session =
      { s with cache, timeline } :=
  Batch.foldl_begin_session ..

/-- The outcomes are those of the verdicts where the requests stand. -/
theorem outcomes_eq (requests : List Request) :
    (s.authenticate backend settings unix requests).2.outcomes =
      (s.begun backend settings unix requests).standings.map fun e =>
        (Batch.verdict (s.authenticate backend settings unix requests).1.timeline
          e.2).outcome :=
  List.map_map

/-- Requests that come together change no more of the session than they change one by one. -/
theorem session_authenticate (requests : List Request) :
    (s.authenticate backend settings unix requests).1 =
      { (s.begun backend settings unix requests).session with
        timeline := (s.authenticate backend settings unix requests).1.timeline
        cache := (s.authenticate backend settings unix requests).1.cache
        metrics := (s.authenticate backend settings unix requests).1.metrics } := rfl

/-- The verdicts are counted in the order of the requests. -/
theorem metrics_authenticate (requests : List Request) :
    (s.authenticate backend settings unix requests).1.metrics =
      (s.begun backend settings unix requests).standings.foldl
        (fun m e => (Batch.verdict (s.authenticate backend settings unix requests).1.timeline
          e.2).record e.1 m)
        (s.begun backend settings unix requests).session.metrics :=
  List.foldl_map

/-- **Each request gets the verdict on its own plan.** -/
theorem outcomes_authenticate (front back : List Request) (r : Request) :
    (s.authenticate backend settings unix (front ++ r :: back)).2.outcomes[front.length]? =
      some ((Plan.ofRequest s.registry settings unix r).verdict backend unix
        (s.begun backend settings unix front).session
        (s.authenticate backend settings unix (front ++ r :: back)).1.timeline r).outcome := by
  obtain ⟨standing, hr, hverdict⟩ := Batch.begin_standings backend settings unix
    (s.begun backend settings unix front) r
  have hregistry : (s.begun backend settings unix front).session.registry = s.registry := by
    obtain ⟨_, _, hsession⟩ := s.begun_session backend settings unix front
    rw [hsession]
  obtain ⟨earlier, hlength, hfront⟩ : ∃ earlier, earlier.length = front.length ∧
      (s.begun backend settings unix front).standings = [] ++ earlier :=
    Batch.foldl_begin_standings ..
  obtain ⟨later, -, hback⟩ := Batch.foldl_begin_standings backend settings unix
    ((s.begun backend settings unix front).begin backend settings unix r) back
  have hall : (s.begun backend settings unix (front ++ r :: back)).standings =
      earlier ++ (r.authType, standing) :: later := by
    rw [begun, List.foldl_append, List.foldl_cons]
    rw [hr, hfront, List.nil_append, List.append_assoc] at hback
    exact hback
  rw [outcomes_eq, List.getElem?_map, hall, ← hlength, List.getElem?_append_right (Nat.le_refl _),
    Nat.sub_self]
  rw [← hregistry, ← hverdict]
  rfl

theorem length_outcomes (requests : List Request) :
    (s.authenticate backend settings unix requests).2.outcomes.length = requests.length := by
  obtain ⟨later, hlength, hlater⟩ : ∃ later, later.length = requests.length ∧
      (s.begun backend settings unix requests).standings = [] ++ later :=
    Batch.foldl_begin_standings ..
  rw [outcomes_eq, List.length_map, hlater, List.nil_append, hlength]

/-- Every outcome is that of the verdict on the plan for one of the requests. -/
theorem of_mem_outcomes {requests : List Request} {o : Outcome}
    (h : o ∈ (s.authenticate backend settings unix requests).2.outcomes) :
    ∃ r ∈ requests, ∃ before after,
      o = ((Plan.ofRequest s.registry settings unix r).verdict backend unix before after
        r).outcome := by
  obtain ⟨i, hi, rfl⟩ := List.mem_iff_getElem.mp h
  have hlt : i < requests.length := length_outcomes requests ▸ hi
  have hsplit : requests.take i ++ requests[i] :: requests.drop (i + 1) = requests := by
    rw [List.getElem_cons_drop, List.take_append_drop]
  have houtcome : (s.authenticate backend settings unix
      (requests.take i ++ requests[i] :: requests.drop (i + 1))).2.outcomes[(requests.take
        i).length]? = some _ := outcomes_authenticate ..
  rw [hsplit, List.length_take_of_le (Nat.le_of_lt hlt), List.getElem?_eq_getElem hi] at houtcome
  exact ⟨requests[i], List.getElem_mem hlt, _, _, Option.some.inj houtcome⟩

/-- Settings under which all plans are the same lead to the same. -/
theorem authenticate_congr {requests : List Request}
    (h : ∀ r ∈ requests, Plan.ofRequest s.registry settings unix r =
      Plan.ofRequest s.registry settings' unix r) :
    s.authenticate backend settings unix requests =
      s.authenticate backend settings' unix requests := by
  rw [authenticate, authenticate, Batch.foldl_begin_congr h]

end Authenticate

end Session

end LoginGate
