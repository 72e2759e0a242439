/-
# What a lenient provider excuses

A provider with `rejectIfUnavailable` off excuses every call without success.  Its client is let
through on its own user id when the provider cannot be reached, when the queue turns the call away,
and also when the provider was reached and answered with an HTTP error status: the queue answers that
as an error, with the status beside it, and nobody looks at the status.  Only a successful reply
counts for what its body says (`lenient_outcome`).

That the answer is the one to the client's own call, or the queue's own, is `exists_answer`.
-/
import LoginGate.Proofs.Dispatch.Answers

namespace LoginGate

/-! ## 1. Replies and answers -/

/-- A reply succeeds, or it is an error of the transport, be it one that the provider answered. -/
theorem Reply.isSuccess_answer (reply : Reply) :
    reply.answer.isSuccess = true ↔ ∃ status body, reply = .success status body := by
  cases reply with
  | success status body => exact iff_of_true rfl ⟨status, body, rfl⟩
  | failure e => cases e <;> exact iff_of_false Bool.false_ne_true nofun

namespace Answer.Origin

variable {Made : Reply → Prop} {a : Answer}

/-- Only a successful reply makes a successful answer. -/
theorem of_isSuccess (h : a.Origin Made) (hsuccess : a.isSuccess = true) :
    ∃ status, Made (.success status a.body) := by
  cases h with
  | @reply r hmade elapsed =>
    obtain ⟨status, body, rfl⟩ := (Reply.isSuccess_answer r).mp hsuccess
    exact ⟨status, hmade⟩
  | own hown elapsed =>
    simp only [Queue.ownAnswers, List.mem_cons, List.not_mem_nil, or_false] at hown
    rcases hown with rfl | rfl | rfl <;> cases hsuccess

/-- **A status beside a failure** says that the provider was reached and answered with it. -/
theorem of_status (h : a.Origin Made) (hfailure : a.isSuccess = false) {code : Nat}
    (hstatus : a.status = some code) : ∃ text, Made (.failure (.status code text)) := by
  cases h with
  | @reply r hmade elapsed =>
    cases r with
    | success status body => cases hfailure
    | failure e =>
      cases e with
      | status c text =>
        cases hstatus
        exact ⟨text, hmade⟩
      | timeout | connect | request => cases hstatus
  | own hown elapsed =>
    simp only [Queue.ownAnswers, List.mem_cons, List.not_mem_nil, or_false] at hown
    rcases hown with rfl | rfl | rfl <;> cases hstatus

end Answer.Origin

/-! ## 2. Outcomes -/

/-- The verdict on an answer of a lenient provider. -/
theorem Verdict.outcome_ofAnswer_lenient {p : Provider} (lenient : p.rejectIfUnavailable = false)
    (userId : String) (a : Answer) : (ofAnswer p userId a).outcome =
      if a.isSuccess then .ofBody a.body p.forwardAsJson userId else .accept userId := by
  rw [ofAnswer, lenient]
  split <;> rfl

namespace Session

/-- **A lenient provider excuses whatever is no success.**  Whatever has happened to a session
before, a request that leads to a call of a lenient provider gets the queue's answer to that call: the
reply to it, or an answer without a call.  On a success the outcome is what the body says, and on
anything else, an error status with which the provider has answered included, the client is let
through on its own user id. -/
theorem lenient_outcome {s₀ : Session} (new : s₀.IsNew) (unanswered : s₀.timeline.answered = [])
    (events : List Event) (settings : AuthSettings) (unix : Int) (front back : List Request)
    {r : Request} {p : Provider} {queue : Nat} {call : Call}
    (calls : r.Calls (s₀.replay events).registry settings p queue call)
    (lenient : p.rejectIfUnavailable = false) :
    let s := s₀.replay events
    let done := s.authenticate .queues settings unix (front ++ r :: back)
    ∃ a, done.1.timeline.answerOf? (s.ticketAfter settings unix front) = some a ∧
      a.Origin (s₀.MayReply events call) ∧
      done.2.outcomes[front.length]? = some
        (if a.isSuccess then .ofBody a.body p.forwardAsJson r.userId else .accept r.userId) ∧
      (a.isSuccess = true → ∃ status, s₀.MayReply events call (.success status a.body)) ∧
      ∀ code, a.isSuccess = false → a.status = some code →
        ∃ text, s₀.MayReply events call (.failure (.status code text)) := by
  intro s done
  obtain ⟨a, ha, horigin⟩ := exists_answer new unanswered events calls unix front back
  refine ⟨a, ha, horigin, ?_, horigin.of_isSuccess, fun code hfailure => horigin.of_status hfailure⟩
  obtain ⟨query, hplan⟩ := Plan.ofRequest_eq_call_iff.mpr calls
  have houtcome : done.2.outcomes[front.length]? = some
      ((Plan.ofRequest s.registry settings unix r).verdict .queues unix
        (s.begun .queues settings unix front).session done.1.timeline r).outcome :=
    outcomes_authenticate front back r
  have hverdict : (Plan.call p queue call query).verdict .queues unix
      (s.begun .queues settings unix front).session done.1.timeline r =
        .ofAnswer p r.userId a := by
    rw [Plan.verdict, show Backend.answer? .queues _ done.1.timeline r.authType queue call = some a
      from ha]
  rw [houtcome, hplan, hverdict, Verdict.outcome_ofAnswer_lenient lenient]

namespace Example

/-- A login service that lets clients in when it cannot be asked. -/
def tolerant : Provider :=
  { authType := .custom, baseUri := "https://id.example/login", rejectIfUnavailable := false }

/-- The service is registered, and attempts will end with these replies. -/
def replying (replies : List Reply) : List Event :=
  [.rebuild [tolerant], .outside { common := replies.map fun reply => { reply } } fresh.cache]

/-- A client with a ticket for the service. -/
def visitor (userId : String) : Request := { userId, authType := .custom, params := some "t=1" }

/-- The call for such a client. -/
def visit : Call := { method := .get, url := "https://id.example/login?t=1" }

/-- An application that lets no anonymous clients in. -/
def strict : AuthSettings := { applicationId := "app" }

theorem calls_visitor (userId : String) {registry : Registry}
    (registered : registry.get? .custom = some ⟨tolerant, .http 0⟩) :
    (visitor userId).Calls registry strict tolerant 0 visit where
  registered := registered
  checked := fun h => absurd h.2.2 Bool.false_ne_true
  client := nofun
  dashboard := nofun
  forwards := trivial
  merged := ⟨_, rfl, by cbv⟩

end Example

open Example in
/-- The service denies one client and tells the next one that it is not authorized: the first one is
denied, and the second one let through. -/
theorem lenient_outcome_unauthorized :
    let s := fresh.replay (replying [.success 200 (Text.Utf8.bytes "\x7b\"ResultCode\":2\x7d"),
      .failure (.status 401 "no")])
    let done := s.authenticate .queues strict 0 [visitor "ada", visitor "bob"]
    fresh.IsNew ∧ fresh.timeline.answered = [] ∧ tolerant.rejectIfUnavailable = false ∧
      (visitor "bob").Calls s.registry strict tolerant 0 visit ∧
      (done.2.outcomes.map Outcome.isAccepted)[0]? = some false ∧
      (done.1.timeline.answerOf? 1).bind (·.status) = some 401 ∧
      done.2.outcomes[1]? = some (.accept "bob") := by
  intro s done
  have new : fresh.IsNew := ⟨rfl, rfl, rfl, rfl⟩
  have calls : (visitor "bob").Calls s.registry strict tolerant 0 visit := calls_visitor "bob" rfl
  have hticket : s.ticketAfter strict 0 [visitor "ada"] = 1 := by decide +kernel
  have hanswer : done.1.timeline.answerOf? 1 =
      some (Reply.failure (.status 401 "no")).answer := by decide +kernel
  obtain ⟨a, ha, -, houtcome, -⟩ := lenient_outcome new rfl _ strict 0 [visitor "ada"] [] calls rfl
  change done.1.timeline.answerOf? (s.ticketAfter strict 0 [visitor "ada"]) = some a at ha
  rw [hticket, hanswer] at ha
  cases ha
  exact ⟨new, rfl, rfl, calls, by decide +kernel, by rw [hanswer]; rfl, houtcome⟩

open Example in
/-- **An answer with an error status excuses the client** like an unreachable provider does. -/
theorem forbidden_let_through :
    let s := fresh.replay (replying [.failure (.status 403 "no")])
    let done := s.authenticate .queues strict 0 [visitor "ada"]
    fresh.IsNew ∧ tolerant.rejectIfUnavailable = false ∧
      (visitor "ada").Calls s.registry strict tolerant 0 visit ∧
      done.1.timeline.answerOf? 0 = some (Reply.failure (.status 403 "no")).answer ∧
      done.2.outcomes = [.accept "ada"] :=
  ⟨⟨rfl, rfl, rfl, rfl⟩, rfl, calls_visitor "ada" rfl, rfl, rfl⟩

end Session

end LoginGate
