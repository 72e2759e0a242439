/-
# What those who ask are answered

Whoever asks for the keys of a URL gets those of its latest successful fetch, at the first instant at
which there is one, or nothing when the waiting time is over (`inquiries_answered`).  What is said
here of an inquiry is said of the course of its URL alone: `Course.Holds` are the keys of the latest
successful fetch among those that have ended by an instant, and `Course.Answers` is the answer that
they make.  So a failed fetch changes no answer, keys that were there once stay there, and other
URLs have no part in it.

The end of a fetch, the inquiry and the end of its waiting time are not told apart when they fall
together; `Course.Apart` says that they do not.
-/
import LoginGate.Proofs.Certificates.Runs
import LoginGate.Proofs.WebToken.KeySets

namespace LoginGate.Certificates

/-! ## 1. What a fetch brings -/

theorem Fetch.keys_ofBody {delay : Nat} {body : Option String} {keys : Keys} :
    (Fetch.ofBody delay body).keys = some keys ↔
      ∃ text set, body = some text ∧ WebKey.parseSet? text = some set ∧
        keys = WebKey.publicKeys set := by
  simp only [Fetch.ofBody, Option.map_eq_some_iff, Option.bind_eq_some_iff]
  constructor
  · rintro ⟨set, ⟨text, hbody, hset⟩, rfl⟩
    exact ⟨text, set, hbody, hset, rfl⟩
  · rintro ⟨text, set, hbody, hset, rfl⟩
    exact ⟨set, ⟨text, hbody, hset⟩, rfl⟩

/-! ## 2. The keys of an instant -/

namespace Course

variable (c : Course)

/-- **The keys of an instant** are those of the latest successful fetch that has ended by then. -/
def Holds (instant : Nat) (keys : Keys) : Prop :=
  ∃ k, c.finish k ≤ instant ∧ (c.script.fetch k).keys = some keys ∧
    ∀ j, k < j → c.finish j ≤ instant → (c.script.fetch j).keys = none

/-- So many fetches have ended by an instant. -/
def Ended (instant n : Nat) : Prop := ∀ k, c.finish k ≤ instant ↔ k < n

/-- How many fetches have ended by an instant can be seen from the last one of them and the next. -/
theorem ended_of_bounds {c : Course} {instant n : Nat} (h : ∀ k < n, c.finish k ≤ instant)
    (h' : instant < c.finish n) : c.Ended instant n := by
  intro k
  refine ⟨fun hk => ?_, h k⟩
  by_contra hlate
  exact absurd (h'.trans_le (c.finish_mono (Nat.le_of_not_lt hlate))) (Nat.not_lt_of_le hk)

end Course

/-- What has ended by the horizon of an advance. -/
theorem Refresh.IsAt.exists_ended {c : Course} {started ended : Nat} {r : Refresh} {rest : Script}
    (h : r.IsAt c started ended rest) {horizon : Nat}
    (passed : ∀ k < ended, c.finish k ≤ horizon) :
    ∃ n, c.Ended horizon n ∧ ended ≤ n ∧
      (r.advance c.interval horizon rest).1.keys = c.script.keysAfter n := by
  obtain ⟨started', ended', hplace, hle, -, -, hpassed⟩ := h.advance horizon
  refine ⟨ended', Course.ended_of_bounds (fun k hk => ?_) ?_, hle, hplace.keys_eq⟩
  · rcases Nat.lt_or_ge k ended with hlt | hge
    · exact passed k hlt
    · exact hpassed k hk hge
  · exact (Refresh.lt_next_advance _ horizon _ _).trans_le (hplace.next_le_finish (Nat.le_refl _))

namespace Course

variable (c : Course)

theorem exists_ended (instant : Nat) : ∃ n, c.Ended instant n := by
  have hstart := Refresh.isAt_start c
  obtain ⟨n, hended, -⟩ := hstart.exists_ended (fun k hk => absurd hk (Nat.not_lt_zero k))
  exact ⟨n, hended⟩

variable {c} {instant later n m : Nat} {keys keys' : Keys}

theorem holds_iff (h : c.Ended instant n) :
    c.Holds instant keys ↔ c.script.keysAfter n = some keys := by
  rw [Script.keysAfter_eq_some_iff, Holds]
  refine exists_congr fun k => ?_
  rw [h k]
  refine and_congr_right fun _ => and_congr_right fun _ => forall_congr' fun j => ?_
  rw [h j]

theorem Ended.mono (h : c.Ended instant n) (h' : c.Ended later m) (hle : instant ≤ later) :
    n ≤ m := by
  by_contra hlt
  exact absurd ((h' m).mp (((h m).mpr (Nat.lt_of_not_le hlt)).trans hle)) (Nat.lt_irrefl m)

theorem Holds.unique (h : c.Holds instant keys) (h' : c.Holds instant keys') : keys = keys' := by
  obtain ⟨n, hended⟩ := c.exists_ended instant
  rw [holds_iff hended] at h h'
  exact Option.some.inj (h.symm.trans h')

theorem finish_ne_of_bounds (h : ∀ k < n, c.finish k < instant) (h' : instant < c.finish n)
    (k : Nat) : c.finish k ≠ instant := by
  rintro rfl
  rcases Nat.lt_or_ge k n with hlt | hge
  · exact absurd (h k hlt) (Nat.lt_irrefl _)
  · exact absurd (h'.trans_le (c.finish_mono hge)) (Nat.lt_irrefl _)

/-- There are keys from the first successful fetch on. -/
theorem Holds.exists_later (h : c.Holds instant keys) (hle : instant ≤ later) :
    ∃ keys', c.Holds later keys' := by
  obtain ⟨n, hended⟩ := c.exists_ended instant
  obtain ⟨m, hended'⟩ := c.exists_ended later
  rw [holds_iff hended] at h
  have hsome := Script.isSome_keysAfter (hended.mono hended' hle) (Option.isSome_of_eq_some h)
  obtain ⟨keys', hkeys⟩ := Option.isSome_iff_exists.mp hsome
  exact ⟨keys', (holds_iff hended').mpr hkeys⟩

/-- Failed fetches change nothing. -/
theorem Holds.of_failed (h : c.Holds instant keys) (hle : instant ≤ later)
    (failed : ∀ k, instant < c.finish k → c.finish k ≤ later → (c.script.fetch k).keys = none) :
    c.Holds later keys := by
  obtain ⟨k, hk, hkeys, hlast⟩ := h
  refine ⟨k, hk.trans hle, hkeys, fun j hj hended => ?_⟩
  rcases Nat.lt_or_ge instant (c.finish j) with hlate | hearly
  · exact failed j hlate hended
  · exact hlast j hj hearly

/-! ## 3. Answers -/

variable (c)

/-- **The answer to an inquiry**, and its instant: the keys of the first instant from the inquiry on
that has any, if it comes within the waiting time, or nothing at its end. -/
inductive Answers (asked timeout : Nat) : Nat → Option Keys → Prop
  | found {instant : Nat} {keys : Keys} (begun : asked ≤ instant)
      (within : instant ≤ asked + timeout) (holds : c.Holds instant keys)
      (first : ∀ earlier, asked ≤ earlier → earlier < instant → ∀ keys, ¬ c.Holds earlier keys) :
    Answers asked timeout instant (some keys)
  | timedOut (absent : ∀ keys, ¬ c.Holds (asked + timeout) keys) :
    Answers asked timeout (asked + timeout) none

/-- **Timers stay apart** from an inquiry: no fetch ends when its waiting time is over, and none ends
at its instant, unless it is the instant of the first inquiry, which starts the fetches. -/
def Apart (asked timeout : Nat) : Prop :=
  (∀ k, c.finish k ≠ asked + timeout) ∧ ∀ k, c.finish k = asked → asked = c.first

variable {c} {asked timeout : Nat} {answer answer' : Option Keys}

theorem Answers.unique (h : c.Answers asked timeout instant answer)
    (h' : c.Answers asked timeout later answer') : instant = later ∧ answer = answer' := by
  cases h with
  | found begun within holds first =>
    cases h' with
    | found begun' within' holds' first' =>
      have heq : instant = later := by
        rcases Nat.lt_trichotomy instant later with hlt | heq | hlt
        · exact absurd holds (first' instant begun hlt _)
        · exact heq
        · exact absurd holds' (first later begun' hlt _)
      subst heq
      exact ⟨rfl, congrArg some (holds.unique holds')⟩
    | timedOut absent =>
      obtain ⟨keys', hkeys⟩ := holds.exists_later within
      exact absurd hkeys (absent keys')
  | timedOut absent =>
    cases h' with
    | found begun' within' holds' =>
      obtain ⟨keys', hkeys⟩ := holds'.exists_later within'
      exact absurd hkeys (absent keys')
    | timedOut => exact ⟨rfl, rfl⟩

/-- Of two answers that bring keys, the later one brings the same ones, unless a fetch between them
has succeeded; and once an answer has brought keys, each later one does. -/
theorem Answers.of_earlier {asked' timeout' : Nat} (h : c.Answers asked timeout instant answer)
    (h' : c.Answers asked' timeout' later answer') (hle : instant ≤ later)
    (hsome : answer.isSome = true) :
    answer'.isSome = true ∧
      ((∀ k, instant < c.finish k → c.finish k ≤ later → (c.script.fetch k).keys = none) →
        answer' = answer) := by
  cases h with
  | timedOut => cases hsome
  | found _ _ holds =>
    cases h' with
    | found _ _ holds' =>
      exact ⟨rfl, fun failed => congrArg some (holds'.unique (holds.of_failed hle failed))⟩
    | timedOut absent =>
      obtain ⟨keys, hkeys⟩ := holds.exists_later hle
      exact absurd hkeys (absent keys)

/-- Before the end of a fetch there are no keys, if none of those before it has brought any. -/
theorem not_holds_of_lt (hnone : c.script.keysAfter n = none)
    (hlate : ∀ k, n ≤ k → instant < c.finish k) : ¬ c.Holds instant keys := by
  rintro ⟨k, hk, hkeys, -⟩
  rcases Nat.lt_or_ge k n with hlt | hge
  · rw [Script.keysAfter_eq_none_iff.mp hnone k hlt] at hkeys
    cases hkeys
  · exact absurd hk (Nat.not_le_of_lt (hlate k hge))

end Course

namespace Refresh.IsAt

variable {c : Course} {started ended : Nat} {r : Refresh} {rest : Script}

/-- **Waiting from a place without keys** on ends at the first instant that has any. -/
theorem await (h : IsAt c started ended r rest) (hnone : c.script.keysAfter ended = none)
    (deadline : Nat) :
    match r.await c.interval deadline rest with
    | some (instant, keys) => instant ≤ deadline ∧ c.Holds instant keys ∧
        ∀ earlier < instant, ∀ keys, ¬ c.Holds earlier keys
    | none => ∀ keys, ¬ c.Holds deadline keys := by
  fun_induction Refresh.await c.interval deadline rest r generalizing started ended with
  | case1 rest r hnext s found =>
    rename_i hfound
    rcases h.step with ⟨-, -, -, hkeys, -⟩ | ⟨hfinish, -, hplace⟩
    · rw [hkeys, h.keys_eq, hnone] at hfound
      cases hfound
    · have hpassed : ∀ k < ended + 1, c.finish k ≤ r.next := fun k hk =>
        hfinish ▸ c.finish_mono (Nat.le_of_lt_succ hk)
      obtain ⟨n, hended, hle, hadvanced⟩ := hplace.exists_ended hpassed
      rw [hplace.keys_eq] at hfound
      have hsome := Script.isSome_keysAfter hle (Option.isSome_of_eq_some hfound)
      obtain ⟨keys, hkeys⟩ := Option.isSome_iff_exists.mp hsome
      refine ⟨hnext, ?_, fun earlier hearlier keys => ?_⟩
      · rw [Course.holds_iff hended, hadvanced, hkeys]
        rfl
      · refine Course.not_holds_of_lt hnone fun k hk => ?_
        exact hearlier.trans_le (hfinish ▸ c.finish_mono hk)
  | case2 rest r hnext s hkeys =>
    rename_i ih
    rcases h.step with ⟨-, -, -, -, hplace⟩ | ⟨-, -, hplace⟩
    · exact ih hplace hnone
    · exact ih hplace (hplace.keys_eq ▸ hkeys)
  | case3 rest r hnext =>
    intro keys
    refine Course.not_holds_of_lt hnone fun k hk => ?_
    exact (Nat.lt_of_not_le hnext).trans_le (h.next_le_finish hk)

/-- With timers apart, an inquiry that comes after the first fetch finds the refresh past all fetches
that have ended by then. -/
theorem ended_of_apart (h : IsAt c started ended r rest) {asked timeout : Nat}
    (hnext : asked ≤ r.next) (hended : ∀ k < ended, c.finish k ≤ asked)
    (apart : c.Apart asked timeout) (hpos : 0 < ended) : c.Ended asked ended := by
  have hle : asked ≤ c.finish ended := hnext.trans (h.next_le_finish (Nat.le_refl _))
  refine Course.ended_of_bounds hended (Nat.lt_of_le_of_ne hle fun heq => ?_)
  -- No fetch but the first one ends at the instant of the first inquiry.
  have hfirst := apart.2 ended heq.symm
  obtain ⟨j, rfl⟩ := Nat.exists_eq_succ_of_ne_zero (Nat.ne_of_gt hpos)
  have hstart := (c.first_lt_start_succ j).trans_le (c.start_le_finish (j + 1))
  rw [← hfirst, heq] at hstart
  exact absurd hstart (Nat.lt_irrefl _)

/-- **An inquiry at a place of a course** is answered as the course has it. -/
theorem answers {e : Endpoint} {asked timeout : Nat}
    (h : IsAt c started ended (e.refresh.getD (start asked)) e.script)
    (hnext : asked ≤ (e.refresh.getD (start asked)).next)
    (hended : ∀ k < ended, c.finish k ≤ asked) (apart : c.Apart asked timeout) :
    c.Answers asked timeout (Cache.answerOf c.interval e asked timeout).1
      (Cache.answerOf c.interval e asked timeout).2 := by
  have hlate : ∀ k, ended ≤ k → asked ≤ c.finish k := fun k hk =>
    hnext.trans (h.next_le_finish hk)
  cases hkeys : c.script.keysAfter ended with
  | some keys =>
    have hpos : 0 < ended := by
      rcases Nat.eq_zero_or_pos ended with rfl | hpos
      · cases hkeys
      · exact hpos
    have hanswer : Cache.answerOf c.interval e asked timeout = (asked, some keys) := by
      simp only [Cache.answerOf, h.keys_eq, hkeys]
    rw [hanswer]
    refine .found (Nat.le_refl _) (Nat.le_add_right _ _) ?_ fun earlier hbegun hearly => ?_
    · exact (Course.holds_iff (h.ended_of_apart hnext hended apart hpos)).mpr hkeys
    · exact absurd hbegun (Nat.not_le_of_lt hearly)
  | none =>
    have hawait := h.await hkeys (asked + timeout)
    simp only [Cache.answerOf, h.keys_eq, hkeys]
    split
    · rename_i htimeout
      subst htimeout
      refine .timedOut fun keys => Course.not_holds_of_lt hkeys fun k hk => ?_
      exact Nat.lt_of_le_of_ne (hlate k hk) (apart.1 k).symm
    · split
      · rename_i instant keys hfound
        rw [hfound] at hawait
        obtain ⟨hwithin, hholds, hfirst⟩ := hawait
        have hbegun : asked ≤ instant := by
          by_contra hearly
          refine Course.not_holds_of_lt hkeys (fun k hk => ?_) hholds
          exact (Nat.lt_of_not_le hearly).trans_le (hlate k hk)
        exact .found hbegun hwithin hholds fun earlier _ hearlier => hfirst earlier hearlier
      · rename_i hover
        rw [hover] at hawait
        exact .timedOut hawait

end Refresh.IsAt

/-! ## 4. Keys that stay -/

theorem Refresh.isSome_keys_advance {interval : Interval} {horizon : Nat} {script : Script}
    {r : Refresh} (h : r.keys.isSome = true) :
    (r.advance interval horizon script).1.keys.isSome = true := by
  fun_induction Refresh.advance interval horizon script r with
  | case1 script r hnext s r' script' starts hrun ih =>
    rw [hrun] at ih
    refine ih ?_
    obtain ⟨keys, due, phase⟩ := r
    cases phase with
    | waiting => exact h
    | fetching finish result => simp [s, step, h]
  | case2 => exact h

namespace Cache

variable {c : Cache} {url : String}

theorem isSome_keys?_refer {now : Nat} {asked : String} (h : (c.keys? url).isSome = true) :
    ((c.refer now asked).keys? url).isSome = true := by
  rw [keys?] at h ⊢
  rw [endpoint_refer]
  split
  · rename_i hurl
    subst hurl
    cases hrefresh : (c.endpoint asked).refresh with
    | none =>
      rw [hrefresh] at h
      cases h
    | some r =>
      rw [hrefresh] at h
      exact h
  · exact h

theorem isSome_keys?_advance {horizon : Nat} (h : (c.keys? url).isSome = true) :
    ((c.advance horizon).1.keys? url).isSome = true := by
  rw [keys?] at h ⊢
  rw [endpoint_advance, advanceEndpoint]
  cases hrefresh : (c.endpoint url).refresh with
  | none =>
    rw [hrefresh] at h
    cases h
  | some r =>
    rw [hrefresh] at h
    exact Refresh.isSome_keys_advance h

end Cache

/-! ## 5. Inquiries of a run -/

namespace Run

variable {c c' : Cache} {r r' : Run}

/-- **The course of an inquiry** in a run from a cache: that of its URL, from the first inquiry about
it on. -/
def courseOf (r : Run) (c : Cache) (i : Inquiry) : Course :=
  c.course i.url ((r.firstAsked? i.url).getD i.instant)

/-- Whoever asks meets a refresh that is on its course, or starts one. -/
theorem exists_place (fresh : c.Fresh) (h : Leads { cache := c } r) (url : String) {asked : Nat}
    (later : r.now ≤ asked) (idle : r.cache.IdleBefore asked) :
    let course := c.course url ((r.firstAsked? url).getD asked)
    let refresh := (r.cache.endpoint url).refresh.getD (Refresh.start asked)
    ∃ started ended, refresh.IsAt course started ended (r.cache.endpoint url).script ∧
      asked ≤ refresh.next ∧ ∀ k < ended, course.finish k ≤ asked := by
  cases onCourse_of_leads fresh h url with
  | unasked hunasked hsame =>
    rw [hunasked, hsame, fresh.refresh_eq]
    exact ⟨0, 0, Refresh.isAt_start (c.course url asked), (Nat.max_self asked).ge,
      fun k hk => absurd hk (Nat.not_lt_zero k)⟩
  | asked hasked hsame hplace hdue hstarted hended =>
    rw [hasked, hsame]
    exact ⟨_, _, hplace, idle.le_next (congrArg Endpoint.refresh hsame),
      fun k hk => (hended k hk).trans later⟩

/-- **One inquiry** is answered as its course has it. -/
theorem answers_keysFor (fresh : c.Fresh) (h : Leads { cache := c } r) (url : String) {asked : Nat}
    (later : r.now ≤ asked) (idle : r.cache.IdleBefore asked) (timeout : Nat)
    (apart : (c.course url ((r.firstAsked? url).getD asked)).Apart asked timeout) :
    (c.course url ((r.firstAsked? url).getD asked)).Answers asked timeout
      (r.cache.keysFor asked url timeout).2.1 (r.cache.keysFor asked url timeout).2.2 := by
  obtain ⟨started, ended, hplace, hnext, hended⟩ := exists_place fresh h url later idle
  rw [Cache.keysFor, (orderly_of_leads fresh h).interval]
  exact hplace.answers hnext hended apart

theorem isSome_firstAsked?_of_mem {i : Inquiry} (hi : i ∈ r.inquiries) :
    (r.firstAsked? i.url).isSome = true := by
  rw [firstAsked?, Option.isSome_map, List.find?_isSome]
  exact ⟨i, hi, decide_eq_true rfl⟩

/-- Inquiries about one URL have one course. -/
theorem courseOf_eq_of_mem {i j : Inquiry} (hi : i ∈ r.inquiries) (hurl : j.url = i.url) :
    r.courseOf c j = r.courseOf c i := by
  obtain ⟨first, hfirst⟩ := Option.isSome_iff_exists.mp (isSome_firstAsked?_of_mem hi)
  rw [courseOf, courseOf, hurl, hfirst]
  rfl

/-- An inquiry keeps its course. -/
theorem courseOf_ask {i : Inquiry} (hi : i ∈ r.inquiries) (instant : Nat) (url : String)
    (timeout : Nat) : (r.ask instant url timeout).courseOf c i = r.courseOf c i := by
  obtain ⟨first, hfirst⟩ := Option.isSome_iff_exists.mp (isSome_firstAsked?_of_mem hi)
  rw [courseOf, courseOf, firstAsked?_ask, hfirst]
  rfl

theorem answers_of_leads (fresh : c.Fresh) (h : Leads { cache := c } r) :
    ∀ i ∈ r.inquiries, (r.courseOf c i).Apart i.instant i.timeout →
      (r.courseOf c i).Answers i.instant i.timeout i.answered i.keys := by
  induction h with
  | refl =>
    intro i hi
    cases hi
  | @tail r _ hleads hs ih =>
    cases hs with
    | @ask instant later idle url timeout =>
      intro i hi
      rcases List.mem_append.mp hi with hold | hnew
      · rw [courseOf_ask hold]
        exact ih i hold
      · rw [List.mem_singleton.mp hnew, courseOf, firstAsked?_ask, if_pos rfl]
        have hfirst : ((r.firstAsked? url).or (some instant)).getD instant =
            (r.firstAsked? url).getD instant := by
          cases r.firstAsked? url <;> rfl
        rw [hfirst]
        exact answers_keysFor fresh hleads url later idle timeout
    | advance later => exact ih

/-- Keys are never lost. -/
theorem isSome_keys?_of_leads (h : Leads r r') (url : String)
    (hsome : (r.cache.keys? url).isSome = true) : (r'.cache.keys? url).isSome = true := by
  induction h with
  | refl => exact hsome
  | tail _ hs ih =>
    cases hs with
    | ask later idle asked timeout => exact Cache.isSome_keys?_refer ih
    | advance later => exact Cache.isSome_keys?_advance ih

/-- **Inquiries are answered from the course of their URL**, if timers stay apart: with the keys of
the first instant that has any, or with nothing when the waiting time is over.  Keys that were there
once stay there, failed fetches change no answer, and runs that agree on a URL agree on the answers.
A fetch brings keys if it ends with a key set, and what it brings under an id is the last usable key
of the set. -/
theorem inquiries_answered (fresh : c.Fresh) (h : Leads { cache := c } r) :
    (∀ i ∈ r.inquiries, (r.courseOf c i).Apart i.instant i.timeout →
      (r.courseOf c i).Answers i.instant i.timeout i.answered i.keys) ∧
    (∀ i ∈ r.inquiries, ∀ j ∈ r.inquiries, j.url = i.url →
      (r.courseOf c i).Apart i.instant i.timeout → (r.courseOf c j).Apart j.instant j.timeout →
      i.answered ≤ j.answered → i.keys.isSome = true →
      j.keys.isSome = true ∧
        ((∀ k, i.answered < (r.courseOf c i).finish k → (r.courseOf c i).finish k ≤ j.answered →
          ((r.courseOf c i).script.fetch k).keys = none) → j.keys = i.keys)) ∧
    (∀ r' url, Leads r r' → (r.cache.keys? url).isSome = true →
      (r'.cache.keys? url).isSome = true) ∧
    (∀ (c' : Cache) (r' : Run), c'.Fresh → Leads { cache := c' } r' → c'.interval = c.interval →
      ∀ i ∈ r.inquiries, ∀ j ∈ r'.inquiries, j.url = i.url → j.instant = i.instant →
      j.timeout = i.timeout → (c'.endpoint i.url).script = (c.endpoint i.url).script →
      r'.firstAsked? i.url = r.firstAsked? i.url →
      (r.courseOf c i).Apart i.instant i.timeout → j.answered = i.answered ∧ j.keys = i.keys) ∧
    (∀ delay body keys, (Fetch.ofBody delay body).keys = some keys ↔
      ∃ text set, body = some text ∧ WebKey.parseSet? text = some set ∧
        keys = WebKey.publicKeys set) ∧
    ∀ set id verifier, Entries.get? id (WebKey.publicKeys set) = some verifier ↔
      WebKey.IsKeyOf set id verifier := by
  have answers := answers_of_leads fresh h
  refine ⟨answers, ?_, fun r' url h' hsome => isSome_keys?_of_leads h' url hsome, ?_,
    fun delay body keys => Fetch.keys_ofBody, fun set id verifier => WebKey.get?_publicKeys⟩
  · intro i hi j hj hurl hapart hapart' hle hsome
    have hcourse : r.courseOf c j = r.courseOf c i := courseOf_eq_of_mem hi hurl
    have hanswer := answers j hj hapart'
    rw [hcourse] at hanswer
    exact (answers i hi hapart).of_earlier hanswer hle hsome
  · intro c' r' fresh' h' hinterval i hi j hj hurl hinstant htimeout hscript hfirst hapart
    have hcourse : r'.courseOf c' j = r.courseOf c i := by
      rw [courseOf, courseOf, hurl, hinstant, hfirst, Cache.course, Cache.course, hinterval, hscript]
    have hanswer := answers_of_leads fresh' h' j hj
    rw [hcourse, hinstant, htimeout] at hanswer
    exact (hanswer hapart).unique (answers i hi hapart)

/-- A server whose second fetch alone succeeds. -/
def lateSuccess : Cache :=
  { interval := .ofNat 100
    endpoints := [("https://keys",
      { script := [{ delay := 30 }, { delay := 50, keys := some [("kid", .other)] },
          { delay := 7 }] })] }

/-- One does not wait long enough, one waits for the keys, and one asks when a fetch has failed
again. -/
def visitors : Run :=
  let r : Run := { cache := lateSuccess }
  (((r.ask 0 "https://keys" 60).ask 0 "https://keys" 500).advance 260).ask 260 "https://keys" 0

theorem leads_visitors : Leads { cache := lateSuccess } visitors := by
  have idle (c : Cache) : c.IdleBefore 0 := fun e he r hr => Nat.zero_le _
  refine .head (.ask (by decide) (idle _) "https://keys" 60) ?_
  refine .head (.ask (by decide) (idle _) "https://keys" 500) ?_
  refine .head (.advance (by decide : 0 ≤ 260)) ?_
  refine .single (.ask (Nat.le_refl 260) ?_ "https://keys" 0)
  exact (Cache.idleBefore_advance _ 260).mono (by decide)

/-- The course of the server's URL in the run of the visitors. -/
def lateCourse : Course := lateSuccess.course "https://keys" 0

theorem courseOf_visitors :
    ∀ i ∈ visitors.inquiries, visitors.courseOf lateSuccess i = lateCourse := by
  simp [visitors, ask, advance, courseOf, firstAsked?, lateCourse]

theorem apart_lateCourse :
    lateCourse.Apart 0 60 ∧ lateCourse.Apart 0 500 ∧ lateCourse.Apart 260 0 := by
  have hthird := Course.finish_ne_of_bounds (c := lateCourse) (n := 3) (by decide)
    (by decide : 260 < lateCourse.finish 3)
  refine ⟨⟨?_, fun k hk => rfl⟩, ⟨?_, fun k hk => rfl⟩, hthird, fun k hk => absurd hk (hthird k)⟩
  · exact Course.finish_ne_of_bounds (n := 1) (by decide) (by decide)
  · exact Course.finish_ne_of_bounds (n := 5) (by decide) (by decide)

theorem answers_lateCourse :
    lateCourse.Answers 0 60 60 none ∧
    lateCourse.Answers 0 500 150 (some [("kid", .other)]) ∧
    lateCourse.Answers 260 0 260 (some [("kid", .other)]) := by
  have hnone (instant : Nat) (h : instant < 150) (keys : Keys) : ¬ lateCourse.Holds instant keys :=
    Course.not_holds_of_lt (n := 1) rfl fun k hk => h.trans_le (lateCourse.finish_mono hk)
  have hended : lateCourse.Ended 150 2 := Course.ended_of_bounds (by decide) (by decide)
  have hended' : lateCourse.Ended 260 3 := Course.ended_of_bounds (by decide) (by decide)
  refine ⟨.timedOut (hnone 60 (by decide)), ?_, ?_⟩
  · exact .found (by decide) (by decide) ((Course.holds_iff hended).mpr rfl)
      fun earlier _ h => hnone earlier h
  · exact .found (by decide) (by decide) ((Course.holds_iff hended').mpr rfl)
      fun earlier h h' => absurd h (Nat.not_le_of_lt h')

/-- The first of them gets nothing at the end of the waiting time, the second one the keys at the end
of the second fetch, and the third one the same keys at once. -/
theorem inquiries_answered_visitors :
    lateSuccess.Fresh ∧ Leads { cache := lateSuccess } visitors ∧
    (∀ i ∈ visitors.inquiries, (visitors.courseOf lateSuccess i).Apart i.instant i.timeout) ∧
    visitors.inquiries.map (fun i => (i.answered, i.keys)) =
      [(60, none), (150, some [("kid", .other)]), (260, some [("kid", .other)])] := by
  have fresh : lateSuccess.Fresh := ⟨by decide, by decide⟩
  have answers := (inquiries_answered fresh leads_visitors).1
  have hcourse := courseOf_visitors
  obtain ⟨apart₁, apart₂, apart₃⟩ := apart_lateCourse
  obtain ⟨answers₁, answers₂, answers₃⟩ := answers_lateCourse
  obtain ⟨i₁, i₂, i₃, hall, h₁, h₂, h₃⟩ : ∃ i₁ i₂ i₃ : Inquiry,
      visitors.inquiries = [i₁, i₂, i₃] ∧ (i₁.instant = 0 ∧ i₁.timeout = 60) ∧
        (i₂.instant = 0 ∧ i₂.timeout = 500) ∧ i₃.instant = 260 ∧ i₃.timeout = 0 :=
    ⟨_, _, _, rfl, ⟨rfl, rfl⟩, ⟨rfl, rfl⟩, rfl, rfl⟩
  simp only [hall, List.forall_mem_cons, List.not_mem_nil, false_imp_iff, implies_true, and_true]
    at answers hcourse ⊢
  rw [hcourse.1, hcourse.2.1, hcourse.2.2, h₁.1, h₁.2, h₂.1, h₂.2, h₃.1, h₃.2] at answers ⊢
  have same₁ := (answers.1 apart₁).unique answers₁
  have same₂ := (answers.2.1 apart₂).unique answers₂
  have same₃ := (answers.2.2 apart₃).unique answers₃
  refine ⟨fresh, leads_visitors, ⟨apart₁, apart₂, apart₃⟩, ?_⟩
  simp [same₁, same₂, same₃]

end Run

end LoginGate.Certificates
