/-
# Keys are answered in time

Whoever asks for keys is answered at the latest when the waiting time has passed (`answered_le`):
events of a refresh count only up to the deadline.
-/
import LoginGate.Certificates.Cache

namespace LoginGate.Certificates

theorem Refresh.le_of_await {interval : Interval} {deadline : Nat} {script : Script} {r : Refresh}
    {t : Nat} {keys : Keys} (h : r.await interval deadline script = some (t, keys)) :
    t ≤ deadline := by
  fun_induction await interval deadline script r with
  | case1 script r hnext s found hfound =>
    cases h
    exact hnext
  | case2 script r hnext s hnone ih => exact ih h
  | case3 => cases h

/-- **An answer comes within the waiting time.** -/
theorem Cache.answered_le (c : Cache) (now : Nat) (url : String) (timeout : Nat) :
    (c.keysFor now url timeout).2.1 ≤ now + timeout := by
  rw [keysFor, answerOf]
  dsimp only
  split
  · exact Nat.le_add_right now timeout
  · split
    · exact Nat.le_add_right now timeout
    · split
      · rename_i t keys hawait
        exact Refresh.le_of_await hawait
      · exact Nat.le_refl _

end LoginGate.Certificates
