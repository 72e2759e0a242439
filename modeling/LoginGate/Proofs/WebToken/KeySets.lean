/-
# The verifying keys of a set

A set of published keys is kept as verifying keys by their ids.  Under an id stands what the last
usable key with this id is good for (`get?_publicKeys`): keys without an id, and keys that cannot be
decoded, are as if they were not there.
-/
import LoginGate.Proofs.Entries
import LoginGate.WebToken.Key

namespace LoginGate.WebKey

/-- **The verifying key of an id in a set** is that of its last usable key: it has the id and can be
decoded, and none behind it that has the id can. -/
def IsKeyOf (set : List WebKey) (id : String) (verifier : Verifier) : Prop :=
  ∃ front key back, set = front ++ key :: back ∧ key.id = some id ∧
    key.verifier? = some verifier ∧ ∀ other ∈ back, other.id = some id → other.verifier? = none

/-- What a key is good for under an id. -/
def verifierFor? (id : String) (key : WebKey) : Option Verifier :=
  if key.id = some id then key.verifier? else none

theorem verifierFor?_eq_some_iff {id : String} {key : WebKey} {verifier : Verifier} :
    key.verifierFor? id = some verifier ↔ key.id = some id ∧ key.verifier? = some verifier := by
  rw [verifierFor?, Option.ite_none_right_eq_some]

theorem verifierFor?_eq_none_iff {id : String} {key : WebKey} :
    key.verifierFor? id = none ↔ (key.id = some id → key.verifier? = none) := by
  rw [verifierFor?, ite_eq_right_iff]

/-- The first usable key of an id is found under it. -/
theorem get?_filterMap (id : String) (set : List WebKey) :
    (Entries.get? id (set.filterMap fun key => do
      let id ← key.id
      let verifier ← key.verifier?
      some (id, verifier))) = set.findSome? (verifierFor? id) := by
  induction set with
  | nil => rfl
  | cons key set ih =>
    rw [List.findSome?_cons, ← ih, List.filterMap_cons, verifierFor?]
    cases hid : key.id with
    | none => simp
    | some found =>
      cases hverifier : key.verifier? with
      | none => simp
      | some verifier => by_cases hsame : found = id <;> simp [Entries.get?, hsame]

/-- **The last usable key wins.** -/
theorem get?_publicKeys {set : List WebKey} {id : String} {verifier : Verifier} :
    Entries.get? id (publicKeys set) = some verifier ↔ IsKeyOf set id verifier := by
  rw [publicKeys, Entries.get?_ofPairs, ← List.filterMap_reverse, get?_filterMap,
    List.findSome?_eq_some_iff]
  constructor
  · rintro ⟨back, key, front, hset, hkey, hback⟩
    rw [verifierFor?_eq_some_iff] at hkey
    refine ⟨front.reverse, key, back.reverse, ?_, hkey.1, hkey.2, fun other hother => ?_⟩
    · rw [← set.reverse_reverse, hset]
      simp
    · exact verifierFor?_eq_none_iff.mp (hback other (List.mem_reverse.mp hother))
  · rintro ⟨front, key, back, rfl, hid, hverifier, hback⟩
    refine ⟨back.reverse, key, front.reverse, by simp, verifierFor?_eq_some_iff.mpr ⟨hid, hverifier⟩,
      fun other hother => ?_⟩
    exact verifierFor?_eq_none_iff.mpr (hback other (List.mem_reverse.mp hother))

end LoginGate.WebKey
