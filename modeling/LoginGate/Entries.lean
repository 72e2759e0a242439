/-
# Entries in insertion order

A map is a list of pairs with distinct keys.  A key keeps the place of its first occurrence, and a
later value takes the place of the earlier one.  The view is `get?`; `get?_insert` and
`keys_insert` say what an insertion does to it and to the order, and `insert_nodup` that keys stay
distinct.
-/

namespace LoginGate.Entries

variable {κ β : Type} [DecidableEq κ]

/-! ## 1. Operations -/

/-- The value of a key. -/
def get? (key : κ) : List (κ × β) → Option β
  | [] => none
  | (k, v) :: rest => if k = key then some v else get? key rest

/-- Whether a key occurs. -/
def contains (key : κ) (entries : List (κ × β)) : Bool :=
  entries.any fun (k, _) => k = key

/-- The keys in order. -/
def keys (entries : List (κ × β)) : List κ :=
  entries.map Prod.fst

/-- Replaces the value of a key in place, or adds the pair at the end. -/
def insert (key : κ) (value : β) : List (κ × β) → List (κ × β)
  | [] => [(key, value)]
  | (k, v) :: rest => if k = key then (k, value) :: rest else (k, v) :: insert key value rest

/-- Inserts pairs one after another. -/
def insertAll (entries : List (κ × β)) (pairs : List (κ × β)) : List (κ × β) :=
  pairs.foldl (fun acc (k, v) => insert k v acc) entries

/-- The entries that pairs make when they are inserted into nothing. -/
def ofPairs (pairs : List (κ × β)) : List (κ × β) :=
  insertAll [] pairs

/-! ## 2. What an insertion does -/

theorem contains_iff {key : κ} {entries : List (κ × β)} :
    contains key entries = true ↔ key ∈ keys entries := by
  simp [contains, keys]

@[simp] theorem get?_nil (key : κ) : get? key ([] : List (κ × β)) = none := rfl

theorem get?_insert (key other : κ) (value : β) (entries : List (κ × β)) :
    get? other (insert key value entries) =
      if key = other then some value else get? other entries := by
  induction entries with
  | nil => simp [insert, get?]
  | cons e rest ih =>
    obtain ⟨k, v⟩ := e
    simp only [insert]
    split
    · rename_i h
      subst h
      simp only [get?]
      split <;> rfl
    · rename_i h
      simp only [get?, ih]
      by_cases ho : k = other
      · subst ho
        simp [Ne.symm h]
      · simp [ho]

omit [DecidableEq κ] in
@[simp] theorem keys_cons (k : κ) (v : β) (rest : List (κ × β)) :
    keys ((k, v) :: rest) = k :: keys rest := rfl

theorem get?_isSome_iff {key : κ} {entries : List (κ × β)} :
    (get? key entries).isSome ↔ key ∈ keys entries := by
  induction entries with
  | nil => simp [get?, keys]
  | cons e rest ih =>
    obtain ⟨k, v⟩ := e
    rw [keys_cons, List.mem_cons, get?]
    by_cases h : k = key
    · simp [h]
    · rw [if_neg h, ih]
      exact ⟨Or.inr, fun hm => hm.resolve_left (Ne.symm h)⟩

/-- An insertion adds the key at the end or leaves the keys as they are. -/
theorem keys_insert (key : κ) (value : β) (entries : List (κ × β)) :
    keys (insert key value entries) =
      if key ∈ keys entries then keys entries else keys entries ++ [key] := by
  induction entries with
  | nil => simp [insert, keys]
  | cons e rest ih =>
    obtain ⟨k, v⟩ := e
    rw [insert]
    by_cases h : k = key
    · simp [h]
    · rw [if_neg h, keys_cons, keys_cons, ih]
      have hm : key ∈ k :: keys rest ↔ key ∈ keys rest := by
        simp [Ne.symm h]
      by_cases hk : key ∈ keys rest
      · rw [if_pos hk, if_pos (hm.mpr hk)]
      · rw [if_neg hk, if_neg (fun hc => hk (hm.mp hc)), List.cons_append]

theorem insert_nodup {key : κ} {value : β} {entries : List (κ × β)} (h : (keys entries).Nodup) :
    (keys (insert key value entries)).Nodup := by
  rw [keys_insert]
  split
  · exact h
  · rename_i hk
    rw [List.nodup_append]
    exact ⟨h, by simp, fun a ha b hb => by
      rw [List.mem_singleton] at hb
      subst hb
      exact fun he => hk (he ▸ ha)⟩

theorem insertAll_nodup {entries pairs : List (κ × β)} (h : (keys entries).Nodup) :
    (keys (insertAll entries pairs)).Nodup := by
  induction pairs generalizing entries with
  | nil => exact h
  | cons p ps ih => exact ih (insert_nodup h)

theorem ofPairs_nodup (pairs : List (κ × β)) : (keys (ofPairs pairs)).Nodup :=
  insertAll_nodup (by simp [keys])

end LoginGate.Entries
