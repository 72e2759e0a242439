/-
# What putting a setting changes

A setting that is put at the end of a way changes what stands under the first key of the way and
nothing beside it (`under_putAt`), and what comes to stand there depends on nothing but what stood
there.  So of two settings that are put into a tree one after the other, the second one leaves the
first as it is unless their ways meet.  A layer of variables is a sequence of such steps; one whose
path no other one has can be told apart from the rest of its layer (`Entries.exists_ofPairs_insert`).
-/
import LoginGate.Proofs.Entries
import LoginGate.Proofs.Settings.Variables

namespace LoginGate

/-! ## 1. Entries that one more pair makes -/

namespace Entries

variable {κ β : Type} [DecidableEq κ]

theorem insert_append (key : κ) (value : β) (front back : List (κ × β)) :
    insert key value (front ++ back) =
      if key ∈ keys front then insert key value front ++ back
      else front ++ insert key value back := by
  induction front with
  | nil => rfl
  | cons e front ih =>
    obtain ⟨k, v⟩ := e
    have hmem (hk : k ≠ key) : key ∈ keys ((k, v) :: front) ↔ key ∈ keys front := by
      simp [Ne.symm hk]
    rw [List.cons_append, insert]
    by_cases hk : k = key
    · rw [if_pos hk, if_pos (by simp [hk]), insert, if_pos hk, List.cons_append]
    · rw [if_neg hk, ih]
      by_cases h : key ∈ keys front
      · rw [if_pos h, if_pos ((hmem hk).mpr h), insert, if_neg hk, List.cons_append]
      · rw [if_neg h, if_neg (mt (hmem hk).mp h), List.cons_append]

/-- Pairs with other keys are inserted around a pair as if it were not there. -/
theorem exists_insertAll_around {p : κ × β} {pairs : List (κ × β)} (h : p.1 ∉ keys pairs)
    (front back : List (κ × β)) :
    ∃ front' back', insertAll (front ++ back) pairs = front' ++ back' ∧
      insertAll (front ++ p :: back) pairs = front' ++ p :: back' := by
  induction pairs generalizing front back with
  | nil => exact ⟨front, back, rfl, rfl⟩
  | cons q pairs ih =>
    rw [keys_cons, List.mem_cons, not_or] at h
    have hstep (entries : List (κ × β)) :
        insertAll entries (q :: pairs) = insertAll (insert q.1 q.2 entries) pairs := rfl
    have hp : insert q.1 q.2 (p :: back) = p :: insert q.1 q.2 back := by
      rw [insert, if_neg h.1]
    rw [hstep, hstep, insert_append, insert_append, hp]
    split
    · exact ih h.2 _ _
    · exact ih h.2 _ _

/-- A pair whose key no other pair has takes one place among the entries. -/
theorem exists_ofPairs_insert {p : κ × β} {before after : List (κ × β)}
    (hbefore : p.1 ∉ keys before) (hafter : p.1 ∉ keys after) :
    ∃ front back, ofPairs (before ++ after) = front ++ back ∧
      ofPairs (before ++ p :: after) = front ++ p :: back := by
  have hsplit (rest : List (κ × β)) :
      ofPairs (before ++ rest) = insertAll (ofPairs before) rest := by
    simp [ofPairs, insertAll]
  have hfront : p.1 ∉ keys (ofPairs before) := by
    rw [keys_ofPairs, List.mem_eraseDups]
    exact hbefore
  have hcons : insertAll (ofPairs before) (p :: after) =
      insertAll (ofPairs before ++ [p]) after := by
    rw [← insert_eq_concat hfront]
    rfl
  rw [hsplit, hsplit, hcons]
  simpa using exists_insertAll_around hafter (ofPairs before) []

/-- Entries are some of the pairs that make them. -/
theorem mem_of_mem_ofPairs {e : κ × β} {pairs : List (κ × β)} (h : e ∈ ofPairs pairs) :
    e ∈ pairs := by
  induction pairs using List.reverseRecOn with
  | nil => cases h
  | append_singleton pairs p ih =>
    rw [ofPairs_concat] at h
    rcases mem_of_mem_insert h with rfl | h
    · exact List.mem_append_right _ List.mem_cons_self
    · exact List.mem_append_left _ (ih h)

end Entries

namespace Setting

/-! ## 2. Single steps -/

/-- What stands under a key. -/
def under (key : String) (s : Setting) : Option Setting := Entries.get? key s.entries

/-- Whether a setting is a table. -/
def IsTable (s : Setting) : Prop := ∃ es, s = table es

/-- A setting without settings in it. -/
def IsSingle (s : Setting) : Prop := ∀ es, s ≠ table es

theorem isSingle_ofVariable (s : String) : (ofVariable s).IsSingle := by
  intro es
  rcases spelling_cases s with ⟨b, hb⟩ | ⟨n, hn, hword⟩ | hother
  · rw [ofVariable_of_truth hb]
    exact Setting.noConfusion
  · rw [ofVariable_of_integer hn hword]
    exact Setting.noConfusion
  · rw [ofVariable_of_other hother]
    cases Binary64.parse? s <;> exact Setting.noConfusion

theorem merge_of_isSingle {value : Setting} (h : value.IsSingle) (key : String) (s : Setting) :
    merge key value s = table (Entries.insert (Text.lowerCase key) value s.entries) := by
  cases value with
  | table es => exact absurd rfl (h es)
  | _ => rw [merge]; exact fun es => Setting.noConfusion

/-- What comes to stand at the end of the rest of a way. -/
def placed (value : Setting) (others : List Step) (old : Option Setting) : Setting :=
  match others with
  | [] => value
  | step :: steps => putAt value step steps (old.getD nil)

theorem putAt_key {value : Setting} (h : value.IsSingle) (key : String) (others : List Step)
    (s : Setting) :
    putAt value (.key key) others s =
      table (Entries.insert (Text.lowerCase key)
        (placed value others (s.under (Text.lowerCase key))) s.entries) := by
  cases others with
  | nil => exact merge_of_isSingle h key s
  | cons step steps => rw [putAt, changeEntry]; rfl

/-- **A step changes one place**, with regard to what stood there. -/
theorem under_putAt {value : Setting} (h : value.IsSingle) (key other : String)
    (others : List Step) (s : Setting) :
    (putAt value (.key key) others s).under other =
      if Text.lowerCase key = other then some (placed value others (s.under other))
      else s.under other := by
  rw [putAt_key h, under, entries, Entries.get?_insert]
  split
  · rename_i hkey
    rw [hkey]
  · rfl

theorem isTable_putAt {value : Setting} (h : value.IsSingle) (key : String) (others : List Step)
    (s : Setting) : (putAt value (.key key) others s).IsTable := ⟨_, putAt_key h key others s⟩

/-! ## 3. Ways of variables -/

/-- A step with its key in lower case, as it is taken. -/
def Step.lower : Step → Step
  | .key k => .key (Text.lowerCase k)
  | .index i => .index i

/-- The way that a written path leads, with its keys in lower case. -/
def wayOf (path : String) : List Step :=
  let p := Path.parse path
  (p.first :: p.others).map Step.lower

/-- A written path begins with a key. -/
theorem exists_first_key (path : String) : ∃ key, (Path.parse path).first = .key key := by
  rw [Path.parse]
  cases htaken : takeKey? path.toList with
  | none => exact ⟨path, by simp⟩
  | some taken =>
    obtain ⟨key, rest⟩ := taken
    cases hsteps : steps? (rest.length + 1) rest with
    | none => exact ⟨path, by simp [hsteps]⟩
    | some steps => exact ⟨key, by simp [hsteps]⟩

end Setting

end LoginGate
