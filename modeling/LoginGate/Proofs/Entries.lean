/-
# Entries that pairs make

Pairs inserted one after another leave one entry for each key: its place is that of the key's first
occurrence (`keys_ofPairs`), its value that of the last one (`get?_ofPairs`).  Entries with distinct
keys are known by their keys and values (`eq_map_keys`), so the two together say what the entries are
(`ofPairs_map`).  What is found under a key of such entries is what stands there
(`get?_eq_some_iff`).
-/
import LoginGate.Entries
import Mathlib.Data.List.Induction

namespace LoginGate.Entries

variable {α κ β : Type} [DecidableEq κ]

/-! ## 1. Keys and values -/

theorem ofPairs_concat (pairs : List (κ × β)) (p : κ × β) :
    ofPairs (pairs ++ [p]) = insert p.1 p.2 (ofPairs pairs) := by
  simp [ofPairs, insertAll]

theorem insert_eq_concat {key : κ} {value : β} {entries : List (κ × β)}
    (h : key ∉ keys entries) : insert key value entries = entries ++ [(key, value)] := by
  induction entries with
  | nil => rfl
  | cons e rest ih =>
    obtain ⟨k, v⟩ := e
    rw [keys_cons, List.mem_cons, not_or] at h
    rw [insert, if_neg (Ne.symm h.1), ih h.2, List.cons_append]

/-- Pairs with distinct keys are the entries that they make. -/
theorem ofPairs_eq_self {pairs : List (κ × β)} (h : (keys pairs).Nodup) : ofPairs pairs = pairs := by
  induction pairs using List.reverseRecOn with
  | nil => rfl
  | append_singleton pairs p ih =>
    have hkeys : keys (pairs ++ [p]) = keys pairs ++ [p.1] := by simp [keys]
    rw [hkeys, List.nodup_append] at h
    have hp : p.1 ∉ keys pairs := fun hm => h.2.2 p.1 hm p.1 List.mem_cons_self rfl
    rw [ofPairs_concat, ih h.1, insert_eq_concat hp]

/-- The first occurrence of a key fixes its place. -/
theorem keys_ofPairs (pairs : List (κ × β)) : keys (ofPairs pairs) = (keys pairs).eraseDups := by
  induction pairs using List.reverseRecOn with
  | nil => rfl
  | append_singleton pairs p ih =>
    have hkeys : keys (pairs ++ [p]) = keys pairs ++ [p.1] := by simp [keys]
    rw [ofPairs_concat, keys_insert, ih, hkeys, List.eraseDups_append]
    by_cases hp : p.1 ∈ keys pairs
    · simp [hp, List.removeAll]
    · simp [hp, List.removeAll, List.eraseDups_cons]

theorem get?_append (key : κ) (front back : List (κ × β)) :
    get? key (front ++ back) = (get? key front).or (get? key back) := by
  induction front with
  | nil => rfl
  | cons e front ih =>
    obtain ⟨k, v⟩ := e
    rw [List.cons_append, get?, get?]
    split
    · rfl
    · exact ih

/-- The last occurrence of a key fixes its value. -/
theorem get?_ofPairs (key : κ) (pairs : List (κ × β)) :
    get? key (ofPairs pairs) = get? key pairs.reverse := by
  induction pairs using List.reverseRecOn with
  | nil => rfl
  | append_singleton pairs p ih =>
    obtain ⟨k, v⟩ := p
    rw [ofPairs_concat, get?_insert, ih, List.reverse_append, get?_append]
    by_cases hk : k = key
    · simp [get?, hk]
    · simp [get?, hk]

/-- What `get?` finds among pairs made from a list belongs to the first element with the key. -/
theorem get?_map (f : α → κ) (g : α → β) (key : κ) (l : List α) :
    get? key (l.map fun a => (f a, g a)) = (l.find? (f · = key)).map g := by
  induction l with
  | nil => rfl
  | cons a l ih =>
    rw [List.map_cons, get?, List.find?_cons]
    by_cases ha : f a = key
    · simp [ha]
    · simpa [ha] using ih

/-- What stands under a key after all values were changed. -/
theorem get?_mapValues {γ : Type} (f : β → γ) (key : κ) (entries : List (κ × β)) :
    get? key (entries.map fun e => (e.1, f e.2)) = (get? key entries).map f := by
  induction entries with
  | nil => rfl
  | cons e rest ih =>
    obtain ⟨k, v⟩ := e
    rw [List.map_cons, get?, get?]
    split
    · rfl
    · exact ih

/-- What stands under a key after all values were changed with regard to their keys. -/
theorem get?_mapKeyed {γ : Type} (f : κ → β → γ) (key : κ) (entries : List (κ × β)) :
    get? key (entries.map fun e => (e.1, f e.1 e.2)) = (get? key entries).map (f key) := by
  induction entries with
  | nil => rfl
  | cons e rest ih =>
    obtain ⟨k, v⟩ := e
    rw [List.map_cons, get?, get?]
    by_cases hk : k = key
    · subst hk
      simp
    · rw [if_neg hk, if_neg hk, ih]

/-- What stands under a key after all keys were renamed and all values changed. -/
theorem get?_mapEntries {ι γ : Type} [DecidableEq ι] {f : κ → ι} (hf : f.Injective) (g : β → γ)
    (key : κ) (entries : List (κ × β)) :
    get? (f key) (entries.map fun e => (f e.1, g e.2)) = (get? key entries).map g := by
  induction entries with
  | nil => rfl
  | cons e rest ih =>
    obtain ⟨k, v⟩ := e
    rw [List.map_cons, get?, get?]
    by_cases hk : k = key
    · rw [if_pos (congrArg f hk), if_pos hk, Option.map_some]
    · rw [if_neg (hf.ne hk), if_neg hk, ih]

/-- Renaming keys and changing values commutes with an insertion. -/
theorem insert_mapEntries {ι γ : Type} [DecidableEq ι] {f : κ → ι} (hf : f.Injective)
    (g : β → γ) (key : κ) (value : β) (entries : List (κ × β)) :
    insert (f key) (g value) (entries.map fun e => (f e.1, g e.2)) =
      (insert key value entries).map fun e => (f e.1, g e.2) := by
  induction entries with
  | nil => rfl
  | cons e rest ih =>
    obtain ⟨k, v⟩ := e
    rw [List.map_cons, insert, insert]
    by_cases hk : k = key
    · rw [if_pos (congrArg f hk), if_pos hk, List.map_cons]
    · rw [if_neg (hf.ne hk), if_neg hk, List.map_cons, ih]

/-! ## 2. Finding -/

/-- Dropping other keys does not change what is found under a key. -/
theorem get?_filter {key : κ} {p : κ → Bool} (hp : p key = true) (entries : List (κ × β)) :
    get? key (entries.filter fun e => p e.1) = get? key entries := by
  induction entries with
  | nil => rfl
  | cons e rest ih =>
    obtain ⟨k, v⟩ := e
    by_cases hk : p k = true
    · rw [List.filter_cons, if_pos hk, get?, get?, ih]
    · have hne : k ≠ key := by
        rintro rfl
        exact hk hp
      rw [List.filter_cons, if_neg hk, get?, if_neg hne, ih]

/-- Distinct keys find the values that they are paired with. -/
theorem map_get?_zip {names : List κ} {values : List β} (hnames : names.Nodup)
    (hlength : values.length = names.length) :
    names.map (fun k => get? k (names.zip values)) = values.map some := by
  induction names generalizing values with
  | nil => rw [List.eq_nil_of_length_eq_zero hlength, List.map_nil, List.map_nil]
  | cons k names ih =>
    cases values with
    | nil => cases hlength
    | cons v values =>
      obtain ⟨hk, hnames⟩ := List.nodup_cons.mp hnames
      have htail : names.map (fun k' => get? k' ((k, v) :: names.zip values)) =
          names.map fun k' => get? k' (names.zip values) := by
        refine List.map_congr_left fun k' hk' => ?_
        rw [get?, if_neg]
        rintro rfl
        exact hk hk'
      rw [List.zip_cons_cons, List.map_cons, htail, ih hnames (Nat.succ.inj hlength), get?,
        if_pos rfl, List.map_cons]

theorem mem_of_get? {key : κ} {value : β} {entries : List (κ × β)}
    (h : get? key entries = some value) : (key, value) ∈ entries := by
  induction entries with
  | nil => simp at h
  | cons e rest ih =>
    obtain ⟨k, v⟩ := e
    rw [get?] at h
    split at h
    · rename_i hk
      cases h
      exact hk ▸ List.mem_cons_self
    · exact List.mem_cons_of_mem _ (ih h)

/-- An insertion adds its pair and leaves what stands under other keys. -/
theorem mem_of_mem_insert {key : κ} {value : β} {e : κ × β} {entries : List (κ × β)}
    (h : e ∈ insert key value entries) : e = (key, value) ∨ e ∈ entries := by
  induction entries with
  | nil => exact Or.inl (List.mem_singleton.mp h)
  | cons first rest ih =>
    obtain ⟨k, v⟩ := first
    rw [insert] at h
    split at h
    · rename_i hk
      rcases List.mem_cons.mp h with heq | hrest
      · exact Or.inl (hk ▸ heq)
      · exact Or.inr (List.mem_cons_of_mem _ hrest)
    · rcases List.mem_cons.mp h with heq | hrest
      · exact Or.inr (heq ▸ List.mem_cons_self)
      · exact (ih hrest).imp_right (List.mem_cons_of_mem _)

theorem mem_insert_of_ne {key : κ} {value : β} {e : κ × β} {entries : List (κ × β)}
    (h : e ∈ entries) (hne : e.1 ≠ key) : e ∈ insert key value entries := by
  induction entries with
  | nil => cases h
  | cons first rest ih =>
    obtain ⟨k, v⟩ := first
    rw [insert]
    rcases List.mem_cons.mp h with rfl | hrest
    · rw [if_neg hne]
      exact List.mem_cons_self
    · split
      · exact List.mem_cons_of_mem _ hrest
      · exact List.mem_cons_of_mem _ (ih hrest)

theorem mem_insert_self (key : κ) (value : β) (entries : List (κ × β)) :
    (key, value) ∈ insert key value entries := by
  refine mem_of_get? ?_
  rw [get?_insert, if_pos rfl]

/-- With distinct keys, what is found under a key is what stands under it. -/
theorem get?_eq_some_iff {key : κ} {value : β} {entries : List (κ × β)}
    (hnd : (keys entries).Nodup) : get? key entries = some value ↔ (key, value) ∈ entries := by
  refine ⟨mem_of_get?, fun h => ?_⟩
  induction entries with
  | nil => simp at h
  | cons e rest ih =>
    obtain ⟨k, v⟩ := e
    rw [keys_cons, List.nodup_cons] at hnd
    rw [get?]
    rcases List.mem_cons.mp h with heq | h
    · cases heq
      rw [if_pos rfl]
    · have hne : k ≠ key := by
        rintro rfl
        exact hnd.1 (List.mem_map.mpr ⟨_, h, rfl⟩)
      rw [if_neg hne, ih hnd.2 h]

theorem get?_eq_none_iff {key : κ} {entries : List (κ × β)} :
    get? key entries = none ↔ key ∉ keys entries := by
  rw [← get?_isSome_iff, Option.not_isSome_iff_eq_none]

/-! ## 3. Entries from keys and values -/

/-- Changing values with regard to their keys commutes with inserting pairs. -/
theorem ofPairs_mapKeyed {γ : Type} (f : κ → β → γ) (pairs : List (κ × β)) :
    ofPairs (pairs.map fun e => (e.1, f e.1 e.2)) =
      (ofPairs pairs).map fun e => (e.1, f e.1 e.2) := by
  have hinsert : ∀ (k : κ) (v : β) (entries : List (κ × β)),
      insert k (f k v) (entries.map fun e => (e.1, f e.1 e.2)) =
        (insert k v entries).map fun e => (e.1, f e.1 e.2) := by
    intro k v entries
    induction entries with
    | nil => rfl
    | cons e rest ih =>
      rw [List.map_cons, insert, insert, ih]
      split
      · rename_i hk
        rw [List.map_cons, hk]
      · rfl
  induction pairs using List.reverseRecOn with
  | nil => rfl
  | append_singleton pairs p ih =>
    rw [List.map_append, List.map_singleton, ofPairs_concat, ofPairs_concat, ih, hinsert]

/-- Inserting a pair whose key is kept commutes with leaving out keys. -/
theorem filter_insert_of_pos {p : κ → Bool} {key : κ} (h : p key = true) (value : β)
    (entries : List (κ × β)) :
    (insert key value entries).filter (fun e => p e.1) =
      insert key value (entries.filter fun e => p e.1) := by
  induction entries with
  | nil => simp [insert, h]
  | cons e rest ih =>
    obtain ⟨k, v⟩ := e
    rw [insert]
    by_cases hk : k = key
    · simp [hk, h, insert]
    · rw [if_neg hk, List.filter_cons, List.filter_cons, ih]
      split
      · rw [insert, if_neg hk]
      · rfl

/-- Inserting a pair whose key is left out changes nothing of what is kept. -/
theorem filter_insert_of_neg {p : κ → Bool} {key : κ} (h : ¬ p key = true) (value : β)
    (entries : List (κ × β)) :
    (insert key value entries).filter (fun e => p e.1) = entries.filter fun e => p e.1 := by
  induction entries with
  | nil => simp [insert, h]
  | cons e rest ih =>
    obtain ⟨k, v⟩ := e
    rw [insert]
    by_cases hk : k = key
    · simp [hk, h]
    · rw [if_neg hk, List.filter_cons, List.filter_cons, ih]

/-- **Leaving out keys commutes with inserting pairs**: what stands under other keys leaves no trace
in the entries that are kept. -/
theorem ofPairs_filter (p : κ → Bool) (pairs : List (κ × β)) :
    ofPairs (pairs.filter fun e => p e.1) = (ofPairs pairs).filter fun e => p e.1 := by
  induction pairs using List.reverseRecOn with
  | nil => rfl
  | append_singleton pairs e ih =>
    rw [List.filter_append, ofPairs_concat]
    by_cases he : p e.1 = true
    · have hlast : [e].filter (fun e => p e.1) = [e] := by simp [he]
      rw [filter_insert_of_pos he, hlast, ofPairs_concat, ih]
    · have hlast : [e].filter (fun e => p e.1) = [] := by simp [he]
      rw [filter_insert_of_neg he, hlast, List.append_nil, ih]

/-- Entries with distinct keys are their keys, each with its value. -/
theorem eq_map_keys [Inhabited β] : ∀ {entries : List (κ × β)}, (keys entries).Nodup →
    entries = (keys entries).map fun k => (k, (get? k entries).getD default)
  | [], _ => rfl
  | (k, v) :: rest, hnd => by
    rw [keys_cons, List.nodup_cons] at hnd
    have ih := eq_map_keys hnd.2
    have hrest : ∀ k' ∈ keys rest, get? k' ((k, v) :: rest) = get? k' rest := by
      intro k' hk'
      rw [get?, if_neg]
      rintro rfl
      exact hnd.1 hk'
    rw [keys_cons, List.map_cons, get?, if_pos rfl, Option.getD_some, List.cons.injEq]
    refine ⟨rfl, ih.trans (List.map_congr_left ?_)⟩
    intro k' hk'
    rw [hrest k' hk']

/-- **The entries that a list makes**: each key once, in the order of first occurrences, with what
the last element of that key stands for. -/
theorem ofPairs_map [Inhabited β] (f : α → κ) (g : α → β) (l : List α) :
    ofPairs (l.map fun a => (f a, g a)) =
      (l.map f).eraseDups.map fun k => (k, ((l.reverse.find? (f · = k)).map g).getD default) := by
  have hkeys : keys (l.map fun a => (f a, g a)) = l.map f := by simp [keys]
  rw [eq_map_keys (ofPairs_nodup _), keys_ofPairs, hkeys]
  refine List.map_congr_left ?_
  intro k _
  rw [get?_ofPairs, ← List.map_reverse, get?_map]

end LoginGate.Entries
