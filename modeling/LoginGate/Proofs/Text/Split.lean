/-
# Splitting undoes joining

Pieces without the separator, joined with it, are found again by splitting (`splitAt_joinWith`), and
a list is cut where it holds the separator first or last (`cutFirst_eq_some_iff`,
`cutLast_eq_some_iff`).  `splitAt_flatMap` and `cutFirst_flatMap` say that a list may be split
before or after its elements are written out, as long as the separator is written as itself and
occurs in nothing else's writing.
-/
import LoginGate.Text.Split

namespace LoginGate.Text

variable {α β : Type} [BEq α] [LawfulBEq α] [BEq β] [LawfulBEq β]

/-! ## 1. Splitting -/

omit [LawfulBEq α] in
@[simp] theorem splitAt_nil (sep : α) : splitAt sep [] = [[]] := rfl

@[simp] theorem splitAt_cons_self (sep : α) (xs : List α) :
    splitAt sep (sep :: xs) = [] :: splitAt sep xs := by
  simp [splitAt]

/-- What is in front of a list without a separator joins its first piece. -/
theorem splitAt_append {sep : α} : ∀ {front : List α} (xs : List α), sep ∉ front →
    splitAt sep (front ++ xs) = (splitAt sep xs).modifyHead (front ++ ·)
  | [], xs, _ => by
    cases h : splitAt sep xs with
    | nil => exact absurd h (splitAt_ne_nil sep xs)
    | cons p ps => simp [h]
  | x :: front, xs, hn => by
    have hx : (x == sep) = false := by
      rw [beq_eq_false_iff_ne]
      exact fun he => hn (he ▸ List.mem_cons_self)
    have ih := splitAt_append xs (fun hm => hn (List.mem_cons_of_mem x hm))
    rw [List.cons_append, splitAt, hx, ih]
    cases h : splitAt sep xs with
    | nil => exact absurd h (splitAt_ne_nil sep xs)
    | cons p ps => simp

/-- **What stands on the two sides of a separator is split apart.** -/
theorem splitAt_append_cons (sep : α) (ys : List α) : ∀ xs : List α,
    splitAt sep (xs ++ sep :: ys) = splitAt sep xs ++ splitAt sep ys
  | [] => splitAt_cons_self sep ys
  | x :: xs => by
    have ih := splitAt_append_cons sep ys xs
    by_cases hx : x = sep
    · subst hx
      rw [List.cons_append, splitAt_cons_self, splitAt_cons_self, ih, List.cons_append]
    · have hcons : ∀ zs, splitAt sep (x :: zs) = (splitAt sep zs).modifyHead ([x] ++ ·) :=
        fun zs => splitAt_append zs (mt List.mem_singleton.mp (Ne.symm hx))
      rw [List.cons_append, hcons, hcons, ih]
      cases h : splitAt sep xs with
      | nil => exact absurd h (splitAt_ne_nil sep xs)
      | cons p ps => rfl

/-- No piece holds the separator. -/
theorem not_mem_of_mem_splitAt {sep : α} : ∀ {xs p : List α}, p ∈ splitAt sep xs → sep ∉ p
  | [], p, hp => by
    rw [splitAt_nil, List.mem_singleton] at hp
    simp [hp]
  | x :: xs, p, hp => by
    by_cases hx : x = sep
    · subst hx
      rw [splitAt_cons_self, List.mem_cons] at hp
      rcases hp with rfl | hp
      · exact List.not_mem_nil
      · exact not_mem_of_mem_splitAt hp
    · have happ : splitAt sep (x :: xs) = (splitAt sep xs).modifyHead ([x] ++ ·) :=
        splitAt_append xs (mt List.mem_singleton.mp (Ne.symm hx))
      rw [happ] at hp
      cases h : splitAt sep xs with
      | nil => exact absurd h (splitAt_ne_nil sep xs)
      | cons q qs =>
        rw [h, List.modifyHead_cons, List.mem_cons] at hp
        rcases hp with rfl | hp
        · have hq : sep ∉ q := not_mem_of_mem_splitAt (h ▸ List.mem_cons_self)
          simpa [Ne.symm hx] using hq
        · exact not_mem_of_mem_splitAt (h ▸ List.mem_cons_of_mem q hp)

/-- **Splitting undoes joining.** -/
theorem splitAt_joinWith {sep : α} : ∀ {pieces : List (List α)}, pieces ≠ [] →
    (∀ p ∈ pieces, sep ∉ p) → splitAt sep (joinWith [sep] pieces) = pieces
  | [], hne, _ => absurd rfl hne
  | [p], _, h => by
    have happ := splitAt_append [] (h p List.mem_cons_self)
    simpa [joinWith] using happ
  | p :: q :: ps, _, h => by
    have ih := splitAt_joinWith (List.cons_ne_nil q ps) (fun r hr => h r (List.mem_cons_of_mem p hr))
    rw [joinWith, List.append_assoc, splitAt_append _ (h p List.mem_cons_self), List.singleton_append,
      splitAt_cons_self, ih]
    simp

/-! ## 2. Joining -/

omit [BEq α] [LawfulBEq α] in
theorem joinWith_eq_nil {sep : List α} : ∀ {pieces : List (List α)}, (∀ p ∈ pieces, p ≠ []) →
    (joinWith sep pieces = [] ↔ pieces = [])
  | [], _ => by simp [joinWith]
  | [p], h => by simp [joinWith, h p List.mem_cons_self]
  | p :: q :: ps, h => by simp [joinWith, h p List.mem_cons_self]

/-- Pieces that are not empty and hold no separator can be told from their join. -/
theorem joinWith_inj {sep : α} {xs ys : List (List α)} (hxs : ∀ p ∈ xs, p ≠ [] ∧ sep ∉ p)
    (hys : ∀ p ∈ ys, p ≠ [] ∧ sep ∉ p) (h : joinWith [sep] xs = joinWith [sep] ys) : xs = ys := by
  by_cases hnil : xs = []
  · subst hnil
    exact ((joinWith_eq_nil fun p hp => (hys p hp).1).mp h.symm).symm
  · have hne : ys ≠ [] := by
      rintro rfl
      exact hnil ((joinWith_eq_nil fun p hp => (hxs p hp).1).mp h)
    rw [← splitAt_joinWith hnil fun p hp => (hxs p hp).2, h,
      splitAt_joinWith hne fun p hp => (hys p hp).2]

omit [BEq α] [LawfulBEq α] in
/-- A last piece stands behind a separator, unless it is the only one. -/
theorem joinWith_concat (sep p : List α) : ∀ {pieces : List (List α)}, pieces ≠ [] →
    joinWith sep (pieces ++ [p]) = joinWith sep pieces ++ sep ++ p
  | [], hne => absurd rfl hne
  | [q], _ => rfl
  | q :: r :: ps, _ => by
    have ih := joinWith_concat sep p (List.cons_ne_nil r ps)
    simp only [List.cons_append, joinWith] at ih ⊢
    rw [ih]
    simp [List.append_assoc]

omit [BEq α] [LawfulBEq α] in
/-- What stands in front of joined pieces joins the first one. -/
theorem append_joinWith (sep front p : List α) : ∀ pieces,
    front ++ joinWith sep (p :: pieces) = joinWith sep ((front ++ p) :: pieces)
  | [] => rfl
  | q :: pieces => by simp [joinWith]

omit [BEq α] [LawfulBEq α] in
/-- Joined pieces begin with the first one. -/
theorem prefix_joinWith (sep p : List α) : ∀ pieces, p <+: joinWith sep (p :: pieces)
  | [] => List.prefix_refl p
  | q :: pieces => by
    rw [joinWith, List.append_assoc]
    exact List.prefix_append p _

omit [BEq α] [LawfulBEq α] in
theorem mem_joinWith {sep : List α} {x : α} : ∀ {pieces : List (List α)}, x ∈ joinWith sep pieces →
    x ∈ sep ∨ ∃ p ∈ pieces, x ∈ p
  | [], h => absurd h List.not_mem_nil
  | [p], h => Or.inr ⟨p, List.mem_cons_self, h⟩
  | p :: q :: ps, h => by
    rw [joinWith, List.mem_append, List.mem_append] at h
    rcases h with (h | h) | h
    · exact Or.inr ⟨p, List.mem_cons_self, h⟩
    · exact Or.inl h
    · rcases mem_joinWith h with h | ⟨r, hr, hx⟩
      · exact Or.inl h
      · exact Or.inr ⟨r, List.mem_cons_of_mem p hr, hx⟩

/-! ## 3. Cutting -/

@[simp] theorem cutFirst_cons_self (sep : α) (xs : List α) :
    cutFirst sep (sep :: xs) = some ([], xs) := by
  simp [cutFirst]

/-- What is in front of a list without a separator joins its first part. -/
theorem cutFirst_append {sep : α} : ∀ {front : List α} (xs : List α), sep ∉ front →
    cutFirst sep (front ++ xs) = (cutFirst sep xs).map fun (a, b) => (front ++ a, b)
  | [], xs, _ => by simp
  | x :: front, xs, hn => by
    have hx : (x == sep) = false := by
      rw [beq_eq_false_iff_ne]
      exact fun he => hn (he ▸ List.mem_cons_self)
    rw [List.cons_append, cutFirst, hx,
      cutFirst_append xs (fun hm => hn (List.mem_cons_of_mem x hm))]
    cases cutFirst sep xs <;> rfl

theorem cutFirst_eq_none_iff {sep : α} : ∀ {xs : List α}, cutFirst sep xs = none ↔ sep ∉ xs
  | [] => by simp [cutFirst]
  | x :: xs => by
    by_cases hx : x = sep
    · simp [hx]
    · simp [cutFirst, hx, Ne.symm hx, cutFirst_eq_none_iff]

/-- The part before the first separator holds none. -/
theorem not_mem_of_cutFirst {sep : α} : ∀ {xs a b : List α}, cutFirst sep xs = some (a, b) → sep ∉ a
  | [], a, b, h => by simp [cutFirst] at h
  | x :: xs, a, b, h => by
    rw [cutFirst] at h
    split at h
    · cases h
      exact List.not_mem_nil
    · rename_i hx
      obtain ⟨⟨c, d⟩, hc, he⟩ := Option.map_eq_some_iff.mp h
      cases he
      rw [List.mem_cons, not_or]
      exact ⟨fun he => hx (beq_iff_eq.mpr he.symm), not_mem_of_cutFirst hc⟩

/-- A search for the separator passes over a list without one. -/
theorem decide_ne_of_not_mem {γ : Type} [DecidableEq γ] {sep : γ} {xs : List γ} (h : sep ∉ xs) :
    ∀ x ∈ xs, decide (x ≠ sep) = true := by
  intro x hx
  rw [decide_eq_true_eq]
  rintro rfl
  exact h hx

/-- A list is cut at the first separator. -/
theorem cutFirst_eq_some_iff {sep : α} {xs a b : List α} :
    cutFirst sep xs = some (a, b) ↔ xs = a ++ sep :: b ∧ sep ∉ a := by
  constructor
  · intro h
    exact ⟨eq_of_cutFirst h, not_mem_of_cutFirst h⟩
  · rintro ⟨rfl, ha⟩
    simp [cutFirst_append _ ha]

/-- A list is cut at the last separator. -/
theorem cutLast_eq_some_iff {sep : α} {xs a b : List α} :
    cutLast sep xs = some (a, b) ↔ xs = a ++ sep :: b ∧ sep ∉ b := by
  constructor
  · intro h
    refine ⟨eq_of_cutLast h, ?_⟩
    obtain ⟨⟨c, d⟩, hc, he⟩ := Option.map_eq_some_iff.mp h
    cases he
    simpa using not_mem_of_cutFirst hc
  · rintro ⟨rfl, hb⟩
    have hfirst : cutFirst sep (a ++ sep :: b).reverse = some (b.reverse, a.reverse) :=
      cutFirst_eq_some_iff.mpr ⟨by simp, by simpa using hb⟩
    rw [cutLast, hfirst]
    simp

/-! ## 4. Writing out the elements -/

section FlatMap

variable {sep : α} {sep' : β} {write : α → List β} (hsep : write sep = [sep'])
  (hother : ∀ x, x ≠ sep → sep' ∉ write x)

include hsep hother

/-- Splitting before writing out is splitting after it. -/
theorem splitAt_flatMap : ∀ xs : List α,
    splitAt sep' (xs.flatMap write) = (splitAt sep xs).map (·.flatMap write)
  | [] => rfl
  | x :: xs => by
    have ih := splitAt_flatMap xs
    by_cases hx : x = sep
    · subst hx
      rw [List.flatMap_cons, hsep, List.singleton_append, splitAt_cons_self, splitAt_cons_self, ih]
      rfl
    · have happ : splitAt sep (x :: xs) = (splitAt sep xs).modifyHead ([x] ++ ·) :=
        splitAt_append xs (mt List.mem_singleton.mp (Ne.symm hx))
      rw [List.flatMap_cons, splitAt_append _ (hother x hx), ih, happ]
      cases h : splitAt sep xs with
      | nil => exact absurd h (splitAt_ne_nil sep xs)
      | cons p ps => simp

/-- Cutting before writing out is cutting after it. -/
theorem cutFirst_flatMap : ∀ xs : List α,
    cutFirst sep' (xs.flatMap write) =
      (cutFirst sep xs).map fun (a, b) => (a.flatMap write, b.flatMap write)
  | [] => rfl
  | x :: xs => by
    have ih := cutFirst_flatMap xs
    by_cases hx : x = sep
    · subst hx
      simp [hsep]
    · have happ : cutFirst sep (x :: xs) = (cutFirst sep xs).map fun (a, b) => ([x] ++ a, b) :=
        cutFirst_append xs (mt List.mem_singleton.mp (Ne.symm hx))
      rw [List.flatMap_cons, cutFirst_append _ (hother x hx), ih, happ]
      cases cutFirst sep xs <;> simp

end FlatMap

/-! ## 5. Reading pieces -/

/-- Written one by one, things are read one by one. -/
theorem mapM_map_eq_some {γ δ ε : Type} {read : δ → Option ε} {write : γ → δ} {made : γ → ε}
    {l : List γ} (h : ∀ a ∈ l, read (write a) = some (made a)) :
    (l.map write).mapM read = some (l.map made) := by
  induction l with
  | nil => rfl
  | cons a l ih =>
    obtain ⟨ha, hl⟩ := List.forall_mem_cons.mp h
    rw [List.map_cons, List.mapM_cons, ha, ih hl]
    rfl

end LoginGate.Text
