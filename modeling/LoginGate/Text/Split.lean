/-
# Splitting at a separator

`splitAt sep` cuts a list at every separator and always yields at least one piece; `cutFirst sep`
cuts at the first separator only and `cutLast sep` at the last one.  Joining the pieces with the
separator gives the list back (`joinWith_splitAt`), and a cut list is the two parts with the
separator between them (`eq_of_cutFirst`, `eq_of_cutLast`).
-/

namespace LoginGate.Text

variable {α : Type} [BEq α]

/-! ## 1. Cutting -/

/-- The pieces between separators; a list without a separator is its own only piece. -/
def splitAt (sep : α) : List α → List (List α)
  | [] => [[]]
  | x :: xs =>
    if x == sep then [] :: splitAt sep xs
    else match splitAt sep xs with
      | [] => [[x]]
      | p :: ps => (x :: p) :: ps

/-- The parts before and after the first separator, or nothing when there is none. -/
def cutFirst (sep : α) : List α → Option (List α × List α)
  | [] => none
  | x :: xs =>
    if x == sep then some ([], xs)
    else (cutFirst sep xs).map fun (a, b) => (x :: a, b)

/-- The parts before and after the last separator, or nothing when there is none. -/
def cutLast (sep : α) (xs : List α) : Option (List α × List α) :=
  (cutFirst sep xs.reverse).map fun (a, b) => (b.reverse, a.reverse)

/-- Pieces put in a row with the separator between them. -/
def joinWith (sep : List α) : List (List α) → List α
  | [] => []
  | [p] => p
  | p :: q :: ps => p ++ sep ++ joinWith sep (q :: ps)

/-! ## 2. Their laws -/

theorem splitAt_ne_nil (sep : α) (xs : List α) : splitAt sep xs ≠ [] := by
  cases xs with
  | nil => simp [splitAt]
  | cons x xs =>
    simp only [splitAt]
    split
    · simp
    · split <;> simp

/-- Joining what `splitAt` yields gives the list back. -/
theorem joinWith_splitAt [LawfulBEq α] (sep : α) (xs : List α) :
    joinWith [sep] (splitAt sep xs) = xs := by
  induction xs with
  | nil => rfl
  | cons x xs ih =>
    cases h : splitAt sep xs with
    | nil => exact absurd h (splitAt_ne_nil sep xs)
    | cons p ps =>
      rw [h] at ih
      simp only [splitAt, h]
      split
      · rename_i hx
        have hx := eq_of_beq hx
        subst hx
        simp [joinWith, ih]
      · cases ps with
        | nil => simpa [joinWith] using ih
        | cons q qs => simpa [joinWith] using ih

/-- A cut list is its first part, the separator and its second part. -/
theorem eq_of_cutFirst [LawfulBEq α] {sep : α} {xs a b : List α}
    (h : cutFirst sep xs = some (a, b)) : xs = a ++ sep :: b := by
  induction xs generalizing a with
  | nil => simp [cutFirst] at h
  | cons x xs ih =>
    simp only [cutFirst] at h
    split at h
    · rename_i hx
      simp only [Option.some.injEq, Prod.mk.injEq] at h
      obtain ⟨rfl, rfl⟩ := h
      simp [eq_of_beq hx]
    · obtain ⟨⟨c, d⟩, hc, he⟩ := Option.map_eq_some_iff.mp h
      simp only [Prod.mk.injEq] at he
      obtain ⟨rfl, rfl⟩ := he
      simp [ih hc]

/-- A list cut at its last separator is its first part, the separator and its second part. -/
theorem eq_of_cutLast [LawfulBEq α] {sep : α} {xs a b : List α}
    (h : cutLast sep xs = some (a, b)) : xs = a ++ sep :: b := by
  obtain ⟨⟨c, d⟩, hc, he⟩ := Option.map_eq_some_iff.mp h
  simp only [Prod.mk.injEq] at he
  obtain ⟨rfl, rfl⟩ := he
  rw [← List.reverse_reverse xs, eq_of_cutFirst hc]
  simp

/-! ## 3. Strings -/

/-- The pieces of a string between copies of a character. -/
def splitString (sep : Char) (s : String) : List String :=
  (splitAt sep s.toList).map String.ofList

/-- Strings put in a row with a separator between them. -/
def joinStrings (sep : String) (parts : List String) : String :=
  String.intercalate sep parts

end LoginGate.Text
