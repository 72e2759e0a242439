/-
# What trimming leaves alone

Dropping a class of characters from the end stops at the last character outside the class
(`dropEndWhile_append_cons`), and drops nothing from a text without them (`dropEndWhile_eq_self`).
What one character drops is a run of it (`eq_dropEndWhile_append`).  A text that is not blank is not
blank after trimming (`allBlank_trim`).
Visible ASCII characters are no blanks, so what is written in the form encoding holds none.
-/
import LoginGate.Proofs.Text.FormEncoded
import LoginGate.Text.Blank
import Mathlib.Data.List.DropRight

namespace LoginGate.Text

/-! ## 1. Trimming the end -/

/-- What stands in front of a character outside the class stays, and so does the character. -/
theorem dropEndWhile_append_cons {p : Char → Bool} {c : Char} (hc : p c = false)
    (front back : List Char) :
    dropEndWhile p (front ++ c :: back) = front ++ c :: dropEndWhile p back := by
  have hstop : (c :: front.reverse).dropWhile p = c :: front.reverse :=
    List.dropWhile_cons_of_neg (by simp [hc])
  rw [dropEndWhile, dropEndWhile, List.reverse_append, List.reverse_cons, List.append_assoc,
    List.singleton_append, List.dropWhile_append, hstop]
  split
  · rename_i hback
    rw [List.isEmpty_iff.mp hback]
    simp
  · simp

theorem dropEndWhile_eq_self {p : Char → Bool} {cs : List Char} (h : ∀ c ∈ cs, p c = false) :
    dropEndWhile p cs = cs :=
  List.rdropWhile_eq_self_iff.mpr fun hne => by simp [h _ (List.getLast_mem hne)]

/-- Nothing is trimmed from a text without blanks. -/
theorem trimChars_eq_self {cs : List Char} (h : ∀ c ∈ cs, isBlank c = false) :
    trimChars cs = cs := by
  have hfront : cs.dropWhile isBlank = cs := by
    rw [List.dropWhile_eq_self_iff]
    intro hne
    simp [h _ (List.getElem_mem hne)]
  rw [trimChars, hfront, dropEndWhile_eq_self h]

/-- What is dropped from the end is a run of the character. -/
theorem eq_dropEndWhile_append (d : Char) (cs : List Char) :
    cs = dropEndWhile (· == d) cs ++
      List.replicate (cs.reverse.takeWhile (· == d)).length d := by
  have hrun : cs.reverse.takeWhile (· == d) =
      List.replicate (cs.reverse.takeWhile (· == d)).length d := by
    refine List.eq_replicate_iff.mpr ⟨rfl, ?_⟩
    intro c hc
    have hd : (c == d) = true := List.mem_takeWhile_imp (p := (· == d)) hc
    exact eq_of_beq hd
  calc
    cs = (cs.reverse.takeWhile (· == d) ++ cs.reverse.dropWhile (· == d)).reverse := by
      rw [List.takeWhile_append_dropWhile, List.reverse_reverse]
    _ = dropEndWhile (· == d) cs ++ (cs.reverse.takeWhile (· == d)).reverse := by
      rw [List.reverse_append, dropEndWhile]
    _ = dropEndWhile (· == d) cs ++
        List.replicate (cs.reverse.takeWhile (· == d)).length d := by
      conv_lhs => rw [hrun, List.reverse_replicate]

theorem dropEndWhile_append_replicate {d : Char} {cs : List Char} (hd : d ∉ cs) (k : Nat) :
    dropEndWhile (· == d) (cs ++ List.replicate k d) = cs := by
  have hself : dropEndWhile (· == d) cs = cs := by
    refine dropEndWhile_eq_self ?_
    intro c hc
    exact beq_eq_false_iff_ne.mpr fun he => hd (he ▸ hc)
  rw [dropEndWhile, List.reverse_append, List.reverse_replicate, List.dropWhile_append_of_pos]
  · exact hself
  · intro c hc
    exact beq_iff_eq.mpr (List.eq_of_mem_replicate hc)

theorem mem_of_mem_dropEndWhile {p : Char → Bool} {c : Char} {cs : List Char}
    (h : c ∈ dropEndWhile p cs) : c ∈ cs :=
  (List.rdropWhile_prefix p cs).subset h

theorem all_dropWhile (p : Char → Bool) (cs : List Char) : (cs.dropWhile p).all p = cs.all p := by
  induction cs with
  | nil => rfl
  | cons c cs ih => cases hc : p c <;> simp [hc, ih]

/-- **Trimming a text leaves nothing exactly if there is nothing but blanks.** -/
theorem allBlank_trim (s : String) : allBlank (trim s) = allBlank s := by
  rw [allBlank, trim, String.toList_ofList, trimChars, dropEndWhile, List.all_reverse,
    all_dropWhile, List.all_reverse, all_dropWhile, allBlank]

/-! ## 2. Visible characters -/

theorem isBlank_of_visible {c : Char} (low : 0x20 < c.toNat) (high : c.toNat < 0x80) :
    isBlank c = false := by
  simp only [isBlank, Bool.or_eq_false_iff, Bool.and_eq_false_imp, decide_eq_true_eq,
    decide_eq_false_iff_not, beq_eq_false_iff_ne]
  omega

namespace FormEncoded

/-- Bytes that stand for themselves are visible, and no question marks. -/
theorem isPlain_visible {b : UInt8} (h : isPlain b = true) :
    0x20 < b.toNat ∧ b.toNat < 0x80 ∧ b.toNat ≠ 0x3F := by
  simp only [isPlain, Bool.or_eq_true, Bool.and_eq_true, decide_eq_true_eq, beq_iff_eq,
    UInt8.le_iff_toNat_le, ← UInt8.toNat_inj, UInt8.reduceToNat] at h
  omega

theorem hexDigit_visible {n : Nat} (h : n < 16) :
    0x20 < (hexDigit n).toNat ∧ (hexDigit n).toNat < 0x80 ∧ (hexDigit n).toNat ≠ 0x3F := by
  revert n
  decide

theorem visible_of_mem_encodeByte {b : UInt8} {c : Char} (h : c ∈ encodeByte b) :
    0x20 < c.toNat ∧ c.toNat < 0x80 ∧ c.toNat ≠ 0x3F := by
  unfold encodeByte at h
  split at h
  · rename_i hp
    obtain ⟨low, high, hq⟩ := isPlain_visible hp
    rw [List.mem_singleton.mp h, Utf8.toNat_charOfNat high]
    exact ⟨low, high, hq⟩
  · split at h
    · rw [List.mem_singleton.mp h]
      decide
    · have hb : b.toNat < 256 := b.toNat_lt
      simp only [List.mem_cons, List.not_mem_nil, or_false] at h
      rcases h with rfl | rfl | rfl
      · decide
      · exact hexDigit_visible (by omega)
      · exact hexDigit_visible (by omega)

/-- **A written pair holds no blanks** and no question marks. -/
theorem visible_of_mem_writtenPair {p : String × String} {c : Char} (h : c ∈ writtenPair p) :
    isBlank c = false ∧ c ≠ '?' := by
  have hvisible : 0x20 < c.toNat ∧ c.toNat < 0x80 ∧ c.toNat ≠ 0x3F := by
    simp only [writtenPair, encode, List.mem_append, List.mem_cons, List.mem_flatMap] at h
    rcases h with ⟨b, -, hb⟩ | rfl | ⟨b, -, hb⟩
    · exact visible_of_mem_encodeByte hb
    · decide
    · exact visible_of_mem_encodeByte hb
  refine ⟨isBlank_of_visible hvisible.1 hvisible.2.1, ?_⟩
  rintro rfl
  exact hvisible.2.2 rfl

/-- Nor do written pairs with ampersands between them. -/
theorem visible_of_mem_encodePairs {pairs : List (String × String)} {c : Char}
    (h : c ∈ encodePairs pairs) : isBlank c = false ∧ c ≠ '?' := by
  rcases mem_joinWith h with h | ⟨s, hs, h⟩
  · rw [List.mem_singleton.mp h]
    decide
  · obtain ⟨p, -, rfl⟩ := List.mem_map.mp hs
    exact visible_of_mem_writtenPair h

end FormEncoded

end LoginGate.Text
