/-
# What the reader of trees yields

An object is read from a text that holds a brace, and the numerals among its members hold decimal
digits only (`ofBytes?_object`).  The grammar is read once, in the two inversions of `value?`; nothing
else here looks at bytes.
-/
import LoginGate.Json.Tree

namespace LoginGate.Json

/-- The digits of the whole part are decimal. -/
def Numeral.IsDecimal (n : Numeral) : Prop := ∀ d ∈ n.whole, d < 10

namespace Tree

/-! ## 1. Numerals -/

theorem digit?_lt {b : UInt8} {d : Nat} (h : digit? b = some d) : d < 10 := by
  rw [digit?] at h
  split at h
  · rename_i hb
    simp only [Bool.and_eq_true, decide_eq_true_eq, UInt8.le_iff_toNat_le, UInt8.reduceToNat] at hb
    simp only [Option.some.injEq] at h
    omega
  · simp at h

theorem isDecimal_of_unsigned? {negative : Bool} {bs rest : List UInt8} {n : Numeral}
    (h : unsigned? negative bs = some (n, rest)) : n.IsDecimal := by
  rw [unsigned?] at h
  split at h
  rename_i ds tail hdigits
  split at h
  · simp at h
  · obtain ⟨fraction, -, h⟩ := Option.bind_eq_some_iff.mp h
    obtain ⟨exponent, -, h⟩ := Option.bind_eq_some_iff.mp h
    cases h
    intro d hd
    rw [show ds = (digits bs).1 by rw [hdigits]] at hd
    obtain ⟨b, -, hb⟩ := List.mem_filterMap.mp hd
    exact digit?_lt hb

/-! ## 2. Values -/

/-- A number is read by `unsigned?`, behind a sign or not. -/
theorem unsigned?_of_value? {fuel : Nat} {bs rest : List UInt8} {n : Numeral}
    (h : value? fuel bs = some (.number n, rest)) :
    ∃ negative cs, unsigned? negative cs = some (n, rest) := by
  cases fuel with
  | zero => simp [value?] at h
  | succ fuel =>
    rw [value?] at h
    split at h
    · simp at h
    · repeat' split at h
      all_goals simp [Option.map_eq_some_iff] at h
      all_goals exact ⟨_, _, h⟩

theorem isDecimal_of_value? {fuel : Nat} {bs rest : List UInt8} {n : Numeral}
    (h : value? fuel bs = some (.number n, rest)) : n.IsDecimal := by
  obtain ⟨negative, cs, hn⟩ := unsigned?_of_value? h
  exact isDecimal_of_unsigned? hn

/-- An object is read behind a brace, and its members by `members?`. -/
theorem members?_of_value? {fuel : Nat} {bs rest : List UInt8} {ms : List (List UInt8 × Tree)}
    (h : value? fuel bs = some (.object ms, rest)) :
    0x7B ∈ bs ∧ (ms = [] ∨ ∃ fuel cs, members? fuel cs = some (ms, rest)) := by
  cases fuel with
  | zero => simp [value?] at h
  | succ fuel =>
    rw [value?] at h
    split at h
    · simp at h
    · rename_i b cs hs
      have hb : b ∈ bs := List.dropWhile_subset isSpace (show b ∈ skip bs by simp [hs])
      repeat' split at h
      all_goals simp [Option.map_eq_some_iff] at h
      · exact ⟨eq_of_beq ‹(b == 0x7B) = true› ▸ hb, .inl h.1⟩
      · exact ⟨eq_of_beq ‹(b == 0x7B) = true› ▸ hb, .inr ⟨_, _, h⟩⟩

/-- The numerals among the members of an object are decimal. -/
theorem isDecimal_of_members? {fuel : Nat} {bs rest : List UInt8} {ms : List (List UInt8 × Tree)}
    (h : members? fuel bs = some (ms, rest)) {raw : List UInt8} {n : Numeral}
    (hn : (raw, Tree.number n) ∈ ms) : n.IsDecimal := by
  induction fuel generalizing bs rest ms with
  | zero => simp [members?] at h
  | succ fuel ih =>
    rw [members?] at h
    obtain ⟨⟨k, afterName⟩, -, h⟩ := Option.bind_eq_some_iff.mp h
    dsimp only at h
    split at h
    · obtain ⟨⟨v, afterValue⟩, hv, h⟩ := Option.bind_eq_some_iff.mp h
      dsimp only at h
      split at h
      · obtain ⟨⟨tail, afterTail⟩, htail, h⟩ := Option.bind_eq_some_iff.mp h
        cases h
        rcases List.mem_cons.mp hn with heq | hn
        · cases heq
          exact isDecimal_of_value? hv
        · exact ih htail hn
      · cases h
        cases List.mem_singleton.mp hn
        exact isDecimal_of_value? hv
      · simp at h
    · simp at h

/-- What is known of an object that a whole text holds. -/
theorem ofBytes?_object {bs : List UInt8} {ms : List (List UInt8 × Tree)}
    (h : ofBytes? bs = some (.object ms)) :
    0x7B ∈ bs ∧ ∀ raw n, (raw, Tree.number n) ∈ ms → n.IsDecimal := by
  rw [ofBytes?] at h
  obtain ⟨⟨tree, rest⟩, hv, h⟩ := Option.bind_eq_some_iff.mp h
  dsimp only at h
  split at h
  · cases h
    obtain ⟨hbrace, hms⟩ := members?_of_value? hv
    refine ⟨hbrace, ?_⟩
    rintro raw n hn
    rcases hms with rfl | ⟨fuel, cs, hms⟩
    · simp at hn
    · exact isDecimal_of_members? hms hn
  · simp at h

end Tree

end LoginGate.Json
