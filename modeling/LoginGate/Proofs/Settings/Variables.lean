/-
# What the value of a variable stands for

The value of a variable is a truth value, an integer of 64 bits, a number or a text, in this order of
preference.  The whole numbers that are read are the texts of integers (`wholeNumber?_eq_some_iff`),
among them the standard one (`integerText_toString`).  None of these is also a truth value, so an
integer that is written into a variable is read as that integer (`ofVariable_toString`).
-/
import LoginGate.Proofs.Decimal
import LoginGate.Settings.Environment
import Mathlib.Data.List.TakeWhile

namespace LoginGate

open Binary64 (IntegerText digit? digitsValue takeDigits takeSign)

/-! ## 1. Whole numbers -/

namespace Binary64

theorem digit?_eq_some_iff {c : Char} {d : Nat} :
    digit? c = some d ↔ d < 10 ∧ c = Nat.digitChar d := by
  constructor
  · intro h
    have hdigits : ∀ n < 10, '0'.toNat + n = (Nat.digitChar n).toNat := by decide
    simp only [digit?, Bool.and_eq_true, decide_eq_true_eq, Option.ite_none_right_eq_some,
      Option.some.injEq] at h
    obtain ⟨⟨hlow, hhigh⟩, rfl⟩ := h
    have hlow : '0'.toNat ≤ c.toNat := hlow
    have hhigh : c.toNat ≤ '9'.toNat := hhigh
    have hten : c.toNat - '0'.toNat < 10 := by
      have h9 : '9'.toNat = '0'.toNat + 9 := rfl
      omega
    refine ⟨hten, ?_⟩
    rw [← Char.toNat_inj, ← hdigits _ hten]
    omega
  · rintro ⟨hd, rfl⟩
    exact digit?_digitChar hd

/-- A text of which nothing is left behind its digits consists of them. -/
theorem eq_of_takeDigits {cs : List Char} {ds : List Nat} (h : takeDigits cs = (ds, [])) :
    (∀ d ∈ ds, d < 10) ∧ cs = ds.map Nat.digitChar := by
  simp only [takeDigits, Prod.mk.injEq, List.dropWhile_eq_nil_iff] at h
  obtain ⟨hds, hall⟩ := h
  rw [List.takeWhile_eq_self_iff.mpr hall] at hds
  induction cs generalizing ds with
  | nil =>
    subst hds
    simp
  | cons c cs ih =>
    obtain ⟨hc, hcs⟩ := List.forall_mem_cons.mp hall
    obtain ⟨d, hd⟩ := Option.isSome_iff_exists.mp hc
    rw [List.filterMap_cons_some hd] at hds
    subst hds
    obtain ⟨hten, rfl⟩ := digit?_eq_some_iff.mp hd
    obtain ⟨hrest, hmap⟩ := ih rfl hcs
    exact ⟨List.forall_mem_cons.mpr ⟨hten, hrest⟩, by rw [List.map_cons, ← hmap]⟩

end Binary64

/-- Behind the sign, the digits decide. -/
theorem wholeNumber?_of_takeSign {cs : List Char} {negative : Bool} {ds : List Nat} (hne : ds ≠ [])
    (hds : ∀ d ∈ ds, d < 10) (h : takeSign cs = (negative, ds.map Nat.digitChar)) :
    wholeNumber? cs = some (if negative then -(digitsValue ds : Int) else digitsValue ds) := by
  obtain ⟨d, ds, rfl⟩ := List.exists_cons_of_ne_nil hne
  simp only [wholeNumber?, h, Binary64.takeDigits_digits hds]

/-- **The whole numbers that are read** are the texts of integers. -/
theorem wholeNumber?_eq_some_iff {cs : List Char} {n : Int} :
    wholeNumber? cs = some n ↔ IntegerText cs n := by
  constructor
  · intro h
    rw [wholeNumber?] at h
    split at h
    rename_i negative rest hsign
    split at h
    case h_2 => cases h
    rename_i d ds hdigits
    obtain ⟨hten, rfl⟩ := Binary64.eq_of_takeDigits hdigits
    cases h
    -- The sign that was taken tells which text this is.
    unfold takeSign at hsign
    split at hsign <;> cases hsign
    · exact .minus (List.cons_ne_nil d ds) hten
    · exact .plus (List.cons_ne_nil d ds) hten
    · exact .unsigned (List.cons_ne_nil d ds) hten
  · intro h
    cases h with
    | unsigned hne hds => exact wholeNumber?_of_takeSign hne hds (Binary64.takeSign_digits hne hds)
    | @plus ds hne hds =>
      have hsign : takeSign ('+' :: ds.map Nat.digitChar) = (false, ds.map Nat.digitChar) := rfl
      exact wholeNumber?_of_takeSign hne hds hsign
    | @minus ds hne hds =>
      have hsign : takeSign ('-' :: ds.map Nat.digitChar) = (true, ds.map Nat.digitChar) := rfl
      exact wholeNumber?_of_takeSign hne hds hsign

/-- A text is the text of one integer at most. -/
theorem Binary64.IntegerText.unique {cs : List Char} {m n : Int} (hm : IntegerText cs m)
    (hn : IntegerText cs n) : m = n := by
  rw [← wholeNumber?_eq_some_iff] at hm hn
  exact Option.some.inj (hm.symm.trans hn)

/-- **The standard text of an integer** is one of its texts. -/
theorem integerText_toString (n : Int) : IntegerText (toString n).toList n := by
  have hdecimals (m : Nat) : m.repr.toList = (Binary64.decimals m).map Nat.digitChar := by
    rw [← Binary64.natText_eq, Nat.repr, String.toList_ofList, Binary64.natText]
  cases n with
  | ofNat m =>
    have htext := IntegerText.unsigned (Binary64.decimals_ne_nil m) fun _ => Binary64.decimals_lt
    rw [Binary64.digitsValue_decimals, ← hdecimals] at htext
    exact htext
  | negSucc m =>
    have htext := IntegerText.minus (Binary64.decimals_ne_nil (m + 1))
      fun _ => Binary64.decimals_lt
    rw [Binary64.digitsValue_decimals, ← hdecimals] at htext
    have hminus : (toString (Int.negSucc m)).toList = '-' :: (m + 1).repr.toList := by
      change ("-" ++ (m + 1).repr).toList = _
      rw [String.toList_append]
      rfl
    rw [hminus]
    exact htext

/-! ## 2. Truth values -/

/-- The word for a truth value. -/
def truthWord (b : Bool) : String := if b then "true" else "false"

theorem truthValue?_eq_some_iff {s : String} {b : Bool} :
    truthValue? s = some b ↔ Text.lowerCase s = truthWord b := by
  have hne : "false" ≠ "true" := by decide
  rw [truthValue?]
  cases b with
  | true => by_cases h : Text.lowerCase s = "true" <;> simp [truthWord, h]
  | false =>
    by_cases h : Text.lowerCase s = "true"
    · simp [truthWord, h, hne.symm]
    · simp [truthWord, h]

theorem lowerCase_truthWord (b : Bool) : Text.lowerCase (truthWord b) = truthWord b := by
  cases b <;> decide +kernel

/-- A sign or a digit in front stays in front in lower case. -/
theorem Text.head?_lowerCase {c : Char} {cs : List Char} {s : String} (hs : s.toList = c :: cs)
    (hc : c = '+' ∨ c = '-' ∨ ∃ d < 10, c = Nat.digitChar d) :
    (Text.lowerCase s).toList.head? = some c := by
  have hplain : c ≠ 'Σ' ∧ c ≠ 'İ' ∧ Text.lowerChar c = c := by
    have hdigits : ∀ d < 10, Nat.digitChar d ≠ 'Σ' ∧ Nat.digitChar d ≠ 'İ' ∧
        Text.lowerChar (Nat.digitChar d) = Nat.digitChar d := by decide
    rcases hc with rfl | rfl | ⟨d, hd, rfl⟩
    · decide
    · decide
    · exact hdigits d hd
  obtain ⟨hsigma, hdotted, hlower⟩ := hplain
  rw [Text.lowerCase, String.toList_ofList, hs, Text.lowerAfter, if_neg hsigma, if_neg hdotted,
    hlower]
  rfl

/-- **No integer is written as a truth value.** -/
theorem lowerCase_ne_truthWord {s : String} {n : Int} (h : IntegerText s.toList n) (b : Bool) :
    Text.lowerCase s ≠ truthWord b := by
  have hfront : ∃ c cs, s.toList = c :: cs ∧
      (c = '+' ∨ c = '-' ∨ ∃ d < 10, c = Nat.digitChar d) := by
    generalize hcs : s.toList = cs at h
    cases h with
    | @unsigned ds hne hds =>
      obtain ⟨d, ds, rfl⟩ := List.exists_cons_of_ne_nil hne
      exact ⟨_, _, rfl, Or.inr (Or.inr ⟨d, hds d List.mem_cons_self, rfl⟩)⟩
    | plus _ _ => exact ⟨_, _, rfl, Or.inl rfl⟩
    | minus _ _ => exact ⟨_, _, rfl, Or.inr (Or.inl rfl)⟩
  obtain ⟨c, cs, hs, hc⟩ := hfront
  have hhead := Text.head?_lowerCase hs hc
  have hletters : ∀ d < 10, Nat.digitChar d ≠ 't' ∧ Nat.digitChar d ≠ 'f' := by decide
  have hletter : c ≠ 't' ∧ c ≠ 'f' := by
    rcases hc with rfl | rfl | ⟨d, hd, rfl⟩
    · decide
    · decide
    · exact hletters d hd
  intro hword
  rw [hword] at hhead
  cases b with
  | true => exact hletter.1 (Option.some.inj hhead).symm
  | false => exact hletter.2 (Option.some.inj hhead).symm

/-! ## 3. Settings -/

namespace Setting

variable {s : String}

/-- A value that is spelled neither as a truth value nor as an integer of 64 bits. -/
structure IsOther (s : String) : Prop where
  truth : ∀ b, Text.lowerCase s ≠ truthWord b
  integer : ∀ n, IntegerText s.toList n → Word.isInt64 n = false

theorem ofVariable_of_truth {b : Bool} (h : Text.lowerCase s = truthWord b) :
    ofVariable s = .bool b := by
  rw [ofVariable, truthValue?_eq_some_iff.mpr h]

theorem ofVariable_of_integer {n : Int} (h : IntegerText s.toList n)
    (hword : Word.isInt64 n = true) : ofVariable s = .int n := by
  have htruth : truthValue? s = none := Option.eq_none_iff_forall_ne_some.mpr fun b hb =>
    lowerCase_ne_truthWord h b (truthValue?_eq_some_iff.mp hb)
  have hinteger : (wholeNumber? s.toList).filter Word.isInt64 = some n :=
    Option.filter_eq_some_iff.mpr ⟨wholeNumber?_eq_some_iff.mpr h, hword⟩
  rw [ofVariable, htruth, hinteger]

theorem ofVariable_of_other (h : IsOther s) :
    ofVariable s = match Binary64.parse? s with
      | some x => .float x
      | none => .text s := by
  have htruth : truthValue? s = none := Option.eq_none_iff_forall_ne_some.mpr fun b hb =>
    h.truth b (truthValue?_eq_some_iff.mp hb)
  have hinteger : (wholeNumber? s.toList).filter Word.isInt64 = none := by
    refine Option.eq_none_iff_forall_ne_some.mpr fun n hn => ?_
    obtain ⟨hwhole, hword⟩ := Option.filter_eq_some_iff.mp hn
    rw [h.integer n (wholeNumber?_eq_some_iff.mp hwhole)] at hword
    cases hword
  rw [ofVariable, htruth, hinteger]
  cases Binary64.parse? s <;> rfl

/-- **A value is of one of three kinds.** -/
theorem spelling_cases (s : String) :
    (∃ b, Text.lowerCase s = truthWord b) ∨
      (∃ n, IntegerText s.toList n ∧ Word.isInt64 n = true) ∨ IsOther s := by
  by_cases htruth : ∃ b, Text.lowerCase s = truthWord b
  · exact Or.inl htruth
  by_cases hinteger : ∃ n, IntegerText s.toList n ∧ Word.isInt64 n = true
  · exact Or.inr (Or.inl hinteger)
  · refine Or.inr (Or.inr ⟨fun b hb => htruth ⟨b, hb⟩, fun n hn => ?_⟩)
    exact Bool.eq_false_iff.mpr fun hword => hinteger ⟨n, hn, hword⟩

/-- **An integer is read as itself** from its standard text. -/
theorem ofVariable_toString {n : Int} (hword : Word.isInt64 n = true) :
    ofVariable (toString n) = .int n :=
  ofVariable_of_integer (integerText_toString n) hword

end Setting

end LoginGate
