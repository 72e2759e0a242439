/-
# Values are read back

A value is read back from its compact text (`parse?_render`) if its numbers are integers of 64 bits,
if no object repeats a name and if it does not nest too deep (`Value.isExact`).  Between the two
stands the tree of the value: the grammar finds it in the text (`ofBytes?_write`), with no regard to
what the numbers and names are, and the value is what the tree stands for (`ofTree?_tree`).

The grammar part is one induction over the value, generalised over what follows it in the text,
which must not go on with the value's last numeral (`Follows`), and over the fuel, of which every
byte of the text pays for one step.
-/
import LoginGate.Json.Decode
import LoginGate.Proofs.Decimal
import LoginGate.Proofs.Entries
import LoginGate.Proofs.Json.Numeral
import LoginGate.Proofs.Json.Strings

namespace LoginGate.Json

open Text (Utf8.encode)

/-! ## 1. The tree of a value -/

/-- The numeral of an integer. -/
def Numeral.ofInt (n : Int) : Numeral := ⟨n < 0, Binary64.decimals n.natAbs, [], none⟩

/-- Whether a number is an integer of 64 bits, with a sign or without. -/
def Number.isWord : Number → Bool
  | .integer n => Word.minInt64 ≤ n && n ≤ Word.maxNat64
  | .float _ => false

mutual

/-- The tree of a value's text; numbers that are no integers are left out of account. -/
def Value.tree : Value → Tree
  | .null => .null
  | .bool b => .bool b
  | .number (.integer n) => .number (Numeral.ofInt n)
  | .number (.float _) => .null
  | .string s => .string (escaped s)
  | .array items => .array (itemTrees items)
  | .object members => .object (memberTrees members)
termination_by structural v => v

/-- The trees of items. -/
def itemTrees : List Value → List Tree
  | [] => []
  | v :: vs => v.tree :: itemTrees vs
termination_by structural vs => vs

/-- The trees of members. -/
def memberTrees : List (String × Value) → List (List UInt8 × Tree)
  | [] => []
  | (k, v) :: ms => (escaped k, v.tree) :: memberTrees ms
termination_by structural ms => ms

end

mutual

/-- Whether a value nests to a depth at most, with integers of 64 bits as its only numbers and no
name repeated within an object. -/
def Value.isExact (depth : Nat) : Value → Bool
  | .null | .bool _ | .string _ => true
  | .number n => n.isWord
  | .array items => 0 < depth && itemsExact (depth - 1) items
  | .object members =>
    0 < depth && decide (Entries.keys members).Nodup && membersExact (depth - 1) members
termination_by structural v => v

/-- Whether all items are exact. -/
def itemsExact (depth : Nat) : List Value → Bool
  | [] => true
  | v :: vs => v.isExact depth && itemsExact depth vs
termination_by structural vs => vs

/-- Whether the values of all members are exact. -/
def membersExact (depth : Nat) : List (String × Value) → Bool
  | [] => true
  | (_, v) :: ms => v.isExact depth && membersExact depth ms
termination_by structural ms => ms

end

/-! ## 2. Integers -/

/-- The byte of a digit. -/
def digitByte (d : Nat) : UInt8 := UInt8.ofNat (d + 0x30)

/-- What follows a value in a text: nothing, or a comma or a closing bracket. -/
def Follows : List UInt8 → Prop
  | [] => True
  | b :: _ => b = 0x2C ∨ b = 0x5D ∨ b = 0x7D

theorem encode_cons_ascii {c : Char} (h : c.toNat < 0x80) (cs : List Char) :
    Utf8.encode (c :: cs) = UInt8.ofNat c.toNat :: Utf8.encode cs := by
  rw [Text.Utf8.encode_cons, Text.Utf8.utf8EncodeChar_of_lt h, List.singleton_append]

theorem encode_natText (n : Nat) :
    Utf8.encode (Binary64.natText n) = (Binary64.decimals n).map digitByte := by
  have hdigit : ∀ d < 10, String.utf8EncodeChar d.digitChar = [digitByte d] := by decide
  have hall : ∀ ds : List Nat, (∀ d ∈ ds, d < 10) →
      Utf8.encode (ds.map Nat.digitChar) = ds.map digitByte := by
    intro ds hds
    induction ds with
    | nil => rfl
    | cons d ds ih =>
      obtain ⟨hd, hds⟩ := List.forall_mem_cons.mp hds
      rw [List.map_cons, Text.Utf8.encode_cons, hdigit d hd, ih hds, List.map_cons,
        List.singleton_append]
  rw [Binary64.natText_eq, hall _ fun _ => Binary64.decimals_lt]

theorem digit?_digitByte {d : Nat} (h : d < 10) : Tree.digit? (digitByte d) = some d := by
  revert d
  decide

/-- A run of digits ends where the value does. -/
theorem digits_append {ds : List Nat} (hds : ∀ d ∈ ds, d < 10) {rest : List UInt8}
    (hrest : Follows rest) : Tree.digits (ds.map digitByte ++ rest) = (ds, rest) := by
  induction ds with
  | nil =>
    cases rest with
    | nil => rfl
    | cons b rest =>
      have hb : Tree.digit? b = none := by
        rcases hrest with rfl | rfl | rfl <;> rfl
      simp [Tree.digits, hb]
  | cons d ds ih =>
    obtain ⟨hd, hds⟩ := List.forall_mem_cons.mp hds
    have ih := ih hds
    simp only [Tree.digits, Prod.mk.injEq] at ih
    simp [Tree.digits, digit?_digitByte hd, ih.1, ih.2]

theorem unsigned?_decimals (negative : Bool) (n : Nat) {rest : List UInt8} (hrest : Follows rest) :
    Tree.unsigned? negative ((Binary64.decimals n).map digitByte ++ rest) =
      some (⟨negative, Binary64.decimals n, [], none⟩, rest) := by
  have hfraction : Tree.fraction? rest = some ([], rest) := by
    cases rest with
    | nil => rfl
    | cons b rest => rcases hrest with rfl | rfl | rfl <;> rfl
  have hexponent : Tree.exponent? rest = some (none, rest) := by
    cases rest with
    | nil => rfl
    | cons b rest => rcases hrest with rfl | rfl | rfl <;> rfl
  have hlead : ((Binary64.decimals n).isEmpty || ((Binary64.decimals n).head? == some 0 &&
      1 < (Binary64.decimals n).length)) = false := by
    rw [Bool.or_eq_false_iff, Bool.and_eq_false_imp, List.isEmpty_eq_false_iff]
    refine ⟨Binary64.decimals_ne_nil n, ?_⟩
    intro hzero
    rw [Binary64.head?_decimals (eq_of_beq hzero), Binary64.decimals_of_lt (by decide)]
    rfl
  rw [Tree.unsigned?, digits_append (fun _ => Binary64.decimals_lt) hrest]
  dsimp only
  rw [hlead]
  simp [hfraction, hexponent]

/-- All digits are taken while their value fits 64 bits. -/
theorem takeSignificant_of_le {ds : List Nat} {significand : Nat} (taken : Nat)
    (h : ds.foldl (fun n d => 10 * n + d) significand ≤ Word.maxNat64) :
    takeSignificant significand taken ds =
      (ds.foldl (fun n d => 10 * n + d) significand, taken + ds.length, 0) := by
  have hgrows : ∀ (ds : List Nat) (n : Nat), n ≤ ds.foldl (fun n d => 10 * n + d) n := by
    intro ds
    induction ds with
    | nil => exact Nat.le_refl
    | cons d ds ih =>
      intro n
      exact Nat.le_trans (by omega) (ih (10 * n + d))
  induction ds generalizing significand taken with
  | nil => rfl
  | cons d ds ih =>
    rw [List.foldl_cons] at h ⊢
    have hstep := hgrows ds (10 * significand + d)
    rw [takeSignificant, if_neg (by omega), Nat.mul_comm significand 10, ih _ h, List.length_cons,
      Nat.add_right_comm, Nat.add_assoc]

theorem isWord_iff {n : Int} :
    (Number.integer n).isWord = true ↔ Word.minInt64 ≤ n ∧ n ≤ Word.maxNat64 := by
  simp [Number.isWord]

/-- **A numeral written as an integer of 64 bits stands for it**, but for minus zero, which is no
integer. -/
theorem number?_of_isWord {n : Numeral} (hn : n.isInteger = true)
    (h : (Number.integer n.toInt).isWord = true) :
    n.number? = some (if n.negative = true ∧ n.toInt = 0 then .float (Binary64.zero true)
      else .integer n.toInt) := by
  obtain ⟨negative, whole, fraction, exponent⟩ := n
  simp only [Numeral.isInteger, Bool.and_eq_true, List.isEmpty_iff, Option.isNone_iff_eq_none] at hn
  obtain ⟨rfl, rfl⟩ := hn
  rw [isWord_iff, Word.minInt64, Word.maxNat64] at h
  rw [Numeral.toInt] at h ⊢
  dsimp only at h ⊢
  generalize hv : Binary64.digitsValue whole = v at h ⊢
  have hle : v ≤ Word.maxNat64 := by
    rw [Word.maxNat64]
    cases negative <;> simp only [Bool.false_eq_true, if_true, if_false] at h <;> omega
  have htake : takeSignificant 0 0 whole = (v, 0 + whole.length, 0) := by
    rw [Binary64.digitsValue] at hv
    rw [takeSignificant_of_le 0 (hv.symm ▸ hle), hv]
  simp only [Numeral.number?, htake, takeSignificant, List.isEmpty_nil, decide_true,
    Bool.and_true, if_true]
  cases negative with
  | false => simp
  | true =>
    by_cases hzero : v = 0
    · subst hzero
      simp [Binary64.ofNat, Binary64.ofRatio, Binary64.zero, Binary64.neg]
    · have hword : Word.isInt64 (-(v : Int)) = true := by
        rw [Word.isInt64_iff, Word.minInt64, Word.maxInt64]
        simp only [if_true] at h
        omega
      simp [hzero, hword]

theorem toInt_ofInt (n : Int) : (Numeral.ofInt n).toInt = n := by
  simp only [Numeral.toInt, Numeral.ofInt, Binary64.digitsValue_decimals, decide_eq_true_eq]
  omega

theorem number?_ofInt {n : Int} (h : (Number.integer n).isWord = true) :
    (Numeral.ofInt n).number? = some (.integer n) := by
  have hplain : ¬ ((Numeral.ofInt n).negative = true ∧ n = 0) := by
    simp only [Numeral.ofInt, decide_eq_true_eq]
    omega
  rw [number?_of_isWord rfl (by rw [toInt_ofInt]; exact h), toInt_ofInt, if_neg hplain]

/-! ## 3. What a value begins with -/

/-- Reading a value starts at the first byte, which is no blank and closes no array. -/
def Opens (bs : List UInt8) : Prop :=
  ∃ b tail, bs = b :: tail ∧ Tree.isSpace b = false ∧ b ≠ 0x5D

theorem Opens.append {bs : List UInt8} (h : Opens bs) (rest : List UInt8) :
    Opens (bs ++ rest) := by
  obtain ⟨b, tail, rfl, hb⟩ := h
  exact ⟨b, tail ++ rest, rfl, hb⟩

theorem Opens.length_pos {bs : List UInt8} (h : Opens bs) : 0 < bs.length := by
  obtain ⟨b, tail, rfl, -⟩ := h
  exact Nat.succ_pos _

theorem Opens.skip_eq {bs : List UInt8} (h : Opens bs) : Tree.skip bs = bs := by
  obtain ⟨b, tail, rfl, hb, -⟩ := h
  rw [Tree.skip, List.dropWhile_cons_of_neg (by simp [hb])]

theorem digitByte_spec {d : Nat} (h : d < 10) :
    Tree.isSpace (digitByte d) = false ∧ digitByte d ≠ 0x22 ∧ digitByte d ≠ 0x5B ∧
      digitByte d ≠ 0x5D ∧ digitByte d ≠ 0x7B ∧ digitByte d ≠ 0x6E ∧ digitByte d ≠ 0x74 ∧
      digitByte d ≠ 0x66 ∧ digitByte d ≠ 0x2D := by
  revert d
  decide

/-- The digits of a number begin with one. -/
theorem exists_decimals (n : Nat) :
    ∃ d ds, d < 10 ∧ (Binary64.decimals n).map digitByte = digitByte d :: ds := by
  obtain ⟨d, ds, hd⟩ := List.exists_cons_of_ne_nil (Binary64.decimals_ne_nil n)
  refine ⟨d, ds.map digitByte, Binary64.decimals_lt (n := n) ?_, ?_⟩
  · rw [hd]
    exact List.mem_cons_self
  · rw [hd, List.map_cons]

theorem encode_writeInt (n : Int) :
    Utf8.encode (writeInt n) =
      (if n < 0 then [0x2D] else []) ++ (Binary64.decimals n.natAbs).map digitByte := by
  rw [writeInt, Text.Utf8.encode_append, encode_natText]
  split <;> rfl

theorem encode_writeString (s : String) :
    Utf8.encode (writeString s) = 0x22 :: (escaped s ++ [0x22]) := by
  rw [writeString, List.cons_append, encode_cons_ascii (by decide), Text.Utf8.encode_append,
    escaped]
  rfl

theorem opens_write {v : Value} {depth : Nat} (h : v.isExact depth = true) :
    Opens (Utf8.encode v.write) := by
  cases v with
  | null => exact ⟨_, _, rfl, rfl, by decide⟩
  | bool b => cases b <;> exact ⟨_, _, rfl, rfl, by decide⟩
  | number n =>
    cases n with
    | float x => simp [Value.isExact, Number.isWord] at h
    | integer n =>
      have hw : Utf8.encode (Value.write (.number (.integer n))) = Utf8.encode (writeInt n) := rfl
      obtain ⟨d, ds, hd, hds⟩ := exists_decimals n.natAbs
      rw [hw, encode_writeInt, hds]
      split
      · exact ⟨_, _, rfl, rfl, by decide⟩
      · exact ⟨_, _, rfl, (digitByte_spec hd).1, (digitByte_spec hd).2.2.2.1⟩
  | string s =>
    rw [Value.write, encode_writeString]
    exact ⟨_, _, rfl, rfl, by decide⟩
  | array items =>
    rw [Value.write, List.cons_append, encode_cons_ascii (by decide)]
    exact ⟨_, _, rfl, rfl, by decide⟩
  | object members =>
    rw [Value.write, List.cons_append, encode_cons_ascii (by decide)]
    exact ⟨_, _, rfl, rfl, by decide⟩

theorem opens_writeItems {v : Value} {vs : List Value} {depth : Nat}
    (h : v.isExact depth = true) : Opens (Utf8.encode (writeItems (v :: vs))) := by
  cases vs with
  | nil => exact opens_write h
  | cons w vs =>
    rw [writeItems, Text.Utf8.encode_append]
    exact (opens_write h).append _

/-! ## 4. The grammar -/

namespace Tree

theorem value?_string (s : String) (fuel : Nat) (rest : List UInt8) :
    value? (fuel + 1) (0x22 :: (escaped s ++ 0x22 :: rest)) = some (.string (escaped s), rest) := by
  have hskip : skip (0x22 :: (escaped s ++ 0x22 :: rest)) = 0x22 :: (escaped s ++ 0x22 :: rest) :=
    rfl
  rw [value?, hskip]
  simp [stringBody_escaped]

theorem value?_integer (n : Int) (fuel : Nat) {rest : List UInt8} (hrest : Follows rest) :
    value? (fuel + 1) (Utf8.encode (writeInt n) ++ rest) =
      some (.number (Numeral.ofInt n), rest) := by
  obtain ⟨d, ds, hd, hds⟩ := exists_decimals n.natAbs
  have hread : ∀ negative, unsigned? negative (digitByte d :: (ds ++ rest)) =
      some (⟨negative, Binary64.decimals n.natAbs, [], none⟩, rest) := by
    intro negative
    rw [← List.cons_append, ← hds, unsigned?_decimals negative _ hrest]
  rw [encode_writeInt, hds, Numeral.ofInt]
  by_cases hneg : n < 0
  · have hskip : skip (0x2D :: digitByte d :: (ds ++ rest)) = 0x2D :: digitByte d :: (ds ++ rest) :=
      rfl
    rw [if_pos hneg, List.append_assoc, List.cons_append, List.cons_append, List.nil_append, value?,
      hskip]
    simp [hread, hneg]
  · obtain ⟨hspace, hs, ha, -, ho, hn, ht, hf, hm⟩ := digitByte_spec hd
    have hskip : skip (digitByte d :: (ds ++ rest)) = digitByte d :: (ds ++ rest) := by
      rw [skip, List.dropWhile_cons_of_neg (by simp [hspace])]
    rw [if_neg hneg, List.nil_append, List.cons_append, value?, hskip]
    simp [hread, hneg, hs, ha, ho, hn, ht, hf, hm]

theorem value?_items {fuel : Nat} {bs rest : List UInt8} {items : List Tree} (hopens : Opens bs)
    (h : items? fuel bs = some (items, rest)) :
    value? (fuel + 1) (0x5B :: bs) = some (.array items, rest) := by
  have hskip : skip (0x5B :: bs) = 0x5B :: bs := rfl
  have hself := hopens.skip_eq
  obtain ⟨b, tail, rfl, -, hb⟩ := hopens
  rw [value?, hskip]
  simp [hself, h, hb]

theorem value?_members {fuel : Nat} {bs rest : List UInt8} {members : List (List UInt8 × Tree)}
    (h : members? fuel (0x22 :: bs) = some (members, rest)) :
    value? (fuel + 1) (0x7B :: 0x22 :: bs) = some (.object members, rest) := by
  have hskip : skip (0x7B :: 0x22 :: bs) = 0x7B :: 0x22 :: bs := rfl
  have hself : skip (0x22 :: bs) = 0x22 :: bs := rfl
  rw [value?, hskip]
  simp [hself, h]

/-- A last item stands in front of the closing bracket. -/
theorem items?_last {fuel : Nat} {bs rest : List UInt8} {t : Tree}
    (h : value? fuel bs = some (t, 0x5D :: rest)) : items? (fuel + 1) bs = some ([t], rest) := by
  have hskip : skip (0x5D :: rest) = 0x5D :: rest := rfl
  simp [items?, h, hskip]

/-- Any other item stands in front of a comma. -/
theorem items?_next {fuel : Nat} {bs cs rest : List UInt8} {t : Tree} {ts : List Tree}
    (h : value? fuel bs = some (t, 0x2C :: cs)) (hrest : items? fuel cs = some (ts, rest)) :
    items? (fuel + 1) bs = some (t :: ts, rest) := by
  have hskip : skip (0x2C :: cs) = 0x2C :: cs := rfl
  simp [items?, h, hskip, hrest]

/-- A last member stands in front of the closing brace. -/
theorem members?_last {fuel : Nat} {k : String} {bs rest : List UInt8} {t : Tree}
    (h : value? fuel bs = some (t, 0x7D :: rest)) :
    members? (fuel + 1) (0x22 :: (escaped k ++ 0x22 :: 0x3A :: bs)) =
      some ([(escaped k, t)], rest) := by
  have hopen : ∀ cs, skip (0x22 :: cs) = 0x22 :: cs := fun _ => rfl
  have hcolon : skip (0x3A :: bs) = 0x3A :: bs := rfl
  have hskip : skip (0x7D :: rest) = 0x7D :: rest := rfl
  simp [members?, hopen, string?, stringBody_escaped, hcolon, h, hskip]

/-- Any other member stands in front of a comma. -/
theorem members?_next {fuel : Nat} {k : String} {bs cs rest : List UInt8} {t : Tree}
    {ms : List (List UInt8 × Tree)} (h : value? fuel bs = some (t, 0x2C :: cs))
    (hrest : members? fuel cs = some (ms, rest)) :
    members? (fuel + 1) (0x22 :: (escaped k ++ 0x22 :: 0x3A :: bs)) =
      some ((escaped k, t) :: ms, rest) := by
  have hopen : ∀ cs, skip (0x22 :: cs) = 0x22 :: cs := fun _ => rfl
  have hcolon : skip (0x3A :: bs) = 0x3A :: bs := rfl
  have hskip : skip (0x2C :: cs) = 0x2C :: cs := rfl
  simp [members?, hopen, string?, stringBody_escaped, hcolon, h, hskip, hrest]

end Tree

theorem encode_array (items : List Value) :
    Utf8.encode (Value.write (.array items)) =
      0x5B :: (Utf8.encode (writeItems items) ++ [0x5D]) := by
  rw [Value.write, List.cons_append, encode_cons_ascii (by decide), Text.Utf8.encode_append]
  rfl

theorem encode_object (members : Members) :
    Utf8.encode (Value.write (.object members)) =
      0x7B :: (Utf8.encode (writeMembers members) ++ [0x7D]) := by
  rw [Value.write, List.cons_append, encode_cons_ascii (by decide), Text.Utf8.encode_append]
  rfl

theorem encode_items (v w : Value) (vs : List Value) :
    Utf8.encode (writeItems (v :: w :: vs)) =
      Utf8.encode v.write ++ 0x2C :: Utf8.encode (writeItems (w :: vs)) := by
  rw [writeItems, Text.Utf8.encode_append, encode_cons_ascii (by decide)]
  rfl

/-- The bytes of a name and of what stands behind its colon. -/
theorem encode_named (k : String) (cs : List Char) :
    Utf8.encode (writeString k ++ ':' :: cs) =
      0x22 :: (escaped k ++ 0x22 :: 0x3A :: Utf8.encode cs) := by
  rw [Text.Utf8.encode_append, encode_writeString, encode_cons_ascii (by decide)]
  simp [show (':').toNat = 0x3A from rfl]

theorem encode_members (k : String) (v : Value) (m : String × Value) (ms : Members) :
    Utf8.encode (writeMembers ((k, v) :: m :: ms)) =
      0x22 :: (escaped k ++ 0x22 :: 0x3A ::
        (Utf8.encode v.write ++ 0x2C :: Utf8.encode (writeMembers (m :: ms)))) := by
  rw [writeMembers, List.append_assoc, List.cons_append, encode_named, Text.Utf8.encode_append,
    encode_cons_ascii (by decide)]
  rfl

mutual

/-- **The grammar finds a value in front of what follows it.** -/
theorem value?_write : ∀ {v : Value} {depth fuel : Nat} {rest : List UInt8},
    v.isExact depth = true → (Utf8.encode v.write).length ≤ fuel + 1 → Follows rest →
      Tree.value? (fuel + 1) (Utf8.encode v.write ++ rest) = some (v.tree, rest)
  | .null, _, _, _, _, _, _ => rfl
  | .bool true, _, _, _, _, _, _ => rfl
  | .bool false, _, _, _, _, _, _ => rfl
  | .number (.integer n), _, fuel, _, _, _, hrest => Tree.value?_integer n fuel hrest
  | .number (.float _), _, _, _, h, _, _ => absurd h Bool.false_ne_true
  | .string s, _, fuel, rest, _, _, _ => by
    rw [Value.write, encode_writeString, List.cons_append, List.append_assoc]
    exact Tree.value?_string s fuel rest
  | .array [], _, _, _, _, _, _ => rfl
  | .array (v :: vs), depth, fuel, rest, h, hfuel, _ => by
    rw [Value.isExact, Bool.and_eq_true] at h
    have hv : v.isExact (depth - 1) = true := (Bool.and_eq_true_iff.mp h.2).1
    rw [encode_array, List.length_cons, List.length_append, List.length_singleton] at hfuel
    obtain ⟨fuel, rfl⟩ : ∃ g, fuel = g + 1 := ⟨fuel - 1, by omega⟩
    rw [encode_array, List.cons_append, List.append_assoc, List.singleton_append]
    exact Tree.value?_items ((opens_writeItems hv).append _)
      (items?_write (List.cons_ne_nil v vs) h.2 (by omega))
  | .object [], _, _, _, _, _, _ => rfl
  | .object ((k, v) :: ms), depth, fuel, rest, h, hfuel, _ => by
    rw [Value.isExact, Bool.and_eq_true] at h
    rw [encode_object, List.length_cons, List.length_append, List.length_singleton] at hfuel
    obtain ⟨fuel, rfl⟩ : ∃ g, fuel = g + 1 := ⟨fuel - 1, by omega⟩
    rw [encode_object, List.cons_append, List.append_assoc, List.singleton_append]
    have hms : Tree.members? (fuel + 1)
        (Utf8.encode (writeMembers ((k, v) :: ms)) ++ 0x7D :: rest) =
          some (memberTrees ((k, v) :: ms), rest) :=
      members?_write (List.cons_ne_nil (k, v) ms) h.2 (by omega)
    obtain ⟨bs, hbs⟩ : ∃ bs, Utf8.encode (writeMembers ((k, v) :: ms)) = 0x22 :: bs := by
      cases ms with
      | nil => exact ⟨_, encode_named k v.write⟩
      | cons m ms => exact ⟨_, encode_members k v m ms⟩
    rw [hbs, List.cons_append] at hms ⊢
    exact Tree.value?_members hms

/-- The items of an array are found up to the closing bracket. -/
theorem items?_write : ∀ {vs : List Value} {depth fuel : Nat} {rest : List UInt8}, vs ≠ [] →
    itemsExact depth vs = true → (Utf8.encode (writeItems vs)).length ≤ fuel →
      Tree.items? (fuel + 1) (Utf8.encode (writeItems vs) ++ 0x5D :: rest) =
        some (itemTrees vs, rest)
  | [], _, _, _, hne, _, _ => absurd rfl hne
  | [v], _, fuel, rest, _, h, hfuel => by
    have hv := (Bool.and_eq_true_iff.mp h).1
    have hpos := (opens_write hv).length_pos
    rw [writeItems] at hfuel ⊢
    obtain ⟨fuel, rfl⟩ : ∃ g, fuel = g + 1 := ⟨fuel - 1, by omega⟩
    exact Tree.items?_last (value?_write hv hfuel (.inr (.inl rfl)))
  | v :: w :: vs, _, fuel, rest, _, h, hfuel => by
    obtain ⟨hv, hvs⟩ := Bool.and_eq_true_iff.mp h
    rw [encode_items, List.length_append, List.length_cons] at hfuel
    obtain ⟨fuel, rfl⟩ : ∃ g, fuel = g + 1 := ⟨fuel - 1, by omega⟩
    rw [encode_items, List.append_assoc, List.cons_append]
    exact Tree.items?_next (value?_write hv (by omega) (.inl rfl))
      (items?_write (List.cons_ne_nil w vs) hvs (by omega))

/-- The members of an object are found up to the closing brace. -/
theorem members?_write : ∀ {ms : Members} {depth fuel : Nat} {rest : List UInt8}, ms ≠ [] →
    membersExact depth ms = true → (Utf8.encode (writeMembers ms)).length ≤ fuel →
      Tree.members? (fuel + 1) (Utf8.encode (writeMembers ms) ++ 0x7D :: rest) =
        some (memberTrees ms, rest)
  | [], _, _, _, hne, _, _ => absurd rfl hne
  | [(k, v)], _, fuel, rest, _, h, hfuel => by
    have hv := (Bool.and_eq_true_iff.mp h).1
    rw [writeMembers, encode_named] at hfuel ⊢
    simp only [List.length_cons, List.length_append] at hfuel
    obtain ⟨fuel, rfl⟩ : ∃ g, fuel = g + 1 := ⟨fuel - 1, by omega⟩
    simp only [List.cons_append, List.append_assoc]
    exact Tree.members?_last (value?_write hv (by omega) (.inr (.inr rfl)))
  | (k, v) :: m :: ms, _, fuel, rest, _, h, hfuel => by
    obtain ⟨hv, hms⟩ := Bool.and_eq_true_iff.mp h
    rw [encode_members] at hfuel ⊢
    simp only [List.length_cons, List.length_append] at hfuel
    obtain ⟨fuel, rfl⟩ : ∃ g, fuel = g + 1 := ⟨fuel - 1, by omega⟩
    simp only [List.cons_append, List.append_assoc]
    exact Tree.members?_next (value?_write hv (by omega) (.inl rfl))
      (members?_write (List.cons_ne_nil m ms) hms (by omega))

end

/-! ## 5. What a tree stands for -/

mutual

/-- **A value is what its tree stands for.** -/
theorem ofTree?_tree : ∀ {v : Value} {depth : Nat}, v.isExact depth = true →
    Value.ofTree? depth v.tree = some v
  | .null, _, _ => rfl
  | .bool _, _, _ => rfl
  | .number (.integer n), _, h => by
    rw [Value.tree, Value.ofTree?, number?_ofInt h]
    rfl
  | .number (.float _), _, h => absurd h Bool.false_ne_true
  | .string s, _, _ => by
    rw [Value.tree, Value.ofTree?, text?_escaped]
    rfl
  | .array items, depth, h => by
    rw [Value.isExact, Bool.and_eq_true, decide_eq_true_eq] at h
    rw [Value.tree, Value.ofTree?, if_neg h.1.ne', itemsOfTrees?_trees h.2]
    rfl
  | .object members, depth, h => by
    rw [Value.isExact, Bool.and_eq_true, Bool.and_eq_true, decide_eq_true_eq,
      decide_eq_true_eq] at h
    rw [Value.tree, Value.ofTree?, if_neg h.1.1.ne', membersOfTrees?_trees h.2, Option.map_some,
      Value.ofMembers, Entries.ofPairs_eq_self h.1.2]

theorem itemsOfTrees?_trees : ∀ {vs : List Value} {depth : Nat}, itemsExact depth vs = true →
    itemsOfTrees? depth (itemTrees vs) = some vs
  | [], _, _ => rfl
  | v :: vs, depth, h => by
    obtain ⟨hv, hvs⟩ := Bool.and_eq_true_iff.mp h
    rw [itemTrees, itemsOfTrees?, ofTree?_tree hv, itemsOfTrees?_trees hvs]
    rfl

theorem membersOfTrees?_trees : ∀ {ms : Members} {depth : Nat}, membersExact depth ms = true →
    membersOfTrees? depth (memberTrees ms) = some ms
  | [], _, _ => rfl
  | (k, v) :: ms, depth, h => by
    obtain ⟨hv, hms⟩ := Bool.and_eq_true_iff.mp h
    rw [memberTrees, membersOfTrees?, text?_escaped, ofTree?_tree hv, membersOfTrees?_trees hms]
    rfl

end

/-! ## 6. Whole texts -/

/-- **The tree of a value's text.** -/
theorem ofBytes?_write {v : Value} {depth : Nat} (h : v.isExact depth = true) :
    Tree.ofBytes? (Utf8.encode v.write) = some v.tree := by
  have hread : Tree.value? (2 * (Utf8.encode v.write).length + 1) (Utf8.encode v.write ++ []) =
      some (v.tree, []) := value?_write h (by omega) trivial
  rw [List.append_nil] at hread
  rw [Tree.ofBytes?, hread]
  rfl

/-- What a decoder reads from a value's text is what it makes of the value's tree. -/
theorem decodeBytes?_write {α : Type} (item : Decoder α) {v : Value} {depth : Nat}
    (h : v.isExact depth = true) :
    decodeBytes? item (Utf8.encode v.write) = item maxDepth v.tree := by
  rw [decodeBytes?, ofBytes?_write h]
  rfl

/-- **A value is read back from its text.** -/
theorem parse?_render {v : Value} (h : v.isExact maxDepth = true) :
    Value.parse? v.render = some v := by
  rw [Value.parse?, Text.Utf8.bytes_eq_encode, Value.render, String.toList_ofList, Value.ofBytes?,
    ofBytes?_write h, Option.bind_some, ofTree?_tree h]

end LoginGate.Json
