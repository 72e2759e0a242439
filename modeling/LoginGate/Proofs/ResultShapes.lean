/-
# Which bodies are results

Where structured results are expected, a body that is not blank accepts a client or hands data back
only if it is a result.  A result is an object with a result code; but the reader of records also
takes an array of seven items, which stand for the fields in their order (`accepted_shapes`).  Every
other body is denied.
-/
import LoginGate.Proofs.ExplicitDenial

namespace LoginGate.ProviderResult

open Json

/-! ## 1. Shapes -/

/-- The body is an object that has a result code, whatever the code and the other members are. -/
def IsResultObject (body : List UInt8) : Prop :=
  ∃ ms raw t, Tree.ofBytes? body = some (.object ms) ∧ (raw, t) ∈ ms ∧
    text? raw = some "ResultCode"

/-- The body is an array with an item for each field. -/
def IsResultArray (body : List UInt8) : Prop :=
  ∃ items, Tree.ofBytes? body = some (.array items) ∧ items.length = fields.length

/-- The last field has to be there. -/
theorem mayEnd_of_getLast? {f : Decoder.Field} (h : fields.getLast? = some f) :
    f.mayEnd = false := by
  obtain rfl : (⟨"ExpireAt", false⟩ : Decoder.Field) = f := by simpa [fields] using h
  rfl

/-! ## 2. What is decoded -/

/-- A result with a code is read from one of the two shapes. -/
theorem shape_of_decodeBytes? {body : List UInt8} {r : ProviderResult} {code : Binary64}
    (h : decodeBytes? decoder body = some r) (hcode : r.resultCode = some code) :
    IsResultObject body ∨ IsResultArray body := by
  obtain ⟨t, ht, hr⟩ := Option.bind_eq_some_iff.mp h
  cases t with
  | object ms =>
    obtain ⟨ps, hps, hnd, hread, -⟩ := decoder_object_eq_some.mp hr
    rw [hcode] at hread
    cases hpart : Entries.get? "ResultCode" ps with
    | none =>
      rw [hpart] at hread
      cases hread
    | some t =>
      obtain ⟨raw, hmem, hraw⟩ :=
        Decoder.exists_of_mem_named hps ((get?_field (by decide) hnd).mp hpart)
      exact .inl ⟨ms, raw, t, ht, hmem, hraw⟩
  | array items =>
    obtain ⟨out, hout, -⟩ := Option.bind_eq_some_iff.mp hr
    rw [Decoder.record, if_neg (by decide)] at hout
    obtain ⟨parts, hparts, -⟩ := Option.map_eq_some_iff.mp hout
    exact .inr ⟨items, ht,
      ((Decoder.assignItems_eq_some_iff fun _ => mayEnd_of_getLast?).mp hparts).1⟩
  | null => cases hr
  | bool b => cases hr
  | number n => cases hr
  | string raw => cases hr

/-- An array of as many items as there are fields is read as the object that holds them. -/
theorem decoder_array_eq_object {items : List Tree} {ms : List (List UInt8 × Tree)}
    (hlength : items.length = fields.length)
    (hms : Decoder.named ms = some ((fields.map (·.name)).zip items)) :
    decoder maxDepth (.array items) = decoder maxDepth (.object ms) := by
  rw [decoder, decoder, Decoder.record_array_eq_object (fun _ => mayEnd_of_getLast?) (by decide)
    (by decide) hlength hms]

/-! ## 3. Bodies -/

/-- **What is no result is denied** where structured results are expected. -/
theorem ofBody_of_no_result {body : List UInt8} (hblank : body.all Text.isAsciiBlank = false)
    (hobject : ¬ IsResultObject body) (harray : ¬ IsResultArray body) (userId : String) :
    Outcome.ofBody body true userId =
      .failed .customAuthenticationFailed "Invalid response from authentication provider" := by
  rw [Outcome.ofBody, hblank, if_neg Bool.false_ne_true]
  cases hr : decodeBytes? decoder body with
  | none => rfl
  | some r =>
    cases hcode : r.resultCode with
    | none => simp [hcode]
    | some code => exact ((shape_of_decodeBytes? hr hcode).elim hobject harray).elim

/-- **Which bodies are results.**  Where structured results are expected, a body that is not blank
and does not deny is an object with a result code or an array with an item for each field; every other
one is denied.  Such an array means what the object means that holds its items under the names of the
fields. -/
theorem accepted_shapes {body : List UInt8} (hblank : body.all Text.isAsciiBlank = false)
    (userId : String) :
    ((Outcome.ofBody body true userId).isFailure = false →
      IsResultObject body ∨ IsResultArray body) ∧
    (¬ IsResultObject body → ¬ IsResultArray body →
      Outcome.ofBody body true userId =
        .failed .customAuthenticationFailed "Invalid response from authentication provider") ∧
    ∀ items, Tree.ofBytes? body = some (.array items) → items.length = fields.length →
      ∀ other ms, Tree.ofBytes? other = some (.object ms) →
        Decoder.named ms = some ((fields.map (·.name)).zip items) →
        Outcome.ofBody body true userId = Outcome.ofBody other true userId := by
  refine ⟨fun hkept => ?_, fun hobject harray => ofBody_of_no_result hblank hobject harray userId,
    fun items hbody hlength other ms hother hms => ?_⟩
  · by_contra hshape
    rw [not_or] at hshape
    rw [ofBody_of_no_result hblank hshape.1 hshape.2] at hkept
    cases hkept
  · rw [Outcome.ofBody, Outcome.ofBody, hblank,
      not_blank_of_brace (Tree.ofBytes?_object hother).1, decodeBytes?, decodeBytes?, hbody, hother,
      Option.bind_some, Option.bind_some, decoder_array_eq_object hlength hms]

namespace Example

/-- A code that accepts as the first of seven items. -/
def seven : List UInt8 := Text.Utf8.bytes "[1,null,null,null,null,null,null]"

/-- The same items under the names of the fields. -/
def sevenNamed : List UInt8 := Text.Utf8.bytes
  ("\x7b\"ResultCode\":1,\"UserId\":null,\"Nickname\":null,\"AuthCookie\":null,\"Data\":null," ++
    "\"Message\":null,\"ExpireAt\":null\x7d")

/-- The items. -/
def sevenItems : List Tree := .number (numeral 1) :: List.replicate 6 .null

end Example

theorem accepted_shapes_seven :
    Example.seven.all Text.isAsciiBlank = false ∧
    Tree.ofBytes? Example.seven = some (.array Example.sevenItems) ∧
    Outcome.ofBody Example.seven true "client" = Outcome.ofBody Example.sevenNamed true "client" ∧
    Outcome.ofBody Example.seven true "client" = .accept "client" ∧
    ¬ IsResultObject Example.seven := by
  have hblank : Example.seven.all Text.isAsciiBlank = false := by cbv
  have hseven : Tree.ofBytes? Example.seven = some (.array Example.sevenItems) := by cbv
  have hnamed : Tree.ofBytes? Example.sevenNamed = some
      (.object (Example.spelled ((fields.map (·.name)).zip Example.sevenItems))) := by cbv
  have hnames : Decoder.named (Example.spelled ((fields.map (·.name)).zip Example.sevenItems)) =
      some ((fields.map (·.name)).zip Example.sevenItems) := by cbv
  have hmeans := (accepted_shapes hblank "client").2.2 _ hseven rfl _ _ hnamed hnames
  have hdecoded : decodeBytes? decoder Example.seven =
      some ⟨some (Binary64.ofInt 1), none, none, none, none, none, none⟩ := by
    rw [decodeBytes?, hseven]
    rfl
  have hone : (Binary64.ofInt 1).isInteger 1 = true := by decide
  refine ⟨hblank, hseven, hmeans, ?_, ?_⟩
  · rw [Outcome.ofBody, hblank, hdecoded]
    simp [interpret, hone, Outcome.accept]
  · rintro ⟨ms, raw, t, hobject, -⟩
    rw [hseven] at hobject
    cases hobject

end LoginGate.ProviderResult
