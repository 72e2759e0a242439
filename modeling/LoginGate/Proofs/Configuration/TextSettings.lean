/-
# Texts that come from variables

The value of a variable is read as a truth value or as a number where it can be, and a text setting
that it is for gets the standard text of what was read (`Settles`).  So a value comes through as it is
exactly if it is standard itself: one of the two words for truth values in lower case, the decimal of
an integer of 64 bits without plus sign and without zeros in front, the plain text of another number,
or nothing of the kind (`application_id_settles`).  An application id with zeros in front loses them
(`padded_id_shortened`).
-/
import LoginGate.Proofs.Configuration.Reading
import LoginGate.Proofs.Settings.Places

namespace LoginGate

open Binary64 (IntegerText)

namespace Setting

variable {s t : String}

/-! ## 1. Standard texts -/

/-- **The text that a text setting gets** from a value: the word for a truth value, the decimal of an
integer of 64 bits, the plain text of any other number, and everything else as it is. -/
inductive Settles (s : String) : String → Prop
  | truth {b : Bool} (h : Text.lowerCase s = truthWord b) : Settles s (truthWord b)
  | integer {n : Int} (h : IntegerText s.toList n) (hword : Word.isInt64 n = true) :
    Settles s (toString n)
  | number {x : Binary64} (hother : IsOther s) (h : Binary64.parse? s = some x) : Settles s x.plain
  | text (hother : IsOther s) (h : Binary64.parse? s = none) : Settles s s

/-- A value that is its own standard text. -/
inductive IsStandard (s : String) : Prop
  | truth (b : Bool) (h : s = truthWord b)
  | integer (n : Int) (hword : Word.isInt64 n = true) (h : s = toString n)
  | other (hother : IsOther s) (h : ∀ x, Binary64.parse? s = some x → s = x.plain)

/-- Every value has a standard text, and a text setting gets it. -/
theorem exists_settles (s : String) : ∃ t, (ofVariable s).toText? = some t ∧ Settles s t := by
  rcases spelling_cases s with ⟨b, hb⟩ | ⟨n, hn, hword⟩ | hother
  · rw [ofVariable_of_truth hb]
    exact ⟨_, rfl, .truth hb⟩
  · rw [ofVariable_of_integer hn hword]
    exact ⟨_, rfl, .integer hn hword⟩
  · rw [ofVariable_of_other hother]
    cases hnumber : Binary64.parse? s with
    | some x => exact ⟨_, rfl, .number hother hnumber⟩
    | none => exact ⟨_, rfl, .text hother hnumber⟩

/-- **What is standard comes through as it is**, and nothing else does. -/
theorem Settles.eq_iff (h : Settles s t) : t = s ↔ IsStandard s := by
  cases h with
  | @truth b hb =>
    refine ⟨fun heq => .truth b heq.symm, fun hstandard => ?_⟩
    cases hstandard with
    | truth b' hs => rw [← hb, hs, lowerCase_truthWord]
    | integer n _ hs =>
      exact absurd hb (lowerCase_ne_truthWord (hs ▸ integerText_toString n) b)
    | other hother _ => exact absurd hb (hother.truth b)
  | @integer n hn hword =>
    refine ⟨fun heq => .integer n hword heq.symm, fun hstandard => ?_⟩
    cases hstandard with
    | truth b hs =>
      exact absurd (by rw [hs, lowerCase_truthWord]) (lowerCase_ne_truthWord hn b)
    | integer m _ hs =>
      have hm : IntegerText s.toList m := hs ▸ integerText_toString m
      rw [hn.unique hm, hs]
    | other hother _ =>
      rw [hother.integer n hn] at hword
      cases hword
  | @number x hother hx =>
    refine ⟨fun heq => .other hother fun y hy => ?_, fun hstandard => ?_⟩
    · rw [← Option.some.inj (hx.symm.trans hy), heq]
    · cases hstandard with
      | truth b hs => exact absurd (by rw [hs, lowerCase_truthWord]) (hother.truth b)
      | integer n hword hs =>
        rw [hother.integer n (hs ▸ integerText_toString n)] at hword
        cases hword
      | other _ hplain => exact (hplain x hx).symm
  | text hother hnone =>
    refine ⟨fun _ => .other hother fun x hx => ?_, fun _ => rfl⟩
    rw [hnone] at hx
    cases hx

end Setting

/-! ## 2. The application id -/

namespace Configuration

/-- The variable for the application id. -/
def applicationIdName : String := "XAUTH__APPLICATION__APPLICATION_ID"

/-- The tree that the variable makes by itself. -/
theorem overlay_applicationId (s : String) :
    (Setting.table []).overlay (.ofVariables [(applicationIdName, s)]) =
      .table [("application", .table [("application_id", .ofVariable s)])] := by
  have hpath : variablePath? applicationIdName = some "application.application_id" := by
    decide +kernel
  have hparsed : Setting.Path.parse "application.application_id" =
      { first := .key "application", others := [.key "application_id"] } := by decide +kernel
  have hlower : Text.lowerCase "application" = "application" ∧
      Text.lowerCase "application_id" = "application_id" := by decide +kernel
  have hlayer : SettingLayer.ofVariables [(applicationIdName, s)] =
      [("application.application_id", .ofVariable s)] := by
    simp [SettingLayer.ofVariables, hpath, Entries.ofPairs, Entries.insertAll, Entries.insert]
  have hsingle := Setting.isSingle_ofVariable s
  rw [hlayer]
  simp [Setting.overlay, Setting.put, hparsed, Setting.putAt_key hsingle, hlower, Setting.placed,
    Setting.under, Setting.entries, Entries.insert, Setting.putAt, Setting.merge_of_isSingle hsingle]

/-- **An application id comes through as its standard text.**  With nothing but the variable for it,
loading succeeds for every value; all other settings keep their defaults, and the application id is
the standard text of the value.  So it is the value itself exactly if that is standard. -/
theorem application_id_settles (s : String) :
    ∃ c, load none [(applicationIdName, s)] = .ok c ∧
      c = { application := { applicationId := c.application.applicationId } } ∧
      Setting.Settles s c.application.applicationId ∧
      (c.application.applicationId = s ↔ Setting.IsStandard s) := by
  obtain ⟨t, htext, hsettles⟩ := Setting.exists_settles s
  refine ⟨{ application := { applicationId := t } }, ?_, rfl, hsettles, hsettles.eq_iff⟩
  have happlication : application? (.table [("application_id", .ofVariable s)]) =
      some { applicationId := t } := by
    simp [application?, Setting.fields?, Entries.get?, Setting.orDefault, htext]
  have hread : ofSetting? (.table [("application", .table [("application_id", .ofVariable s)])]) =
      some { application := { applicationId := t } } :=
    ofSetting?_table_eq_some_iff.mpr ⟨happlication, rfl, rfl, rfl, rfl⟩
  -- Validation does not look at the application id.
  have hvalid : ({ application := { applicationId := t } } : Configuration).validate = .ok () :=
    (by decide : ({} : Configuration).validate = .ok ())
  rw [load, overlay_applicationId, ofTree, hread]
  simp only [hvalid]

/-- **Zeros in front are lost**: of the application id `007` a `7` is left. -/
theorem padded_id_shortened :
    load none [("XAUTH__APPLICATION__APPLICATION_ID", "007")] =
        .ok { application := { applicationId := "7" } } ∧
      ∀ c, load none [("XAUTH__APPLICATION__APPLICATION_ID", "007")] = .ok c →
        c.application.applicationId ≠ "007" := by
  have hload : load none [("XAUTH__APPLICATION__APPLICATION_ID", "007")] =
      .ok { application := { applicationId := "7" } } := by decide +kernel
  refine ⟨hload, fun c hc => ?_⟩
  rw [hload] at hc
  cases hc
  decide

end Configuration

end LoginGate
