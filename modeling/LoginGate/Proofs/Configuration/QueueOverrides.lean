/-
# Overriding a setting of the queue

A variable for a setting of the queue overrides this setting and no other one, wherever it stands
among the variables of the environment, as long as none of these leads to the same setting, to the
whole part about queues or to an item of it (`override_exact`).  The number that it says is the new
value, or the configuration is refused for it.  Variables without the mark of the program change
nothing.  A list of variables is any walk through an environment, which has no order of its own.

The part has to be a table.  It may also be written as the list of its values, and then the variable
makes a new table of it, in which all other values are the defaults (`listed_settings_lost`).
-/
import LoginGate.Proofs.Configuration.Reading
import LoginGate.Proofs.Settings.Overrides

namespace LoginGate.Configuration

open Setting (orDefault toNat? Overridden Nested Leaves variableWay?)

/-- Whether a setting is a list. -/
def isList : Setting → Bool
  | .list _ => true
  | _ => false

/-! ## 1. Other values -/

namespace QueueField

/-- A configuration with another value for a setting of the queue. -/
def inConfiguration (f : QueueField) (n : Nat) (c : Configuration) : Configuration :=
  { c with queue := (f.set n (c.queue, c.retries)).1, retries := (f.set n (c.queue, c.retries)).2 }

/-- The fault of a value that is refused. -/
def refusal? (n : Nat) : QueueField → Option Fault
  | maxConcurrent => if n = 0 then some .noConcurrency else none
  | requestTimeout => if n = 0 then some .noRequestTimeout else none
  | _ => none

/-- What loading comes to with another value in a configuration that was loaded. -/
def verdict (f : QueueField) (n : Nat) (c : Configuration) : Except LoadError Configuration :=
  match f.refusal? n with
  | some fault => .error (.invalid fault)
  | none => .ok (f.inConfiguration n c)

/-- **Only zero is refused**, and only by the settings that have to be positive. -/
theorem validate_inConfiguration (f : QueueField) (n : Nat) {c : Configuration}
    (hvalid : c.validate = .ok ()) :
    (f.inConfiguration n c).validate =
      match f.refusal? n with
      | some fault => .error fault
      | none => .ok () := by
  -- What is checked behind the limits of the queue is the same for both.
  obtain ⟨rest, hrest, hother⟩ : ∃ rest : Except Fault Unit,
      c.validate = (do
        demand (c.queue.maxConcurrent ≠ 0) .noConcurrency
        demand (c.queue.requestTimeout ≠ 0) .noRequestTimeout
        rest) ∧
      ∀ q r, ({ c with queue := q, retries := r } : Configuration).validate = (do
        demand (q.maxConcurrent ≠ 0) .noConcurrency
        demand (q.requestTimeout ≠ 0) .noRequestTimeout
        rest) := ⟨_, rfl, fun _ _ => rfl⟩
  rw [hrest] at hvalid
  rw [inConfiguration, hother]
  by_cases hconcurrent : c.queue.maxConcurrent = 0
  · simp [hconcurrent, demand, bind, Except.bind] at hvalid
  by_cases htimeout : c.queue.requestTimeout = 0
  · simp [hconcurrent, htimeout, demand, bind, Except.bind] at hvalid
  have hend : rest = .ok () := by
    simpa [hconcurrent, htimeout, demand, bind, Except.bind] using hvalid
  by_cases hn : n = 0 <;> cases f <;>
    simp [set, refusal?, hconcurrent, htimeout, hend, hn, demand, bind, Except.bind]

end QueueField

/-! ## 2. Reading an overridden tree -/

variable {f : QueueField} {n : Nat} {s s' : Setting} {c : Configuration}

/-- What holds settings is no number. -/
theorem toNat?_of_isComposite {most : Nat} (h : s.IsComposite) : toNat? most s = none := by
  obtain ⟨es, rfl⟩ | ⟨is, rfl⟩ := h <;> rfl

theorem toNat?_int {most : Nat} (h : n ≤ most) : toNat? most (.int n) = some n := by
  simp [toNat?, Setting.toWord?, h]

/-- A configuration that is read has nothing below a setting of its queue. -/
theorem not_nested_of_ofSetting? (htable : s.IsTable) (h : ofSetting? s = some c) :
    ¬ Nested "queue" f.key s := by
  obtain ⟨es, rfl⟩ := htable
  rintro ⟨⟨queue, hqueue⟩, old, hold, hcomposite⟩
  obtain ⟨-, hpart, -⟩ := ofSetting?_table_eq_some_iff.mp h
  rw [show Entries.get? "queue" es = some (.table queue) from hqueue, orDefault] at hpart
  have hfield := queue?_table_eq_some_iff.mp hpart f
  rw [Setting.within_of_under hqueue] at hold
  rw [show Entries.get? f.key queue = some old from hold, orDefault,
    toNat?_of_isComposite hcomposite] at hfield
  cases hfield

/-- The part about queues that is read from a table or from nothing, setting by setting. -/
theorem get_of_orDefault_queue? {p : QueuePart} (hlist : ∀ q ∈ s.under "queue", isList q = false)
    (h : orDefault defaultQueue queue? (s.under "queue") = some p) (g : QueueField) :
    orDefault (g.get defaultQueue) (toNat? g.bound) ((s.within "queue").under g.key) =
      some (g.get p) := by
  cases hqueue : s.under "queue" with
  | none =>
    rw [hqueue, orDefault] at h
    cases h
    rw [Setting.within, hqueue]
    rfl
  | some queue =>
    rw [hqueue, orDefault] at h
    rw [Setting.within_of_under hqueue]
    cases queue with
    | table es => exact queue?_table_eq_some_iff.mp h g
    | list is => cases hlist _ hqueue
    | _ => simp [queue?, Setting.fields?] at h

/-- **Reading an overridden tree** yields the configuration with the other value. -/
theorem ofSetting?_of_overridden (htable : s.IsTable) (htable' : s'.IsTable) (hn : n ≤ f.bound)
    (hlist : ∀ q ∈ s.under "queue", isList q = false) (h : Overridden "queue" f.key (.int n) s s')
    (hread : ofSetting? s = some c) : ofSetting? s' = some (f.inConfiguration n c) := by
  obtain ⟨es, rfl⟩ := htable
  obtain ⟨es', rfl⟩ := htable'
  obtain ⟨happlication, hqueue, hproviders, hnintendo, hlogging⟩ :=
    ofSetting?_table_eq_some_iff.mp hread
  have hsame (key : String) (hkey : key ≠ "queue") : Entries.get? key es' = Entries.get? key es :=
    h.beside key hkey
  obtain ⟨queue, hpart⟩ := h.table
  have hwithin : (Setting.table es').within "queue" = .table queue :=
    Setting.within_of_under hpart
  have hset : queue? (.table queue) = some (f.set n (c.queue, c.retries)) := by
    refine queue?_table_eq_some_iff.mpr fun g => ?_
    by_cases hg : g = f
    · have hvalue : Entries.get? f.key queue = some (.int n) := by
        have hvalue := h.value
        rw [hwithin] at hvalue
        exact hvalue
      rw [hg, hvalue, orDefault, toNat?_int hn, QueueField.get_set_self]
    · have hother : Entries.get? g.key queue = ((Setting.table es).within "queue").under g.key := by
        have hother := h.others g.key fun hkey => hg (QueueField.key_injective hkey)
        rw [hwithin] at hother
        exact hother
      rw [hother, QueueField.get_set_of_ne hg]
      exact get_of_orDefault_queue? hlist hqueue g
  refine ofSetting?_table_eq_some_iff.mpr ⟨?_, ?_, ?_, ?_, ?_⟩
  · rw [hsame "application" (by decide)]
    exact happlication
  · rw [show Entries.get? "queue" es' = some (.table queue) from hpart, orDefault, hset]
    rfl
  · rw [hsame "providers" (by decide)]
    exact hproviders
  · rw [hsame "nintendo" (by decide)]
    exact hnintendo
  · rw [hsame "logging" (by decide)]
    exact hlogging

/-! ## 3. Loading -/

/-- The tree that variables are laid over: the settings of a TOML text, if there is one. -/
def base? : Option String → Option Setting
  | none => some (.table [])
  | some text => (Toml.parse? text).map fun t => (Setting.table []).overlay (.ofToml t)

theorem isTable_of_base? {toml : Option String} {base : Setting} (h : base? toml = some base) :
    base.IsTable := by
  cases toml with
  | none =>
    cases h
    exact ⟨[], rfl⟩
  | some text =>
    obtain ⟨t, -, rfl⟩ := Option.map_eq_some_iff.mp h
    exact Setting.isTable_overlay _ ⟨[], rfl⟩

theorem load_eq (toml : Option String) (environment : List (String × String)) :
    load toml environment =
      match base? toml with
      | none => .error .syntaxError
      | some base => ofTree (base.overlay (.ofVariables environment)) := by
  cases toml with
  | none => rfl
  | some text =>
    rw [load, base?]
    cases Toml.parse? text <;> rfl

/-- What is loaded was read and is valid. -/
theorem read_of_ofTree (h : ofTree s = .ok c) : ofSetting? s = some c ∧ c.validate = .ok () := by
  rw [ofTree] at h
  split at h
  · cases h
  · rename_i hread
    split at h
    · rename_i hvalid
      cases h
      exact ⟨hread, hvalid⟩
    · cases h

/-- **Loading an overridden tree** comes to the other value or to its fault. -/
theorem ofTree_of_overridden (htable : s.IsTable) (htable' : s'.IsTable) (hn : n ≤ f.bound)
    (hlist : ∀ q ∈ s.under "queue", isList q = false) (h : Overridden "queue" f.key (.int n) s s')
    (hload : ofTree s = .ok c) : ofTree s' = f.verdict n c := by
  obtain ⟨hread, hvalid⟩ := read_of_ofTree hload
  rw [ofTree, ofSetting?_of_overridden htable htable' hn hlist h hread]
  simp only [f.validate_inConfiguration n hvalid, QueueField.verdict]
  cases f.refusal? n <;> rfl

/-- A name begins with the mark of the program's variables, in any case. -/
def IsMarked (name : String) : Prop := variableMark <+: (Text.lowerCase name).toList

instance (name : String) : Decidable (IsMarked name) :=
  inferInstanceAs (Decidable (variableMark <+: (Text.lowerCase name).toList))

theorem variablePath?_of_not_isMarked {name : String} (h : ¬ IsMarked name) :
    variablePath? name = none := by
  rw [variablePath?, if_neg (fun hmark => h (List.isPrefixOf_iff_prefix.mp hmark))]

/-- **Other variables leave no trace.** -/
theorem ofVariables_filter (environment : List (String × String)) :
    SettingLayer.ofVariables (environment.filter (IsMarked ·.1)) =
      SettingLayer.ofVariables environment := by
  have hsteps : Setting.stepsOf (environment.filter (IsMarked ·.1)) =
      Setting.stepsOf environment := by
    induction environment with
    | nil => rfl
    | cons v environment ih =>
      rw [Setting.stepsOf] at ih ⊢
      by_cases hmark : IsMarked v.1
      · simp [hmark, ih, Setting.stepsOf, List.filterMap_cons]
      · simp [hmark, ih, Setting.stepsOf, variablePath?_of_not_isMarked hmark]
  rw [Setting.ofVariables_eq, hsteps, Setting.ofVariables_eq]

namespace QueueField

/-- The variable for a setting of the queue. -/
def variableName (f : QueueField) : String := "XAUTH__QUEUE__" ++ f.key.toUpper

theorem variableWay?_variableName (f : QueueField) :
    variableWay? f.variableName = some [.key "queue", .key f.key] := by
  cases f <;> decide +kernel

end QueueField

/-- What is written about queues, in the text and by variables together. -/
def writtenQueue? (toml : Option String) (environment : List (String × String)) : Option Setting :=
  (base? toml).bind fun base => (base.overlay (.ofVariables environment)).under "queue"

/-- The part about queues is not written as a list. -/
def Unlisted (toml : Option String) (environment : List (String × String)) : Prop :=
  ∀ s ∈ writtenQueue? toml environment, isList s = false

instance (toml : Option String) (environment : List (String × String)) :
    Decidable (Unlisted toml environment) :=
  inferInstanceAs (Decidable (∀ s ∈ writtenQueue? toml environment, isList s = false))

/-- **A variable overrides its own setting only.**  Let a configuration be loaded.  One more variable
for a setting of the queue, with a number that fits the setting and 64 bits with a sign, yields the
configuration with this number for the setting, or the fault of zero where the setting has to be
positive; provided that the part about queues is a table, and that no variable leads to the setting,
to the whole part or to an item of it.  And any environment with the same marked variables yields the
same configuration.

The variables may be walked in any order, and the new one may have any place among them: `before` and
`after` are whatever comes before it and after it on the walk. -/
theorem override_exact {toml : Option String} {before after : List (String × String)}
    {c : Configuration} (hload : load toml (before ++ after) = .ok c) :
    (∀ (f : QueueField) (n : Nat), n ≤ f.bound → Word.isInt64 n = true →
      Leaves "queue" f.key (before ++ after) → Unlisted toml (before ++ after) →
      load toml (before ++ (f.variableName, toString n) :: after) = f.verdict n c) ∧
    ∀ environment : List (String × String),
      environment.filter (IsMarked ·.1) = (before ++ after).filter (IsMarked ·.1) →
      load toml environment = .ok c := by
  refine ⟨fun f n hn hword hleaves hunlisted => ?_, fun environment hsame => ?_⟩
  · rw [load_eq] at hload ⊢
    cases hbase : base? toml with
    | none =>
      rw [hbase] at hload
      cases hload
    | some base =>
      rw [hbase] at hload
      have htable (environment : List (String × String)) :
          (base.overlay (.ofVariables environment)).IsTable :=
        Setting.isTable_overlay _ (isTable_of_base? hbase)
      have hgiven : Setting.ofVariable (toString n) = .int n :=
        Setting.ofVariable_toString (n := (n : Int)) hword
      rcases Setting.overridden_or_nested (toString n) f.variableWay?_variableName hleaves base with
        hover | hnested
      · rw [hgiven] at hover
        rw [Unlisted, writtenQueue?, hbase] at hunlisted
        exact ofTree_of_overridden (htable _) (htable _) hn hunlisted hover hload
      · exact absurd hnested (not_nested_of_ofSetting? (htable _) (read_of_ofTree hload).1)
  · rw [load_eq, ← ofVariables_filter, hsame, ofVariables_filter, ← load_eq]
    exact hload

namespace Example

/-- A text that sets two settings of the queue. -/
def partly : String := "[Queue]\nmax_queued_requests = 7\nretry_count = 3\n"

/-- Variables in front of another one: a setting of the queue that is a word, and one that is not for
the program. -/
def front : List (String × String) :=
  [("xauth__Queue__request_timeout_ms", "ON"), ("RETRY_COUNT", "9")]

/-- A variable behind it. -/
def back : List (String × String) := [("XAUTH__LOGGING__LEVEL", "Warn")]

/-- What text and variables come to. -/
def loaded : Configuration :=
  { queue := { maxQueued := 7, requestTimeout := 1 }, retries := 3, logging := { level := "Warn" } }

end Example

/-- A number of retries between other variables, and no concurrent requests. -/
theorem override_exact_between :
    let front := Example.front
    let back := Example.back
    load (some Example.partly) (front ++ back) = .ok Example.loaded ∧
    Unlisted (some Example.partly) (front ++ back) ∧
    Leaves "queue" QueueField.retries.key (front ++ back) ∧
    Leaves "queue" QueueField.maxConcurrent.key (front ++ back) ∧
    load (some Example.partly) (front ++ ("XAUTH__QUEUE__RETRY_COUNT", "12") :: back) =
      .ok { Example.loaded with retries := 12 } ∧
    load (some Example.partly) (front ++ ("XAUTH__QUEUE__MAX_CONCURRENT_REQUESTS", "0") :: back) =
      .error (.invalid .noConcurrency) ∧
    load (some Example.partly) (("UNRELATED", "x") :: (front ++ back)) = .ok Example.loaded := by
  intro front back
  have hload : load (some Example.partly) (front ++ back) = .ok Example.loaded := by
    decide +kernel
  have hunlisted : Unlisted (some Example.partly) (front ++ back) := by decide +kernel
  have hretries : Leaves "queue" QueueField.retries.key (front ++ back) := by decide +kernel
  have hconcurrent : Leaves "queue" QueueField.maxConcurrent.key (front ++ back) := by
    decide +kernel
  obtain ⟨hown, hforeign⟩ := override_exact hload
  have htwelve := hown .retries 12 (by decide) (by decide) hretries hunlisted
  have hzero := hown .maxConcurrent 0 (by decide) (by decide) hconcurrent hunlisted
  rw [show QueueField.retries.variableName = "XAUTH__QUEUE__RETRY_COUNT" by decide +kernel,
    show toString 12 = "12" by decide +kernel] at htwelve
  rw [show QueueField.maxConcurrent.variableName = "XAUTH__QUEUE__MAX_CONCURRENT_REQUESTS" by
    decide +kernel, show toString 0 = "0" by decide +kernel] at hzero
  exact ⟨hload, hunlisted, hretries, hconcurrent, htwelve.trans rfl, hzero.trans rfl,
    hforeign _ (by decide +kernel)⟩

/-- **A list of settings is lost.**  The text sets the first setting of the queue by a list, and there
are no variables.  One for the number of retries leaves nothing of the list. -/
theorem listed_settings_lost :
    let listed := some "queue = [8]\n"
    load listed [] = .ok { queue := { maxConcurrent := 8 } } ∧
      load listed [(QueueField.retries.variableName, toString 2)] = .ok { retries := 2 } ∧
      load listed [(QueueField.retries.variableName, toString 2)] ≠
        QueueField.retries.verdict 2 { queue := { maxConcurrent := 8 } } := by
  decide +kernel

end LoginGate.Configuration
