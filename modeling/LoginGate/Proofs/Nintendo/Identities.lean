/-
# Whose identity is proved

Two things are said of an accepted token in two different ways: its key is published below some base
URL, and its issuer is the base URL of the environment that is named (`named_of_accepted`).  Nothing
makes the two agree, so a key of any environment serves for identities of any other
(`signed_elsewhere`).

A user id is a subject and the key of an environment with an underscore between them.  Both may hold
underscores, so two players can have one id, but only if the key of one environment ends in an
underscore and the key of the other (`userId_eq_iff_of_accepted`), and then they do
(`same_userId_of_key_end`).
-/
import LoginGate.Proofs.Nintendo.Acceptance

namespace LoginGate.Nintendo

variable {settings : Settings} {identity : Identity}

/-! ## 1. The environment that signs and the one that is named -/

/-- **What is known of an accepted token.**  Its key is published below the base URL of some
environment, and its issuer names the environment of the identity.  The key is published below the
base URL of this environment, too, exactly if it is published below the issuer; if there is but one
environment, it always is. -/
theorem named_of_accepted (horder : settings.InKeyOrder) {appId token : String}
    {cache : Certificates.Cache} {instant : Nat} {now : Int}
    (h : verdict settings appId cache instant token now = .ok identity) :
    ∃ t claims, Refers token t ∧ Attests (keysWithin settings cache instant t.keyUrl) t claims ∧
      identity.subject = claims.subject ∧ settings.IsNamed claims.issuer identity.environment ∧
      (∃ signer ∈ settings.environments, Settings.Below signer.2 t.keyUrl) ∧
      ∀ base, (identity.environment, base) ∈ settings.environments →
        (Settings.Below base t.keyUrl ↔ Settings.Below claims.issuer t.keyUrl) ∧
        (settings.environments.length = 1 → Settings.Below base t.keyUrl) := by
  obtain ⟨t, claims, hrefers, hplace, hattests, hadmits⟩ := (verdict_eq_ok_iff horder).mp h
  refine ⟨t, claims, hrefers, hattests, hadmits.subject, hadmits.named, hplace, ?_⟩
  intro base hbase
  obtain ⟨base', hbase', hissuer⟩ := hadmits.named.environment
  constructor
  · rw [horder.base_unique hbase hbase', Settings.Below, Settings.Below, hissuer]
  · intro hone
    obtain ⟨signer, hsigner, hbelow⟩ := hplace
    obtain ⟨only, honly⟩ := List.length_eq_one_iff.mp hone
    rw [honly, List.mem_singleton] at hbase hsigner
    rw [hsigner, ← hbase] at hbelow
    exact hbelow

namespace Example

theorem isNamed_second : hosts.IsNamed "https://e.example/lp" "lp1" := by decide

end Example

theorem named_of_accepted_below_both :
    let t := passport Example.keyUrl "https://e.example/lp" "77" "a"
    let cache := t.serving
    Example.hosts.InKeyOrder ∧
      verdict Example.hosts "a" cache 0 t.text 0 = .ok ⟨"77", "lp1"⟩ ∧
      ∃ t' claims, Refers t.text t' ∧
        Attests (keysWithin Example.hosts cache 0 t'.keyUrl) t' claims ∧
        Example.hosts.IsNamed claims.issuer "lp1" ∧
        (Settings.Below "https://e.example/lp/" t'.keyUrl ↔
          Settings.Below claims.issuer t'.keyUrl) := by
  intro t cache
  have haccepted : verdict Example.hosts "a" cache 0 t.text 0 = .ok ⟨"77", "lp1"⟩ :=
    verdict_passport Example.inKeyOrder_hosts (by decide) Example.publishes_keyUrl
      Example.isNamed_second "77" "a" 0 0
  obtain ⟨t', claims, hrefers, hattests, -, hnamed, -, hbelow⟩ :=
    named_of_accepted Example.inKeyOrder_hosts haccepted
  exact ⟨Example.inKeyOrder_hosts, haccepted, t', claims, hrefers, hattests, hnamed,
    (hbelow _ (by decide)).1⟩

/-- **A key of one environment, an identity of another.**  The key is published below the base URL of
the first environment alone, and the identity that is accepted is one of the second. -/
theorem signed_elsewhere :
    let t := passport "https://e.example/keys" "https://e.example/lp" "77" "a"
    Example.hosts.InKeyOrder ∧ Refers t.text t ∧
      verdict Example.hosts "a" t.serving 0 t.text 0 = .ok ⟨"77", "lp1"⟩ ∧
      (∀ base, ("lp1", base) ∈ Example.hosts.environments → ¬ Settings.Below base t.keyUrl) ∧
      ∃ base, ("dd1", base) ∈ Example.hosts.environments ∧ Settings.Below base t.keyUrl := by
  intro t
  have hsigner : ("dd1", "https://e.example") ∈ Example.hosts.environments := by decide
  have hbelow : Settings.Below "https://e.example" "https://e.example/keys" := by decide
  refine ⟨Example.inKeyOrder_hosts, refers_issue _ _ _, ?_, ?_, ⟨_, hsigner, hbelow⟩⟩
  · exact verdict_passport Example.inKeyOrder_hosts (by decide) (by decide) Example.isNamed_second
      "77" "a" 0 0
  · intro base hbase
    have hnamed : ("lp1", "https://e.example/lp/") ∈ Example.hosts.environments := by decide
    rw [Example.inKeyOrder_hosts.base_unique hbase hnamed]
    decide

/-! ## 2. User ids -/

theorem Identity.toList_userId (i : Identity) :
    i.userId.toList = i.subject.toList ++ '_' :: i.environment.toList := by
  simp [userId, toString]

/-- **An identity runs into another**: its environment ends in the environment of the other, and what
stands in front of it, up to an underscore, is the end of the other's subject. -/
def Identity.RunsInto (i j : Identity) : Prop :=
  ∃ x, i.environment = x ++ "_" ++ j.environment ∧ j.subject = i.subject ++ "_" ++ x

theorem Identity.runsInto_iff {i j : Identity} :
    i.RunsInto j ↔ ∃ x, i.environment.toList = x ++ '_' :: j.environment.toList ∧
      j.subject.toList = i.subject.toList ++ '_' :: x := by
  constructor
  · rintro ⟨x, henvironment, hsubject⟩
    exact ⟨x.toList, by simp [henvironment], by simp [hsubject]⟩
  · rintro ⟨x, henvironment, hsubject⟩
    refine ⟨String.ofList x, ?_, ?_⟩
    · rw [← String.toList_inj, henvironment]
      simp
    · rw [← String.toList_inj, hsubject]
      simp

theorem Identity.userId_eq_of_runsInto {i j : Identity} (h : i.RunsInto j) :
    i.userId = j.userId := by
  obtain ⟨x, henvironment, hsubject⟩ := h
  rw [← String.toList_inj, toList_userId, toList_userId, henvironment, hsubject]
  simp

/-- Of two identities with one id, the one with the shorter subject runs into the other. -/
theorem Identity.runsInto_of_append {i j : Identity} (hne : i ≠ j) {gap : List Char}
    (hsubject : j.subject.toList = i.subject.toList ++ gap)
    (hrest : '_' :: i.environment.toList = gap ++ '_' :: j.environment.toList) : i.RunsInto j := by
  cases gap with
  | nil =>
    rw [List.append_nil, String.toList_inj] at hsubject
    rw [List.nil_append, List.cons_inj_right, String.toList_inj] at hrest
    obtain ⟨subject, environment⟩ := i
    obtain ⟨subject', environment'⟩ := j
    cases hsubject
    cases hrest
    exact absurd rfl hne
  | cons c x =>
    obtain ⟨rfl, henvironment⟩ := List.cons_eq_cons.mp hrest
    exact runsInto_iff.mpr ⟨x, henvironment, hsubject⟩

/-- **One id for two identities**: one of them runs into the other. -/
theorem Identity.userId_eq_iff {i j : Identity} (hne : i ≠ j) :
    i.userId = j.userId ↔ i.RunsInto j ∨ j.RunsInto i := by
  constructor
  · intro h
    rw [← String.toList_inj, toList_userId, toList_userId] at h
    rcases List.append_eq_append_iff.mp h with ⟨gap, hsubject, hrest⟩ | ⟨gap, hsubject, hrest⟩
    · exact Or.inl (runsInto_of_append hne hsubject hrest)
    · exact Or.inr (runsInto_of_append hne.symm hsubject hrest)
  · rintro (h | h)
    · exact userId_eq_of_runsInto h
    · exact (userId_eq_of_runsInto h).symm

/-- No key of an environment ends in an underscore and a key. -/
def Settings.Separates (s : Settings) : Prop :=
  ∀ e ∈ s.environments, ∀ e' ∈ s.environments, ∀ x, e.1 ≠ x ++ "_" ++ e'.1

theorem Settings.Separates.not_runsInto {i j : Identity} (h : settings.Separates)
    (hi : i.environment ∈ Entries.keys settings.environments)
    (hj : j.environment ∈ Entries.keys settings.environments) : ¬ i.RunsInto j := by
  rintro ⟨x, henvironment, -⟩
  obtain ⟨e, he, hkey⟩ := List.mem_map.mp hi
  obtain ⟨e', he', hkey'⟩ := List.mem_map.mp hj
  exact h e he e' he' x (by rw [hkey, hkey', henvironment])

theorem environment_mem_keys (horder : settings.InKeyOrder) {appId token : String}
    {cache : Certificates.Cache} {instant : Nat} {now : Int}
    (h : verdict settings appId cache instant token now = .ok identity) :
    identity.environment ∈ Entries.keys settings.environments := by
  obtain ⟨t, claims, -, -, -, hadmits⟩ := (verdict_eq_ok_iff horder).mp h
  obtain ⟨base, hmem, -⟩ := hadmits.named.environment
  exact List.mem_map.mpr ⟨_, hmem, rfl⟩

/-- **Which players have one id.**  The ids of two accepted tokens with different subjects or
environments are the same exactly if one identity runs into the other; so they are different whenever
no key of an environment ends in an underscore and a key. -/
theorem userId_eq_iff_of_accepted (horder : settings.InKeyOrder) {appId appId' token token' : String}
    {cache cache' : Certificates.Cache} {instant instant' : Nat} {now now' : Int} {i j : Identity}
    (hi : verdict settings appId cache instant token now = .ok i)
    (hj : verdict settings appId' cache' instant' token' now' = .ok j)
    (hne : (i.subject, i.environment) ≠ (j.subject, j.environment)) :
    (i.userId = j.userId ↔ i.RunsInto j ∨ j.RunsInto i) ∧
      (settings.Separates → i.userId ≠ j.userId) := by
  have hdifferent : i ≠ j := by
    rintro rfl
    exact hne rfl
  have hmem := environment_mem_keys horder hi
  have hmem' := environment_mem_keys horder hj
  have hiff := Identity.userId_eq_iff hdifferent
  refine ⟨hiff, fun hseparates heq => ?_⟩
  rcases hiff.mp heq with h | h
  · exact hseparates.not_runsInto hmem hmem' h
  · exact hseparates.not_runsInto hmem' hmem h

namespace Example

/-- Environments of which one key ends in an underscore and the other. -/
def twins : Settings :=
  { environments := [("b_c", "https://b.example"), ("c", "https://c.example")] }

theorem inKeyOrder_twins : twins.InKeyOrder := by decide

theorem isNamed_long : twins.IsNamed "https://b.example" "b_c" := by decide

theorem isNamed_short : twins.IsNamed "https://c.example" "c" := by decide

end Example

theorem userId_eq_iff_of_accepted_other_end :
    let t := passport "https://b.example" "https://b.example" "a" "a"
    let t' := passport "https://c.example" "https://c.example" "a_d" "a"
    Example.twins.InKeyOrder ∧
      verdict Example.twins "a" t.serving 0 t.text 0 = .ok ⟨"a", "b_c"⟩ ∧
      verdict Example.twins "a" t'.serving 0 t'.text 0 = .ok ⟨"a_d", "c"⟩ ∧
      ("a", "b_c") ≠ ("a_d", "c") ∧
      ¬ (Identity.RunsInto ⟨"a", "b_c"⟩ ⟨"a_d", "c"⟩ ∨
        Identity.RunsInto ⟨"a_d", "c"⟩ ⟨"a", "b_c"⟩) := by
  intro t t'
  have hlong : verdict Example.twins "a" t.serving 0 t.text 0 = .ok ⟨"a", "b_c"⟩ :=
    verdict_passport Example.inKeyOrder_twins (by decide) (by decide) Example.isNamed_long "a" "a"
      0 0
  have hshort : verdict Example.twins "a" t'.serving 0 t'.text 0 = .ok ⟨"a_d", "c"⟩ :=
    verdict_passport Example.inKeyOrder_twins (by decide) (by decide) Example.isNamed_short "a_d" "a"
      0 0
  have hne : ("a", "b_c") ≠ ("a_d", "c") := by decide
  have hiff := (userId_eq_iff_of_accepted Example.inKeyOrder_twins hlong hshort hne).1
  exact ⟨Example.inKeyOrder_twins, hlong, hshort, hne, fun h => absurd (hiff.mpr h) (by decide)⟩

/-- **Two players with one id.**  Where the key of an environment ends in an underscore and another
key, every subject of the one has its id in common with a subject of the other. -/
theorem same_userId_of_key_end (horder : settings.InKeyOrder)
    (htimeout : settings.retrievalTimeout ≠ 0) {keyUrl issuer issuer' key front : String}
    (hplace : settings.Publishes keyUrl)
    (hlong : settings.IsNamed issuer (front ++ "_" ++ key))
    (hshort : settings.IsNamed issuer' key) (subject appId : String) (instant : Nat) (now : Int) :
    let t := passport keyUrl issuer subject appId
    let t' := passport keyUrl issuer' (subject ++ "_" ++ front) appId
    ∃ i j : Identity,
      verdict settings appId t.serving instant t.text now = .ok i ∧
      verdict settings appId t'.serving instant t'.text now = .ok j ∧
      (i.subject, i.environment) ≠ (j.subject, j.environment) ∧ i.userId = j.userId := by
  intro t t'
  refine ⟨⟨subject, front ++ "_" ++ key⟩, ⟨subject ++ "_" ++ front, key⟩, ?_, ?_, ?_, ?_⟩
  · exact verdict_passport horder htimeout hplace hlong subject appId instant now
  · exact verdict_passport horder htimeout hplace hshort (subject ++ "_" ++ front) appId instant now
  · intro heq
    have hlength : subject.length = (subject ++ "_" ++ front).length :=
      congrArg String.length (Prod.ext_iff.mp heq).1
    rw [String.length_append, String.length_append] at hlength
    have hunderscore : "_".length = 1 := rfl
    omega
  · exact Identity.userId_eq_of_runsInto ⟨front, rfl, rfl⟩

theorem one_id_for_two :
    let t := passport "https://b.example" "https://b.example" "a" "a"
    let t' := passport "https://c.example" "https://c.example" "a_b" "a"
    let i : Identity := ⟨"a", "b_c"⟩
    let j : Identity := ⟨"a_b", "c"⟩
    Example.twins.InKeyOrder ∧
      verdict Example.twins "a" t.serving 0 t.text 0 = .ok i ∧
      verdict Example.twins "a" t'.serving 0 t'.text 0 = .ok j ∧
      (i.subject, i.environment) ≠ (j.subject, j.environment) ∧ i.userId = j.userId := by
  intro t t' i j
  refine ⟨Example.inKeyOrder_twins, ?_, ?_, by decide, by decide⟩
  · exact verdict_passport Example.inKeyOrder_twins (by decide) (by decide) Example.isNamed_long
      "a" "a" 0 0
  · exact verdict_passport Example.inKeyOrder_twins (by decide) (by decide) Example.isNamed_short
      "a_b" "a" 0 0

end LoginGate.Nintendo
