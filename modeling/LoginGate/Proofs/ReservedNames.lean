/-
# What a client says under the dashboard's names

A client may use a name that the dashboard sets, in its query string as often as it likes and in a
map payload.  Nothing of what it says there gets into the merged request: not the value, not the
place among the client's other segments, and of a segment not even that it was there
(`dashboard_names_inert`).  In a map payload the name itself stays, since the member is forwarded
with the dashboard's value.

What does get into the merged request is the rest, and all of it: for payloads that agree apart from
the dashboard's names, two query strings lead to the same request exactly if they agree in the
segments that neither the dashboard nor the payload has a name for.
-/
import LoginGate.Proofs.RequiredParameters

namespace LoginGate.MergedRequest

open Text

variable {provider : Provider} {client client' : Option String} {data data' : Option Payload}
  {m : MergedRequest}

/-! ## 1. Segments -/

/-- The segments of a client under names that the dashboard does not set, as they were sent. -/
def sentApart (dashboard : QueryParams) (client : Option String) : List (List Char) :=
  (clientSegments client).filter fun s => (pairOf s).1 ∉ dashboard.keys

/-- The segments that are read from a client's query string, under their names, without those of the
dashboard's names. -/
def readApart (dashboard : QueryParams) (client : Option String) : List (String × String) :=
  ((client.map fun query => (QuerySegments.parse query).entries).getD []).filter
    fun e => e.1 ∉ dashboard.keys

/-- **What is read under other names comes from the segments under other names**, whatever stands
between them. -/
theorem readApart_eq (dashboard : QueryParams) (client : Option String) :
    readApart dashboard client =
      Entries.ofPairs (((sentApart dashboard client).filter fun s => (pairOf s).1 ≠ "").map
        fun s => ((pairOf s).1, String.ofList s)) := by
  cases client with
  | none => rfl
  | some query =>
    rw [readApart, Option.map_some, Option.getD_some, parse_eq_ofPairs, sentApart,
      ← Entries.ofPairs_filter fun k => decide (k ∉ dashboard.keys), List.filter_map,
      List.filter_filter, List.filter_filter]
    refine congrArg (fun segments => Entries.ofPairs (List.map _ segments)) ?_
    exact List.filter_congr fun s _ => Bool.and_comm _ _

/-- What is forwarded are the client's segments that neither the dashboard nor the payload has a name
for. -/
theorem forwardedSegments_eq_filter (dashboard : QueryParams) (carried : List String)
    (client : Option String) :
    forwardedSegments dashboard carried client =
      (readApart dashboard client).filter fun e => e.1 ∉ carried := by
  cases client with
  | none => rfl
  | some query =>
    rw [forwardedSegments, readApart, Option.map_some, Option.getD_some, List.filter_filter]
    refine List.filter_congr fun e _ => ?_
    have hd : dashboard.contains e.1 = decide (e.1 ∈ dashboard.keys) := by
      rw [Bool.eq_iff_iff, decide_eq_true_iff]
      exact Entries.contains_iff
    simp [hd, Bool.and_comm]

/-! ## 2. Payloads -/

/-- The members of a map payload under names that the dashboard does not set. -/
def membersApart (dashboard : QueryParams) (members : Json.Members) : Json.Members :=
  members.filter fun m => m.1 ∉ dashboard.keys

theorem membersApart_cons (dashboard : QueryParams) (m : String × Json.Value)
    (members : Json.Members) :
    membersApart dashboard (m :: members) =
      if m.1 ∉ dashboard.keys then m :: membersApart dashboard members
      else membersApart dashboard members := by
  simp only [membersApart, List.filter_cons, decide_eq_true_eq]

/-- **Payloads agree apart from the dashboard's names**: they are the same, or both are maps with the
same names in the same order and, under all other names, the same members. -/
inductive AgreeApart (dashboard : QueryParams) : Option Payload → Option Payload → Prop
  | same (data : Option Payload) : AgreeApart dashboard data data
  | maps {members members' : Json.Members}
      (names : Entries.keys members = Entries.keys members')
      (values : membersApart dashboard members = membersApart dashboard members') :
      AgreeApart dashboard (some (.map members)) (some (.map members'))

/-- The dashboard's values take the place of whatever the members had under its names. -/
theorem overrideMembers_apart {dashboard : QueryParams} {members members' : Json.Members}
    (names : Entries.keys members = Entries.keys members')
    (values : membersApart dashboard members = membersApart dashboard members') :
    overrideMembers dashboard members = overrideMembers dashboard members' := by
  induction members generalizing members' with
  | nil =>
    obtain rfl : members' = [] := List.map_eq_nil_iff.mp names.symm
    rfl
  | cons m members ih =>
    cases members' with
    | nil => cases names
    | cons m' members' =>
      obtain ⟨k, v⟩ := m
      obtain ⟨k', v'⟩ := m'
      obtain ⟨rfl, later⟩ : k = k' ∧ Entries.keys members = Entries.keys members' :=
        List.cons.inj names
      rw [membersApart_cons, membersApart_cons] at values
      rw [overrideMembers, overrideMembers, List.map_cons, List.map_cons]
      dsimp only at values ⊢
      cases hdashboard : dashboard.get? k with
      | none =>
        have hk : k ∉ dashboard.keys := Entries.get?_eq_none_iff.mp hdashboard
        rw [if_pos hk, if_pos hk] at values
        obtain ⟨hfirst, hothers⟩ := List.cons.inj values
        cases hfirst
        exact congrArg _ (ih later hothers)
      | some s =>
        have hk : ¬ k ∉ dashboard.keys := fun hk => by
          cases (Entries.get?_eq_none_iff.mpr hk).symm.trans hdashboard
        rw [if_neg hk, if_neg hk] at values
        exact congrArg _ (ih later values)

/-- Payloads that agree apart from the dashboard's names make the same body and carry the same
names. -/
theorem AgreeApart.bodyOf_eq (h : AgreeApart provider.dashboard data data') :
    bodyOf provider data = bodyOf provider data' := by
  cases h with
  | same => rfl
  | maps names values => rw [bodyOf, bodyOf, overrideMembers_apart names values, names]

theorem AgreeApart.carriedNames_eq {dashboard : QueryParams} (h : AgreeApart dashboard data data') :
    carriedNames data = carriedNames data' := by
  cases h with
  | same => rfl
  | maps names _ => exact names

/-! ## 3. Merged requests -/

/-- A merged request has the body of the payload, and in its query string the dashboard's parameters
and what is forwarded. -/
theorem ofParts_eq_ok_iff :
    ofParts provider client data = .ok m ↔
      bodyOf provider data = .ok (m.body, m.contentType, carriedNames data) ∧
        m.queryString.toList = joinWith ['&'] (mergedSegments provider client data) := by
  constructor
  · intro h
    refine ⟨?_, toList_queryString h⟩
    rw [ofParts] at h
    cases hbody : bodyOf provider data with
    | error e =>
      rw [hbody] at h
      cases h
    | ok parts =>
      obtain ⟨body, contentType, carried⟩ := parts
      rw [hbody] at h
      cases h
      rw [carried_of_bodyOf hbody]
  · rintro ⟨hbody, hquery⟩
    obtain ⟨queryString, body, contentType⟩ := m
    obtain ⟨query, hmerged⟩ : ∃ query,
        ofParts provider client data = .ok ⟨query, body, contentType⟩ := by
      rw [ofParts, hbody]
      exact ⟨_, rfl⟩
    obtain rfl : query = queryString :=
      String.toList_injective ((toList_queryString hmerged).trans hquery.symm)
    exact hmerged

/-- Two query strings are merged alike exactly if the same segments of them are forwarded. -/
theorem mergedSegments_eq_iff :
    mergedSegments provider client data = mergedSegments provider client' data' ↔
      forwardedSegments provider.dashboard (carriedNames data) client =
        forwardedSegments provider.dashboard (carriedNames data') client' := by
  -- A forwarded segment has the name under which it is forwarded.
  have hnamed : ∀ (client : Option String) (data : Option Payload),
      forwardedSegments provider.dashboard (carriedNames data) client =
        ((forwardedNames provider client data).map (lastSegment client)).map
          fun s => ((pairOf s).1, String.ofList s) := by
    intro client data
    rw [forwardedSegments_eq, List.map_map]
    refine List.map_congr_left fun k hk => ?_
    rw [Function.comp_apply, (lastSegment_spec (mem_forwardedNames hk)).2]
  have htexts : ∀ (client : Option String) (data : Option Payload),
      (forwardedNames provider client data).map (lastSegment client) =
        (forwardedSegments provider.dashboard (carriedNames data) client).map (·.2.toList) := by
    intro client data
    rw [forwardedSegments_eq, List.map_map]
    exact List.map_congr_left fun k _ => String.toList_ofList.symm
  rw [mergedSegments, mergedSegments, List.append_cancel_left_eq]
  constructor
  · intro h
    rw [hnamed, hnamed, h]
  · intro h
    rw [htexts, htexts, h]

/-- **The dashboard's names are closed to clients.**  Segments as they were sent that agree apart from
the dashboard's names are read alike apart from them; query strings that are read alike apart from
them are merged into the same request, or rejected with the same error, if the payloads agree apart
from them too.  And a request that is merged is the same only if the segments agree under all names
that neither the dashboard nor the payload has. -/
theorem dashboard_names_inert (hdata : AgreeApart provider.dashboard data data') :
    (sentApart provider.dashboard client = sentApart provider.dashboard client' →
      readApart provider.dashboard client = readApart provider.dashboard client') ∧
    (readApart provider.dashboard client = readApart provider.dashboard client' →
      ofParts provider client data = ofParts provider client' data') ∧
    (∀ m, ofParts provider client data = .ok m →
      (ofParts provider client' data' = .ok m ↔
        (readApart provider.dashboard client).filter (·.1 ∉ carriedNames data) =
          (readApart provider.dashboard client').filter (·.1 ∉ carriedNames data))) := by
  refine ⟨fun h => ?_, fun h => ?_, fun m hm => ?_⟩
  · rw [readApart_eq, readApart_eq, h]
  · rw [ofParts, ofParts, hdata.bodyOf_eq]
    simp only [forwardedSegments_eq_filter, h]
  · obtain ⟨hbody, hquery⟩ := ofParts_eq_ok_iff.mp hm
    have hjoin : joinWith ['&'] (mergedSegments provider client data) =
        joinWith ['&'] (mergedSegments provider client' data') ↔
          mergedSegments provider client data = mergedSegments provider client' data' :=
      ⟨joinWith_inj (fun _ hs => mem_mergedSegments hs) (fun _ hs => mem_mergedSegments hs),
        congrArg _⟩
    rw [ofParts_eq_ok_iff, ← hdata.bodyOf_eq, ← hdata.carriedNames_eq, hquery, hjoin,
      mergedSegments_eq_iff, forwardedSegments_eq_filter,
      forwardedSegments_eq_filter, ← hdata.carriedNames_eq]
    exact and_iff_right hbody

namespace Example

/-- A client that says little under the dashboard's names. -/
def reserved : Option String × Option Payload :=
  (some "x=1&y=2&x=3", some (.map [("appid", .null), ("z", .string "4")]))

/-- The same client, saying much under them: in front of a segment, between two of one name, and in
the payload. -/
def insistent : Option String × Option Payload :=
  (some "?%61ppid=9&x=1&y=2&appid&x=3&secret=s", some (.map [("appid", Json.Value.int 9),
    ("z", .string "4")]))

theorem agreeApart_insistent :
    AgreeApart identified.dashboard reserved.2 insistent.2 := .maps rfl rfl

end Example

/-- All that the second client says more is lost. -/
theorem dashboard_names_inert_insistent :
    AgreeApart Example.identified.dashboard Example.reserved.2 Example.insistent.2 ∧
      sentApart Example.identified.dashboard Example.reserved.1 =
        sentApart Example.identified.dashboard Example.insistent.1 ∧
      ∃ m, m.queryString = "appid=1&secret=s&x=3&y=2" ∧
        ofParts Example.identified Example.reserved.1 Example.reserved.2 = .ok m ∧
        ofParts Example.identified Example.insistent.1 Example.insistent.2 = .ok m := by
  have hsent : sentApart Example.identified.dashboard Example.reserved.1 =
      sentApart Example.identified.dashboard Example.insistent.1 := by
    cbv
  have hread : readApart Example.identified.dashboard Example.reserved.1 =
      readApart Example.identified.dashboard Example.insistent.1 :=
    (dashboard_names_inert Example.agreeApart_insistent).1 hsent
  have hmerged : ofParts Example.identified Example.reserved.1 Example.reserved.2 =
      ofParts Example.identified Example.insistent.1 Example.insistent.2 :=
    (dashboard_names_inert Example.agreeApart_insistent).2.1 hread
  obtain ⟨m, hm⟩ : ∃ m, ofParts Example.identified Example.reserved.1 Example.reserved.2 = .ok m :=
    ⟨_, rfl⟩
  refine ⟨Example.agreeApart_insistent, hsent, m, ?_, hm, hmerged.symm.trans hm⟩
  cases hm
  cbv

end LoginGate.MergedRequest
