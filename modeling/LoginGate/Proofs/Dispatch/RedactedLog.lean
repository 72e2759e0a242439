/-
# Dashboard values do not show in the log

Before a provider is called, the merged query string is logged with the dashboard's values hidden.
The text that is logged is made by reading the merged string anew, so a value could show if reading
moved it under another name, or merged it with a client's pair.  It does not: what is read are the
dashboard's pairs as they are and behind them pairs of the client's segments, in which the values of
the dashboard have no part (`redact_queryString`).

So two configurations that differ in the values of dashboard parameters log the same
(`redacted_alike`).  A dashboard without parameters has no values, and only there may the reader cut
something off in front.
-/
import LoginGate.Proofs.DashboardValues
import LoginGate.Proofs.Dispatch.Plans
import LoginGate.Dispatch.Session

namespace LoginGate

open Text

variable {provider : Provider} {dashboard : QueryParams} {client : Option String}
  {data : Option Payload} {m m' : MergedRequest}

/-! ## 1. What the log shows -/

namespace Plan

/-- The value that is shown of a parameter: none that belongs to a name of the dashboard. -/
def shownValue (names : List String) (name value : String) : String :=
  if name ∈ names then "***" else value

/-- The text in which parameters are logged. -/
def shownText (pairs : List (String × String)) : String :=
  joinStrings "&" (pairs.map fun e => s!"{e.1}={e.2}")

theorem redact_eq_shownText (dashboard : QueryParams) (query : String) :
    redact dashboard query =
      shownText ((QueryParams.parse query).entries.map fun e =>
        (e.1, shownValue dashboard.keys e.1 e.2)) := by
  rw [redact, shownText, List.map_map]
  refine congrArg (joinStrings "&") (List.map_congr_left fun e _ => ?_)
  have hcontains : dashboard.contains e.1 = true ↔ e.1 ∈ dashboard.keys := Entries.contains_iff
  by_cases hname : e.1 ∈ dashboard.keys
  · simp only [shownValue, hname, hcontains.mpr hname, Function.comp_apply, if_true]
    exact (@String.append_assoc e.1 "=" "***").symm
  · simp [shownValue, hname, mt hcontains.mp hname]

/-- The parameters that are shown of a dashboard's names and of a client's segments behind them. -/
def shownPairs (names : List String) (segments : List (List Char)) : List (String × String) :=
  Entries.ofPairs ((names.map (fun k => (k, "***")) ++
    (segments.filter (!·.isEmpty)).map fun s =>
      ((MergedRequest.pairOf s).1,
        shownValue names (MergedRequest.pairOf s).1 (MergedRequest.pairOf s).2)).filter
          fun e => e.1 ≠ "")

/-- Of the dashboard's own pairs only the names are shown. -/
theorem map_shownValue_entries (dashboard : QueryParams) :
    (dashboard.entries.map fun e => (e.1, shownValue dashboard.keys e.1 e.2)) =
      dashboard.keys.map fun k => (k, "***") := by
  change _ = (dashboard.entries.map Prod.fst).map fun k => (k, "***")
  rw [List.map_map]
  refine List.map_congr_left fun e he => ?_
  have hname : e.1 ∈ dashboard.keys := List.mem_map_of_mem he
  rw [Function.comp_apply, shownValue, if_pos hname]

end Plan

namespace MergedRequest

/-- Segments that the reader comes upon in a merged query string hold no ampersand. -/
theorem ampersand_not_mem_read {s : List Char}
    (hs : s ∈ provider.dashboard.entries.map FormEncoded.writtenPair ++
      bareSegments provider client data) : '&' ∉ s := by
  refine ampersand_not_mem_segments
    (fun n hn => List.mem_of_mem_dropLast (l := forwardedNames provider client data) hn) s ?_
  rwa [List.append_assoc]

/-- **What is logged of a merged query string** knows of the dashboard its names only. -/
theorem redact_queryString (h : ofParts provider client data = .ok m)
    (hne : provider.dashboard.entries ≠ []) :
    Plan.redact provider.dashboard m.queryString =
      Plan.shownText
        (Plan.shownPairs provider.dashboard.keys (bareSegments provider client data)) := by
  rw [Plan.redact_eq_shownText,
    parse_joinWith (trimQuery_eq_joinWith h hne) (fun s hs => ampersand_not_mem_read hs),
    List.filter_append, FormEncoded.filter_isEmpty_writtenPair, List.map_append,
    map_pairOf_writtenPair,
    ← Entries.ofPairs_mapKeyed (Plan.shownValue provider.dashboard.keys), Plan.shownPairs,
    ← Plan.map_shownValue_entries]
  refine congrArg (fun pairs => Plan.shownText (Entries.ofPairs pairs)) ?_
  have hshown : (((bareSegments provider client data).filter (!·.isEmpty)).map pairOf).map
        (fun e => (e.1, Plan.shownValue provider.dashboard.keys e.1 e.2)) =
      ((bareSegments provider client data).filter (!·.isEmpty)).map fun s =>
        ((pairOf s).1, Plan.shownValue provider.dashboard.keys (pairOf s).1 (pairOf s).2) := by
    rw [List.map_map]
    rfl
  rw [← hshown, ← List.map_append, List.filter_map]
  rfl

/-! ## 2. Two configurations -/

/-- With other values on the dashboard, post data is forwarded or rejected as before. -/
theorem ofParts_alike (provider : Provider) (dashboard : QueryParams) (client : Option String)
    (data : Option Payload) :
    (∃ e, ofParts { provider with dashboard } client data = .error e ∧
        ofParts provider client data = .error e) ∨
      ∃ m' m, ofParts { provider with dashboard } client data = .ok m' ∧
        ofParts provider client data = .ok m ∧ m'.body.isSome = m.body.isSome := by
  cases data with
  | none => exact .inr ⟨_, _, rfl, rfl, rfl⟩
  | some payload =>
    cases payload with
    | map members => exact .inr ⟨_, _, rfl, rfl, rfl⟩
    | other v => exact .inl ⟨_, rfl, rfl⟩
    | text s =>
      simp only [ofParts, bodyOf]
      cases provider.forwardAsJson with
      | false => exact .inr ⟨_, _, rfl, rfl, rfl⟩
      | true => exact .inl ⟨_, rfl, rfl⟩
    | bytes bs =>
      simp only [ofParts, bodyOf]
      cases provider.forwardAsJson with
      | false => exact .inr ⟨_, _, rfl, rfl, rfl⟩
      | true => exact .inl ⟨_, rfl, rfl⟩

/-- The client's segments are read alike behind dashboards with the same names. -/
theorem bareSegments_alike (hkeys : dashboard.keys = provider.dashboard.keys) :
    bareSegments { provider with dashboard } client data = bareSegments provider client data := by
  have hnames : forwardedNames { provider with dashboard } client data =
      forwardedNames provider client data := by
    rw [forwardedNames, forwardedNames, hkeys]
  rw [bareSegments, bareSegments, bareLastSegment, bareLastSegment, hnames]

theorem redact_alike (hkeys : dashboard.keys = provider.dashboard.keys)
    (h' : ofParts { provider with dashboard } client data = .ok m')
    (h : ofParts provider client data = .ok m) :
    Plan.redact dashboard m'.queryString = Plan.redact provider.dashboard m.queryString := by
  have hlength : dashboard.entries.length = provider.dashboard.entries.length := by
    simpa [QueryParams.keys, Entries.keys] using congrArg List.length hkeys
  by_cases hne : provider.dashboard.entries = []
  · -- Without names there are no values that could differ.
    obtain rfl : dashboard = provider.dashboard := by
      have hnil : dashboard.entries = [] := List.length_eq_zero_iff.mp (by rw [hlength, hne]; rfl)
      obtain ⟨entries, nodup⟩ := dashboard
      obtain ⟨authType, baseUri, ⟨entries', nodup'⟩, forwardAsJson, rejectIfUnavailable⟩ := provider
      cases hnil
      cases hne
      rfl
    have hsame : ofParts provider client data = .ok m' := h'
    rw [h] at hsame
    rw [Except.ok.inj hsame]
  · have hne' : dashboard.entries ≠ [] := by
      rw [← List.length_pos_iff, hlength]
      exact List.length_pos_iff.mpr hne
    have hlogged := redact_queryString h' hne'
    rw [redact_queryString h hne, ← hkeys, ← bareSegments_alike hkeys]
    exact hlogged

end MergedRequest

/-- What is logged for the call of a provider is the merged query string, redacted. -/
theorem Plan.of_http_eq_call {p : Provider} {queue : Nat} {r : Request} {call : Call}
    {query : String} (h : Plan.http p queue r = .call p queue call query) :
    ∃ m, MergedRequest.ofParts p r.params r.data = .ok m ∧ call = m.toCall p.baseUri ∧
      query = redact p.dashboard m.queryString := by
  rw [http] at h
  split at h
  · cases h
  · split at h
    · cases h
    · rename_i m hm
      cases h
      exact ⟨m, hm, rfl, rfl⟩

theorem MergedRequest.body_toCall (m : MergedRequest) (baseUri : String) :
    (m.toCall baseUri).body = m.body := by
  rw [toCall]
  cases m.body <;> rfl

namespace MergedRequest

/-- **The log does not tell dashboard values.**  Two configurations whose dashboards have the same
names in the same order, and which are otherwise the same, reject the same post data and log the same
text for all other; and where both lead to a call, what is logged of it is the same. -/
theorem redacted_alike (hkeys : dashboard.keys = provider.dashboard.keys) :
    (∀ client data,
      (ofParts { provider with dashboard } client data).map
          (fun m => Plan.redact dashboard m.queryString) =
        (ofParts provider client data).map
          (fun m => Plan.redact provider.dashboard m.queryString)) ∧
    (∀ r queue call query call' query',
      Plan.http { provider with dashboard } queue r =
          .call { provider with dashboard } queue call' query' →
        Plan.http provider queue r = .call provider queue call query →
          LogEvent.callingProvider query' call'.body.isSome =
            LogEvent.callingProvider query call.body.isSome) := by
  constructor
  · intro client data
    obtain ⟨e, h', h⟩ | ⟨m', m, h', h, -⟩ := ofParts_alike provider dashboard client data
    · simp only [h', h, Except.map]
    · simp only [h', h, Except.map, redact_alike hkeys h' h]
  · intro r queue call query call' query' hcall' hcall
    obtain ⟨m', h', hmade', hquery'⟩ := Plan.of_http_eq_call hcall'
    obtain ⟨m, h, hmade, hquery⟩ := Plan.of_http_eq_call hcall
    rw [hmade', hmade, hquery', hquery, body_toCall, body_toCall, redact_alike hkeys h' h]
    obtain ⟨e, herror, -⟩ | ⟨n', n, hn', hn, hbody⟩ :=
      ofParts_alike provider dashboard r.params r.data
    · cases h'.symm.trans herror
    · cases h'.symm.trans hn'
      cases h.symm.trans hn
      rw [hbody]

namespace Example

/-- Other values under the names of a dashboard, among them signs of the query string and of the
log. -/
def disguised : QueryParams :=
  { entries := [("appid", "&secret=***"), ("secret", " ?s&x=1 ")] }

end Example

/-- The client's last segment takes the place of a dashboard parameter, and still nothing shows. -/
theorem redacted_alike_disguised :
    Example.disguised.keys = Example.identified.dashboard.keys ∧
      ∃ m' m,
        ofParts { Example.identified with dashboard := Example.disguised } (some "x=2&appid &secret")
          none = .ok m' ∧
        ofParts Example.identified (some "x=2&appid &secret") none = .ok m ∧
        m'.queryString = "appid=%26secret%3D***&secret=+%3Fs%26x%3D1+&x=2&appid " ∧
        Plan.redact Example.disguised m'.queryString = "appid=***&secret=***&x=2" ∧
        Plan.redact Example.identified.dashboard m.queryString = "appid=***&secret=***&x=2" := by
  have hkeys : Example.disguised.keys = Example.identified.dashboard.keys := by decide
  have hmerged : ∀ provider client, ∃ m, ofParts provider client none = .ok m :=
    fun _ _ => ⟨_, rfl⟩
  obtain ⟨m, hm⟩ := hmerged Example.identified (some "x=2&appid &secret")
  obtain ⟨m', hm'⟩ := hmerged { Example.identified with dashboard := Example.disguised }
    (some "x=2&appid &secret")
  have hshown : Plan.redact Example.identified.dashboard m.queryString =
      "appid=***&secret=***&x=2" := by
    cases hm
    cbv
  have halike := (redacted_alike hkeys).1 (some "x=2&appid &secret") none
  rw [hm, hm'] at halike
  refine ⟨hkeys, m', m, hm', hm, ?_, (Except.ok.inj halike).trans hshown, hshown⟩
  cases hm'
  cbv

end MergedRequest

end LoginGate
