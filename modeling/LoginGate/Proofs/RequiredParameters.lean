/-
# Required parameters and what reaches the provider

Before a call is merged, the parameters that a rule wants from the client are looked for in its query
string and in a map payload (`Request.Sends`).  Merging then puts the dashboard's values first and
the payload's names second, and drops what the query string has under either.  So a parameter that
was found is not always one that reaches the provider: it does unless what wins over the query string
says nothing (`Request.IsOverruled`), and then it does not (`carries_iff_not_overruled`).
-/
import LoginGate.Rules
import LoginGate.Proofs.DashboardValues

namespace LoginGate

/-! ## 1. The check -/

namespace Json.Value

/-- The value says something: it is neither null nor the empty string. -/
def IsUsable (v : Json.Value) : Prop := v ≠ .null ∧ v ≠ .string ""

end Json.Value

namespace Request

/-- The client sends the parameter, in its query string or in a map payload. -/
def Sends (client : Option String) (data : Option Payload) (name : String) : Prop :=
  (∃ query value, client = some query ∧ (QueryParams.parse query).get? name = some value ∧
      value ≠ "") ∨
    ∃ members value, data = some (.map members) ∧ Entries.get? name members = some value ∧
      value.IsUsable

end Request

/-- The dashboard sets the parameter to something. -/
def Provider.Sets (p : Provider) (name : String) : Prop :=
  ∃ value, p.param? name = some value ∧ value ≠ ""

namespace ProviderRule

theorem isGiven_iff {v : Json.Value} : isGiven v = true ↔ v.IsUsable := by
  cases v <;> simp [isGiven, Json.Value.IsUsable]

theorem clientHas_iff {client : Option String} {data : Option Payload} {name : String} :
    clientHas ((client.map QueryParams.parse).getD QueryParams.empty) (data.bind Payload.asMap)
      name = true ↔ Request.Sends client data name := by
  have hquery : (((client.map QueryParams.parse).getD QueryParams.empty).get? name).any
      (· ≠ "") = true ↔ ∃ query value, client = some query ∧
        (QueryParams.parse query).get? name = some value ∧ value ≠ "" := by
    cases client with
    | none => simp [QueryParams.get?, QueryParams.empty]
    | some query => simp [Option.any_eq_true]
  have hmap : ((data.bind Payload.asMap).bind (Entries.get? name)).any isGiven = true ↔
      ∃ members value, data = some (.map members) ∧ Entries.get? name members = some value ∧
        value.IsUsable := by
    simp only [Option.any_eq_true, Option.bind_eq_some_iff, isGiven_iff]
    constructor
    · rintro ⟨value, ⟨members, ⟨payload, rfl, hpayload⟩, hget⟩, husable⟩
      cases payload with
      | map ms =>
        cases hpayload
        exact ⟨_, value, rfl, hget, husable⟩
      | _ => cases hpayload
    · rintro ⟨members, value, rfl, hget, husable⟩
      exact ⟨value, ⟨members, ⟨_, rfl, rfl⟩, hget⟩, husable⟩
  rw [clientHas, Bool.or_eq_true, hquery, hmap, Request.Sends]

theorem dashboardHas_iff {p : Provider} {name : String} :
    dashboardHas p name = true ↔ p.Sets name := by
  simp [dashboardHas, Option.any_eq_true, Provider.Sets]

/-- **Nothing is missing** if the client sends every parameter that the rule wants from it, and the
dashboard sets every other one. -/
theorem missing?_eq_none_iff {rule : ProviderRule} {p : Provider} {client : Option String}
    {data : Option Payload} :
    rule.missing? p ((client.map QueryParams.parse).getD QueryParams.empty)
        (data.bind Payload.asMap) = none ↔
      (∀ name ∈ rule.client, Request.Sends client data name) ∧
        ∀ name ∈ rule.dashboard, p.Sets name := by
  simp only [missing?, Option.map_eq_none_iff, Option.or_eq_none_iff, List.find?_eq_none,
    Bool.not_eq_true', Bool.not_eq_false, clientHas_iff, dashboardHas_iff]

theorem client_ne_empty {t : AuthType} {rule : ProviderRule} (hrule : of? t = some rule)
    {name : String} (hname : name ∈ rule.client) : name ≠ "" := by
  have hall : ∀ rule ∈ all, "" ∉ rule.client := by decide
  rintro rfl
  exact hall rule (List.mem_of_find?_eq_some hrule) hname

end ProviderRule

namespace MergedRequest

open Text

variable {provider : Provider} {client : Option String} {data : Option Payload} {m : MergedRequest}
  {name : String}

/-! ## 2. What a merged request carries -/

/-- The members of the JSON body that is made of post data. -/
def jsonMembers (provider : Provider) : Option Payload → Option Json.Members
  | some (.map members) => some (overrideMembers provider.dashboard members)
  | _ => none

/-- The merged request carries the parameter with a value that says something, in its query string
or in its JSON body. -/
def Carries (m : MergedRequest) (json : Option Json.Members) (name : String) : Prop :=
  (∃ value, (name, value) ∈ FormEncoded.decodePairs (Utf8.bytes m.queryString) ∧ value ≠ "") ∨
    ∃ members value, json = some members ∧ Entries.get? name members = some value ∧ value.IsUsable

/-- The body of a map payload is its text with the dashboard's values. -/
theorem body_of_jsonMembers (h : ofParts provider client data = .ok m) {members : Json.Members}
    (hjson : jsonMembers provider data = some members) :
    m.body = some (Utf8.encode (Json.Value.object members).write) ∧
      m.contentType = some jsonContentType := by
  rw [jsonMembers.eq_def] at hjson
  split at hjson
  · cases hjson
    cases h
    exact ⟨rfl, rfl⟩
  · cases hjson

/-- The pairs of a merged query string are the dashboard's, and one of the client for each name that
is forwarded. -/
theorem mem_decodePairs_queryString (h : ofParts provider client data = .ok m) {value : String} :
    (name, value) ∈ FormEncoded.decodePairs (Utf8.bytes m.queryString) ↔
      provider.param? name = some value ∨
        name ∈ forwardedNames provider client data ∧
          (pairOf (lastSegment client name)).2 = value := by
  rw [decodePairs_queryString h, mergedSegments, List.map_append, map_pairOf_writtenPair,
    List.mem_append, List.map_map, List.mem_map]
  refine or_congr (Entries.get?_eq_some_iff provider.dashboard.nodup).symm ⟨?_, ?_⟩
  · rintro ⟨k, hk, hpair⟩
    obtain ⟨hname, hvalue⟩ := Prod.ext_iff.mp hpair
    have hsegment := (lastSegment_spec (mem_forwardedNames hk)).2
    obtain rfl : k = name := hsegment.symm.trans hname
    exact ⟨hk, hvalue⟩
  · rintro ⟨hforwarded, hvalue⟩
    exact ⟨name, hforwarded, Prod.ext (lastSegment_spec (mem_forwardedNames hforwarded)).2 hvalue⟩

theorem mem_forwardedNames_iff : name ∈ forwardedNames provider client data ↔
    name ∈ clientNames client ∧ provider.param? name = none ∧ name ∉ carriedNames data := by
  rw [forwardedNames, List.mem_filter, decide_eq_true_iff, Provider.param?, QueryParams.get?,
    Entries.get?_eq_none_iff]
  rfl

/-- The reader of query strings finds what the client's last segment of a name says. -/
theorem get?_parse_client {query value : String} (hname : name ≠ "")
    (h : (QueryParams.parse query).get? name = some value) :
    name ∈ clientNames (some query) ∧ (pairOf (lastSegment (some query) name)).2 = value := by
  rw [get?_parse_joinWith (joinWith_splitAt '&' (trimQuery query)).symm
    (fun s hs => not_mem_of_mem_splitAt hs) hname, ← find?_filter_isEmpty hname,
    List.filter_reverse] at h
  obtain ⟨s, hs, hvalue⟩ := Option.map_eq_some_iff.mp h
  have hpair : (pairOf s).1 = name := by simpa using List.find?_some hs
  have hlast : lastSegment (some query) name = s := by
    rw [lastSegment, clientSegments, hs, Option.getD_some]
  refine ⟨?_, hlast ▸ hvalue⟩
  rw [clientNames, List.mem_eraseDups, List.mem_filter, List.mem_map]
  exact ⟨⟨s, List.mem_reverse.mp (List.mem_of_find?_eq_some hs), hpair⟩, by simpa using hname⟩

/-- Every member keeps its place and its name. -/
theorem overrideMembers_eq_map (dashboard : QueryParams) (members : Json.Members) :
    overrideMembers dashboard members = members.map fun e =>
      (e.1, ((dashboard.get? e.1).map .string).getD e.2) := by
  refine List.map_congr_left fun e _ => ?_
  obtain ⟨k, v⟩ := e
  dsimp only
  cases dashboard.get? k <;> rfl

/-- The dashboard's value stands for every member that the dashboard sets. -/
theorem get?_overrideMembers (dashboard : QueryParams) (members : Json.Members) (name : String) :
    Entries.get? name (overrideMembers dashboard members) =
      (Entries.get? name members).map fun v => ((dashboard.get? name).map .string).getD v := by
  rw [overrideMembers_eq_map]
  exact Entries.get?_mapKeyed (fun k v => ((dashboard.get? k).map .string).getD v) name members

/-- A member says something in the JSON body if what wins for its name does. -/
theorem get?_jsonMembers {members : Json.Members} :
    (∃ json value, jsonMembers provider (some (.map members)) = some json ∧
        Entries.get? name json = some value ∧ value.IsUsable) ↔
      ∃ value, Entries.get? name members = some value ∧
        (((provider.param? name).map Json.Value.string).getD value).IsUsable := by
  constructor
  · rintro ⟨json, value, hjson, hget, husable⟩
    cases hjson
    rw [get?_overrideMembers] at hget
    obtain ⟨v, hv, rfl⟩ := Option.map_eq_some_iff.mp hget
    exact ⟨v, hv, husable⟩
  · rintro ⟨v, hv, husable⟩
    refine ⟨_, _, rfl, ?_, husable⟩
    rw [get?_overrideMembers, hv]
    rfl

/-! ## 3. What passes the check and what arrives -/

/-- What wins over the client's query string says nothing: the dashboard sets the parameter to the
empty value, or a map payload has it as null or as the empty string and the dashboard does not set
it. -/
def IsOverruled (provider : Provider) (data : Option Payload) (name : String) : Prop :=
  provider.param? name = some "" ∨
    provider.param? name = none ∧ ∃ members value, data = some (.map members) ∧
      Entries.get? name members = some value ∧ ¬ value.IsUsable

/-- A parameter of the dashboard is carried unless it is empty. -/
theorem carries_of_dashboard (h : ofParts provider client data = .ok m) {v : String}
    (hv : provider.param? name = some v) :
    m.Carries (jsonMembers provider data) name ↔ v ≠ "" := by
  refine ⟨?_, fun hne => .inl ⟨v, (mem_decodePairs_queryString h).mpr (.inl hv), hne⟩⟩
  rintro (⟨value, hpair, hne⟩ | ⟨json, value, hjson, hget, husable⟩)
  · rcases (mem_decodePairs_queryString h).mp hpair with hdashboard | ⟨hforwarded, -⟩
    · rwa [Option.some.inj (hv.symm.trans hdashboard)]
    · rw [(mem_forwardedNames_iff.mp hforwarded).2.1] at hv
      cases hv
  · rintro rfl
    cases data with
    | none => cases hjson
    | some payload =>
      cases payload with
      | map members =>
        obtain ⟨_, -, hempty⟩ := get?_jsonMembers.mp ⟨json, value, hjson, hget, husable⟩
        rw [hv] at hempty
        exact hempty.2 rfl
      | _ => cases hjson

/-- A parameter that the dashboard does not set and a map payload has is carried in the body, if at
all. -/
theorem carries_of_payload (h : ofParts provider client data = .ok m)
    (hfree : provider.param? name = none) {members : Json.Members} {v : Json.Value}
    (hdata : data = some (.map members)) (hv : Entries.get? name members = some v) :
    m.Carries (jsonMembers provider data) name ↔ v.IsUsable := by
  subst hdata
  have hcarried : name ∈ carriedNames (some (.map members)) :=
    Entries.get?_isSome_iff.mp (Option.isSome_iff_exists.mpr ⟨v, hv⟩)
  refine ⟨?_, fun husable => .inr (get?_jsonMembers.mpr ⟨v, hv, ?_⟩)⟩
  · rintro (⟨value, hpair, -⟩ | hjson)
    · rcases (mem_decodePairs_queryString h).mp hpair with hdashboard | ⟨hforwarded, -⟩
      · rw [hfree] at hdashboard
        cases hdashboard
      · exact absurd hcarried (mem_forwardedNames_iff.mp hforwarded).2.2
    · obtain ⟨value, hvalue, husable⟩ := get?_jsonMembers.mp hjson
      rw [hfree] at husable
      exact Option.some.inj (hv.symm.trans hvalue) ▸ husable
  · rwa [hfree]

/-- A parameter that nobody but the client's query string sets is carried in the query string. -/
theorem carries_of_query (h : ofParts provider client data = .ok m) (hname : name ≠ "")
    (hfree : provider.param? name = none) (hcarried : name ∉ carriedNames data)
    (hsent : Request.Sends client data name) : m.Carries (jsonMembers provider data) name := by
  rcases hsent with ⟨query, value, rfl, hget, hne⟩ | ⟨members, value, rfl, hget, -⟩
  · obtain ⟨hclient, hvalue⟩ := get?_parse_client hname hget
    exact .inl ⟨value, (mem_decodePairs_queryString h).mpr
      (.inr ⟨mem_forwardedNames_iff.mpr ⟨hclient, hfree, hcarried⟩, hvalue⟩), hne⟩
  · exact absurd (Entries.get?_isSome_iff.mp (Option.isSome_iff_exists.mpr ⟨value, hget⟩)) hcarried

/-- **A required parameter that passes the check reaches the provider unless it is overruled.**  The
body of a map payload is the text of its members with the dashboard's values, and each parameter that
the rule wants from the client stands in the merged query string with a value that is not empty, or
in that body with one that is neither null nor empty, exactly if it is not overruled. -/
theorem carries_iff_not_overruled {rule : ProviderRule}
    (hrule : ProviderRule.of? provider.authType = some rule)
    (hcheck : rule.missing? provider ((client.map QueryParams.parse).getD QueryParams.empty)
      (data.bind Payload.asMap) = none)
    (h : ofParts provider client data = .ok m) :
    (∀ members, jsonMembers provider data = some members →
      m.body = some (Utf8.encode (Json.Value.object members).write) ∧
        m.contentType = some jsonContentType) ∧
    ∀ name ∈ rule.client,
      m.Carries (jsonMembers provider data) name ↔ ¬ IsOverruled provider data name := by
  refine ⟨fun members hjson => body_of_jsonMembers h hjson, fun name hname => ?_⟩
  have hsent := (ProviderRule.missing?_eq_none_iff.mp hcheck).1 name hname
  cases hdashboard : provider.param? name with
  | some v =>
    rw [carries_of_dashboard h hdashboard, IsOverruled, hdashboard]
    simp
  | none =>
    by_cases hcarried : name ∈ carriedNames data
    · obtain ⟨members, rfl⟩ : ∃ members, data = some (.map members) := by
        rw [carriedNames.eq_def] at hcarried
        split at hcarried
        · exact ⟨_, rfl⟩
        · exact absurd hcarried List.not_mem_nil
      obtain ⟨v, hv⟩ := Option.isSome_iff_exists.mp (Entries.get?_isSome_iff.mpr hcarried)
      rw [carries_of_payload h hdashboard rfl hv, IsOverruled, hdashboard]
      simp [hv]
    · refine iff_of_true
        (carries_of_query h (ProviderRule.client_ne_empty hrule hname) hdashboard hcarried hsent) ?_
      rintro (hempty | ⟨-, members, value, rfl, hget, -⟩)
      · rw [hdashboard] at hempty
        cases hempty
      · exact hcarried (Entries.get?_isSome_iff.mp (Option.isSome_iff_exists.mpr ⟨value, hget⟩))

namespace Example

/-- A headset's login service. -/
def oculus : Provider :=
  { authType := .oculus
    baseUri := "https://id.example/oculus"
    dashboard := { entries := [("appid", "1"), ("appsecret", "s")] } }

/-- A client that sends one parameter in its query string only, and one in its payload as well. -/
def split : Option String × Option Payload :=
  (some "userid=u&nonce=q", some (.map [("nonce", .string "n")]))

end Example

/-- One parameter arrives in the query string, and one in the body. -/
theorem carries_iff_not_overruled_split :
    ∃ rule m, ProviderRule.of? Example.oculus.authType = some rule ∧
      rule.missing? Example.oculus
        ((Example.split.1.map QueryParams.parse).getD QueryParams.empty)
        (Example.split.2.bind Payload.asMap) = none ∧
      ofParts Example.oculus Example.split.1 Example.split.2 = .ok m ∧
      m.queryString = "appid=1&appsecret=s&userid=u" ∧
      m.Carries (some [("nonce", .string "n")]) "userid" ∧
      m.Carries (some [("nonce", .string "n")]) "nonce" := by
  have hcheck : ProviderRule.missing? ⟨.oculus, ["userid", "nonce"], ["appid", "appsecret"]⟩
      Example.oculus ((Example.split.1.map QueryParams.parse).getD QueryParams.empty)
      (Example.split.2.bind Payload.asMap) = none := by
    cbv
  obtain ⟨m, hm⟩ : ∃ m, ofParts Example.oculus Example.split.1 Example.split.2 = .ok m := ⟨_, rfl⟩
  have hrule : ProviderRule.of? Example.oculus.authType =
      some ⟨.oculus, ["userid", "nonce"], ["appid", "appsecret"]⟩ := rfl
  obtain ⟨-, hcarries⟩ := carries_iff_not_overruled hrule hcheck hm
  have hfree : ∀ name ∈ ["userid", "nonce"], Example.oculus.param? name = none := by decide
  refine ⟨_, m, hrule, hcheck, hm, ?_, (hcarries "userid" (by decide)).mpr ?_,
    (hcarries "nonce" (by decide)).mpr ?_⟩
  · cases hm
    cbv
  · rintro (hempty | ⟨-, members, value, hdata, hget, -⟩)
    · rw [hfree "userid" (by decide)] at hempty
      cases hempty
    · cases hdata
      cases hget
  · rintro (hempty | ⟨-, members, value, hdata, hget, husable⟩)
    · rw [hfree "nonce" (by decide)] at hempty
      cases hempty
    · cases hdata
      cases hget
      exact husable ⟨by simp, by simp⟩

/-- Not every parameter that passes the check reaches the provider: the client's ticket is dropped in
favour of the empty one of its payload. -/
theorem checked_ticket_dropped :
    ¬ ∀ (provider : Provider) (rule : ProviderRule) (client : Option String)
      (data : Option Payload) (m : MergedRequest),
      ProviderRule.of? provider.authType = some rule →
      rule.missing? provider ((client.map QueryParams.parse).getD QueryParams.empty)
        (data.bind Payload.asMap) = none →
      ofParts provider client data = .ok m →
      ∀ name ∈ rule.client, m.Carries (jsonMembers provider data) name := by
  intro hall
  let provider : Provider :=
    { authType := .steam
      baseUri := "https://id.example/steam"
      dashboard := { entries := [("appid", "1"), ("apiKeySecret", "k")] } }
  have hcheck : ProviderRule.missing? ⟨.steam, ["ticket"], ["appid", "apiKeySecret"]⟩ provider
      (QueryParams.parse "ticket=t") (some [("ticket", .string "")]) = none := by
    cbv
  have hcarries := hall provider _ (some "ticket=t") (some (.map [("ticket", .string "")])) _ rfl
    hcheck rfl "ticket" List.mem_cons_self
  rw [carries_of_payload rfl (by decide) rfl rfl] at hcarries
  exact hcarries.2 rfl

end MergedRequest

end LoginGate
