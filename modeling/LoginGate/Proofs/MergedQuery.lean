/-
# The merged query string is read as it is meant

Two encodings meet in a merged query string: the dashboard's pairs are written anew, the client's
segments are pasted as they came.  This file says what is read from the whole (`queryString_pairs`):
the dashboard's pairs, then one pair for each name that the client sets and nobody else does, in the
order in which the client first sets them, with the value that it sets last.  The text holds the last
segment of such a name untouched.

A client's query string is what is left without the blanks around it and the question marks in front
(`clientSegments`); names are compared in their decoded form.
-/
import LoginGate.Merge
import LoginGate.Proofs.Entries
import LoginGate.Proofs.Text.FormEncoded
import Mathlib

namespace LoginGate.MergedRequest

open Text

/-! ## 1. What the client says -/

/-- The segments of a client's query string; empty ones say nothing. -/
def clientSegments : Option String → List (List Char)
  | none => []
  | some query => (splitAt '&' (trimQuery query)).filter (!·.isEmpty)

/-- The decoded name and value of a segment. -/
def pairOf (segment : List Char) : String × String :=
  FormEncoded.decodeSegment (Utf8.encode segment)

/-- The names that a client sets, in the order of their first occurrence. -/
def clientNames (client : Option String) : List String :=
  (((clientSegments client).map fun s => (pairOf s).1).filter (· ≠ "")).eraseDups

/-- The last segment in which a client sets a name. -/
def lastSegment (client : Option String) (name : String) : List Char :=
  ((clientSegments client).reverse.find? fun s => (pairOf s).1 = name).getD []

/-- The names that a payload carries: those of a map. -/
def carriedNames : Option Payload → List String
  | some (.map members) => Entries.keys members
  | _ => []

/-- The client's names that are forwarded: those that neither the dashboard nor the payload has. -/
def forwardedNames (provider : Provider) (client : Option String) (data : Option Payload) :
    List String :=
  (clientNames client).filter fun k => k ∉ provider.dashboard.keys ∧ k ∉ carriedNames data

/-! ## 2. Segments by name -/

/-- An empty text is the only one that need not be decoded to see that it names nothing. -/
theorem decode_unless_empty (raw : List Char) :
    (if raw.isEmpty then none
      else
        let key := FormEncoded.decode (Utf8.encode raw)
        if key = "" then none else some key) =
      if FormEncoded.decode (Utf8.encode raw) = "" then none
      else some (FormEncoded.decode (Utf8.encode raw)) := by
  cases raw with
  | nil =>
    rw [Utf8.encode_nil, FormEncoded.decode_nil]
    rfl
  | cons c raw => rfl

/-- A segment has the name that its pair has, unless that is empty. -/
theorem name?_eq (segment : List Char) :
    QuerySegments.name? segment =
      if (pairOf segment).1 = "" then none else some (pairOf segment).1 := by
  have hcut : cutFirst 0x3D (Utf8.encode segment) = _ :=
    Utf8.cutFirst_encode (d := '=') (by decide) segment
  rw [QuerySegments.name?, pairOf, FormEncoded.decodeSegment, hcut]
  cases cutFirst '=' segment with
  | none => exact decode_unless_empty segment
  | some parts => exact decode_unless_empty parts.1

theorem pairOf_nil : (pairOf []).1 = "" := by cbv

/-- Written pairs are read as they were. -/
theorem map_pairOf_writtenPair (pairs : List (String × String)) :
    (pairs.map FormEncoded.writtenPair).map pairOf = pairs := by
  rw [List.map_map]
  exact List.map_id'' FormEncoded.decodeSegment_writtenPair _

/-- A search for a proper name passes over empty segments. -/
theorem find?_filter_isEmpty {k : String} (hk : k ≠ "") (segments : List (List Char)) :
    (segments.filter (!·.isEmpty)).find? (fun s => (pairOf s).1 = k) =
      segments.find? fun s => (pairOf s).1 = k := by
  rw [List.find?_filter]
  congr 1
  funext s
  by_cases hs : s = []
  · simp [hs, pairOf_nil, Ne.symm hk]
  · simp [hs]

theorem mem_clientSegments {client : Option String} {s : List Char} (h : s ∈ clientSegments client) :
    s ≠ [] ∧ '&' ∉ s := by
  cases client with
  | none => simp [clientSegments] at h
  | some query =>
    rw [clientSegments, List.mem_filter] at h
    exact ⟨by simpa using h.2, not_mem_of_mem_splitAt h.1⟩

/-- A name that the client sets has a last segment, and that segment sets the name. -/
theorem lastSegment_spec {client : Option String} {k : String} (hk : k ∈ clientNames client) :
    lastSegment client k ∈ clientSegments client ∧ (pairOf (lastSegment client k)).1 = k := by
  rw [clientNames, List.mem_eraseDups, List.mem_filter, List.mem_map] at hk
  obtain ⟨⟨s, hs, hsk⟩, -⟩ := hk
  have hfound : ((clientSegments client).reverse.find? fun s => (pairOf s).1 = k).isSome := by
    rw [List.find?_isSome]
    exact ⟨s, List.mem_reverse.mpr hs, by simpa using hsk⟩
  obtain ⟨last, hlast⟩ := Option.isSome_iff_exists.mp hfound
  have hname : (pairOf last).1 = k := by simpa using List.find?_some hlast
  rw [lastSegment, hlast, Option.getD_some]
  exact ⟨List.mem_reverse.mp (List.mem_of_find?_eq_some hlast), hname⟩

/-- Reading a client's query string inserts its segments one after another under their names. -/
theorem parse_eq_ofPairs (query : String) :
    (QuerySegments.parse query).entries =
      Entries.ofPairs (((clientSegments (some query)).filter fun s => (pairOf s).1 ≠ "").map
        fun s => ((pairOf s).1, String.ofList s)) := by
  refine congrArg Entries.ofPairs ?_
  rw [clientSegments, List.filter_filter, ← List.filterMap_eq_map, List.filterMap_filter]
  refine List.filterMap_congr ?_
  intro s _
  rw [name?_eq]
  by_cases hn : (pairOf s).1 = ""
  · simp [hn]
  · have hs : s ≠ [] := by
      rintro rfl
      exact hn pairOf_nil
    simp [hn, hs]

/-- Reading a client's query string keeps, for each name, its last segment. -/
theorem parse_entries (query : String) :
    (QuerySegments.parse query).entries =
      (clientNames (some query)).map fun k => (k, String.ofList (lastSegment (some query) k)) := by
  have hnames : ((clientSegments (some query)).filter fun s => (pairOf s).1 ≠ "").map
      (fun s => (pairOf s).1) = ((clientSegments (some query)).map fun s => (pairOf s).1).filter
        (· ≠ "") := by
    rw [List.filter_map]
    rfl
  rw [parse_eq_ofPairs]
  simp only [Entries.ofPairs_map, hnames]
  refine List.map_congr_left ?_
  intro k hk
  have hne : k ≠ "" := by simpa using (List.mem_filter.mp (List.mem_eraseDups.mp hk)).2
  -- A search for a proper name passes over the nameless segments anyway.
  have hfind : ((clientSegments (some query)).filter fun s => (pairOf s).1 ≠ "").reverse.find?
      (fun s => (pairOf s).1 = k) =
        (clientSegments (some query)).reverse.find? fun s => (pairOf s).1 = k := by
    rw [← List.filter_reverse, List.find?_filter]
    congr 1
    funext s
    by_cases hs : (pairOf s).1 = k
    · simp [hs, hne]
    · simp [hs]
  rw [hfind, lastSegment]
  cases (clientSegments (some query)).reverse.find? fun s => (pairOf s).1 = k with
  | none => rfl
  | some s => rfl

/-! ## 3. The merged text -/

theorem mem_forwardedNames {provider : Provider} {client : Option String} {data : Option Payload}
    {k : String} (h : k ∈ forwardedNames provider client data) : k ∈ clientNames client :=
  (List.mem_filter.mp h).1

/-- What is forwarded: the last segment of every name that is the client's alone. -/
theorem forwardedSegments_eq (provider : Provider) (client : Option String)
    (data : Option Payload) :
    forwardedSegments provider.dashboard (carriedNames data) client =
      (forwardedNames provider client data).map fun k =>
        (k, String.ofList (lastSegment client k)) := by
  cases client with
  | none => rfl
  | some query =>
    rw [forwardedSegments, parse_entries, List.filter_map, forwardedNames]
    congr 1
    refine List.filter_congr ?_
    intro k _
    have hd : provider.dashboard.contains k = decide (k ∈ provider.dashboard.keys) := by
      rw [Bool.eq_iff_iff, decide_eq_true_iff]
      exact Entries.contains_iff
    simp [hd]

theorem carried_of_bodyOf {provider : Provider} {data : Option Payload}
    {body : Option (List UInt8)} {contentType : Option String} {carried : List String}
    (h : bodyOf provider data = .ok (body, contentType, carried)) : carried = carriedNames data := by
  cases data with
  | none => simp_all [bodyOf, carriedNames]
  | some payload =>
    cases payload with
    | map members => simp_all [bodyOf, carriedNames]
    | text s => cases hf : provider.forwardAsJson <;> simp_all [bodyOf, carriedNames]
    | bytes bs => cases hf : provider.forwardAsJson <;> simp_all [bodyOf, carriedNames]
    | other v => simp [bodyOf] at h

/-- Segments behind joined pieces are joined with them. -/
theorem appendSegments_joinWith : ∀ {pieces segments : List (List Char)}, (∀ p ∈ pieces, p ≠ []) →
    (∀ s ∈ segments, s ≠ []) →
    appendSegments (joinWith ['&'] pieces) (segments.map String.ofList) =
      joinWith ['&'] (pieces ++ segments)
  | pieces, [], _, _ => by simp [appendSegments]
  | pieces, s :: segments, hp, hs => by
    have hstep : (if (joinWith ['&'] pieces).isEmpty then s
        else joinWith ['&'] pieces ++ '&' :: s) = joinWith ['&'] (pieces ++ [s]) := by
      by_cases hnil : pieces = []
      · subst hnil
        rfl
      · have hne : joinWith ['&'] pieces ≠ [] := fun h => hnil ((joinWith_eq_nil hp).mp h)
        rw [joinWith_concat _ _ hnil]
        simp [hne]
    have hps : ∀ p ∈ pieces ++ [s], p ≠ [] := by
      intro p h
      rcases List.mem_append.mp h with h | h
      · exact hp p h
      · rw [List.mem_singleton.mp h]
        exact hs s List.mem_cons_self
    have ih := appendSegments_joinWith hps (fun p h => hs p (List.mem_cons_of_mem s h))
    rw [List.append_assoc, List.singleton_append, ← hstep] at ih
    simpa [appendSegments] using ih

/-- The segments of a merged query string: the dashboard's, then the client's. -/
def mergedSegments (provider : Provider) (client : Option String) (data : Option Payload) :
    List (List Char) :=
  provider.dashboard.entries.map FormEncoded.writtenPair ++
    (forwardedNames provider client data).map (lastSegment client)

theorem mem_mergedSegments {provider : Provider} {client : Option String} {data : Option Payload}
    {s : List Char} (h : s ∈ mergedSegments provider client data) : s ≠ [] ∧ '&' ∉ s := by
  rw [mergedSegments, List.mem_append, List.mem_map, List.mem_map] at h
  rcases h with ⟨p, -, rfl⟩ | ⟨k, hk, rfl⟩
  · exact ⟨FormEncoded.writtenPair_ne_nil p, FormEncoded.ampersand_not_mem_writtenPair p⟩
  · exact mem_clientSegments (lastSegment_spec (mem_forwardedNames hk)).1

theorem toList_queryString {provider : Provider} {client : Option String} {data : Option Payload}
    {m : MergedRequest} (h : ofParts provider client data = .ok m) :
    m.queryString.toList = joinWith ['&'] (mergedSegments provider client data) := by
  rw [ofParts] at h
  cases hb : bodyOf provider data with
  | error e =>
    rw [hb] at h
    exact absurd h (by simp [bind, Except.bind])
  | ok parts =>
    obtain ⟨body, contentType, carried⟩ := parts
    rw [hb] at h
    cases h
    rw [String.toList_ofList, carried_of_bodyOf hb, forwardedSegments_eq, List.map_map,
      FormEncoded.encodePairs_eq]
    have hne : ∀ s ∈ mergedSegments provider client data, s ≠ [] :=
      fun s hs => (mem_mergedSegments hs).1
    have happ := appendSegments_joinWith (fun p hp => hne p (List.mem_append_left _ hp))
      (fun s hs => hne s (List.mem_append_right _ hs))
    rwa [List.map_map] at happ

/-! ## 4. What is read from it -/

/-- A merged query string is read segment by segment. -/
theorem decodePairs_queryString {provider : Provider} {client : Option String}
    {data : Option Payload} {m : MergedRequest} (h : ofParts provider client data = .ok m) :
    FormEncoded.decodePairs (Utf8.bytes m.queryString) =
      (mergedSegments provider client data).map pairOf := by
  rw [Utf8.bytes_eq_encode, toList_queryString h]
  exact FormEncoded.decodePairs_joinWith (fun s hs => (mem_mergedSegments hs).1)
    (fun s hs => (mem_mergedSegments hs).2)

/-- **A merged query string says what the dashboard says and then what only the client says.**  It
reads as the dashboard's pairs in their order, followed by one pair for each name that is the
client's alone, in the order of its first occurrence and with the value of its last one; its text
holds the client's last segments as they came. -/
theorem queryString_pairs {provider : Provider} {client : Option String} {data : Option Payload}
    {m : MergedRequest} (h : ofParts provider client data = .ok m) :
    FormEncoded.decodePairs (Utf8.bytes m.queryString) =
        provider.dashboard.entries ++
          (forwardedNames provider client data).map
            (fun k => (k, (pairOf (lastSegment client k)).2)) ∧
      m.queryString.toList =
        joinWith ['&']
          (provider.dashboard.entries.map FormEncoded.writtenPair ++
            (forwardedNames provider client data).map (lastSegment client)) := by
  have htext := toList_queryString h
  have hdashboard : (provider.dashboard.entries.map FormEncoded.writtenPair).map pairOf =
      provider.dashboard.entries := by
    rw [List.map_map]
    exact List.map_id'' FormEncoded.decodeSegment_writtenPair _
  have hclient : ((forwardedNames provider client data).map (lastSegment client)).map pairOf =
      (forwardedNames provider client data).map
        (fun k => (k, (pairOf (lastSegment client k)).2)) := by
    rw [List.map_map]
    refine List.map_congr_left ?_
    intro k hk
    exact Prod.ext (lastSegment_spec (mem_forwardedNames hk)).2 rfl
  refine ⟨?_, htext⟩
  rw [Utf8.bytes_eq_encode, htext,
    FormEncoded.decodePairs_joinWith (fun s hs => (mem_mergedSegments hs).1)
      (fun s hs => (mem_mergedSegments hs).2)]
  change (mergedSegments provider client data).map pairOf = _
  rw [mergedSegments, List.map_append, hdashboard, hclient]

namespace Example

/-- A dashboard with a name and a value that are not written as they are. -/
def provider : Provider :=
  { authType := .custom
    baseUri := "https://id.example/check"
    dashboard := { entries := [("app id", "1&2"), ("é", "")] } }

/-- A client that escapes its names in several ways, repeats one of them, leaves out names, values
and whole segments, and sets names that the dashboard and the payload have. -/
def client : String := " ?b+c=1&&%61pp+id=x&d&b%20c=%32+&=e&f=3&%C3%A9=4&d=%GG\t"

end Example

theorem queryString_pairs_mixed_client :
    ∃ m, ofParts Example.provider (some Example.client) (some (.map [("f", .null)])) = .ok m ∧
      m.queryString = "app+id=1%262&%C3%A9=&b%20c=%32+&d=%GG" ∧
      FormEncoded.decodePairs (Utf8.bytes m.queryString) =
        [("app id", "1&2"), ("é", ""), ("b c", "2 "), ("d", "%GG")] := by
  refine ⟨_, rfl, by cbv, ?_⟩
  have hpairs := @queryString_pairs Example.provider (some Example.client)
    (some (.map [("f", .null)])) _ rfl
  exact hpairs.1.trans (by cbv)

end LoginGate.MergedRequest
