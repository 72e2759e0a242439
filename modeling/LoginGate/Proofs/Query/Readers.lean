/-
# Both readers of a query string agree

A client's query string is read twice.  The check for required parameters looks at its decoded
parameters (`QueryParams.parse`), while a merged request forwards its segments as they came
(`QuerySegments.parse`).  The first reader cuts and decodes the bytes of the whole text; the second
one cuts the text, and decodes nothing but names.  If they differed over a separator, an escape or a
repeated name, a provider would be sent something else than what was checked.

They do not (`readers_agree`).  What a segment says is put in terms of its first equals sign alone
(`nameOf`, `valueOf`), not in those of either reader.  The argument is about all segments at once:
changing values commutes with inserting pairs, so the segments that are kept become the parameters
when their values are decoded (`entries_parse`), and places and repetitions need no second look.
-/
import LoginGate.Proofs.DashboardValues

namespace LoginGate.QuerySegments

open Text MergedRequest

/-! ## 1. Segments -/

/-- The segments of a query string, empty ones among them. -/
def segmentsOf (query : String) : List (List Char) := splitAt '&' (trimQuery query)

/-- The decoded text of a segment in front of its first equals sign, all of it where there is
none. -/
def nameOf (segment : List Char) : String :=
  FormEncoded.decode (Utf8.encode (segment.takeWhile (· ≠ '=')))

/-- The decoded text of a segment behind its first equals sign, empty where there is none. -/
def valueOf (segment : List Char) : String :=
  FormEncoded.decode (Utf8.encode (segment.dropWhile (· ≠ '=')).tail)

/-- The segment is the last one of a query string that has the name. -/
def IsLastOf (query name : String) (segment : List Char) : Prop :=
  ∃ front back, segmentsOf query = front ++ segment :: back ∧ nameOf segment = name ∧
    ∀ s ∈ back, nameOf s ≠ name

/-- The pair of a segment is what stands on the two sides of its first equals sign. -/
theorem pairOf_eq (segment : List Char) : pairOf segment = (nameOf segment, valueOf segment) := by
  cases hcut : cutFirst '=' segment with
  | none =>
    have hpass := decide_ne_of_not_mem (cutFirst_eq_none_iff.mp hcut)
    rw [pairOf_of_cutFirst_eq_none hcut, nameOf, valueOf, List.takeWhile_eq_self_iff.mpr hpass,
      List.dropWhile_eq_nil_iff.mpr hpass, List.tail_nil, Utf8.encode_nil,
      FormEncoded.decode_nil]
  | some parts =>
    obtain ⟨front, back⟩ := parts
    obtain ⟨rfl, hfront⟩ := cutFirst_eq_some_iff.mp hcut
    have hpass := decide_ne_of_not_mem hfront
    rw [pairOf_of_cutFirst hcut, nameOf, valueOf, List.takeWhile_append_of_pos hpass,
      List.dropWhile_append_of_pos hpass]
    simp

/-! ## 2. Names and values -/

/-- **The parameters are the decoded segments**: same names in the same order, and the value that
each segment holds. -/
theorem entries_parse (query : String) :
    (QueryParams.parse query).entries =
      (QuerySegments.parse query).entries.map fun e => (e.1, valueOf e.2.toList) := by
  -- Both readers insert the segments that have a name; the values are decoded before or after it.
  rw [parse_joinWith (joinWith_splitAt '&' (trimQuery query)).symm
    (fun s hs => not_mem_of_mem_splitAt hs), parse_eq_ofPairs,
    ← Entries.ofPairs_mapKeyed (fun _ (text : String) => valueOf text.toList), List.map_map,
    List.filter_map]
  refine congrArg Entries.ofPairs (List.map_congr_left fun s _ => ?_)
  simp [pairOf_eq]

/-- The parameters, each with the value of the last segment of its name. -/
theorem entries_parse_eq_map (query : String) :
    (QueryParams.parse query).entries =
      (clientNames (some query)).map fun k => (k, valueOf (lastSegment (some query) k)) := by
  rw [entries_parse, parse_entries, List.map_map]
  refine List.map_congr_left fun k _ => ?_
  rw [Function.comp_apply, String.toList_ofList]

theorem keys_parse (query : String) : (QueryParams.parse query).keys = clientNames (some query) := by
  rw [QueryParams.keys, entries_parse_eq_map, Entries.keys, List.map_map]
  exact List.map_id' _

/-- A query string sets the proper names of its segments, in the order in which they first occur. -/
theorem clientNames_eq (query : String) :
    clientNames (some query) = (((segmentsOf query).map nameOf).filter (· ≠ "")).eraseDups := by
  have hname : (fun s => (pairOf s).1) = nameOf := funext fun s => by rw [pairOf_eq]
  rw [clientNames, clientSegments, hname, List.filter_map, List.filter_map, List.filter_filter,
    segmentsOf]
  congr 2
  -- An empty segment has the empty name, so it need not be left out twice.
  refine List.filter_congr fun s _ => ?_
  by_cases hs : s = []
  · subst hs
    simp [← hname, pairOf_nil]
  · simp [hs]

/-- A query string sets no empty name. -/
theorem empty_not_mem_keys_parse (query : String) : "" ∉ (QueryParams.parse query).keys := by
  rw [keys_parse, clientNames, List.mem_eraseDups]
  simp

/-! ## 3. The segment of a name -/

/-- The segment that is kept for a name is found from the end of the query string. -/
theorem find?_lastSegment {query k : String} (hk : k ∈ clientNames (some query)) :
    (segmentsOf query).reverse.find? (fun s => (pairOf s).1 = k) =
      some (lastSegment (some query) k) := by
  have hne : k ≠ "" := by
    rintro rfl
    exact empty_not_mem_keys_parse query (keys_parse query ▸ hk)
  have hfind : (clientSegments (some query)).reverse.find? (fun s => (pairOf s).1 = k) =
      (segmentsOf query).reverse.find? fun s => (pairOf s).1 = k := by
    rw [clientSegments, ← List.filter_reverse, find?_filter_isEmpty hne, segmentsOf]
  -- Something is found, for what is taken otherwise is the empty segment.
  have hlast := (mem_clientSegments (lastSegment_spec hk).1).1
  rw [lastSegment, hfind] at hlast ⊢
  cases hs : (segmentsOf query).reverse.find? fun s => (pairOf s).1 = k with
  | none => simp [hs] at hlast
  | some s => rfl

/-- **The segment that is kept for a name is the last one of that name.** -/
theorem isLastOf_lastSegment {query k : String} (hk : k ∈ clientNames (some query)) :
    IsLastOf query k (lastSegment (some query) k) := by
  obtain ⟨hname, back, front, hsegments, hback⟩ :=
    List.find?_eq_some_iff_append.mp (find?_lastSegment hk)
  simp only [pairOf_eq, decide_eq_true_eq] at hname
  refine ⟨front.reverse, back.reverse, ?_, hname, ?_⟩
  · rw [← List.reverse_reverse (segmentsOf query), hsegments]
    simp
  · intro s hs
    simpa [pairOf_eq] using hback s (List.mem_reverse.mp hs)

/-! ## 4. What is checked and what is sent -/

/-- A merged query string is read as the dashboard's pairs and then the parameters of the client's
query string that nobody else sets. -/
theorem decodePairs_ofParts {provider : Provider} {query : String} {data : Option Payload}
    {m : MergedRequest} (h : ofParts provider (some query) data = .ok m) :
    FormEncoded.decodePairs (Utf8.bytes m.queryString) =
      provider.dashboard.entries ++ (QueryParams.parse query).entries.filter fun e =>
        e.1 ∉ provider.dashboard.keys ∧ e.1 ∉ carriedNames data := by
  have hkept : ((QueryParams.parse query).entries.filter fun e =>
      e.1 ∉ provider.dashboard.keys ∧ e.1 ∉ carriedNames data) =
        (forwardedNames provider (some query) data).map fun k =>
          (k, valueOf (lastSegment (some query) k)) := by
    rw [entries_parse_eq_map, List.filter_map, forwardedNames]
    rfl
  have hsent : ((forwardedNames provider (some query) data).map
      (lastSegment (some query))).map pairOf =
        (forwardedNames provider (some query) data).map fun k =>
          (k, valueOf (lastSegment (some query) k)) := by
    rw [List.map_map]
    refine List.map_congr_left fun k hk => ?_
    have hname := (lastSegment_spec (mem_forwardedNames hk)).2
    rw [pairOf_eq] at hname
    rw [Function.comp_apply, pairOf_eq]
    exact Prod.ext hname rfl
  rw [decodePairs_queryString h, mergedSegments, List.map_append, map_pairOf_writtenPair, hsent,
    hkept]

/-- **Both readers of a query string agree.**  They find the same names in the same order: the
names of its segments, each at its first occurrence and none of them empty.  The segment under a name
is the last one of that name, and decoding the value that it holds yields the parameter.  So what is
read from a merged query string, behind the dashboard's pairs, are the parameters that were checked,
without those that the dashboard or the payload sets. -/
theorem readers_agree (query : String) :
    (QueryParams.parse query).keys = (((segmentsOf query).map nameOf).filter (· ≠ "")).eraseDups ∧
      Entries.keys (QuerySegments.parse query).entries = (QueryParams.parse query).keys ∧
      (QueryParams.parse query).keys.Nodup ∧ "" ∉ (QueryParams.parse query).keys ∧
      (∀ k segment, (k, segment) ∈ (QuerySegments.parse query).entries →
        IsLastOf query k segment.toList ∧
          (QueryParams.parse query).get? k = some (valueOf segment.toList)) ∧
      ∀ provider data m, ofParts provider (some query) data = .ok m →
        FormEncoded.decodePairs (Utf8.bytes m.queryString) =
          provider.dashboard.entries ++ (QueryParams.parse query).entries.filter fun e =>
            e.1 ∉ provider.dashboard.keys ∧ e.1 ∉ carriedNames data := by
  refine ⟨by rw [keys_parse, clientNames_eq], ?_, (QueryParams.parse query).nodup,
    empty_not_mem_keys_parse query, ?_, fun provider data m h => decodePairs_ofParts h⟩
  · rw [QueryParams.keys, entries_parse, Entries.keys, Entries.keys, List.map_map]
    rfl
  · intro k segment hsegment
    constructor
    · rw [parse_entries, List.mem_map] at hsegment
      obtain ⟨name, hname, heq⟩ := hsegment
      cases heq
      rw [String.toList_ofList]
      exact isLastOf_lastSegment hname
    · refine (Entries.get?_eq_some_iff (QueryParams.parse query).nodup).mpr ?_
      rw [entries_parse]
      exact List.mem_map_of_mem hsegment

namespace Example

/-- A query string that escapes a name in two ways, repeats two names, and holds ill-formed UTF-8,
broken escapes, empty segments and one without a name. -/
def query : String := " ??b+c=1&&x=%FF%2&=e&%62%20c=%2B+%zz=&é&x\t"

/-- A dashboard that sets one of its names. -/
def provider : Provider :=
  { authType := .custom
    baseUri := "https://id.example/check"
    dashboard := { entries := [("x", "0")] } }

end Example

/-- A name in two spellings, the last of them with an escape that is broken; and a name whose last
segment has no value, and which the dashboard sets. -/
theorem readers_agree_broken_escapes :
    ("b c", "%62%20c=%2B+%zz=") ∈ (QuerySegments.parse Example.query).entries ∧
      IsLastOf Example.query "b c" "%62%20c=%2B+%zz=".toList ∧
      (QueryParams.parse Example.query).get? "b c" = some "+ %zz=" ∧
      ("x", "x") ∈ (QuerySegments.parse Example.query).entries ∧
      (QueryParams.parse Example.query).get? "x" = some "" ∧
      (QueryParams.parse Example.query).keys = ["b c", "x", "é"] ∧
      ∃ m, ofParts Example.provider (some Example.query) none = .ok m ∧
        FormEncoded.decodePairs (Utf8.bytes m.queryString) =
          [("x", "0"), ("b c", "+ %zz="), ("é", "")] := by
  obtain ⟨-, -, -, -, hsegments, hmerged⟩ := readers_agree Example.query
  have hentries : (QuerySegments.parse Example.query).entries =
      [("b c", "%62%20c=%2B+%zz="), ("x", "x"), ("é", "é")] := by cbv
  have hb : ("b c", "%62%20c=%2B+%zz=") ∈ (QuerySegments.parse Example.query).entries := by
    rw [hentries]
    simp
  have hx : ("x", "x") ∈ (QuerySegments.parse Example.query).entries := by
    rw [hentries]
    simp
  obtain ⟨m, hm⟩ : ∃ m, ofParts Example.provider (some Example.query) none = .ok m := ⟨_, rfl⟩
  obtain ⟨hlast, hvalue⟩ := hsegments _ _ hb
  refine ⟨hb, hlast, hvalue.trans (by cbv), hx, (hsegments _ _ hx).2.trans (by cbv), by cbv, m, hm,
    (hmerged Example.provider none m hm).trans (by cbv)⟩

end LoginGate.QuerySegments
