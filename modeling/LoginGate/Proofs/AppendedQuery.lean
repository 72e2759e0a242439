/-
# The query string is appended to the URL

A configured URL may have a query of its own, the text behind its first question mark (`ownQuery`).
What the call's query is read as should then be the pairs of the URL's own query followed by those of
the merged query string.  An ampersand between the two keeps them apart wherever it stands
(`FormEncoded.decodePairs_ampersand`), and none is needed behind an ampersand or where the URL's own
query is empty.

The separator is chosen by the last character of the whole URL, however.  A question mark there also
ends a query that is **not** empty, since a value may hold question marks; then the last pair of the
URL and the first of the merged query string are read as one.  `call_query_pairs` says that nothing
else goes wrong.
-/
import LoginGate.Proofs.MergedQuery

namespace LoginGate

namespace Text.FormEncoded

/-- **What stands on the two sides of an ampersand is read apart.** -/
theorem decodePairs_ampersand (xs ys : List Char) :
    decodePairs (Utf8.encode (xs ++ '&' :: ys)) =
      decodePairs (Utf8.encode xs) ++ decodePairs (Utf8.encode ys) := by
  simp only [decodePairs_encode, splitAt_append_cons, List.filter_append, List.map_append]

@[simp] theorem decodePairs_nil : decodePairs [] = [] := rfl

end Text.FormEncoded

namespace MergedRequest

open Text

variable {provider : Provider} {client : Option String} {data : Option Payload} {m : MergedRequest}

/-! ## 1. URLs and their queries -/

/-- The part of a URL in front of its query. -/
def location (url : String) : List Char := url.toList.takeWhile (· ≠ '?')

/-- The query of a URL: the text behind the first question mark, empty where there is none. -/
def ownQuery (url : String) : List Char := ((cutFirst '?' url.toList).map Prod.snd).getD []

theorem toList_query (call : Call) : (call.query.getD "").toList = ownQuery call.url := by
  rw [Call.query, ownQuery]
  cases cutFirst '?' call.url.toList with
  | none => rfl
  | some parts => exact String.toList_ofList

/-- A URL with a query is its location, a question mark and the query. -/
theorem parts_of_query {url : String} {front query : List Char}
    (h : url.toList = front ++ '?' :: query) (hfront : '?' ∉ front) :
    location url = front ∧ ownQuery url = query := by
  have hcut : cutFirst '?' url.toList = some (front, query) := cutFirst_eq_some_iff.mpr ⟨h, hfront⟩
  refine ⟨?_, by rw [ownQuery, hcut]; rfl⟩
  rw [location, h, List.takeWhile_append_of_pos (decide_ne_of_not_mem hfront)]
  simp

/-- A URL without a question mark is all location. -/
theorem parts_of_no_query {url : String} (h : '?' ∉ url.toList) :
    location url = url.toList ∧ ownQuery url = [] := by
  refine ⟨?_, by rw [ownQuery, cutFirst_eq_none_iff.mpr h]; rfl⟩
  exact List.takeWhile_eq_self_iff.mpr (decide_ne_of_not_mem h)

/-! ## 2. What is put between them -/

/-- What stands between the URL's own query and the query string, if both are there. -/
def glue (own : List Char) : List Char :=
  if own = [] ∨ own.getLast? = some '?' ∨ own.getLast? = some '&' then [] else ['&']

/-- **Appending a query string** leaves the location alone, and puts the query string behind the
URL's own query. -/
theorem parts_appendQuery (baseUri : String) {query : String} (hquery : query ≠ "") :
    location (appendQuery baseUri query) = location baseUri ∧
      ownQuery (appendQuery baseUri query) =
        ownQuery baseUri ++ glue (ownQuery baseUri) ++ query.toList := by
  rw [appendQuery, if_neg (mt String.isEmpty_iff.mp hquery)]
  dsimp only
  by_cases hmark : '?' ∈ baseUri.toList
  · obtain ⟨⟨front, own⟩, hcut⟩ := Option.ne_none_iff_exists'.mp
      (mt cutFirst_eq_none_iff.mp (not_not.mpr hmark))
    obtain ⟨hbase, hfront⟩ := cutFirst_eq_some_iff.mp hcut
    obtain ⟨hlocation, hown⟩ := parts_of_query hbase hfront
    have hcontains : baseUri.toList.contains '?' = true := List.contains_iff_mem.mpr hmark
    -- The URL ends as its own query does, or in the question mark in front of an empty one.
    have hlast : (baseUri.toList.getLast? = some '?' ∨ baseUri.toList.getLast? = some '&') ↔
        own = [] ∨ own.getLast? = some '?' ∨ own.getLast? = some '&' := by
      rw [hbase]
      cases own with
      | nil => simp
      | cons c own => simp [List.getLast?_cons_cons]
    rw [hcontains, hlocation, hown, glue]
    simp only [Bool.not_true, Bool.false_eq_true, if_false, Bool.or_eq_true, decide_eq_true_eq,
      hlast]
    split
    · refine parts_of_query ?_ hfront
      simp [hbase]
    · refine parts_of_query ?_ hfront
      simp [hbase]
  · obtain ⟨hlocation, hown⟩ := parts_of_no_query hmark
    have hcontains : baseUri.toList.contains '?' = false :=
      Bool.eq_false_iff.mpr (mt List.contains_iff_mem.mp hmark)
    rw [hcontains, hlocation, hown]
    simp only [Bool.not_false, if_true]
    exact parts_of_query String.toList_ofList hmark

/-! ## 3. What is read from the whole -/

/-- The last segment of a query is read with what follows it, everything before it by itself. -/
theorem exists_last_segment (own : List Char) : ∃ last, last <:+ own ∧ '&' ∉ last ∧
    (own ≠ [] → own.getLast? ≠ some '&' → last ≠ []) ∧
    ∃ before, ∀ rest, FormEncoded.decodePairs (Utf8.encode (own ++ rest)) =
      before ++ FormEncoded.decodePairs (Utf8.encode (last ++ rest)) := by
  cases hcut : cutLast '&' own with
  | none =>
    have hamp : '&' ∉ own := by
      have hreverse := Option.map_eq_none_iff.mp hcut
      simpa using cutFirst_eq_none_iff.mp hreverse
    exact ⟨own, List.suffix_refl own, hamp, fun h _ => h, [], fun rest => rfl⟩
  | some parts =>
    obtain ⟨front, last⟩ := parts
    obtain ⟨rfl, hamp⟩ := cutLast_eq_some_iff.mp hcut
    refine ⟨last, ⟨front ++ ['&'], by simp⟩, hamp, ?_, FormEncoded.decodePairs (Utf8.encode front),
      fun rest => ?_⟩
    · rintro - hlast rfl
      exact hlast (by simp)
    · rw [List.append_assoc, List.cons_append, FormEncoded.decodePairs_ampersand]

/-- Two segments with nothing between them are read as one. -/
theorem decodePairs_unseparated {last : List Char} {segments : List (List Char)} (hlast : last ≠ [])
    (hamp : '&' ∉ last) (hne : segments ≠ []) (hsegments : ∀ s ∈ segments, s ≠ [] ∧ '&' ∉ s) :
    FormEncoded.decodePairs (Utf8.encode (last ++ joinWith ['&'] segments)) ≠
      FormEncoded.decodePairs (Utf8.encode last) ++
        FormEncoded.decodePairs (Utf8.encode (joinWith ['&'] segments)) := by
  cases segments with
  | nil => exact absurd rfl hne
  | cons s rest =>
    obtain ⟨⟨hs, hsamp⟩, hrest⟩ := List.forall_mem_cons.mp hsegments
    have hglued : ∀ p ∈ (last ++ s) :: rest, p ≠ [] ∧ '&' ∉ p :=
      List.forall_mem_cons.mpr ⟨⟨by simp [hlast], by simp [hamp, hsamp]⟩, hrest⟩
    have hlasts : ∀ p ∈ [last], p ≠ [] ∧ '&' ∉ p := by simp [hlast, hamp]
    have hone := FormEncoded.decodePairs_joinWith (fun p hp => (hlasts p hp).1)
      fun p hp => (hlasts p hp).2
    have hwhole := FormEncoded.decodePairs_joinWith (fun p hp => (hglued p hp).1)
      fun p hp => (hglued p hp).2
    have happart := FormEncoded.decodePairs_joinWith (fun p hp => (hsegments p hp).1)
      fun p hp => (hsegments p hp).2
    rw [append_joinWith, hwhole, happart]
    rw [joinWith] at hone
    rw [hone]
    intro heq
    have hlength := congrArg List.length heq
    simp at hlength

/-- A merged query string that is not empty consists of segments. -/
theorem exists_segments (h : ofParts provider client data = .ok m) (hquery : m.queryString ≠ "") :
    ∃ segments, segments ≠ [] ∧ (∀ s ∈ segments, s ≠ [] ∧ '&' ∉ s) ∧
      m.queryString.toList = joinWith ['&'] segments := by
  refine ⟨_, fun hnil => hquery ?_, fun s hs => mem_mergedSegments hs, toList_queryString h⟩
  rw [← String.toList_eq_nil_iff, toList_queryString h, hnil, joinWith]

/-- **What a call's query is read as.**  The part of the URL in front of its query stays as it is
configured.  The query is read as the pairs of the URL's own query followed by those of the merged
query string, unless the former ends in a question mark and the latter is there. -/
theorem call_query_pairs (h : ofParts provider client data = .ok m) (baseUri : String) :
    location (m.toCall baseUri).url = location baseUri ∧
      (FormEncoded.decodePairs (Utf8.bytes ((m.toCall baseUri).query.getD "")) =
          FormEncoded.decodePairs (Utf8.encode (ownQuery baseUri)) ++
            FormEncoded.decodePairs (Utf8.bytes m.queryString) ↔
        m.queryString = "" ∨ (ownQuery baseUri).getLast? ≠ some '?') := by
  rw [Utf8.bytes_eq_encode, Utf8.bytes_eq_encode, toList_query, toCall_url]
  by_cases hquery : m.queryString = ""
  · have hurl : appendQuery baseUri m.queryString = baseUri := by
      rw [appendQuery, if_pos (String.isEmpty_iff.mpr hquery)]
    rw [hurl, hquery]
    simp
  · obtain ⟨hlocation, hown⟩ := parts_appendQuery baseUri hquery
    refine ⟨hlocation, ?_⟩
    rw [hown, or_iff_right hquery, glue]
    generalize ownQuery baseUri = own
    by_cases hnil : own = []
    · simp [hnil]
    · by_cases hmark : own.getLast? = some '?'
      · -- The last segment of the URL runs into the first one of the query string.
        refine iff_of_false ?_ (not_not.mpr hmark)
        obtain ⟨segments, hne, hsegments, htext⟩ := exists_segments h hquery
        obtain ⟨last, -, hamp, hlast, before, hbefore⟩ := exists_last_segment own
        have hrest := hbefore m.queryString.toList
        have halone := hbefore []
        rw [List.append_nil, List.append_nil] at halone
        rw [if_pos (.inr (.inl hmark)), List.append_nil, hrest, halone, List.append_assoc,
          List.append_cancel_left_eq, htext]
        exact decodePairs_unseparated (hlast hnil (by rw [hmark]; decide)) hamp hne hsegments
      · refine iff_of_true ?_ hmark
        by_cases hampersand : own.getLast? = some '&'
        · obtain ⟨front, rfl⟩ := List.getLast?_eq_some_iff.mp hampersand
          rw [if_pos (.inr (.inr hampersand)), List.append_nil, List.append_assoc,
            List.singleton_append, FormEncoded.decodePairs_ampersand,
            FormEncoded.decodePairs_ampersand]
          simp
        · rw [if_neg (by simp [hnil, hmark, hampersand]), List.append_assoc, List.singleton_append,
            FormEncoded.decodePairs_ampersand]

namespace Example

/-- A provider whose URL has a query of its own, with a question mark at its end. -/
def returning : Provider :=
  { authType := .custom
    baseUri := "https://id.example/check?next=/home?"
    dashboard := { entries := [("appid", "1")] } }

end Example

/-- A dashboard parameter that becomes part of a value in the configured URL. -/
theorem call_query_pairs_glued :
    let m : MergedRequest := { queryString := "appid=1" }
    ofParts Example.returning none none = .ok m ∧
      location (m.toCall Example.returning.baseUri).url = location Example.returning.baseUri ∧
      FormEncoded.decodePairs (Utf8.encode (ownQuery Example.returning.baseUri)) =
        [("next", "/home?")] ∧
      FormEncoded.decodePairs (Utf8.bytes m.queryString) = [("appid", "1")] ∧
      FormEncoded.decodePairs
          (Utf8.bytes ((m.toCall Example.returning.baseUri).query.getD "")) =
        [("next", "/home?appid=1")] ∧
      ¬ FormEncoded.decodePairs
            (Utf8.bytes ((m.toCall Example.returning.baseUri).query.getD "")) =
          FormEncoded.decodePairs (Utf8.encode (ownQuery Example.returning.baseUri)) ++
            FormEncoded.decodePairs (Utf8.bytes m.queryString) := by
  intro m
  have hmerged : ofParts Example.returning none none = .ok m := by cbv
  obtain ⟨hlocation, hpairs⟩ := call_query_pairs hmerged Example.returning.baseUri
  refine ⟨hmerged, hlocation, by cbv, by cbv, by cbv, mt hpairs.mp ?_⟩
  rintro (hempty | hlast)
  · exact absurd hempty (by decide)
  · exact hlast (by cbv)

end MergedRequest

end LoginGate
