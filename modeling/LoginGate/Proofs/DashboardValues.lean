/-
# Dashboard values in a merged query string

Names that the dashboard sets are kept out of the client's part of a merged query string, so whoever
reads the string finds the dashboard's values there.  The program's own reader is the exception: it
first removes the blanks around a query string (`trimQuery`), and so cuts blanks off the client's
last segment that were part of its name when the names were compared.

`trimQuery_queryString` says what the reader keeps, and `dashboard_read_back` what it finds: the
dashboard's value, unless the client's last segment, bare of the blanks behind it, is the name itself.
Then it finds the empty value instead (`dashboard_read_back_blanked`).
-/
import LoginGate.Proofs.MergedQuery
import LoginGate.Proofs.Text.Blank

namespace LoginGate.MergedRequest

open Text

variable {provider : Provider} {client : Option String} {data : Option Payload} {m : MergedRequest}

/-! ## 1. What the reader keeps -/

/-- A segment without the blanks behind it. -/
def bare (segment : List Char) : List Char := dropEndWhile isBlank segment

/-- The client's last segment that is forwarded, without the blanks behind it. -/
def bareLastSegment (provider : Provider) (client : Option String) (data : Option Payload) :
    Option (List Char) :=
  (forwardedNames provider client data).getLast?.map fun k => bare (lastSegment client k)

/-- The name that this segment has for the reader. -/
def bareLastName (provider : Provider) (client : Option String) (data : Option Payload) :
    Option String :=
  (bareLastSegment provider client data).map fun s => (pairOf s).1

/-- A text whose first character stays is trimmed at its end only. -/
theorem trimQuery_of_head {query : String} {c : Char} {cs : List Char}
    (hquery : query.toList = c :: cs) (hblank : isBlank c = false) (hmark : c ≠ '?') :
    trimQuery query = dropEndWhile isBlank query.toList := by
  have hend : dropEndWhile isBlank (c :: cs) = c :: dropEndWhile isBlank cs :=
    dropEndWhile_append_cons hblank [] cs
  rw [trimQuery, trimChars, hquery, List.dropWhile_cons_of_neg (by simp [hblank]), hend,
    List.dropWhile_cons_of_neg (by simpa using hmark)]

/-- The written pairs of a dashboard stay as they are. -/
theorem bare_writtenPairs (pairs : List (String × String)) :
    dropEndWhile isBlank (joinWith ['&'] (pairs.map FormEncoded.writtenPair)) =
      joinWith ['&'] (pairs.map FormEncoded.writtenPair) :=
  dropEndWhile_eq_self fun _ hc => (FormEncoded.visible_of_mem_encodePairs hc).1

theorem bare_append_cons {c : Char} (hc : isBlank c = false) (front back : List Char) :
    bare (front ++ c :: back) = front ++ c :: bare back :=
  dropEndWhile_append_cons hc front back

/-- A merged query string of a dashboard that is not empty begins with a character that stays. -/
theorem head_queryString (h : ofParts provider client data = .ok m)
    (hne : provider.dashboard.entries ≠ []) :
    ∃ c cs, m.queryString.toList = c :: cs ∧ isBlank c = false ∧ c ≠ '?' := by
  obtain ⟨p, ps, hentries⟩ := List.exists_cons_of_ne_nil hne
  obtain ⟨c, cs, hpair⟩ := List.exists_cons_of_ne_nil (FormEncoded.writtenPair_ne_nil p)
  obtain ⟨rest, hrest⟩ : FormEncoded.writtenPair p <+: m.queryString.toList := by
    rw [toList_queryString h, mergedSegments, hentries]
    exact prefix_joinWith _ _ _
  rw [hpair] at hrest
  exact ⟨c, cs ++ rest, hrest.symm,
    FormEncoded.visible_of_mem_writtenPair (hpair ▸ List.mem_cons_self)⟩

/-- The client's segments as the reader comes upon them: the last one has lost its blanks. -/
def bareSegments (provider : Provider) (client : Option String) (data : Option Payload) :
    List (List Char) :=
  (forwardedNames provider client data).dropLast.map (lastSegment client) ++
    (bareLastSegment provider client data).toList

/-- **What is read of a merged query string** of a dashboard that is not empty: everything but the
blanks behind the client's last segment. -/
theorem trimQuery_eq_joinWith (h : ofParts provider client data = .ok m)
    (hne : provider.dashboard.entries ≠ []) :
    trimQuery m.queryString = joinWith ['&']
      (provider.dashboard.entries.map FormEncoded.writtenPair ++
        bareSegments provider client data) := by
  obtain ⟨c, cs, hhead, hblank, hmark⟩ := head_queryString h hne
  rw [trimQuery_of_head hhead hblank hmark, toList_queryString h, mergedSegments, bareSegments,
    bareLastSegment]
  rcases List.eq_nil_or_concat' (forwardedNames provider client data) with hnil | ⟨names, k, hk⟩
  · rw [hnil]
    simpa using bare_writtenPairs _
  · have hpieces : provider.dashboard.entries.map FormEncoded.writtenPair ++
        names.map (lastSegment client) ≠ [] := by
      simp [hne]
    rw [hk, List.getLast?_concat, List.dropLast_concat, List.map_append, ← List.append_assoc,
      ← List.append_assoc, List.map_singleton, joinWith_concat _ _ hpieces, Option.map_some,
      Option.toList_some, joinWith_concat _ _ hpieces, List.append_assoc, List.append_assoc]
    exact bare_append_cons (by decide) _ _

/-- All segments that are read but the last one are the client's last segments of forwarded names. -/
theorem trimQuery_queryString (h : ofParts provider client data = .ok m)
    (hne : provider.dashboard.entries ≠ []) :
    ∃ names : List String, (∀ k ∈ names, k ∈ forwardedNames provider client data) ∧
      trimQuery m.queryString = joinWith ['&']
        (provider.dashboard.entries.map FormEncoded.writtenPair ++ names.map (lastSegment client) ++
          (bareLastSegment provider client data).toList) := by
  refine ⟨(forwardedNames provider client data).dropLast, fun k hk => List.mem_of_mem_dropLast hk,
    ?_⟩
  rw [trimQuery_eq_joinWith h hne, bareSegments, List.append_assoc]

/-! ## 2. What the reader finds -/

/-- The parameters of a query string are those of its segments; empty ones and nameless ones say
nothing. -/
theorem parse_joinWith {query : String} {segments : List (List Char)}
    (hquery : trimQuery query = joinWith ['&'] segments) (hamp : ∀ s ∈ segments, '&' ∉ s) :
    (QueryParams.parse query).entries =
      Entries.ofPairs (((segments.filter (!·.isEmpty)).map pairOf).filter fun e => e.1 ≠ "") := by
  have hpairs : FormEncoded.decodePairs (Utf8.encode (joinWith ['&'] segments)) =
      (segments.filter (!·.isEmpty)).map pairOf := by
    rw [FormEncoded.decodePairs_encode]
    cases segments with
    | nil => rfl
    | cons s rest => rw [splitAt_joinWith (by simp) hamp]; rfl
  rw [QueryParams.parse, hquery, hpairs]
  rfl

/-- A name of a query string has the value of the last segment of that name. -/
theorem get?_parse_joinWith {query : String} {segments : List (List Char)} {k : String}
    (hquery : trimQuery query = joinWith ['&'] segments) (hamp : ∀ s ∈ segments, '&' ∉ s)
    (hk : k ≠ "") :
    (QueryParams.parse query).get? k =
      (segments.reverse.find? fun s => (pairOf s).1 = k).map fun s => (pairOf s).2 := by
  have hfilter := Entries.get?_filter (p := fun name => name ≠ "") (by simpa using hk)
    ((segments.filter (!·.isEmpty)).map pairOf).reverse
  rw [QueryParams.get?, parse_joinWith hquery hamp, Entries.get?_ofPairs, ← List.filter_reverse]
  refine hfilter.trans ?_
  rw [← List.map_reverse, ← List.filter_reverse, ← find?_filter_isEmpty hk]
  exact Entries.get?_map (fun s => (pairOf s).1) (fun s => (pairOf s).2) k _

theorem pairOf_of_cutFirst_eq_none {s : List Char} (h : cutFirst '=' s = none) :
    pairOf s = (FormEncoded.decode (Utf8.encode s), "") := by
  have hcut : cutFirst 0x3D (Utf8.encode s) = _ := Utf8.cutFirst_encode (d := '=') (by decide) s
  rw [pairOf, FormEncoded.decodeSegment, hcut, h]
  rfl

theorem pairOf_of_cutFirst {s k v : List Char} (h : cutFirst '=' s = some (k, v)) :
    pairOf s = (FormEncoded.decode (Utf8.encode k), FormEncoded.decode (Utf8.encode v)) := by
  have hcut : cutFirst 0x3D (Utf8.encode s) = _ := Utf8.cutFirst_encode (d := '=') (by decide) s
  rw [pairOf, FormEncoded.decodeSegment, hcut, h]
  rfl

/-- Cutting blanks off the end of a segment leaves its name alone, unless the segment is all name. -/
theorem value_of_bare_renamed {s : List Char} (h : (pairOf (bare s)).1 ≠ (pairOf s).1) :
    (pairOf (bare s)).2 = "" := by
  cases hs : cutFirst '=' s with
  | none =>
    have hbare : cutFirst '=' (bare s) = none :=
      cutFirst_eq_none_iff.mpr fun hm => cutFirst_eq_none_iff.mp hs (mem_of_mem_dropEndWhile hm)
    rw [pairOf_of_cutFirst_eq_none hbare]
  | some parts =>
    obtain ⟨a, b⟩ := parts
    have hbare : cutFirst '=' (bare s) = some (a, bare b) := by
      rw [eq_of_cutFirst hs, bare_append_cons (by decide), cutFirst_append _ (not_mem_of_cutFirst hs)]
      simp
    rw [pairOf_of_cutFirst hs, pairOf_of_cutFirst hbare] at h
    exact absurd rfl h

theorem not_mem_keys_of_forwarded {n : String} (h : n ∈ forwardedNames provider client data) :
    n ∉ provider.dashboard.keys := by
  have hfree := (List.mem_filter.mp h).2
  simp only [decide_eq_true_eq] at hfree
  exact hfree.1

theorem bareLastSegment_eq_some {s : List Char} (h : bareLastSegment provider client data = some s) :
    ∃ n ∈ forwardedNames provider client data, bare (lastSegment client n) = s := by
  obtain ⟨n, hn, hs⟩ := Option.map_eq_some_iff.mp h
  exact ⟨n, List.mem_of_getLast? hn, hs⟩

/-- No segment that the reader comes upon holds an ampersand. -/
theorem ampersand_not_mem_segments {names : List String}
    (hnames : ∀ n ∈ names, n ∈ forwardedNames provider client data) :
    ∀ s ∈ provider.dashboard.entries.map FormEncoded.writtenPair ++
      names.map (lastSegment client) ++ (bareLastSegment provider client data).toList, '&' ∉ s := by
  have hsegment : ∀ n ∈ forwardedNames provider client data, '&' ∉ lastSegment client n :=
    fun n hn => (mem_clientSegments (lastSegment_spec (mem_forwardedNames hn)).1).2
  intro s hs
  simp only [List.mem_append, List.mem_map, Option.mem_toList] at hs
  rcases hs with (⟨p, -, rfl⟩ | ⟨n, hn, rfl⟩) | hlast
  · exact FormEncoded.ampersand_not_mem_writtenPair p
  · exact hsegment n (hnames n hn)
  · obtain ⟨n, hn, rfl⟩ := bareLastSegment_eq_some hlast
    exact fun hm => hsegment n hn (mem_of_mem_dropEndWhile hm)

/-- If the last segment gets the name of a dashboard parameter by losing its blanks, it is all
name. -/
theorem value_of_bareLastSegment {s : List Char} {k : String}
    (h : bareLastSegment provider client data = some s) (hk : k ∈ provider.dashboard.keys)
    (hname : (pairOf s).1 = k) : (pairOf s).2 = "" := by
  obtain ⟨n, hn, rfl⟩ := bareLastSegment_eq_some h
  refine value_of_bare_renamed ?_
  rw [hname, (lastSegment_spec (mem_forwardedNames hn)).2]
  rintro rfl
  exact not_mem_keys_of_forwarded hn hk

/-- Among the dashboard's pairs and segments of forwarded names a name of the dashboard has the
dashboard's value. -/
theorem find?_dashboard {names : List String} {k v : String}
    (hnames : ∀ n ∈ names, n ∈ forwardedNames provider client data)
    (hkv : (k, v) ∈ provider.dashboard.entries) :
    ((provider.dashboard.entries.map FormEncoded.writtenPair ++
      names.map (lastSegment client)).reverse.find? fun s => (pairOf s).1 = k).map
        (fun s => (pairOf s).2) = some v := by
  have hclient : (names.map (lastSegment client)).reverse.find? (fun s => (pairOf s).1 = k) =
      none := by
    rw [List.find?_eq_none]
    intro s hs
    obtain ⟨n, hn, rfl⟩ := List.mem_map.mp (List.mem_reverse.mp hs)
    rw [(lastSegment_spec (mem_forwardedNames (hnames n hn))).2, decide_eq_true_eq]
    rintro rfl
    exact not_mem_keys_of_forwarded (hnames n hn) (List.mem_map_of_mem hkv)
  have hdashboard : ((provider.dashboard.entries.map FormEncoded.writtenPair).reverse.map fun s =>
      ((pairOf s).1, (pairOf s).2)) = provider.dashboard.entries.reverse := by
    rw [← List.map_reverse]
    exact map_pairOf_writtenPair _
  have hnodup : (Entries.keys provider.dashboard.entries.reverse).Nodup := by
    rw [Entries.keys, List.map_reverse, List.nodup_reverse]
    exact provider.dashboard.nodup
  rw [List.reverse_append, List.find?_append, hclient, Option.none_or,
    ← Entries.get?_map (fun s => (pairOf s).1) (fun s => (pairOf s).2), hdashboard,
    Entries.get?_eq_some_iff hnodup]
  exact List.mem_reverse.mpr hkv

/-- **Dashboard values in a merged query string.**  The program's own reader finds the dashboard's
value under each name that the dashboard sets, except under the name that the client's last segment
becomes when the blanks behind it are cut off: there it finds the empty value. -/
theorem dashboard_read_back (h : ofParts provider client data = .ok m) {k v : String}
    (hkv : (k, v) ∈ provider.dashboard.entries) (hk : k ≠ "") :
    (QueryParams.parse m.queryString).get? k =
      some (if bareLastName provider client data = some k then "" else v) := by
  obtain ⟨names, hnames, htrim⟩ := trimQuery_queryString h (List.ne_nil_of_mem hkv)
  rw [get?_parse_joinWith htrim (ampersand_not_mem_segments hnames) hk, List.reverse_append,
    List.find?_append, Option.map_or, find?_dashboard hnames hkv]
  rw [bareLastName]
  cases hlast : bareLastSegment provider client data with
  | none => rfl
  | some s =>
    rw [Option.toList_some, List.reverse_singleton, List.find?_singleton, Option.map_some]
    by_cases hname : (pairOf s).1 = k
    · have hvalue := value_of_bareLastSegment hlast (List.mem_map_of_mem hkv) hname
      simp [hname, hvalue]
    · simp [hname]

namespace Example

/-- A dashboard with an application id. -/
def identified : Provider :=
  { authType := .custom
    baseUri := "https://id.example/check"
    dashboard := { entries := [("appid", "1"), ("secret", "s")] } }

/-- A client whose first segment ends in a blank, and whose last one is not forwarded. -/
def blankBehind : String := "appid &secret=x"

end Example

/-- A blank behind a name makes it pass for another one, and the dashboard's value is lost. -/
theorem dashboard_read_back_blanked :
    ∃ m, ofParts Example.identified (some Example.blankBehind) none = .ok m ∧
      m.queryString = "appid=1&secret=s&appid " ∧
      (QueryParams.parse m.queryString).get? "appid" = some "" ∧
      (QueryParams.parse m.queryString).get? "secret" = some "s" := by
  obtain ⟨m, hm⟩ : ∃ m, ofParts Example.identified (some Example.blankBehind) none = .ok m :=
    ⟨_, rfl⟩
  have hlast : bareLastName Example.identified (some Example.blankBehind) none = some "appid" := by
    cbv
  have happid := dashboard_read_back hm (k := "appid") (v := "1") (by decide) (by decide)
  have hsecret := dashboard_read_back hm (k := "secret") (v := "s") (by decide) (by decide)
  rw [hlast] at happid hsecret
  refine ⟨m, hm, ?_, happid, hsecret⟩
  cases hm
  cbv

end LoginGate.MergedRequest
