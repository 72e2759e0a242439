/-
# A rendered query string is read back

Rendering writes names and values in the form encoding, with ampersands between the pairs
(`QueryParams.render`).  Reading does more than undo this: it cuts blanks off both ends and question
marks off the front, leaves out empty segments and parameters without a name, and keeps one value for
each name.  None of this meets what was rendered.

* A rendered query string holds no blanks and no question marks at all, so it is read whole
  (`trimQuery_render`).
* A rendered pair has its equals sign at least, so no segment is empty; and as no other character
  that separates is written as it is, the segments are the pairs.
* Parameters have distinct names, so each of them keeps its own place and value.

What is left is the empty name.  A parameter that has it is written and not read
(`entries_parse_render`), and the reader itself never makes one, so whatever was read once stays the
same from then on (`rendered_read_back`).
-/
import LoginGate.Proofs.Query.Readers

namespace LoginGate.QueryParams

open Text MergedRequest

/-- Parameters are known by their entries. -/
theorem eq_iff_entries {p q : QueryParams} : p = q ↔ p.entries = q.entries := by
  cases p
  cases q
  simp

/-- A rendered query string is read whole. -/
theorem trimQuery_render (p : QueryParams) :
    trimQuery p.render = joinWith ['&'] (p.entries.map FormEncoded.writtenPair) := by
  have hvisible : ∀ c ∈ FormEncoded.encodePairs p.entries, isBlank c = false ∧ c ≠ '?' :=
    fun c hc => FormEncoded.visible_of_mem_encodePairs hc
  have htrim : trimChars (FormEncoded.encodePairs p.entries) = FormEncoded.encodePairs p.entries :=
    trimChars_eq_self fun c hc => (hvisible c hc).1
  rw [trimQuery, render, String.toList_ofList, htrim, ← FormEncoded.encodePairs_eq,
    List.dropWhile_eq_self_iff]
  intro hne
  simpa using (hvisible _ (List.getElem_mem hne)).2

/-- **What is read from a rendered query string** are the parameters that were rendered, except one
without a name. -/
theorem entries_parse_render (p : QueryParams) :
    (parse p.render).entries = p.entries.filter fun e => e.1 ≠ "" := by
  have hamp : ∀ s ∈ p.entries.map FormEncoded.writtenPair, '&' ∉ s := by
    intro s hs
    obtain ⟨e, -, rfl⟩ := List.mem_map.mp hs
    exact FormEncoded.ampersand_not_mem_writtenPair e
  have hnames : (Entries.keys (p.entries.filter fun e => e.1 ≠ "")).Nodup :=
    p.nodup.sublist (List.filter_sublist.map Prod.fst)
  rw [parse_joinWith p.trimQuery_render hamp, FormEncoded.filter_isEmpty_writtenPair,
    map_pairOf_writtenPair, Entries.ofPairs_eq_self hnames]

theorem parse_render_of_named {p : QueryParams} (h : "" ∉ p.keys) : parse p.render = p := by
  rw [eq_iff_entries, entries_parse_render, List.filter_eq_self]
  intro e he
  rw [decide_eq_true_eq]
  intro hempty
  exact h (hempty ▸ List.mem_map_of_mem he)

/-- **A rendered query string is read back**, pair for pair and in order, exactly if no parameter
has the empty name.  What was read from any query string has none, so rendering it and reading it
again changes nothing. -/
theorem rendered_read_back (p : QueryParams) (query : String) :
    (parse p.render = p ↔ "" ∉ p.keys) ∧ parse (parse query).render = parse query := by
  refine ⟨⟨?_, parse_render_of_named⟩, ?_⟩
  · intro h
    rw [← h]
    exact QuerySegments.empty_not_mem_keys_parse p.render
  · exact parse_render_of_named (QuerySegments.empty_not_mem_keys_parse query)

/-- Signs of the encoding, blanks at both ends and a question mark in front are kept; a value without
a name is not. -/
example :
    (ofPairs [(" ?a", "b&c=d"), ("é", "%+\t"), ("", "v")]).render =
        "+%3Fa=b%26c%3Dd&%C3%A9=%25%2B%09&=v" ∧
      (parse "+%3Fa=b%26c%3Dd&%C3%A9=%25%2B%09&=v").entries =
        [(" ?a", "b&c=d"), ("é", "%+\t")] := by
  constructor <;> cbv

end LoginGate.QueryParams
