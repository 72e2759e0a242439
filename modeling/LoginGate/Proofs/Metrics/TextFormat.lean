/-
# Reading the text format

The text format has a line for each sample: a name, labels between braces, each with its value
between quotes, and a number.  Lines that begin with `#` are about a family and not part of the
samples.  Quotes, backslashes and line breaks in the value of a label are escaped; all else stands
for itself.

What a report was made from is read back from its text (`readings?_text`), whatever the values of
labels are, as long as the names are names of the format.  A reader takes one character after the
other, so there is a lemma for each part of a line and what follows it.
-/
import LoginGate.Exposition
import LoginGate.Proofs.Decimal
import LoginGate.Proofs.Metrics.Instruments
import LoginGate.Proofs.Text.Split

namespace LoginGate.Exposition

/-! ## 1. A reader -/

/-- A sample as it is read, with the text of its value. -/
structure Reading where
  name : String
  labels : Labels
  value : String
  deriving DecidableEq, Repr

/-- Where a reader of labels stands, with what it has taken of the label. -/
inductive Place where
  | name (taken : List Char)
  | equals (name : List Char)
  | value (name taken : List Char)
  | escape (name taken : List Char)
  | behind

/-- The character that an escape stands for. -/
def unescapeChar? (c : Char) : Option Char :=
  if c = 'n' then some '\n' else if c = '\\' ∨ c = '"' then some c else none

/-- Reads labels up to the closing brace, and leaves what follows it. -/
def readLabels? : Place → Labels → List Char → Option (Labels × List Char)
  | _, _, [] => none
  | .name taken, labels, c :: cs =>
    if c = '=' then readLabels? (.equals taken) labels cs
    else readLabels? (.name (taken ++ [c])) labels cs
  | .equals name, labels, c :: cs =>
    if c = '"' then readLabels? (.value name []) labels cs else none
  | .value name taken, labels, c :: cs =>
    if c = '"' then readLabels? .behind (labels ++ [(String.ofList name, String.ofList taken)]) cs
    else if c = '\\' then readLabels? (.escape name taken) labels cs
    else readLabels? (.value name (taken ++ [c])) labels cs
  | .escape name taken, labels, c :: cs =>
    match unescapeChar? c with
    | some d => readLabels? (.value name (taken ++ [d])) labels cs
    | none => none
  | .behind, labels, c :: cs =>
    if c = ',' then readLabels? (.name []) labels cs
    else if c = '}' then some (labels, cs)
    else none

/-- Reads the line of a sample. -/
def readSample? (line : List Char) : Option Reading :=
  match Text.cutFirst '{' line with
  | none => none
  | some (name, rest) =>
    match readLabels? (.name []) [] rest with
    | some (labels, ' ' :: value) =>
      some { name := String.ofList name, labels, value := String.ofList value }
    | _ => none

/-- Whether a line is neither empty nor about a family. -/
def isSampleLine : List Char → Bool
  | [] => false
  | c :: _ => c ≠ '#'

/-- The samples that a text lists. -/
def readings? (text : String) : Option (List Reading) :=
  ((Text.splitAt '\n' text.toList).filter isSampleLine).mapM readSample?

/-- What is read of a sample. -/
def Sample.reading (s : Sample) : Reading where
  name := s.name
  labels := s.labels
  value := s.value.plain

/-! ## 2. Labels -/

/-- A character of a written value is read as that character. -/
theorem readLabels?_escapeChar (c : Char) (name taken : List Char) (labels : Labels)
    (rest : List Char) :
    readLabels? (.value name taken) labels (escapeChar c ++ rest) =
      readLabels? (.value name (taken ++ [c])) labels rest := by
  rw [escapeChar]
  split
  · rename_i hc
    subst hc
    rfl
  · rename_i hbackslash
    split
    · rename_i hc
      subst hc
      rfl
    · split
      · rename_i hc
        subst hc
        rfl
      · rename_i hquote
        rw [List.singleton_append, readLabels?, if_neg hquote, if_neg hbackslash]

theorem readLabels?_value (cs name taken : List Char) (labels : Labels) (rest : List Char) :
    readLabels? (.value name taken) labels (cs.flatMap escapeChar ++ '"' :: rest) =
      readLabels? .behind (labels ++ [(String.ofList name, String.ofList (taken ++ cs))]) rest := by
  induction cs generalizing taken with
  | nil => simp [readLabels?]
  | cons c cs ih =>
    rw [List.flatMap_cons, List.append_assoc, readLabels?_escapeChar, ih, List.append_assoc,
      List.singleton_append]

theorem readLabels?_name {cs : List Char} (h : '=' ∉ cs) (taken : List Char) (labels : Labels)
    (rest : List Char) :
    readLabels? (.name taken) labels (cs ++ '=' :: rest) =
      readLabels? (.equals (taken ++ cs)) labels rest := by
  induction cs generalizing taken with
  | nil => simp [readLabels?]
  | cons c cs ih =>
    rw [List.mem_cons, not_or] at h
    rw [List.cons_append, readLabels?, if_neg (Ne.symm h.1), ih h.2, List.append_assoc,
      List.singleton_append]

/-- **A written label is read back.** -/
theorem readLabels?_label {name : String} (h : '=' ∉ name.toList) (value : String)
    (labels : Labels) (rest : List Char) :
    readLabels? (.name []) labels ((labelText name value).toList ++ rest) =
      readLabels? .behind (labels ++ [(name, value)]) rest := by
  have htext : (labelText name value).toList ++ rest =
      name.toList ++ '=' :: '"' :: (value.toList.flatMap escapeChar ++ '"' :: rest) := by
    simp [labelText, String.toList_append]
  have hequals (ls : Labels) (cs : List Char) :
      readLabels? (.equals name.toList) ls ('"' :: cs) =
        readLabels? (.value name.toList []) ls cs := by
    rw [readLabels?, if_pos rfl]
  rw [htext, readLabels?_name h, List.nil_append, hequals, readLabels?_value, List.nil_append,
    String.ofList_toList, String.ofList_toList]

/-- The text of labels, without the braces. -/
def labelsText (labels : Labels) : List Char :=
  (Text.joinStrings "," (labels.map fun l => labelText l.1 l.2)).toList

theorem labelsText_singleton (l : String × String) :
    labelsText [l] = (labelText l.1 l.2).toList := by
  simp [labelsText, Text.joinStrings]

theorem labelsText_cons_cons (l l' : String × String) (labels : Labels) :
    labelsText (l :: l' :: labels) =
      (labelText l.1 l.2).toList ++ ',' :: labelsText (l' :: labels) := by
  simp [labelsText, Text.joinStrings, String.toList_intercalate]

/-- **Written labels are read back.** -/
theorem readLabels?_labels : ∀ {labels : Labels}, labels ≠ [] →
    (∀ l ∈ labels, '=' ∉ l.1.toList) → ∀ (done : Labels) (rest : List Char),
    readLabels? (.name []) done (labelsText labels ++ '}' :: rest) = some (done ++ labels, rest)
  | [], hne, _, _, _ => absurd rfl hne
  | [l], _, h, done, rest => by
    rw [labelsText_singleton, readLabels?_label (h l List.mem_cons_self), readLabels?]
    rfl
  | l :: l' :: labels, _, h, done, rest => by
    obtain ⟨hl, hlabels⟩ := List.forall_mem_cons.mp h
    have ih := readLabels?_labels (List.cons_ne_nil l' labels) hlabels (done ++ [l]) rest
    rw [labelsText_cons_cons, List.append_assoc, readLabels?_label hl, List.cons_append, readLabels?,
      if_pos rfl, ih, List.append_assoc, List.singleton_append]

/-! ## 3. Lines -/

/-- Whether a text is a name of the format. -/
def isName (s : String) : Bool :=
  s.toList ≠ [] && s.toList.all fun c => c.isAlphanum || c = '_'

theorem not_mem_of_isName {s : String} (h : isName s = true) {c : Char}
    (hc : (c.isAlphanum || c = '_') = false) : c ∉ s.toList := by
  intro hmem
  rw [isName, Bool.and_eq_true, List.all_eq_true] at h
  rw [h.2 c hmem] at hc
  cases hc

/-- The names of a sample are names of the format. -/
structure Sample.IsNamed (s : Sample) : Prop where
  name : isName s.name = true
  labelled : s.labels ≠ []
  labels : ∀ l ∈ s.labels, isName l.1 = true

/-- The line of a sample, without the line break. -/
def Sample.line (s : Sample) : List Char :=
  s.name.toList ++ '{' :: (labelsText s.labels ++ '}' :: ' ' :: s.value.plain.toList)

theorem Sample.text_eq (s : Sample) : s.text.toList = s.line ++ ['\n'] := by
  simp [Sample.text, Sample.line, labelsText, String.toList_append]

/-- **The line of a sample is read back.** -/
theorem readSample?_line {s : Sample} (h : s.IsNamed) : readSample? s.line = some s.reading := by
  have hcut : Text.cutFirst '{' s.line =
      some (s.name.toList, labelsText s.labels ++ '}' :: ' ' :: s.value.plain.toList) := by
    rw [Sample.line, Text.cutFirst_append _ (not_mem_of_isName h.name (by decide)),
      Text.cutFirst_cons_self, Option.map_some]
    simp
  have hlabels := readLabels?_labels h.labelled
    (fun l hl => not_mem_of_isName (h.labels l hl) (by decide)) [] (' ' :: s.value.plain.toList)
  rw [readSample?, hcut]
  simp only [hlabels, List.nil_append, String.ofList_toList]
  rfl

example : readSample? "up\x7bjob=\"a\\\\b\\\"c\\nd\"\x7d 1".toList =
    some { name := "up", labels := [("job", "a\\b\"c\nd")], value := "1" } := by decide

theorem isSampleLine_line {s : Sample} (h : s.IsNamed) : isSampleLine s.line = true := by
  have hmark := not_mem_of_isName h.name (show ('#'.isAlphanum || '#' = '_') = false by decide)
  rw [Sample.line]
  cases hname : s.name.toList with
  | nil => rfl
  | cons c cs =>
    rw [hname, List.mem_cons, not_or] at hmark
    exact decide_eq_true (Ne.symm hmark.1)

/-! ## 4. Line breaks -/

theorem newline_notMem_of_isName {s : String} (h : isName s = true) : '\n' ∉ s.toList :=
  not_mem_of_isName h (by decide)

theorem newline_notMem_natText (n : Nat) : '\n' ∉ Binary64.natText n := by
  have hdigits : ∀ d < 10, Nat.digitChar d ≠ '\n' := by decide
  rw [Binary64.natText_eq, List.mem_map]
  rintro ⟨d, hd, heq⟩
  exact hdigits d (Binary64.decimals_lt hd) heq

theorem newline_notMem_positional (digits : Nat) (scale : Int) :
    '\n' ∉ Binary64.positional digits scale := by
  have hds := newline_notMem_natText digits
  rw [Binary64.positional]
  split
  · simp [hds, List.mem_replicate]
  · dsimp only
    split
    · simp [fun n => mt (List.mem_of_mem_take (i := n)) hds,
        fun n => mt (List.mem_of_mem_drop (i := n)) hds]
    · simp [hds, List.mem_replicate]

theorem newline_notMem_scientific (digits : Nat) (scale : Int) :
    '\n' ∉ Binary64.scientific digits scale := by
  have hds := newline_notMem_natText digits
  rw [Binary64.scientific, List.mem_append, List.mem_cons, List.mem_cons, not_or, not_or, not_or]
  refine ⟨?_, by decide, by split <;> decide, newline_notMem_natText _⟩
  generalize Binary64.natText digits = ds at hds
  match ds with
  | [] => exact List.not_mem_nil
  | [d] => exact hds
  | d :: d' :: rest =>
    rw [List.mem_cons, not_or] at hds
    simpa using hds

/-- The text of a number has no line break in it. -/
theorem newline_notMem_plain (x : Binary64) : '\n' ∉ x.plain.toList := by
  cases x with
  | nan => decide
  | infinity s => cases s <;> decide
  | finite s m e =>
    have hwrite : '\n' ∉ Binary64.plainStyle.write m e := by
      rw [Binary64.DecimalStyle.write]
      split
      dsimp only
      split
      · simp [newline_notMem_positional, Binary64.plainStyle]
      · exact newline_notMem_scientific _ _
    rw [Binary64.plain, String.toList_ofList, List.mem_append, not_or]
    exact ⟨by cases s <;> decide, hwrite⟩

theorem newline_notMem_labelText {name : String} (h : isName name = true) (value : String) :
    '\n' ∉ (labelText name value).toList := by
  have hname := newline_notMem_of_isName h
  have hvalue : '\n' ∉ value.toList.flatMap escapeChar := by
    rw [List.mem_flatMap]
    rintro ⟨c, -, hc⟩
    -- A line break is escaped itself, and no other character is written with one.
    rw [escapeChar] at hc
    split at hc
    · simp at hc
    · split at hc
      · simp at hc
      · rename_i hne
        split at hc
        · simp at hc
        · exact hne (List.mem_singleton.mp hc).symm
  simp [labelText, String.toList_append, hname, hvalue]

theorem newline_notMem_labelsText : ∀ {labels : Labels}, (∀ l ∈ labels, isName l.1 = true) →
    '\n' ∉ labelsText labels
  | [], _ => by simp [labelsText, Text.joinStrings]
  | [l], h => by
    rw [labelsText_singleton]
    exact newline_notMem_labelText (h l List.mem_cons_self) l.2
  | l :: l' :: labels, h => by
    obtain ⟨hl, hlabels⟩ := List.forall_mem_cons.mp h
    rw [labelsText_cons_cons, List.mem_append, List.mem_cons, not_or, not_or]
    exact ⟨newline_notMem_labelText hl l.2, by decide, newline_notMem_labelsText hlabels⟩

theorem newline_notMem_line {s : Sample} (h : s.IsNamed) : '\n' ∉ s.line := by
  simp [Sample.line, newline_notMem_of_isName h.name, newline_notMem_labelsText h.labels,
    newline_notMem_plain]

/-! ## 5. Families -/

/-- The two lines about a family. -/
def headerLines (name help kind : String) : List (List Char) :=
  ["# HELP ".toList ++ name.toList ++ ' ' :: help.toList,
    "# TYPE ".toList ++ name.toList ++ ' ' :: kind.toList]

def Family.header (f : Family) : List (List Char) := headerLines f.name f.help f.kind

/-- A family whose samples have names, and whose lines are lines. -/
structure Family.IsNamed (f : Family) : Prop where
  header : ∀ line ∈ f.header, '\n' ∉ line
  samples : ∀ s ∈ f.samples, s.IsNamed

/-- The lines of a family. -/
def Family.lines (f : Family) : List (List Char) := f.header ++ f.samples.map Sample.line

theorem Family.text_eq (f : Family) : f.text.toList = f.lines.flatMap (· ++ ['\n']) := by
  have hsamples : (String.join (f.samples.map Sample.text)).toList =
      (f.samples.map Sample.line).flatMap (· ++ ['\n']) := by
    rw [String.toList_join, List.flatMap_map, List.flatMap_map]
    exact List.flatMap_congr fun s _ => Sample.text_eq s
  have htext : f.text = "# HELP " ++ f.name ++ " " ++ f.help ++ "\n# TYPE " ++ f.name ++ " " ++
      f.kind ++ "\n" ++ String.join (f.samples.map Sample.text) := rfl
  rw [htext, String.toList_append, hsamples, Family.lines, List.flatMap_append]
  simp [Family.header, headerLines, String.toList_append]

theorem splitAt_lines {lines : List (List Char)} (h : ∀ line ∈ lines, '\n' ∉ line) :
    Text.splitAt '\n' (lines.flatMap (· ++ ['\n'])) = lines ++ [[]] := by
  induction lines with
  | nil => rfl
  | cons line lines ih =>
    obtain ⟨hline, hlines⟩ := List.forall_mem_cons.mp h
    rw [List.flatMap_cons, List.append_assoc, List.singleton_append, Text.splitAt_append _ hline,
      Text.splitAt_cons_self, ih hlines]
    simp

theorem filter_lines {f : Family} (h : f.IsNamed) :
    f.lines.filter isSampleLine = f.samples.map Sample.line := by
  have hheader : f.header.filter isSampleLine = [] := by
    simp [Family.header, headerLines, isSampleLine]
  have hsamples : (f.samples.map Sample.line).filter isSampleLine = f.samples.map Sample.line := by
    refine List.filter_eq_self.mpr fun line hline => ?_
    obtain ⟨s, hs, rfl⟩ := List.mem_map.mp hline
    exact isSampleLine_line (h.samples s hs)
  rw [Family.lines, List.filter_append, hheader, hsamples, List.nil_append]

/-- **Families are read back from their text.** -/
theorem readings?_text {families : List Family} (h : ∀ f ∈ families, f.IsNamed) :
    readings? (String.join (families.map Family.text)) =
      some ((families.flatMap Family.samples).map Sample.reading) := by
  have htext : (String.join (families.map Family.text)).toList =
      (families.flatMap Family.lines).flatMap (· ++ ['\n']) := by
    rw [String.toList_join, List.flatMap_map, List.flatMap_assoc]
    exact List.flatMap_congr fun f _ => Family.text_eq f
  have hbreaks : ∀ line ∈ families.flatMap Family.lines, '\n' ∉ line := by
    intro line hline
    obtain ⟨f, hf, hmem⟩ := List.mem_flatMap.mp hline
    rcases List.mem_append.mp hmem with hheader | hsample
    · exact (h f hf).header line hheader
    · obtain ⟨s, hs, rfl⟩ := List.mem_map.mp hsample
      exact newline_notMem_line ((h f hf).samples s hs)
  have hlines : (families.flatMap Family.lines ++ [[]]).filter isSampleLine =
      (families.flatMap Family.samples).map Sample.line := by
    rw [List.filter_append, List.filter_flatMap, List.map_flatMap]
    have hempty : [([] : List Char)].filter isSampleLine = [] := rfl
    rw [hempty, List.append_nil]
    exact List.flatMap_congr fun f hf => filter_lines (h f hf)
  rw [readings?, htext, splitAt_lines hbreaks, hlines]
  refine Text.mapM_map_eq_some fun s hs => ?_
  obtain ⟨f, hf, hmem⟩ := List.mem_flatMap.mp hs
  exact readSample?_line ((h f hf).samples s hmem)

/-! ## 6. Reports -/

theorem Sample.isNamed_of {s : Sample} {names : List String}
    (hlabels : s.labels.map Prod.fst = names) (hname : isName s.name = true) (hne : names ≠ [])
    (hnames : ∀ n ∈ names, isName n = true) : s.IsNamed := by
  subst hlabels
  exact ⟨hname, fun hnil => hne (by rw [hnil, List.map_nil]), fun l hl =>
    hnames l.1 (List.mem_map_of_mem hl)⟩

theorem isNamed_targetFamily : targetFamily.IsNamed := by
  refine ⟨by decide, fun s hs => ?_⟩
  obtain rfl := List.mem_singleton.mp hs
  exact Sample.isNamed_of rfl (by decide) (by decide) (by decide)

theorem isNamed_eventsFamily (service : String) (m : Metrics) :
    (eventsFamily service m).IsNamed := by
  have hheader : ∀ line ∈ headerLines eventsName Instrument.events.help Instrument.events.kind,
      '\n' ∉ line := by decide
  refine ⟨hheader, fun s hs => ?_⟩
  rw [eventsFamily_samples] at hs
  obtain ⟨r, -, rfl⟩ := List.mem_map.mp hs
  have hlabels : (eventSample service r.1 r.2.1 r.2.2).labels.map Prod.fst =
      ["auth_type", "event", "otel_scope_name"] := rfl
  exact Sample.isNamed_of hlabels (show isName eventsName = true by decide) (by decide) (by decide)

theorem isNamed_histogram {service : String} {t : AuthType} {values : List Binary64} {s : Sample}
    (hs : s ∈ histogram service t values) : s.IsNamed := by
  have hbucket (bound : String) (x : Binary64) : Sample.IsNamed
      { name := latencyName ++ "_bucket"
        labels := [("auth_type", t.name), scopeLabel service] ++ [("le", bound)], value := x } := by
    have hlabels : ([("auth_type", t.name), scopeLabel service] ++ [("le", bound)]).map Prod.fst =
        ["auth_type", "otel_scope_name", "le"] := rfl
    have hname : isName (latencyName ++ "_bucket") = true := by decide
    exact Sample.isNamed_of hlabels hname (by decide) (by decide)
  have hwhole {name : String} (hname : isName name = true) (x : Binary64) : Sample.IsNamed
      { name, labels := [("auth_type", t.name), scopeLabel service], value := x } := by
    have hlabels : [("auth_type", t.name), scopeLabel service].map Prod.fst =
        ["auth_type", "otel_scope_name"] := rfl
    exact Sample.isNamed_of hlabels hname (by decide) (by decide)
  simp only [histogram, List.mem_append, List.mem_map, List.mem_cons, List.not_mem_nil,
    or_false] at hs
  rcases hs with ⟨b, -, rfl⟩ | rfl | rfl | rfl
  · exact hbucket _ _
  · exact hbucket _ _
  · exact hwhole (by decide) _
  · exact hwhole (by decide) _

theorem isNamed_latencyFamily (service : String) (m : Metrics) :
    (latencyFamily service m).IsNamed := by
  have hheader : ∀ line ∈ headerLines latencyName Instrument.latencies.help
      Instrument.latencies.kind, '\n' ∉ line := by decide
  refine ⟨hheader, fun s hs => ?_⟩
  rw [latencyFamily_samples] at hs
  obtain ⟨t, -, hs⟩ := List.mem_flatMap.mp hs
  exact isNamed_histogram hs

theorem isNamed_families (service : String) (m : Metrics) :
    ∀ f ∈ families service m, f.IsNamed := by
  intro f hf
  rcases List.mem_cons.mp hf with rfl | hf
  · exact isNamed_targetFamily
  · rcases List.mem_cons.mp (List.mem_of_mem_filter hf) with rfl | hf
    · exact isNamed_eventsFamily service m
    · rw [List.mem_singleton.mp hf]
      exact isNamed_latencyFamily service m

/-- **A report is read back**, whatever the service is called: families without samples have no
lines, so nothing is missing without them. -/
theorem readings?_render (service : String) (m : Metrics) :
    readings? (render service m) = some ((targetFamily.samples ++
      (eventsFamily service m).samples ++ (latencyFamily service m).samples).map
        Sample.reading) := by
  have hfamilies : (families service m).flatMap Family.samples = targetFamily.samples ++
      (eventsFamily service m).samples ++ (latencyFamily service m).samples := by
    simp only [families]
    cases hevents : (eventsFamily service m).samples <;>
      cases hlatency : (latencyFamily service m).samples <;> simp [hevents, hlatency]
  rw [render, readings?_text (isNamed_families service m), hfamilies]

end LoginGate.Exposition
