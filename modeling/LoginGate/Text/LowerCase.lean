/-
# Lower case

Names of settings are compared in lower case.  Every capital letter of the Unicode standard becomes
its small letter.  Two letters need more: the dotted capital I becomes an i with a dot above it, and
a capital sigma at the end of a word becomes the final sigma.  On ASCII this is the lower case of
the core library (`lowerChar_ascii`).
-/
import LoginGate.Text.CaseRanges

namespace LoginGate.Text

/-! ## 1. Single letters -/

/-- The small letter of a capital one, and every other character as it is. -/
def lowerChar (c : Char) : Char :=
  if c.toNat < 0x80 then c.toLower
  else
    match capitalRuns.find? (·.contains c.toNat) with
    | some run => Char.ofNat (c.toNat + run.distance).toNat
    | none => c

@[simp] theorem lowerChar_ascii {c : Char} (h : c.toNat < 0x80) : lowerChar c = c.toLower := by
  simp [lowerChar, h]

/-! ## 2. Words -/

/-- Whether the first character that is not passed over is a letter with case. -/
def meetsCased (cs : List Char) : Bool :=
  (cs.dropWhile isCaseIgnorable).head?.any isCased

/-- The small sigma of a capital one between what stands before it, in reverse, and behind it. -/
def lowerSigma (before behind : List Char) : Char :=
  if meetsCased before && !meetsCased behind then 'ς' else 'σ'

/-- The lower case of characters behind others, which are given in reverse. -/
def lowerAfter (before : List Char) : List Char → List Char
  | [] => []
  | c :: cs =>
    (if c = 'Σ' then [lowerSigma before cs]
      else if c = 'İ' then ['i', '\u0307']
      else [lowerChar c]) ++ lowerAfter (c :: before) cs

/-- The lower case of a text. -/
def lowerCase (s : String) : String :=
  String.ofList (lowerAfter [] s.toList)

end LoginGate.Text
