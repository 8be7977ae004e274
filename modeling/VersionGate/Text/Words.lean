import VersionGate.Text.Blank

/-!
# Words

A word is a longest run of characters that are not blank. The words of a text
are found from its right end, so that one more character on the left either
closes the word that begins there or lengthens it.
-/

namespace VersionGate.Text

/-- What has been read of a text from its right end: the word that touches the
left edge, which may be empty, and the finished words after it. -/
structure WordScan where
  current : List Char := []
  finished : List (List Char) := []
deriving DecidableEq

/-- The words of a scan: an empty word at the left edge does not count. -/
def WordScan.words (scan : WordScan) : List (List Char) :=
  if scan.current.isEmpty then scan.finished else scan.current :: scan.finished

/-- One more character on the left: a blank closes the current word, any other
character lengthens it. -/
def WordScan.extend (c : Char) (scan : WordScan) : WordScan :=
  if isBlank c then ⟨[], scan.words⟩ else ⟨c :: scan.current, scan.finished⟩

/-- The words of a list of characters, in order. -/
def splitWords (text : List Char) : List (List Char) :=
  (text.foldr WordScan.extend {}).words

/-- The words of a text, in order. -/
def words (text : String) : List String :=
  (splitWords text.toList).map String.ofList

/-- The words of each text in turn, after the words already collected. -/
def collectWords (collected : List String) (texts : List String) : List String :=
  texts.foldl (fun found text => found ++ words text) collected

/-- Words that were finished before are not touched by what is read to their left. -/
theorem foldr_extend_finished (text : List Char) (finished : List (List Char)) :
    text.foldr WordScan.extend ⟨[], finished⟩ =
      ⟨(text.foldr WordScan.extend {}).current,
        (text.foldr WordScan.extend {}).finished ++ finished⟩ := by
  induction text with
  | nil => rfl
  | cons c text ih =>
    rw [List.foldr_cons, List.foldr_cons, ih]
    by_cases hblank : isBlank c = true
    · by_cases hcurrent : (text.foldr WordScan.extend {}).current = [] <;>
        simp [WordScan.extend, WordScan.words, hblank, hcurrent]
    · simp [WordScan.extend, hblank]

/-- A blank parts the words before it from those after it. -/
theorem splitWords_append_blank {c : Char} (hblank : isBlank c = true) (left right : List Char) :
    splitWords (left ++ c :: right) = splitWords left ++ splitWords right := by
  have hstart : (c :: right).foldr WordScan.extend {} = ⟨[], splitWords right⟩ := by
    simp [WordScan.extend, splitWords, hblank]
  have hscan := foldr_extend_finished left (splitWords right)
  unfold splitWords at hstart hscan ⊢
  rw [List.foldr_append, hstart, hscan]
  by_cases hcurrent : (left.foldr WordScan.extend {}).current = [] <;>
    simp [WordScan.words, hcurrent]

/-- A leading blank adds no word. -/
theorem splitWords_cons_of_isBlank {c : Char} (text : List Char) (h : isBlank c = true) :
    splitWords (c :: text) = splitWords text :=
  splitWords_append_blank h [] text

end VersionGate.Text
