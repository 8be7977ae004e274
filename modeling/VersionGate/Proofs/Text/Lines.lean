import VersionGate.Text.Lines

/-!
# Lines of a text

A text is cut at its line ends, and the cut is the only one whose pieces are unbroken. To
turn carriage returns, alone or before a line feed, into line feeds does not change the
lines.
-/

namespace VersionGate.Text

/-- A text is unbroken when no line ends in it. -/
def IsUnbroken (text : List Char) : Prop :=
  ∀ c ∈ text, endsLine c = false

instance : DecidablePred IsUnbroken := fun text => List.decidableBAll (endsLine · = false) text

/-- A text with a line feed in place of each carriage return and of each carriage return
that comes with a line feed. -/
def translateReturns : List Char → List Char
  | [] => []
  | '\r' :: '\n' :: rest => '\n' :: translateReturns rest
  | '\r' :: rest => '\n' :: translateReturns rest
  | c :: rest => c :: translateReturns rest

/-- Some lines make up a text without carriage returns: each of them is unbroken and stands
before a line end, save that the last one may be without it unless it is empty. -/
inductive AreLinesOf : List (List Char) → List Char → Prop
  | none : AreLinesOf [] []
  | last {line : List Char} : line ≠ [] → IsUnbroken line → AreLinesOf [line] line
  | cons {line rest : List Char} {lines : List (List Char)} {ending : Char} :
    IsUnbroken line → endsLine ending = true → AreLinesOf lines rest →
    AreLinesOf (line :: lines) (line ++ ending :: rest)

variable {text line rest : List Char} {c : Char}

/-- Two unbroken texts make an unbroken one. -/
theorem IsUnbroken.append (hline : IsUnbroken line) (hrest : IsUnbroken rest) :
    IsUnbroken (line ++ rest) :=
  List.forall_mem_append.mpr ⟨hline, hrest⟩

/-- A character that ends no line lengthens an unbroken text. -/
theorem IsUnbroken.cons (hc : endsLine c = false) (hline : IsUnbroken line) :
    IsUnbroken (c :: line) :=
  List.forall_mem_cons.mpr ⟨hc, hline⟩

/-- A scan begins with a line feed when its text does. -/
theorem atLineFeed_foldr_extend (text : List Char) :
    (text.foldr LineScan.extend {}).atLineFeed = (text.head? == some '\n') := by
  cases text with
  | nil => rfl
  | cons c text =>
    rw [List.foldr_cons, LineScan.extend, List.head?_cons]
    split
    · next hreturn =>
      simp only [Bool.and_eq_true, beq_iff_eq] at hreturn
      rw [hreturn.1]
      rfl
    · split
      · rfl
      · next hends =>
        have hc : c ≠ '\n' := by
          rintro rfl
          exact hends (by decide)
        simp [hc]

/-- A character that ends no line lengthens the first line. -/
theorem splitLines_cons_of_not_ends (hc : endsLine c = false) (text : List Char) :
    splitLines (c :: text) = extendFirst c (splitLines text) := by
  have hreturn : (c == '\r') = false := by
    rw [beq_eq_false_iff_ne]
    rintro rfl
    simp [endsLine, lineEnds] at hc
  simp [splitLines, LineScan.extend, hc, hreturn]

/-- A line end puts an empty line in front, unless it is a carriage return that comes with a
line feed. -/
theorem splitLines_cons_of_ends (hc : endsLine c = true)
    (hfeed : c = '\r' → text.head? ≠ some '\n') :
    splitLines (c :: text) = [] :: splitLines text := by
  have hjoined : (c == '\r' && (text.foldr LineScan.extend {}).atLineFeed) = false := by
    rw [atLineFeed_foldr_extend, Bool.and_eq_false_iff, beq_eq_false_iff_ne, beq_eq_false_iff_ne]
    exact (Decidable.em (c = '\r')).elim (fun hc => .inr (hfeed hc)) .inl
  simp [splitLines, LineScan.extend, hc, hjoined]

/-- A carriage return that comes with a line feed is one line end with it. -/
theorem splitLines_return_lineFeed (text : List Char) :
    splitLines ('\r' :: '\n' :: text) = [] :: splitLines text := by
  rw [← splitLines_lineFeed_cons]
  simp [splitLines, LineScan.extend, endsLine, lineEnds]

/-- A line before other lines is lengthened by an unbroken text in front of it. -/
theorem splitLines_append_of_isUnbroken {first : List Char} {others : List (List Char)}
    (hline : IsUnbroken line) (htext : splitLines text = first :: others) :
    splitLines (line ++ text) = (line ++ first) :: others := by
  induction line with
  | nil => exact htext
  | cons c line ih =>
    rw [List.cons_append, splitLines_cons_of_not_ends (hline c List.mem_cons_self),
      ih fun d hd => hline d (List.mem_cons_of_mem _ hd)]
    rfl

/-- An unbroken text in front of a line end is the first line. -/
theorem splitLines_append_cons {ending : Char} (hline : IsUnbroken line)
    (hends : endsLine ending = true) (hfeed : ending = '\r' → rest.head? ≠ some '\n') :
    splitLines (line ++ ending :: rest) = line :: splitLines rest := by
  simpa using splitLines_append_of_isUnbroken hline (splitLines_cons_of_ends hends hfeed)

/-- An unbroken text in front of a carriage return with a line feed is the first line. -/
theorem splitLines_append_return_lineFeed (hline : IsUnbroken line) (rest : List Char) :
    splitLines (line ++ '\r' :: '\n' :: rest) = line :: splitLines rest := by
  simpa using splitLines_append_of_isUnbroken hline (splitLines_return_lineFeed rest)

/-- An unbroken text is its only line, unless it is empty. -/
theorem splitLines_of_isUnbroken (hne : line ≠ []) (hline : IsUnbroken line) :
    splitLines line = [line] := by
  induction line with
  | nil => exact absurd rfl hne
  | cons c line ih =>
    rw [splitLines_cons_of_not_ends (hline c List.mem_cons_self)]
    cases line with
    | nil => rfl
    | cons d line =>
      rw [ih (by simp) fun e he => hline e (List.mem_cons_of_mem _ he)]
      rfl

/-- No carriage return is left in a translated text. -/
theorem return_not_mem_translateReturns (text : List Char) : '\r' ∉ translateReturns text := by
  fun_induction translateReturns text with
  | case1 => simp
  | case2 rest ih => simp [ih]
  | case3 rest _ ih => simp [ih]
  | case4 c rest _ hc ih => simp [ih, Ne.symm hc]

/-- A translated text has the lines of the text. -/
theorem splitLines_translateReturns (text : List Char) :
    splitLines (translateReturns text) = splitLines text := by
  have hends : endsLine '\r' = true := by decide
  fun_induction translateReturns text with
  | case1 => rfl
  | case2 rest ih => rw [splitLines_lineFeed_cons, splitLines_return_lineFeed, ih]
  | case3 rest hfeed ih =>
    have hhead : rest.head? ≠ some '\n' := by
      cases rest with
      | nil => simp
      | cons d rest =>
        intro hd
        obtain rfl : d = '\n' := by simpa using hd
        exact hfeed rest rfl
    rw [splitLines_lineFeed_cons, splitLines_cons_of_ends hends fun _ => hhead, ih]
  | case4 c rest _ hc ih =>
    have hne : c ≠ '\r' := hc
    by_cases hc' : endsLine c = true
    · rw [splitLines_cons_of_ends hc' fun h => absurd h hne,
        splitLines_cons_of_ends hc' fun h => absurd h hne, ih]
    · rw [Bool.not_eq_true] at hc'
      rw [splitLines_cons_of_not_ends hc', splitLines_cons_of_not_ends hc', ih]

/-- A text without carriage returns is made up of the lines that it is cut into. -/
theorem areLinesOf_splitLines (hreturn : '\r' ∉ text) : AreLinesOf (splitLines text) text := by
  induction text with
  | nil => exact .none
  | cons c text ih =>
    obtain ⟨hc, htext⟩ : '\r' ≠ c ∧ '\r' ∉ text := by simpa using hreturn
    have hrest := ih htext
    by_cases hends : endsLine c = true
    · rw [splitLines_cons_of_ends hends fun h => absurd h.symm hc]
      have hempty : IsUnbroken [] := by simp [IsUnbroken]
      exact .cons hempty hends hrest
    · rw [Bool.not_eq_true] at hends
      rw [splitLines_cons_of_not_ends hends]
      generalize splitLines text = lines at hrest ⊢
      cases hrest with
      | none => exact .last (by simp) (.cons hends (by simp [IsUnbroken]))
      | last _ hline => exact .last (by simp) (.cons hends hline)
      | cons hline hending hlines => exact .cons (.cons hends hline) hending hlines

/-- The lines that make up a text without carriage returns are the ones that it is cut into. -/
theorem AreLinesOf.eq_splitLines {lines : List (List Char)} (hlines : AreLinesOf lines text)
    (hreturn : '\r' ∉ text) : lines = splitLines text := by
  induction hlines with
  | none => rfl
  | last hne hline => rw [splitLines_of_isUnbroken hne hline]
  | @cons line rest lines ending hline hends _ ih =>
    have hending : ending ≠ '\r' := by
      rintro rfl
      simp at hreturn
    rw [splitLines_append_cons hline hends fun h => absurd h hending,
      ih fun hmem => hreturn (by simp [hmem])]

end VersionGate.Text
