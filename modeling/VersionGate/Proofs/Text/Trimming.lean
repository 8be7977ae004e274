import Mathlib.Data.List.DropRight
import VersionGate.Text.Blank

/-!
# Trimmed texts

Trimming leaves a text that neither begins nor ends with a blank, and takes nothing but
blanks away. Blanks that are put around a text do not change what is left of it.
-/

namespace VersionGate.Text

/-- All characters of a text are blanks. -/
def AreBlanks (text : List Char) : Prop :=
  ∀ c ∈ text, isBlank c = true

instance : DecidablePred AreBlanks := fun text => List.decidableBAll (isBlank · = true) text

/-- The empty text consists of blanks. -/
theorem areBlanks_nil : AreBlanks [] :=
  nofun

/-- A character that is no blank is not among blanks. -/
theorem AreBlanks.not_mem {blanks : List Char} {c : Char} (hblanks : AreBlanks blanks)
    (hc : isBlank c = false) : c ∉ blanks := by
  intro hmem
  rw [hblanks c hmem] at hc
  cases hc

/-- A text neither begins nor ends with a blank. -/
structure IsTight (text : List Char) : Prop where
  first : ∀ c, text.head? = some c → isBlank c = false
  last : ∀ c, text.getLast? = some c → isBlank c = false

instance : DecidablePred IsTight := fun text =>
  decidable_of_iff (text.head?.all (!isBlank ·) = true ∧ text.getLast?.all (!isBlank ·) = true)
    ⟨fun h => ⟨by simpa [Option.all_eq_true] using h.1, by simpa [Option.all_eq_true] using h.2⟩,
      fun h => ⟨by simpa [Option.all_eq_true] using h.first,
        by simpa [Option.all_eq_true] using h.last⟩⟩

variable {left right text : List Char}

/-- A text without blanks is tight. -/
theorem isTight_of_forall (htext : ∀ c ∈ text, isBlank c = false) : IsTight text where
  first c hc := htext c (List.mem_of_head? hc)
  last c hc := htext c (List.mem_of_getLast? hc)

/-- A text between two characters that are no blanks is tight with them. -/
theorem isTight_between {first last : Char} (hfirst : isBlank first = false)
    (hlast : isBlank last = false) (text : List Char) : IsTight (first :: text ++ [last]) where
  first c hc := by
    obtain rfl : first = c := by simpa using hc
    exact hfirst
  last c hc := by
    rw [List.getLast?_concat, Option.some.injEq] at hc
    rw [← hc]
    exact hlast

/-- Trimming drops the blanks on the left and then those on the right. -/
theorem trim_eq (text : List Char) : trim text = (text.dropWhile isBlank).rdropWhile isBlank :=
  rfl

/-- Nothing is left of blanks when they are dropped. -/
theorem dropWhile_of_areBlanks (hblanks : AreBlanks text) : text.dropWhile isBlank = [] :=
  List.dropWhile_eq_nil_iff.mpr hblanks

/-- Blanks on the left do not change the trimmed text. -/
theorem trim_append_left (hleft : AreBlanks left) (text : List Char) :
    trim (left ++ text) = trim text := by
  rw [trim_eq, trim_eq, List.dropWhile_append, dropWhile_of_areBlanks hleft]
  rfl

/-- Blanks on the right do not change what is left when a text is trimmed there. -/
theorem rdropWhile_append_of_areBlanks (hright : AreBlanks right) (text : List Char) :
    (text ++ right).rdropWhile isBlank = text.rdropWhile isBlank := by
  have hreverse : AreBlanks right.reverse := fun c hc => hright c (List.mem_reverse.mp hc)
  simp [List.rdropWhile, List.dropWhile_append, dropWhile_of_areBlanks hreverse]

/-- Blanks on the right do not change the trimmed text. -/
theorem trim_append_right (hright : AreBlanks right) (text : List Char) :
    trim (text ++ right) = trim text := by
  rw [trim_eq, trim_eq, List.dropWhile_append]
  split
  · next hempty =>
    rw [List.isEmpty_iff.mp hempty, dropWhile_of_areBlanks hright]
  · exact rdropWhile_append_of_areBlanks hright _

/-- Nothing is left of blanks when they are trimmed. -/
theorem trim_of_areBlanks (hblanks : AreBlanks text) : trim text = [] := by
  rw [trim_eq, dropWhile_of_areBlanks hblanks, List.rdropWhile_nil]

/-- A text that does not begin with a blank keeps its left end. -/
theorem dropWhile_of_first (hfirst : ∀ c, text.head? = some c → isBlank c = false) :
    text.dropWhile isBlank = text := by
  cases text with
  | nil => rfl
  | cons c text => simp [hfirst c rfl]

/-- A text that does not end with a blank keeps its right end. -/
theorem rdropWhile_of_last (hlast : ∀ c, text.getLast? = some c → isBlank c = false) :
    text.rdropWhile isBlank = text := by
  rw [List.rdropWhile_eq_self_iff]
  intro hne
  simp [hlast _ (List.getLast?_eq_some_getLast hne)]

/-- A tight text is trimmed already. -/
theorem trim_of_isTight (htight : IsTight text) : trim text = text := by
  rw [trim_eq, dropWhile_of_first htight.first, rdropWhile_of_last htight.last]

/-- A tight text is what is left of it when it stands between blanks. -/
theorem trim_between (hleft : AreBlanks left) (htight : IsTight text) (hright : AreBlanks right) :
    trim (left ++ text ++ right) = text := by
  rw [trim_append_right hright, trim_append_left hleft, trim_of_isTight htight]

/-- What is dropped on the left of a text are blanks. -/
theorem exists_append_dropWhile (text : List Char) :
    ∃ left, AreBlanks left ∧ text = left ++ text.dropWhile isBlank :=
  ⟨text.takeWhile isBlank, fun _ => List.mem_takeWhile_imp, List.takeWhile_append_dropWhile.symm⟩

/-- What is dropped on the right of a text are blanks. -/
theorem exists_rdropWhile_append (text : List Char) :
    ∃ right, AreBlanks right ∧ text = text.rdropWhile isBlank ++ right :=
  ⟨text.rtakeWhile isBlank, fun _ => List.mem_rtakeWhile_imp,
    List.rdropWhile_append_rtakeWhile.symm⟩

/-- A text stands between blanks in what it is trimmed from. -/
theorem exists_between_trim (text : List Char) :
    ∃ left right, AreBlanks left ∧ AreBlanks right ∧ text = left ++ trim text ++ right := by
  obtain ⟨left, hleft, htext⟩ := exists_append_dropWhile text
  obtain ⟨right, hright, hrest⟩ := exists_rdropWhile_append (text.dropWhile isBlank)
  refine ⟨left, right, hleft, hright, ?_⟩
  rw [trim_eq, List.append_assoc, ← hrest, ← htext]

/-- A trimmed text is tight. -/
theorem isTight_trim (text : List Char) : IsTight (trim text) where
  first c hc := by
    obtain ⟨rest, hrest⟩ := List.head?_eq_some_iff.mp hc
    obtain ⟨more, hmore⟩ : trim text <+: text.dropWhile isBlank := List.rdropWhile_prefix _ _
    have hnot := List.head?_dropWhile_not isBlank text
    rw [← hmore, hrest] at hnot
    simpa using hnot
  last c hc := by
    have hne : trim text ≠ [] := by
      intro hempty
      rw [hempty] at hc
      cases hc
    have hnot := List.rdropWhile_last_not _ _ hne
    rw [List.getLast?_eq_some_getLast hne, Option.some.injEq] at hc
    rw [← hc, ← Bool.not_eq_true]
    exact hnot

/-- Trimming takes nothing but blanks away. -/
theorem mem_trim_iff {c : Char} (hc : isBlank c = false) : c ∈ trim text ↔ c ∈ text := by
  obtain ⟨left, right, hleft, hright, htext⟩ := exists_between_trim text
  conv_rhs => rw [htext]
  simp [hleft.not_mem hc, hright.not_mem hc]

/-- A text is not longer when it is trimmed. -/
theorem length_trim_le (text : List Char) : (trim text).length ≤ text.length := by
  rw [trim_eq]
  exact (List.rdropWhile_prefix _ _).length_le.trans (List.dropWhile_sublist _).length_le

/-- Trimming a text that was trimmed on the left is trimming the text. -/
theorem trim_dropWhile (text : List Char) : trim (text.dropWhile isBlank) = trim text := by
  obtain ⟨left, hleft, htext⟩ := exists_append_dropWhile text
  conv_rhs => rw [htext, trim_append_left hleft]

/-- Trimming a text that was trimmed on the right is trimming the text. -/
theorem trim_rdropWhile (text : List Char) : trim (text.rdropWhile isBlank) = trim text := by
  obtain ⟨right, hright, htext⟩ := exists_rdropWhile_append text
  conv_rhs => rw [htext, trim_append_right hright]

/-- A character that is no blank keeps what stands around it apart when a text is trimmed. -/
theorem trim_append_cons {c : Char} (hc : isBlank c = false) (left right : List Char) :
    trim (left ++ c :: right) = left.dropWhile isBlank ++ c :: right.rdropWhile isBlank := by
  have hleft : (left ++ c :: right).dropWhile isBlank = left.dropWhile isBlank ++ c :: right := by
    rw [List.dropWhile_append]
    split
    · next hempty => simp [List.isEmpty_iff.mp hempty, hc]
    · rfl
  obtain ⟨blanks, hblanks, hright⟩ := exists_rdropWhile_append right
  have hlast : ∀ d, (left.dropWhile isBlank ++ c :: right.rdropWhile isBlank).getLast? = some d →
      isBlank d = false := by
    intro d hd
    by_cases hempty : right.rdropWhile isBlank = []
    · obtain rfl : c = d := by simpa [hempty] using hd
      exact hc
    · have hnot := List.rdropWhile_last_not _ _ hempty
      rw [List.getLast?_append_of_ne_nil _ (by simp), List.getLast?_cons_of_ne_nil hempty,
        List.getLast?_eq_some_getLast hempty, Option.some.injEq] at hd
      rw [← hd]
      simpa using hnot
  rw [trim_eq, hleft]
  conv_lhs => rw [hright]
  rw [← List.cons_append, ← List.append_assoc, rdropWhile_append_of_areBlanks hblanks,
    rdropWhile_of_last hlast]

end VersionGate.Text
