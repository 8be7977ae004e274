import VersionGate.Binding.Slot
import VersionGate.Proofs.Version.Reading

/-!
# Blanks around a version

Blanks behind a version text never matter, and blanks in front of it only matter when it begins
with a dot. Such a dot is completed by a zero only where it is the very first character, so that
behind blanks it ends the reading before there is a field.
-/

namespace VersionGate.Version

open Text Number

variable {left right text rest : List Char}

section Digits

/-- Blanks do not begin with a digit. -/
theorem noDigitFirst_of_areBlanks (hblanks : AreBlanks text) : NoDigitFirst text := by
  intro c hc
  by_contra hdigit
  have hblank : isBlank c = false := isBlank_eq_false_of_isDigit (by simpa using hdigit)
  exact hblanks.not_mem hblank (List.mem_of_head? hc)

/-- Blanks do not begin with a dot. -/
theorem head?_ne_dot_of_areBlanks (hblanks : AreBlanks text) : text.head? ≠ some '.' := by
  intro hdot
  exact hblanks.not_mem (by decide) (List.mem_of_head? hdot)

namespace NoDigitFirst

/-- The digits in front of a text are the same when no digit is put behind it. -/
theorem takeWhile_append (hrest : NoDigitFirst rest) (text : List Char) :
    (text ++ rest).takeWhile isDigit = text.takeWhile isDigit := by
  rw [List.takeWhile_append, hrest.takeWhile_eq_nil, List.append_nil]
  split
  · next hall => exact (List.IsPrefix.eq_of_length (List.takeWhile_prefix _) hall).symm
  · rfl

/-- What stands behind the digits in front of a text stays in front of what is put behind it. -/
theorem dropWhile_append (hrest : NoDigitFirst rest) (text : List Char) :
    (text ++ rest).dropWhile isDigit = text.dropWhile isDigit ++ rest := by
  rw [List.dropWhile_append, hrest.dropWhile_eq_self]
  split
  · next hnone => rw [List.isEmpty_iff.mp hnone, List.nil_append]
  · rfl

end NoDigitFirst

end Digits

section Fields

/-- Blanks in front of a text do not change the fields that are read. -/
theorem fieldDigits_append_left (hleft : AreBlanks left) (count : Nat) (text : List Char) :
    fieldDigits count (left ++ text) = fieldDigits count text := by
  cases count with
  | zero => rfl
  | succ count => simp only [fieldDigits, trimLeft, List.dropWhile_append_of_pos hleft]

/-- Blanks behind a text do not change the fields that are read. -/
theorem fieldDigits_append_right (hright : AreBlanks right) (count : Nat) (text : List Char) :
    fieldDigits count (text ++ right) = fieldDigits count text := by
  induction count generalizing text with
  | zero => rfl
  | succ count ih =>
    by_cases hblanks : AreBlanks text
    · have hboth : AreBlanks (text ++ right) := List.forall_mem_append.mpr ⟨hblanks, hright⟩
      simp only [fieldDigits, trimLeft, dropWhile_of_areBlanks hblanks,
        dropWhile_of_areBlanks hboth]
    · obtain ⟨c, hc, hblank⟩ : ∃ c ∈ text, isBlank c = false := by simpa [AreBlanks] using hblanks
      have hnone := noDigitFirst_of_areBlanks hright
      simp only [fieldDigits, trimLeft, dropWhile_append_of_mem hc hblank, hnone.takeWhile_append,
        hnone.dropWhile_append]
      generalize (text.dropWhile isBlank).dropWhile isDigit = after
      split
      · rfl
      · congr 1
        cases after with
        | nil =>
          -- The blanks would have to begin with a dot for a field to be read behind it.
          rw [List.nil_append]
          split
          · next more => exact absurd rfl (head?_ne_dot_of_areBlanks hright)
          · rfl
        | cons c more =>
          by_cases hdot : c = '.'
          · subst hdot
            exact ih more
          · simp [hdot]

end Fields

section Reading

/-- No zero is put in front of a text that does not begin with a dot. -/
theorem withLeadingZero_of_ne (hfirst : text.head? ≠ some '.') : withLeadingZero text = text :=
  if_neg hfirst

/-- A zero is put in front of a text whatever blanks stand behind it. -/
theorem withLeadingZero_append_right (hright : AreBlanks right) (text : List Char) :
    withLeadingZero (text ++ right) = withLeadingZero text ++ right := by
  cases text with
  | nil => exact withLeadingZero_of_ne (head?_ne_dot_of_areBlanks hright)
  | cons c text =>
    rw [List.cons_append, withLeadingZero, withLeadingZero, List.head?_cons, List.head?_cons]
    split
    · rfl
    · rfl

/-- Blanks behind a text do not change what is read. -/
theorem readChars_append_right (hright : AreBlanks right) (text : List Char) :
    readChars (text ++ right) = readChars text := by
  rw [readChars_eq, readChars_eq, readUncompleted, readUncompleted,
    withLeadingZero_append_right hright, fieldDigits_append_right hright]

/-- Blanks in front of a text that does not begin with a dot do not change what is read. -/
theorem readChars_append_left (hleft : AreBlanks left) (hfirst : text.head? ≠ some '.') :
    readChars (left ++ text) = readChars text := by
  have hboth : (left ++ text).head? ≠ some '.' := by
    intro hdot
    rcases Option.or_eq_some_iff.mp (List.head?_append ▸ hdot) with hdot | ⟨_, hdot⟩
    · exact head?_ne_dot_of_areBlanks hleft hdot
    · exact hfirst hdot
  rw [readChars_eq, readChars_eq, readUncompleted, readUncompleted, withLeadingZero_of_ne hboth,
    withLeadingZero_of_ne hfirst, fieldDigits_append_left hleft]

/-- Texts with the same reading are the same version, or are refused for the same count of
digits. -/
theorem ofText_congr {text text' : String}
    (hread : readChars text.toList = readChars text'.toList) :
    ofText text = ofText text' := by
  rw [ofText_eq, ofText_eq, ← hread]
  cases hresult : readChars text.toList with
  | ok version => rfl
  | error fault =>
    have hrefused : ofText text = .error (Fault.ofInteger text fault) := by
      rw [ofText_eq, hresult]
      rfl
    -- A malformed number would be told with the text, but no text is refused for one.
    obtain ⟨count, _, hfault⟩ := exists_of_ofText_error hrefused
    cases fault with
    | malformed => cases hfault
    | tooManyDigits count => rfl

/-- No field is read where a dot stands behind blanks. -/
theorem readChars_blanks_dot (hleft : AreBlanks left) (hne : left ≠ []) (rest : List Char) :
    readChars (left ++ '.' :: rest) = .ok {} := by
  have hfirst : (left ++ '.' :: rest).head? ≠ some '.' := by
    rw [List.head?_append_of_ne_nil _ hne]
    exact head?_ne_dot_of_areBlanks hleft
  rw [readChars_eq, readUncompleted, withLeadingZero_of_ne hfirst, fieldDigits_append_left hleft]
  rfl

end Reading

section Slots

/-- A slot for versions takes the version of a token, and refuses a token that cannot be read. -/
theorem bind_of_readsVersions {slot : Slot} (hslot : slot.binder = .converter .version)
    (token : String) : slot.bind token = match readChars token.toList with
      | .ok version => .ok (some { slot with bound := some (.ofVersion version) })
      | .error _ => .ok none := by
  have hread : Version.read token = readChars token.toList := rfl
  simp only [Slot.bind, hslot, Binder.convert, Converter.version, hread]
  cases readChars token.toList <;> rfl

end Slots

/-- **Blanks around a version.** A text between blanks is read as the text itself, and a slot for
versions takes of it what it takes of the text itself, unless there are blanks in front and the
text begins with a dot. Then the version is zero, whatever follows the dot. -/
theorem ofText_between_blanks {before text after : String} (hbefore : AreBlanks before.toList)
    (hafter : AreBlanks after.toList) :
    (before = "" ∨ text.toList.head? ≠ some '.' →
      ofText (before ++ text ++ after) = ofText text ∧
      ∀ slot : Slot, slot.binder = .converter .version →
        slot.bind (before ++ text ++ after) = slot.bind text) ∧
    (before ≠ "" → text.toList.head? = some '.' →
      ofText (before ++ text ++ after) = .ok ⟨0, 0, 0⟩ ∧
      ∀ slot : Slot, slot.binder = .converter .version →
        slot.bind (before ++ text ++ after) =
          .ok (some { slot with bound := some (.ofVersion ⟨0, 0, 0⟩) })) := by
  have hchars :
      (before ++ text ++ after).toList = before.toList ++ text.toList ++ after.toList := by
    simp only [String.toList_append]
  constructor
  · intro hsame
    have hread : readChars (before ++ text ++ after).toList = readChars text.toList := by
      rw [hchars, readChars_append_right hafter]
      rcases hsame with rfl | hfirst
      · rfl
      · exact readChars_append_left hbefore hfirst
    refine ⟨ofText_congr hread, fun slot hslot => ?_⟩
    rw [bind_of_readsVersions hslot, bind_of_readsVersions hslot, hread]
  · intro hne hdot
    obtain ⟨rest, hrest⟩ := List.head?_eq_some_iff.mp hdot
    have hread : readChars (before ++ text ++ after).toList = .ok {} := by
      rw [hchars, readChars_append_right hafter, hrest]
      exact readChars_blanks_dot hbefore (by simpa using hne) rest
    refine ⟨?_, fun slot hslot => ?_⟩
    · rw [ofText_eq, hread]
      rfl
    · rw [bind_of_readsVersions hslot, hread]

/-- Blanks do not matter around digits and dots, and in front of a dot they hide the field behind
it, also from a slot. -/
theorem ofText_between_blanks_tab :
    ofText ("\t" ++ "1.2" ++ "\n") = .ok ⟨1, 2, 0⟩ ∧ ofText (" " ++ ".5" ++ "") = .ok ⟨0, 0, 0⟩ ∧
      Slot.bind ⟨.converter .version, none⟩ (" " ++ ".5" ++ "") =
        .ok (some ⟨.converter .version, some (.ofVersion ⟨0, 0, 0⟩)⟩) :=
  have hread : ofText "1.2" = .ok ⟨1, 2, 0⟩ := rfl
  have hsame := (ofText_between_blanks (by decide) (by decide)).1 (.inr (by decide))
  have hhidden := (ofText_between_blanks (by decide) (by decide)).2 (by decide) (by decide)
  ⟨hsame.1.trans hread, hhidden.1, hhidden.2 ⟨.converter .version, none⟩ rfl⟩

/-- A blank in front of a text that begins with a dot changes its version. -/
theorem ofText_space_dot_ne : AreBlanks " ".toList ∧ ofText (" " ++ ".5") ≠ ofText ".5" := by
  have hbehind : ofText (" " ++ ".5") = .ok ⟨0, 0, 0⟩ := rfl
  have hbare : ofText ".5" = .ok ⟨0, 5, 0⟩ := rfl
  refine ⟨by decide, fun heq => ?_⟩
  rw [hbehind, hbare] at heq
  cases heq

end VersionGate.Version
