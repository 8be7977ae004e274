import Mathlib.Data.List.Induction
import VersionGate.CommaList
import VersionGate.Fault
import VersionGate.Proofs.Value

/-!
# What a comma list shows

A comma list is worked on with a mark that a value has come, which decides about the comma before
the next one is written. However values and resets follow each other, the text is made up of the
fragments that were given back since the last reset, and it is the entries of the values that
count, with commas between them. A value without a written form has no entry, but it sets the mark:
when it is the first that counts, a comma stands in front of all entries.
-/

namespace VersionGate.CommaList

/-- A comma list in work: whether a value that counts has come, and the fragments that have been
written. -/
structure Writing where
  begun : Bool := false
  fragments : List String := []

namespace Writing

/-- Everything that has been written. -/
def text (writing : Writing) : String :=
  String.join writing.fragments

/-- What is given back for a value, and the list after it. A value that counts sets the mark before
it is written, and stops the call if it has no written form. -/
def call (writing : Writing) (value : Value) (description : Option String) :
    Except Fault String × Writing :=
  if value.isTrue then
    if value.isWritable then
      let fragment := (if writing.begun then ", " else "") ++ entry value description
      (.ok fragment, ⟨true, writing.fragments ++ [fragment]⟩)
    else (.error .tooLongToWrite, { writing with begun := true })
  else (.ok "", writing)

end Writing

/-- A comma list in work, together with the values that came since the last reset, each with its
description, and the fragments that were given back for them. -/
structure Transcript where
  writing : Writing := {}
  calls : List (Value × Option String) := []
  returned : List String := []

namespace Transcript

/-- The transcript after one more step. -/
def next (transcript : Transcript) : Step → Transcript
  | .add value description =>
    let (result, writing) := transcript.writing.call value description
    ⟨writing, transcript.calls ++ [(value, description)],
      transcript.returned ++ result.toOption.toList⟩
  | .reset => {}

/-- The transcript of some steps on a new list. -/
def ofSteps (steps : List Step) : Transcript :=
  steps.foldl next {}

/-- The values that count, each with its description. -/
def counted (transcript : Transcript) : List (Value × Option String) :=
  transcript.calls.filter (·.1.isTrue)

/-- The entries of the values that count and have written forms. -/
def entries (transcript : Transcript) : List String :=
  (transcript.counted.filter (·.1.isWritable)).map fun call => entry call.1 call.2

/-- Whether the first value that counts has no written form. -/
def beginsUnwritten (transcript : Transcript) : Bool :=
  transcript.counted.head?.any fun call => !call.1.isWritable

/-- The texts between which the commas stand: the entries, behind an empty text if the first value
that counts has no written form. -/
def places (transcript : Transcript) : List String :=
  if transcript.beginsUnwritten then "" :: transcript.entries else transcript.entries

/-- All values that count have written forms. -/
def AreWritten (transcript : Transcript) : Prop :=
  ∀ call ∈ transcript.calls, call.1.isTrue = true → call.1.isWritable = true

instance (transcript : Transcript) : Decidable transcript.AreWritten :=
  inferInstanceAs (Decidable (∀ call ∈ transcript.calls,
    call.1.isTrue = true → call.1.isWritable = true))

/-- A list in work shows what its transcript tells. -/
structure IsShown (transcript : Transcript) : Prop where
  text_eq_join : transcript.writing.text = String.join transcript.returned
  begun_iff : transcript.writing.begun = true ↔ transcript.counted ≠ []
  text_eq_intercalate : transcript.writing.text = ", ".intercalate transcript.places

variable {transcript : Transcript} {value : Value} {description : Option String} {steps : List Step}

/-- One more entry stands behind a comma, if there is an entry before it. -/
theorem intercalate_concat (texts : List String) (text : String) :
    ", ".intercalate (texts ++ [text]) =
      ", ".intercalate texts ++ ((if texts = [] then "" else ", ") ++ text) := by
  by_cases hnil : texts = []
  · simp [hnil]
  · rw [String.intercalate_append_of_ne_nil hnil (by simp), String.intercalate_singleton,
      if_neg hnil, String.append_assoc]

/-- A value that does not count is noted, and leaves all else as it is. -/
theorem next_of_not_isTrue (hfalse : value.isTrue = false) :
    transcript.next (.add value description) =
      { transcript with
        calls := transcript.calls ++ [(value, description)]
        returned := transcript.returned ++ [""] } := by
  simp [next, Writing.call, hfalse, Except.toOption]

/-- A value that counts and has a written form gives a fragment, which is written. -/
theorem next_of_isWritable (htrue : value.isTrue = true) (hwritable : value.isWritable = true) :
    transcript.next (.add value description) =
      let fragment := (if transcript.writing.begun then ", " else "") ++ entry value description
      ⟨⟨true, transcript.writing.fragments ++ [fragment]⟩,
        transcript.calls ++ [(value, description)], transcript.returned ++ [fragment]⟩ := by
  simp [next, Writing.call, htrue, hwritable, Except.toOption]

/-- A value that counts and has no written form gives nothing and sets the mark. -/
theorem next_of_not_isWritable (htrue : value.isTrue = true) (hlong : value.isWritable = false) :
    transcript.next (.add value description) =
      ⟨{ transcript.writing with begun := true }, transcript.calls ++ [(value, description)],
        transcript.returned⟩ := by
  simp [next, Writing.call, htrue, hlong, Except.toOption]

/-- The values that count are those before and the last one if it does. -/
theorem counted_next (transcript : Transcript) (value : Value) (description : Option String) :
    (transcript.next (.add value description)).counted =
      transcript.counted ++ if value.isTrue then [(value, description)] else [] := by
  cases htrue : value.isTrue <;> simp [next, counted, htrue]

/-- A place is taken by the first value that counts, with its entry if it has a written form, and by
the entry of each further one. -/
theorem places_next (transcript : Transcript) (value : Value) (description : Option String) :
    (transcript.next (.add value description)).places =
      if value.isTrue then
        if value.isWritable then transcript.places ++ [entry value description]
        else if transcript.counted = [] then [""] else transcript.places
      else transcript.places := by
  have hnext := counted_next transcript value description
  cases htrue : value.isTrue with
  | false =>
    simp only [htrue, Bool.false_eq_true, if_false, List.append_nil] at hnext ⊢
    rw [places, places, beginsUnwritten, beginsUnwritten, entries, entries, hnext]
  | true =>
    rw [htrue, if_pos rfl] at hnext
    rw [if_pos rfl, places, places, beginsUnwritten, beginsUnwritten, entries, entries, hnext]
    cases transcript.counted with
    | nil => cases hwritable : value.isWritable <;> simp [hwritable]
    | cons first rest =>
      cases hwritable : value.isWritable <;> cases hfirst : first.1.isWritable <;>
        simp [hwritable, hfirst]

/-- The places are taken when a value that counts has come. -/
theorem places_eq_nil_iff (transcript : Transcript) :
    transcript.places = [] ↔ transcript.counted = [] := by
  rw [places, beginsUnwritten, entries]
  cases transcript.counted with
  | nil => simp
  | cons first rest => cases hfirst : first.1.isWritable <;> simp [hfirst]

/-- All values are written when those before are and the last one is. -/
theorem areWritten_next (transcript : Transcript) (value : Value) (description : Option String) :
    (transcript.next (.add value description)).AreWritten ↔
      transcript.AreWritten ∧ (value.isTrue = true → value.isWritable = true) := by
  simp [next, AreWritten, or_imp, forall_and]

/-- A new list shows nothing. -/
theorem isShown_start : IsShown {} where
  text_eq_join := rfl
  begun_iff := by simp [counted]
  text_eq_intercalate := rfl

/-- A list shows what its transcript tells after a value that does not count. -/
theorem IsShown.next_of_not_isTrue (hshown : transcript.IsShown) (hfalse : value.isTrue = false) :
    (transcript.next (.add value description)).IsShown := by
  have hcounted := counted_next transcript value description
  have hplaces := places_next transcript value description
  simp only [hfalse, Bool.false_eq_true, if_false, List.append_nil] at hcounted hplaces
  refine ⟨?_, ?_, ?_⟩
  · rw [Transcript.next_of_not_isTrue hfalse]
    simpa using hshown.text_eq_join
  · rw [hcounted, Transcript.next_of_not_isTrue hfalse]
    exact hshown.begun_iff
  · rw [hplaces, Transcript.next_of_not_isTrue hfalse]
    exact hshown.text_eq_intercalate

/-- A list shows what its transcript tells after a value without a written form: the mark is set
although nothing is written. -/
theorem IsShown.next_of_not_isWritable (hshown : transcript.IsShown) (htrue : value.isTrue = true)
    (hlong : value.isWritable = false) : (transcript.next (.add value description)).IsShown := by
  have hcounted := counted_next transcript value description
  have hplaces := places_next transcript value description
  simp only [htrue, hlong, Bool.false_eq_true, if_true, if_false] at hcounted hplaces
  refine ⟨?_, ?_, ?_⟩
  · rw [Transcript.next_of_not_isWritable htrue hlong]
    exact hshown.text_eq_join
  · rw [hcounted, Transcript.next_of_not_isWritable htrue hlong]
    simp
  · have htext : transcript.writing.text = ", ".intercalate transcript.places :=
      hshown.text_eq_intercalate
    rw [hplaces, Transcript.next_of_not_isWritable htrue hlong]
    by_cases hnone : transcript.counted = []
    · rw [if_pos hnone]
      rw [(places_eq_nil_iff transcript).mpr hnone] at htext
      exact htext
    · rw [if_neg hnone]
      exact htext

/-- A list shows what its transcript tells after a value that is written. -/
theorem IsShown.next_of_isWritable (hshown : transcript.IsShown) (htrue : value.isTrue = true)
    (hwritable : value.isWritable = true) :
    (transcript.next (.add value description)).IsShown := by
  have hcounted := counted_next transcript value description
  have hplaces := places_next transcript value description
  simp only [htrue, hwritable, if_true] at hcounted hplaces
  have hjoin := hshown.text_eq_join
  have htext := hshown.text_eq_intercalate
  simp only [Writing.text] at hjoin htext
  refine ⟨?_, ?_, ?_⟩
  · rw [Transcript.next_of_isWritable htrue hwritable]
    simp only [Writing.text]
    rw [String.join_append, String.join_append, hjoin]
  · rw [hcounted, Transcript.next_of_isWritable htrue hwritable]
    simp
  · -- The mark tells whether a place is taken before this one.
    have hcomma : (if transcript.writing.begun then ", " else "") =
        if transcript.places = [] then "" else ", " := by
      simp only [places_eq_nil_iff]
      by_cases hnone : transcript.counted = []
      · simp [hnone, mt hshown.begun_iff.mp (not_not.mpr hnone)]
      · simp [hnone, hshown.begun_iff.mpr hnone]
    rw [hplaces, Transcript.next_of_isWritable htrue hwritable, intercalate_concat, ← hcomma]
    simp only [Writing.text]
    rw [String.join_append, htext]
    simp

/-- A list shows what its transcript tells after one more step. -/
theorem IsShown.next (hshown : transcript.IsShown) (step : Step) :
    (transcript.next step).IsShown := by
  cases step with
  | reset => exact isShown_start
  | add value description =>
    cases htrue : value.isTrue with
    | false => exact hshown.next_of_not_isTrue htrue
    | true =>
      cases hwritable : value.isWritable with
      | false => exact hshown.next_of_not_isWritable htrue hwritable
      | true => exact hshown.next_of_isWritable htrue hwritable

/-- The last step of some is taken after the others. -/
theorem ofSteps_concat (steps : List Step) (step : Step) :
    ofSteps (steps ++ [step]) = (ofSteps steps).next step := by
  rw [ofSteps, List.foldl_append]
  rfl

/-- A list shows what its transcript tells after any steps. -/
theorem isShown_ofSteps (steps : List Step) : (ofSteps steps).IsShown := by
  induction steps using List.reverseRecOn with
  | nil => exact isShown_start
  | append_singleton steps step ih =>
    rw [ofSteps_concat]
    exact ih.next step

/-- Texts with commas between them show nothing when the first one is empty and the only one, or
when there is none. -/
theorem intercalate_eq_empty_iff (first : String) (rest : List String) :
    ", ".intercalate (first :: rest) = "" ↔ first = "" ∧ rest = [] := by
  cases rest <;> simp

/-- An entry is written with at least one character. -/
theorem ne_empty_of_mem_entries {text : String} (hmem : text ∈ transcript.entries) : text ≠ "" := by
  simp only [entries, counted, List.mem_map, List.mem_filter] at hmem
  obtain ⟨call, ⟨⟨_, htrue⟩, _⟩, rfl⟩ := hmem
  simp [entry, Value.plain_ne_empty_of_isTrue htrue]

/-- A text is shown when an entry is. -/
theorem IsShown.text_ne_empty_iff (hshown : transcript.IsShown) :
    transcript.writing.text ≠ "" ↔ transcript.entries ≠ [] := by
  rw [hshown.text_eq_intercalate, not_iff_not, places]
  split
  · simp [intercalate_eq_empty_iff]
  · cases hentries : transcript.entries with
    | nil => exact ⟨fun _ => rfl, fun _ => rfl⟩
    | cons first rest =>
      have hmem : first ∈ transcript.entries := by simp [hentries]
      simp [intercalate_eq_empty_iff, ne_empty_of_mem_entries hmem]

/-- A list whose values all have written forms is the plain list of its fragments. -/
theorem foldl_perform (hall : (ofSteps steps).AreWritten) :
    steps.foldl perform {} = ⟨(ofSteps steps).writing.fragments⟩ ∧
      (ofSteps steps).writing.begun = !(ofSteps steps).writing.fragments.isEmpty := by
  induction steps using List.reverseRecOn with
  | nil => exact ⟨rfl, rfl⟩
  | append_singleton steps step ih =>
    rw [ofSteps_concat] at hall ⊢
    rw [List.foldl_append]
    cases step with
    | reset => exact ⟨rfl, rfl⟩
    | add value description =>
      obtain ⟨hbefore, hvalue⟩ := (areWritten_next _ _ _).mp hall
      obtain ⟨hlist, hbegun⟩ := ih hbefore
      rw [hlist, List.foldl_cons, List.foldl_nil, perform]
      cases htrue : value.isTrue with
      | false =>
        rw [next_of_not_isTrue htrue, add_of_not_isTrue htrue]
        exact ⟨rfl, hbegun⟩
      | true =>
        rw [next_of_isWritable htrue (hvalue htrue), add, if_pos htrue, fragment, if_pos htrue,
          hbegun, isEmpty]
        cases (ofSteps steps).writing.fragments <;> simp

/-- When all values that count have written forms, their entries are the places. -/
theorem AreWritten.places_eq (hall : transcript.AreWritten) :
    transcript.places = transcript.counted.map fun call => entry call.1 call.2 := by
  have hwritable : ∀ call ∈ transcript.counted, call.1.isWritable = true := fun call hcall =>
    hall call (List.mem_filter.mp hcall).1 (List.mem_filter.mp hcall).2
  rw [places, beginsUnwritten, entries, List.filter_eq_self.mpr hwritable]
  cases hcounted : transcript.counted with
  | nil => rfl
  | cons first rest =>
    have hfirst : first.1.isWritable = true := hwritable first (by rw [hcounted]; simp)
    simp [hfirst]

/-- **What a comma list shows.** After any values and resets the text is made up of the fragments
that were given back since the last reset, and it is the entries of the values that count and have
written forms, with commas between them, and with one in front of them if the first value that
counts has no written form. The mark tells whether a value came that counts, and the text is not
empty when one came that has a written form. A value that does not count gives the empty fragment
and changes nothing. If all values that count have written forms, then the text is their entries
with commas between them, it is not empty exactly when the mark is set, and the plain list gives
the same fragments and the same text. -/
theorem text_ofSteps (steps : List Step) :
    (ofSteps steps).writing.text = String.join (ofSteps steps).returned ∧
    (ofSteps steps).writing.text = ", ".intercalate
      (if (ofSteps steps).beginsUnwritten then "" :: (ofSteps steps).entries
        else (ofSteps steps).entries) ∧
    ((ofSteps steps).writing.begun = true ↔
      ∃ call ∈ (ofSteps steps).calls, call.1.isTrue = true) ∧
    ((ofSteps steps).writing.text ≠ "" ↔
      ∃ call ∈ (ofSteps steps).calls, call.1.isTrue = true ∧ call.1.isWritable = true) ∧
    (∀ value description, value.isTrue = false →
      (ofSteps steps).writing.call value description = (.ok "", (ofSteps steps).writing)) ∧
    ((ofSteps steps).AreWritten →
      (ofSteps steps).writing.text =
        ", ".intercalate ((ofSteps steps).counted.map fun call => entry call.1 call.2) ∧
      ((ofSteps steps).writing.begun = true ↔ (ofSteps steps).writing.text ≠ "") ∧
      (steps.foldl perform {}).text = (ofSteps steps).writing.text ∧
      ((steps.foldl perform {}).isEmpty = false ↔ (ofSteps steps).writing.begun = true) ∧
      ∀ value description, (value.isTrue = true → value.isWritable = true) →
        ((ofSteps steps).writing.call value description).1 =
          .ok ((steps.foldl perform {}).fragment value description)) := by
  have hshown := isShown_ofSteps steps
  have hbegun : (ofSteps steps).writing.begun = true ↔
      ∃ call ∈ (ofSteps steps).calls, call.1.isTrue = true := by
    rw [hshown.begun_iff]
    simp [counted, List.filter_eq_nil_iff]
  have hempty : (ofSteps steps).writing.text ≠ "" ↔
      ∃ call ∈ (ofSteps steps).calls, call.1.isTrue = true ∧ call.1.isWritable = true := by
    rw [hshown.text_ne_empty_iff]
    simp [entries, counted, List.filter_eq_nil_iff, and_comm]
  refine ⟨hshown.text_eq_join, hshown.text_eq_intercalate, hbegun, hempty,
    fun value description hfalse => ?_, fun hall => ?_⟩
  · simp [Writing.call, hfalse]
  · obtain ⟨hlist, hmark⟩ := foldl_perform hall
    refine ⟨hall.places_eq ▸ hshown.text_eq_intercalate, ?_, ?_, ?_,
      fun value description hvalue => ?_⟩
    · rw [hbegun, hempty]
      exact exists_congr fun call => and_congr_right fun hcall => by
        simpa using hall call hcall
    · rw [hlist]
      rfl
    · simp [hlist, hmark, isEmpty]
    · rw [hlist, fragment, Writing.call, isEmpty, hmark]
      cases htrue : value.isTrue with
      | false => simp
      | true => cases hempty : (ofSteps steps).writing.fragments.isEmpty <;> simp [hvalue htrue]

/-- A first value that counts and has no written form sets the mark and is not written. -/
theorem ofSteps_unwritten (htrue : value.isTrue = true) (hlong : value.isWritable = false) :
    ofSteps [.add value description] = ⟨⟨true, []⟩, [(value, description)], []⟩ :=
  next_of_not_isWritable htrue hlong

/-- A power of ten without a written form sets the mark and shows nothing, and a comma stands in
front of the entry after it. -/
theorem begun_without_text :
    (ofSteps [.add (.int (10 ^ Number.digitLimit)) none]).writing.begun = true ∧
    (ofSteps [.add (.int (10 ^ Number.digitLimit)) none]).writing.text = "" ∧
    (ofSteps ([.add (.int (10 ^ Number.digitLimit)) none] ++ [.add (.int 5) none])).writing.text =
      ", 5" := by
  have htrue : (Value.int (10 ^ Number.digitLimit)).isTrue = true := by simp [Value.isTrue]
  have hlong : (Value.int (10 ^ Number.digitLimit)).isWritable = false :=
    Value.isWritable_ten_pow (Nat.le_refl Number.digitLimit)
  have hfive : (Value.int 5).isWritable = true := by decide
  rw [ofSteps_concat, ofSteps_unwritten htrue hlong, next_of_isWritable rfl hfive]
  exact ⟨rfl, rfl, rfl⟩

/-- A list with a reset among its values, of which some do not count. -/
def mixedSteps : List Step :=
  [.add (.int 4) none, .reset, .add (.int 0) (some " skipped"), .add (.int 5) (some " ok"),
    .add (.text "") none, .add (.bool true) none]

/-- After these steps the two entries since the reset are shown. -/
theorem text_ofSteps_mixed :
    (ofSteps mixedSteps).AreWritten ∧ (ofSteps mixedSteps).writing.text = "5 ok, True" ∧
      (mixedSteps.foldl perform {}).text = "5 ok, True" := by
  have hall : (ofSteps mixedSteps).AreWritten := by decide
  have hentries : ", ".intercalate
      ((ofSteps mixedSteps).counted.map fun call => entry call.1 call.2) = "5 ok, True" := by decide
  obtain ⟨_, _, _, _, _, hwritten⟩ := text_ofSteps mixedSteps
  obtain ⟨htext, _, hplain, _⟩ := hwritten hall
  exact ⟨hall, htext.trans hentries, hplain.trans (htext.trans hentries)⟩

end Transcript

end VersionGate.CommaList
