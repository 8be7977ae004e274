import VersionGate.Gate.Run
import VersionGate.Proofs.Version.Sorting

/-!
# What a report tells

A report tells of every version whether it is new enough, in order, and how many are and
are not; each of its lines stays on one line when it is printed. The exit code is one
exactly when a version is too old.
-/

namespace VersionGate.Gate

/-- A text that has no line feed stays on one line. -/
def IsOneLine (text : String) : Prop :=
  '\n' ∉ text.toList

/-- A line tells whether a version is at least the required one. -/
structure IsStatusLine (required version : Version) (line : String) : Prop where
  enough : required ≤ version → line = version.text ++ ": ok"
  old : version < required →
    line = version.text ++ ": too old (requires >= " ++ required.text ++ ")"
  oneLine : IsOneLine line

/-- A summary tells how many versions are new enough and how many are too old, and leaves
out a count of zero. -/
inductive IsSummary : Nat → Nat → String → Prop
  | nothing : IsSummary 0 0 "nothing checked"
  | enough {count : Nat} : 0 < count → IsSummary count 0 (toString count ++ " ok")
  | old {count : Nat} : 0 < count → IsSummary 0 count (toString count ++ " too old")
  | both {enough old : Nat} : 0 < enough → 0 < old →
    IsSummary enough old (toString enough ++ " ok, " ++ toString old ++ " too old")

/-- What the ending of a run tells of the versions that were checked: it prints a line for
each of them in order, if asked for, and a summary line, and its exit code is one when one
of them is too old. -/
structure Tells (verbose : Bool) (required : Version) (checked : List Version)
    (ending : Ending) : Prop where
  counts : checked.countP (fun version => decide (required ≤ version)) +
    checked.countP (fun version => decide (version < required)) = checked.length
  printed : ∃ lines summary,
    ending.printed = String.join ((lines ++ [summary]).map (· ++ "\n")) ∧
    (verbose = true → List.Forall₂ (IsStatusLine required) checked lines) ∧
    (verbose = false → lines = []) ∧
    IsSummary (checked.countP fun version => decide (required ≤ version))
      (checked.countP fun version => decide (version < required)) summary ∧
    (summary = "nothing checked" ↔ checked = []) ∧ IsOneLine summary
  exit_eq_one_iff : ending.exit = 1 ↔ ∃ version ∈ checked, version < required
  exit_eq_zero_iff : ending.exit = 0 ↔ ¬∃ version ∈ checked, version < required

/-- Texts on one line stay on one line when they are joined. -/
theorem IsOneLine.append {text more : String} (htext : IsOneLine text) (hmore : IsOneLine more) :
    IsOneLine (text ++ more) := by
  simp only [IsOneLine, String.toList_append, List.mem_append, not_or]
  exact ⟨htext, hmore⟩

/-- A count is written on one line. -/
theorem isOneLine_toString_nat (n : Nat) : IsOneLine (toString n) := by
  intro hbreak
  have hdigits : '\n' ∈ Nat.toDigits 10 n := by simpa using hbreak
  have hdigit : ('\n').isDigit = true :=
    Nat.isDigit_of_mem_toDigits (by decide) (by decide) hdigits
  cases hdigit

/-- An integer is written on one line. -/
theorem isOneLine_toString_int (n : Int) : IsOneLine (toString n) := by
  cases n with
  | ofNat n => exact isOneLine_toString_nat n
  | negSucc n =>
    have hminus : IsOneLine "-" := by simp [IsOneLine]
    exact hminus.append (isOneLine_toString_nat (n + 1))

/-- A version is written on one line. -/
theorem isOneLine_text (version : Version) : IsOneLine version.text := by
  have hdot : IsOneLine "." := by simp [IsOneLine]
  exact ((((isOneLine_toString_int _).append hdot).append (isOneLine_toString_int _)).append
    hdot).append (isOneLine_toString_int _)

/-- The line for a version tells whether it is new enough. -/
theorem isStatusLine_statusLine (required version : Version) :
    IsStatusLine required version (statusLine required version) where
  enough := by
    intro hle
    have hword : ": " ++ "ok" = ": ok" := by decide
    rw [statusLine, status, if_neg (Version.not_lt_iff.mpr hle), String.append_assoc, hword]
  old := by
    intro hlt
    have hwords : ": " ++ "too old (requires >= " = ": too old (requires >= " := by decide
    rw [statusLine, status, if_pos hlt, ← hwords]
    simp only [String.append_assoc]
  oneLine := by
    have hcolon : IsOneLine ": " := by simp [IsOneLine]
    refine ((isOneLine_text version).append hcolon).append ?_
    unfold status
    split
    · have hold : IsOneLine "too old (requires >= " := by simp [IsOneLine]
      have hclose : IsOneLine ")" := by simp [IsOneLine]
      exact (hold.append (isOneLine_text required)).append hclose
    · simp [IsOneLine]

/-- A count that is not zero is put behind what has been written. -/
theorem add_count (list : CommaList) {count : Nat} (hcount : 0 < count) (description : String) :
    list.add (.int count) (some description) =
      ⟨list.fragments ++
        [(if list.isEmpty then "" else ", ") ++ (toString count ++ description)]⟩ := by
  have htrue : Value.isTrue (.int count) = true := by
    simp only [Value.isTrue, bne_iff_ne]
    omega
  rw [CommaList.add, if_pos htrue, CommaList.fragment, if_pos htrue]
  rfl

/-- The summary of some counts tells them. -/
theorem isSummary_summary (enough old : Nat) : IsSummary enough old (summary enough old) := by
  have hzero (list : CommaList) (description : Option String) :
      list.add (.int (0 : Nat)) description = list := CommaList.add_of_not_isTrue rfl list description
  unfold summary
  rcases Nat.eq_zero_or_pos enough with rfl | henough <;>
    rcases Nat.eq_zero_or_pos old with rfl | hold
  · exact .nothing
  · rw [hzero, add_count _ hold]
    simpa [CommaList.isEmpty, CommaList.text] using IsSummary.old hold
  · rw [hzero, add_count _ henough]
    simpa [CommaList.isEmpty, CommaList.text] using IsSummary.enough henough
  · have hcomma (rest : String) : " ok" ++ (", " ++ rest) = " ok, " ++ rest := by
      rw [← String.append_assoc]
      rfl
    rw [add_count _ henough, add_count _ hold]
    simpa [CommaList.isEmpty, CommaList.text, String.append_assoc, hcomma] using
      IsSummary.both henough hold

/-- A text is not another one when its end is not an end of that one. -/
theorem append_ne_of_not_suffix {front back text : String}
    (hnot : ¬back.toList <:+ text.toList) : front ++ back ≠ text := by
  rintro rfl
  exact hnot ⟨front.toList, by simp⟩

/-- A count is told from what comes behind it when that begins with a space. -/
theorem count_append_inj {m n : Nat} {rest rest' : String} (hrest : rest.toList.head? = some ' ')
    (hrest' : rest'.toList.head? = some ' ') (heq : toString m ++ rest = toString n ++ rest') :
    m = n ∧ rest = rest' := by
  have hcut (count : Nat) {rest : String} (hrest : rest.toList.head? = some ' ') :
      (toString count ++ rest).toList.takeWhile Char.isDigit = Nat.toDigits 10 count := by
    have hcount : (toString count).toList = Nat.toDigits 10 count := by simp
    have hdigits : ∀ c ∈ Nat.toDigits 10 count, c.isDigit = true :=
      fun c hc => Nat.isDigit_of_mem_toDigits (by decide) (by decide) hc
    obtain ⟨more, hmore⟩ := List.head?_eq_some_iff.mp hrest
    rw [String.toList_append, hcount, List.takeWhile_append_of_pos hdigits, hmore,
      List.takeWhile_cons_of_neg (by decide), List.append_nil]
  have hdigits := hcut m hrest
  rw [heq, hcut n hrest'] at hdigits
  have hcounts := congrArg (Nat.ofDigitChars 10 · 0) hdigits
  obtain rfl : n = m := by simpa [Nat.ofDigitChars_toDigits] using hcounts
  exact ⟨rfl, (String.append_right_inj _).mp heq⟩

namespace IsSummary

variable {enough old : Nat} {text : String}

/-- Nothing is said to be checked only when both counts are zero. -/
theorem eq_nothing_iff (hsummary : IsSummary enough old text) :
    text = "nothing checked" ↔ enough + old = 0 := by
  cases hsummary with
  | nothing => simp
  | enough hcount => exact iff_of_false (append_ne_of_not_suffix (by decide)) (by omega)
  | old hcount => exact iff_of_false (append_ne_of_not_suffix (by decide)) (by omega)
  | both henough hold => exact iff_of_false (append_ne_of_not_suffix (by decide)) (by omega)

/-- A summary is on one line. -/
theorem isOneLine (hsummary : IsSummary enough old text) : IsOneLine text := by
  have hok : IsOneLine " ok" := by simp [IsOneLine]
  have hcomma : IsOneLine " ok, " := by simp [IsOneLine]
  have hold : IsOneLine " too old" := by simp [IsOneLine]
  cases hsummary with
  | nothing => simp [IsOneLine]
  | enough => exact (isOneLine_toString_nat enough).append hok
  | old => exact (isOneLine_toString_nat old).append hold
  | both =>
    exact (((isOneLine_toString_nat enough).append hcomma).append
      (isOneLine_toString_nat old)).append hold

/-- A summary tells of one pair of counts only. -/
theorem unique {enough' old' : Nat} (hsummary : IsSummary enough old text)
    (hsummary' : IsSummary enough' old' text) : enough = enough' ∧ old = old' := by
  have hok : " ok".toList.head? = some ' ' := rfl
  have hold : " too old".toList.head? = some ' ' := rfl
  have hboth (count : Nat) :
      (" ok, " ++ (toString count ++ " too old")).toList.head? = some ' ' := by
    simp
  have hlength (count : Nat) : " ok" ≠ " ok, " ++ (toString count ++ " too old") := by
    intro heq
    have hcharacters := congrArg (fun rest => (rest.toList.drop 3).head?) heq
    simp at hcharacters
  have hword (count : Nat) : " too old" ≠ " ok, " ++ (toString count ++ " too old") := by
    intro heq
    have hcharacters := congrArg String.toList heq
    simp at hcharacters
  cases hsummary with
  | nothing =>
    have hnone := hsummary'.eq_nothing_iff.mp rfl
    omega
  | enough =>
    generalize htext : toString enough ++ " ok" = text at hsummary'
    cases hsummary' with
    | nothing => exact absurd htext (append_ne_of_not_suffix (by decide))
    | enough => exact ⟨(count_append_inj hok hok htext).1, rfl⟩
    | old => exact absurd (count_append_inj hok hold htext).2 (by decide)
    | both =>
      rw [String.append_assoc, String.append_assoc] at htext
      exact absurd (count_append_inj hok (hboth _) htext).2 (hlength _)
  | old =>
    generalize htext : toString old ++ " too old" = text at hsummary'
    cases hsummary' with
    | nothing => exact absurd htext (append_ne_of_not_suffix (by decide))
    | enough => exact absurd (count_append_inj hold hok htext).2 (by decide)
    | old => exact ⟨rfl, (count_append_inj hold hold htext).1⟩
    | both =>
      rw [String.append_assoc, String.append_assoc] at htext
      exact absurd (count_append_inj hold (hboth _) htext).2 (hword _)
  | both =>
    generalize htext : toString enough ++ " ok, " ++ toString old ++ " too old" = text
      at hsummary'
    cases hsummary' with
    | nothing => exact absurd htext (append_ne_of_not_suffix (by decide))
    | enough =>
      rw [String.append_assoc, String.append_assoc] at htext
      exact absurd (count_append_inj (hboth _) hok htext).2.symm (hlength _)
    | old =>
      rw [String.append_assoc, String.append_assoc] at htext
      exact absurd (count_append_inj (hboth _) hold htext).2.symm (hword _)
    | both =>
      simp only [String.append_assoc] at htext
      obtain ⟨rfl, hrest⟩ := count_append_inj (hboth _) (hboth _) htext
      exact ⟨rfl, (count_append_inj hold hold ((String.append_right_inj _).mp hrest)).1⟩

end IsSummary

/-- The versions that are new enough are those that are not too old. -/
theorem countP_le_eq (required : Version) (versions : List Version) :
    versions.countP (fun version => decide (required ≤ version)) =
      versions.length - tooOld required versions := by
  have hlength := versions.length_eq_countP_add_countP fun version => decide (version < required)
  simp only [decide_eq_true_eq, Version.not_lt_iff] at hlength
  rw [tooOld, hlength]
  omega

/-- Versions are too old when one of them is. -/
theorem tooOld_eq_zero_iff (required : Version) (versions : List Version) :
    tooOld required versions = 0 ↔ ¬∃ version ∈ versions, version < required := by
  simp [tooOld]

/-- A report tells of the versions that were checked. -/
theorem tells_report (verbose : Bool) (required : Version) (checked : List Version) :
    Tells verbose required checked (.ofReport (report verbose required checked)) := by
  have henough := countP_le_eq required checked
  have hle : tooOld required checked ≤ checked.length := List.countP_le_length
  have hsummary := isSummary_summary (checked.length - tooOld required checked)
    (tooOld required checked)
  refine ⟨?_, ?_, ?_, ?_⟩
  · rw [henough, ← tooOld]
    omega
  · refine ⟨_, _, rfl, fun hverbose => ?_, fun hquiet => ?_, ?_, ?_, hsummary.isOneLine⟩
    · rw [if_pos hverbose, List.forall₂_map_right_iff]
      exact List.forall₂_same.mpr fun version _ => isStatusLine_statusLine required version
    · rw [if_neg (by simp [hquiet])]
    · rw [henough]
      exact hsummary
    · rw [hsummary.eq_nothing_iff, ← List.length_eq_zero_iff]
      omega
  · rw [← not_iff_not, ← tooOld_eq_zero_iff]
    simp [Ending.ofReport, report]
  · rw [← tooOld_eq_zero_iff]
    simp [Ending.ofReport, report]

end VersionGate.Gate
