import Mathlib.Data.Prod.Lex
import VersionGate.Proofs.Version.Sorting
import VersionGate.Version.Comparison

/-!
# Versions that are compared

All comparisons of versions with integer fields answer by one total order, which is the
lexicographic one. A collection without repetition keeps each of them once, and sorting by them is
stable in both directions.
-/

namespace VersionGate.Version

variable {a b c : Version}

section Order

/-- Versions are ordered by their fields, the major one leading. -/
theorem lt_iff_toLex :
    a < b ↔
      toLex (a.major, toLex (a.minor, a.patch)) < toLex (b.major, toLex (b.minor, b.patch)) := by
  simp only [Prod.Lex.toLex_lt_toLex, lt_iff]

/-- One version is below another, or it is the same, or the other one is below it. -/
theorem lt_or_eq_or_lt (a b : Version) : a < b ∨ a = b ∨ b < a := by
  rcases le_total a b with hle | hle
  · rcases le_iff.mp hle with hlt | heq
    · exact .inl hlt
    · exact .inr (.inl heq)
  · rcases le_iff.mp hle with hlt | heq
    · exact .inr (.inr hlt)
    · exact .inr (.inl heq.symm)

/-- Of two versions at most one is below the other. -/
theorem not_lt_of_lt (hab : a < b) : ¬b < a :=
  fun hba => lt_irrefl a (lt_trans hab hba)

/-- A version that is below another one differs from it. -/
theorem ne_of_lt (hab : a < b) : a ≠ b := by
  rintro rfl
  exact lt_irrefl a hab

end Order

section Comparing

/-- A relation between versions as values is told by whether they are the same, and otherwise by
which of them is below. -/
theorem holds_ofVersion (relation : Relation) (a b : Version) :
    Value.holds relation (.ofVersion a) (.ofVersion b) =
      .ok (if a = b then relation.accepts .eq else relation.ofBelow (decide (a < b))) := by
  obtain ⟨amajor, aminor, apatch⟩ := a
  obtain ⟨bmajor, bminor, bpatch⟩ := b
  by_cases hmajor : amajor = bmajor <;> by_cases hminor : aminor = bminor <;>
    by_cases hpatch : apatch = bpatch <;>
    simp [Value.holds, Value.same, Value.ofVersion, bind, Except.bind, Functor.map, Except.map,
      hmajor, hminor, hpatch, lt_iff, Relation.accepts, Relation.ofBelow]

/-- The fingerprint of a version is made up of the marks of its fields. -/
def marks (version : Version) : List Mark :=
  [.version, .number (Number.Decimal.ofInt version.major).residue,
    .number (Number.Decimal.ofInt version.minor).residue,
    .number (Number.Decimal.ofInt version.patch).residue]

/-- Every version has a fingerprint. -/
theorem fingerprint_ofVersion (version : Version) :
    (Value.ofVersion version).fingerprint = .ok version.marks :=
  rfl

/-- The fingerprint of a version agrees with itself. -/
theorem agree_marks_self (version : Version) : Value.agree version.marks version.marks = true := by
  simp [Value.agree, marks]

/-- The fingerprints of two versions can always be compared. -/
theorem sameFingerprint_ofVersion (a b : Version) :
    Value.sameFingerprint (.ofVersion a) (.ofVersion b) = .ok (Value.agree a.marks b.marks) := by
  rw [Value.sameFingerprint, fingerprint_ofVersion, fingerprint_ofVersion]
  rfl

/-- Every comparison of two versions has an answer, and all answers follow from their order. -/
theorem compareValues_ofVersion (a b : Version) :
    compareValues (.ofVersion a) (.ofVersion b) =
      { eq := .ok (decide (a = b))
        ne := .ok (decide (a ≠ b))
        lt := .ok (decide (a < b))
        le := .ok (decide (a < b ∨ a = b))
        gt := .ok (decide (b < a))
        ge := .ok (decide (b < a ∨ b = a))
        sameFingerprint := some (.ok (Value.agree a.marks b.marks)) } := by
  have hanswers : compareValues (.ofVersion a) (.ofVersion b) =
      { eq := Value.same (.ofVersion a) (.ofVersion b)
        ne := (Value.same (.ofVersion a) (.ofVersion b)).map (!·)
        lt := Value.holds .below (.ofVersion a) (.ofVersion b)
        le := Value.holds .atMost (.ofVersion a) (.ofVersion b)
        gt := Value.holds .above (.ofVersion a) (.ofVersion b)
        ge := Value.holds .atLeast (.ofVersion a) (.ofVersion b)
        sameFingerprint := some (Value.sameFingerprint (.ofVersion a) (.ofVersion b)) } := rfl
  simp only [hanswers, Value.same_ofVersion, holds_ofVersion, sameFingerprint_ofVersion]
  rcases lt_or_eq_or_lt a b with hlt | rfl | hgt
  · simp [Except.map, Relation.ofBelow, hlt, ne_of_lt hlt, (ne_of_lt hlt).symm, not_lt_of_lt hlt]
  · simp [Except.map, Relation.accepts, lt_irrefl]
  · simp [Except.map, Relation.ofBelow, hgt, ne_of_lt hgt, (ne_of_lt hgt).symm, not_lt_of_lt hgt]

end Comparing

section Distinct

/-- A version as it is kept, with its fingerprint. -/
def kept (version : Version) : List Mark × Value :=
  (version.marks, .ofVersion version)

/-- A version is among those that are kept when it is one of them. -/
theorem isKept_ofVersion (version : Version) (versions : List Version) :
    isKept version.marks (.ofVersion version) (versions.map kept) =
      .ok (decide (version ∈ versions)) := by
  induction versions with
  | nil => rfl
  | cons other versions ih =>
    rw [List.map_cons, kept, isKept, Value.same_ofVersion, ih]
    by_cases heq : other = version
    · subst heq
      simp [agree_marks_self, bind, Except.bind, pure, Except.pure]
    · -- Fingerprints that agree by chance do not matter, since the versions are compared as well.
      by_cases hagree : Value.agree version.marks other.marks = true
      · simp [hagree, heq, Ne.symm heq, bind, Except.bind]
      · simp [hagree, Ne.symm heq]

/-- Of some versions those are kept that are not kept already, each of them once. -/
theorem exists_keepDistinct (earlier versions : List Version) :
    ∃ all : List Version,
      keepDistinct (earlier.map kept) (versions.map .ofVersion) = .ok (all.map kept) ∧
      (earlier.Nodup → all.Nodup) ∧
      ∀ version, version ∈ all ↔ version ∈ earlier ∨ version ∈ versions := by
  induction versions generalizing earlier with
  | nil => exact ⟨earlier, rfl, id, by simp⟩
  | cons version versions ih =>
    rw [List.map_cons, keepDistinct, fingerprint_ofVersion]
    by_cases hmem : version ∈ earlier
    · obtain ⟨all, hall, hnodup, hiff⟩ := ih earlier
      refine ⟨all, ?_, hnodup, fun other => ?_⟩
      · simpa [isKept_ofVersion, hmem, bind, Except.bind] using hall
      · rw [hiff, List.mem_cons]
        constructor
        · exact Or.imp_right .inr
        · rintro (hearlier | rfl | hlater)
          · exact .inl hearlier
          · exact .inl hmem
          · exact .inr hlater
    · obtain ⟨all, hall, hnodup, hiff⟩ := ih (version :: earlier)
      refine ⟨all, ?_, fun hearlier => hnodup (List.nodup_cons.mpr ⟨hmem, hearlier⟩),
        fun other => ?_⟩
      · simpa [isKept_ofVersion, hmem, bind, Except.bind, kept] using hall
      · rw [hiff, List.mem_cons, List.mem_cons, or_assoc, or_left_comm]

/-- The versions of a list without repetition are those of the list. -/
theorem mem_distinct {versions : List Version} : a ∈ distinct versions ↔ a ∈ versions := by
  induction versions with
  | nil => rfl
  | cons version versions ih =>
    rw [distinct]
    split
    · next hmem =>
      rw [ih, List.mem_cons, or_iff_right_of_imp]
      rintro rfl
      exact hmem
    · rw [List.mem_cons, List.mem_cons, ih]

/-- No version is repeated in a list without repetition. -/
theorem nodup_distinct (versions : List Version) : (distinct versions).Nodup := by
  induction versions with
  | nil => exact List.nodup_nil
  | cons version versions ih =>
    rw [distinct]
    split
    · exact ih
    · next hmem => exact List.nodup_cons.mpr ⟨fun h => hmem (mem_distinct.mp h), ih⟩

/-- Versions with integer fields are found again in their values. -/
theorem mapM_version?_ofVersion (versions : List Version) :
    (versions.map Value.ofVersion).mapM Value.version? = some versions := by
  induction versions with
  | nil => rfl
  | cons version versions ih =>
    rw [List.map_cons, List.mapM_cons, Value.version?_ofVersion, ih]
    rfl

/-- Whether versions are gathered by their fingerprints or by themselves, each different one is
kept once. -/
theorem exists_distinct (versions : List Version) :
    ∃ all : List Version, all.Nodup ∧ (∀ version, version ∈ all ↔ version ∈ versions) ∧
      keepDistinct [] (versions.map .ofVersion) = .ok (all.map kept) ∧
      countDistinct (versions.map .ofVersion) = .ok all.length := by
  obtain ⟨all, hall, hnodup, hiff⟩ := exists_keepDistinct [] versions
  have hmem (version : Version) : version ∈ all ↔ version ∈ versions := by simp [hiff]
  have hdistinct (version : Version) : version ∈ all ↔ version ∈ distinct versions :=
    (hmem version).trans mem_distinct.symm
  have hperm : all.Perm (distinct versions) :=
    (List.perm_ext_iff_of_nodup (hnodup List.nodup_nil) (nodup_distinct versions)).mpr
      hdistinct
  refine ⟨all, hnodup List.nodup_nil, hmem, hall, ?_⟩
  rw [countDistinct, mapM_version?_ofVersion, hperm.length_eq]

end Distinct

section Sorting

variable {α : Type} {key : α → Version} {descending : Bool} {items ordered : List α}

/-- One list is another one in the order of the versions of its items, where items of one version
keep their order. -/
structure IsStableSortOn (key : α → Version) (descending : Bool) (items ordered : List α) :
    Prop where
  perm : ordered.Perm items
  pairwise : ordered.Pairwise fun a b => if descending then key b ≤ key a else key a ≤ key b
  stable : ∀ version, ordered.filter (key · = version) = items.filter (key · = version)

/-- Sorting by versions is stable in both directions. -/
theorem isStableSortOn_sortOn (key : α → Version) (descending : Bool) (items : List α) :
    IsStableSortOn key descending items (sortOn key descending items) := by
  let before (a b : α) : Bool := if descending then key b ≤ key a else key a ≤ key b
  have htrans (a b c : α) (hab : before a b = true) (hbc : before b c = true) :
      before a c = true := by
    cases descending
    · exact decide_eq_true (le_trans (of_decide_eq_true hab) (of_decide_eq_true hbc))
    · exact decide_eq_true (le_trans (of_decide_eq_true hbc) (of_decide_eq_true hab))
  have htotal (a b : α) : (before a b || before b a) = true := by
    cases descending
    · simpa [before] using le_total (key a) (key b)
    · simpa [before] using le_total (key b) (key a)
  have hsort : sortOn key descending items = items.mergeSort before := rfl
  have hperm : (items.mergeSort before).Perm items := List.mergeSort_perm items before
  rw [hsort]
  refine ⟨hperm, ?_, fun version => ?_⟩
  · refine (List.pairwise_mergeSort htrans htotal items).imp ?_
    intro a b hbefore
    cases descending
    · exact of_decide_eq_true hbefore
    · exact of_decide_eq_true hbefore
  · -- The items of one version are in order already, so that sorting does not move them.
    have hsame : (items.filter (key · = version)).Pairwise (before · · = true) := by
      refine List.pairwise_filter.mpr (List.pairwise_of_forall fun a b ha hb => ?_)
      have heq : key a = key b := (of_decide_eq_true ha).trans (of_decide_eq_true hb).symm
      simp [before, heq, le_iff]
    have hsublist := (List.sublist_mergeSort htrans htotal hsame List.filter_sublist).filter
      (key · = version)
    rw [List.filter_filter] at hsublist
    simp only [Bool.and_self] at hsublist
    exact (hsublist.eq_of_length (hperm.filter _).length_eq.symm).symm

/-- Versions are sorted by their places in a list, equal ones in the order of their places. -/
theorem exists_sortValues (descending : Bool) (versions : List Version) :
    ∃ entries : List (Version × Nat),
      sortValues descending (versions.map .ofVersion) =
        .ok (entries.map fun entry => (.ofVersion entry.1, entry.2)) ∧
      IsStableSortOn Prod.fst descending versions.zipIdx entries := by
  refine ⟨sortOn Prod.fst descending versions.zipIdx, ?_, isStableSortOn_sortOn _ _ _⟩
  rw [sortValues, mapM_version?_ofVersion]

end Sorting

/-- **Versions have one total order.** Of two versions with integer fields exactly one is below the
other unless they are the same, where the major field decides before the minor one and this before
the patch. All comparisons answer by this order, and the fingerprints of versions that are the same
agree. A collection without repetition keeps each different version once, and sorting by versions
keeps the order of those that are the same, also when it is a descending one. -/
theorem compareValues_isTotalOrder :
    (∀ a b : Version, ∃ sameFingerprint : Bool,
      compareValues (.ofVersion a) (.ofVersion b) =
        { eq := .ok (decide (a = b))
          ne := .ok (decide (a ≠ b))
          lt := .ok (decide (a < b))
          le := .ok (decide (a < b ∨ a = b))
          gt := .ok (decide (b < a))
          ge := .ok (decide (b < a ∨ b = a))
          sameFingerprint := some (.ok sameFingerprint) } ∧
      (a = b → sameFingerprint = true)) ∧
    (∀ a b : Version, (a < b ∧ a ≠ b ∧ ¬b < a) ∨ (¬a < b ∧ a = b ∧ ¬b < a) ∨
      (¬a < b ∧ a ≠ b ∧ b < a)) ∧
    (∀ a b c : Version, a < b → b < c → a < c) ∧
    (∀ a b : Version, a < b ↔
      toLex (a.major, toLex (a.minor, a.patch)) < toLex (b.major, toLex (b.minor, b.patch))) ∧
    (∀ versions : List Version, ∃ all : List Version,
      all.Nodup ∧ (∀ version, version ∈ all ↔ version ∈ versions) ∧
      (keepDistinct [] (versions.map .ofVersion)).map (List.map Prod.snd) =
        .ok (all.map .ofVersion) ∧
      countDistinct (versions.map .ofVersion) = .ok all.length) ∧
    (∀ (descending : Bool) (versions : List Version), ∃ entries : List (Version × Nat),
      sortValues descending (versions.map .ofVersion) =
        .ok (entries.map fun entry => (.ofVersion entry.1, entry.2)) ∧
      IsStableSortOn Prod.fst descending versions.zipIdx entries) := by
  refine ⟨fun a b => ?_, fun a b => ?_, fun _ _ _ => lt_trans, fun _ _ => lt_iff_toLex,
    fun versions => ?_, exists_sortValues⟩
  · refine ⟨_, compareValues_ofVersion a b, ?_⟩
    rintro rfl
    exact agree_marks_self a
  · rcases lt_or_eq_or_lt a b with hlt | rfl | hgt
    · exact .inl ⟨hlt, ne_of_lt hlt, not_lt_of_lt hlt⟩
    · exact .inr (.inl ⟨lt_irrefl a, rfl, lt_irrefl a⟩)
    · exact .inr (.inr ⟨not_lt_of_lt hgt, (ne_of_lt hgt).symm, hgt⟩)
  · obtain ⟨all, hnodup, hmem, hkept, hcount⟩ := exists_distinct versions
    refine ⟨all, hnodup, hmem, ?_, hcount⟩
    rw [hkept, Except.map, List.map_map]
    rfl

/-- A version whose major field takes more than 64 bits. -/
def hugeVersion : Version := ⟨18446744073709551616, 0, 0⟩

/-- The order goes by the worth of the fields, however large they are, and the fingerprint of a
version agrees with itself. -/
theorem compareValues_isTotalOrder_large :
    (⟨1, 2, 0⟩ : Version) < ⟨1, 10, 0⟩ ∧ (⟨1, 10, 0⟩ : Version) < hugeVersion ∧
      (⟨1, 2, 0⟩ : Version) < hugeVersion ∧
      (compareValues (.ofVersion hugeVersion) (.ofVersion hugeVersion)).sameFingerprint =
        some (.ok true) := by
  obtain ⟨hanswers, _, htrans, _⟩ := compareValues_isTotalOrder
  have hminor : (⟨1, 2, 0⟩ : Version) < ⟨1, 10, 0⟩ := by decide
  have hmajor : (⟨1, 10, 0⟩ : Version) < hugeVersion := by decide
  obtain ⟨agree, hanswer, hagree⟩ := hanswers hugeVersion hugeVersion
  refine ⟨hminor, hmajor, htrans _ _ _ hminor hmajor, ?_⟩
  rw [hanswer, hagree rfl]

end VersionGate.Version
