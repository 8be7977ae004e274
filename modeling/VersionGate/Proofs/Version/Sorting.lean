import Mathlib.Data.List.Sort
import VersionGate.Version.Basic

/-!
# Sorted versions

The order of versions is a total one, so there is one ascending order of some versions,
and sorting finds it. Versions that are equal keep the order in which they were given.
-/

namespace VersionGate.Version

variable {a b c : Version}

/-- Not to be below a version is to be at least that version. -/
theorem not_lt_iff : ¬a < b ↔ b ≤ a := by
  obtain ⟨amajor, aminor, apatch⟩ := a
  obtain ⟨bmajor, bminor, bpatch⟩ := b
  simp only [le_iff, lt_iff, mk.injEq]
  omega

/-- To be at most a version is a transitive relation. -/
theorem le_trans (hab : a ≤ b) (hbc : b ≤ c) : a ≤ c := by
  rw [le_iff] at hab hbc ⊢
  rcases hab with hab | rfl
  · rcases hbc with hbc | rfl
    · exact Or.inl (lt_trans hab hbc)
    · exact Or.inl hab
  · exact hbc

/-- What is below a version is below what that version is at most. -/
theorem lt_of_lt_of_le (hab : a < b) (hbc : b ≤ c) : a < c := by
  rcases le_iff.mp hbc with hbc | rfl
  · exact lt_trans hab hbc
  · exact hab

/-- What is at most a version is below what that version is below. -/
theorem lt_of_le_of_lt (hab : a ≤ b) (hbc : b < c) : a < c := by
  rcases le_iff.mp hab with hab | rfl
  · exact lt_trans hab hbc
  · exact hbc

/-- Two versions are the same when each is at most the other. -/
theorem le_antisymm (hab : a ≤ b) (hba : b ≤ a) : a = b := by
  rcases le_iff.mp hab with hlt | heq
  · exact absurd hlt (not_lt_iff.mpr hba)
  · exact heq

/-- One list of versions is another one in ascending order, and versions that stand in
ascending order already, equal ones among them, are not moved past each other. -/
structure IsStableSort (versions ordered : List Version) : Prop where
  perm : ordered.Perm versions
  ascending : ordered.Pairwise (· ≤ ·)
  stable : ∀ kept : List Version, kept.Sublist versions → kept.Pairwise (· ≤ ·) →
    kept.Sublist ordered

/-- The first one of sorted versions is at most every other one. -/
theorem IsStableSort.first_le {versions rest : List Version} {first : Version}
    (hsort : IsStableSort versions (first :: rest)) : ∀ version ∈ versions, first ≤ version := by
  intro version hversion
  rcases List.mem_cons.mp (hsort.perm.symm.subset hversion) with rfl | hrest
  · exact le_iff.mpr (.inr rfl)
  · exact List.rel_of_pairwise_cons hsort.ascending hrest

/-- Sorting puts versions in ascending order, where equal ones keep their order. -/
theorem isStableSort_sort (versions : List Version) : IsStableSort versions (sort versions) := by
  have htrans (a b c : Version) (hab : decide (a ≤ b) = true) (hbc : decide (b ≤ c) = true) :
      decide (a ≤ c) = true :=
    decide_eq_true (le_trans (of_decide_eq_true hab) (of_decide_eq_true hbc))
  have htotal (a b : Version) : (decide (a ≤ b) || decide (b ≤ a)) = true := by
    simpa using le_total a b
  have hsort : sort versions = versions.mergeSort fun a b => decide (a ≤ b) := rfl
  refine ⟨?_, ?_, ?_⟩
  · rw [hsort]
    exact List.mergeSort_perm versions _
  · rw [hsort]
    exact (List.pairwise_mergeSort htrans htotal versions).imp of_decide_eq_true
  · intro kept hkept hascending
    rw [hsort]
    exact List.sublist_mergeSort htrans htotal (hascending.imp decide_eq_true) hkept

/-- There is one ascending order of some versions. -/
theorem eq_sort_of_perm {versions ordered : List Version} (hperm : ordered.Perm versions)
    (hascending : ordered.Pairwise (· ≤ ·)) : ordered = sort versions := by
  have hsort := isStableSort_sort versions
  exact List.Perm.eq_of_pairwise (fun _ _ _ _ => le_antisymm) hascending hsort.ascending
    (hperm.trans hsort.perm.symm)

/-- The order in which versions are given does not matter to sorting. -/
theorem sort_eq_of_perm {versions versions' : List Version} (hperm : versions.Perm versions') :
    sort versions = sort versions' := by
  have hsort := isStableSort_sort versions
  exact eq_sort_of_perm (hsort.perm.trans hperm) hsort.ascending

end VersionGate.Version
