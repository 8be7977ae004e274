/-!
# Versions

A version has three integer fields. Versions are ordered field by field, written
with dots between the fields, and sorted stably in either direction.
-/

namespace VersionGate

/-- A major, a minor and a patch number; fields that are not given are zero. -/
structure Version where
  major : Int := 0
  minor : Int := 0
  patch : Int := 0
deriving DecidableEq, Repr

namespace Version

/-- A version is below another when its first differing field is. -/
instance : LT Version where
  lt a b :=
    a.major < b.major ∨
      (a.major = b.major ∧ (a.minor < b.minor ∨ (a.minor = b.minor ∧ a.patch < b.patch)))

/-- A version is at most another when it is below it or the same. -/
instance : LE Version where
  le a b := a < b ∨ a = b

instance (a b : Version) : Decidable (a < b) :=
  inferInstanceAs (Decidable (a.major < b.major ∨
    (a.major = b.major ∧ (a.minor < b.minor ∨ (a.minor = b.minor ∧ a.patch < b.patch)))))

instance (a b : Version) : Decidable (a ≤ b) :=
  inferInstanceAs (Decidable (a < b ∨ a = b))

/-- The fields in order, with dots between them. -/
def text (v : Version) : String :=
  toString v.major ++ "." ++ toString v.minor ++ "." ++ toString v.patch

/-- The form that shows a version among other values. -/
def quoted (v : Version) : String :=
  "SemanticVersion(" ++ toString v.major ++ ", " ++ toString v.minor ++ ", " ++
    toString v.patch ++ ")"

/-- Items sorted by their versions, in ascending or descending order; items of
equal versions keep their order either way. -/
def sortOn (key : α → Version) (descending : Bool) (items : List α) : List α :=
  items.mergeSort fun a b => if descending then key b ≤ key a else key a ≤ key b

/-- Versions in ascending order; equal ones keep their order. -/
def sort (versions : List Version) : List Version :=
  sortOn id false versions

/-- The versions of a list without repetition, each at its last occurrence. -/
def distinct : List Version → List Version
  | [] => []
  | v :: rest => if v ∈ rest then distinct rest else v :: distinct rest

/-- The order compares the fields from the major one on. -/
theorem lt_iff {a b : Version} :
    a < b ↔ a.major < b.major ∨
      (a.major = b.major ∧ (a.minor < b.minor ∨ (a.minor = b.minor ∧ a.patch < b.patch))) :=
  Iff.rfl

/-- To be at most a version is to be below it or the same. -/
theorem le_iff {a b : Version} : a ≤ b ↔ a < b ∨ a = b :=
  Iff.rfl

/-- No version is below itself. -/
theorem lt_irrefl (a : Version) : ¬a < a := by
  rw [lt_iff]
  omega

/-- The order of versions is transitive. -/
theorem lt_trans {a b c : Version} (hab : a < b) (hbc : b < c) : a < c := by
  rw [lt_iff] at hab hbc ⊢
  omega

/-- Of two versions one is at most the other. -/
theorem le_total (a b : Version) : a ≤ b ∨ b ≤ a := by
  obtain ⟨amajor, aminor, apatch⟩ := a
  obtain ⟨bmajor, bminor, bpatch⟩ := b
  simp only [le_iff, lt_iff, mk.injEq]
  omega

end Version

end VersionGate
