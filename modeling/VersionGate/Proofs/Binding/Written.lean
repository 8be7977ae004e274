import VersionGate.Binding.Binder
import VersionGate.Proofs.Number.IntegerText
import VersionGate.Proofs.Value

/-!
# Written forms of converted values

Whatever a built-in binder converts a text to has a written form, since integers are read
from limited texts only. A converter that is supplied from outside may give numbers of any size;
the powers of ten are an example.
-/

namespace VersionGate

open Number

/-- A list has a written form when each of its items has one. -/
theorem Value.areWritable_iff {items : List Value} :
    areWritable items = true ↔ ∀ item ∈ items, item.isWritable = true := by
  induction items with
  | nil => simp [areWritable]
  | cons item items ih => simp [areWritable, ih]

/-- A value that a built-in binder gives has a written form. -/
theorem Binder.isWritable_of_convert {binder : Binder} {text : String} {value : Value}
    (hbuiltIn : ∀ converter, binder ≠ .converter converter)
    (hvalue : binder.convert text = .ok value) : value.isWritable = true := by
  cases binder with
  | text =>
    cases hvalue
    rfl
  | integer =>
    simp only [convert] at hvalue
    split at hvalue
    · next n hread =>
      cases hvalue
      simpa [Value.isWritable] using digitCount_le_of_readInteger hread
    · cases hvalue
  | number =>
    simp only [convert] at hvalue
    split at hvalue
    · cases hvalue
      rfl
    · cases hvalue
  | boolean =>
    simp only [convert] at hvalue
    split at hvalue
    · cases hvalue
      rfl
    · cases hvalue
  | converter converter => exact absurd rfl (hbuiltIn converter)
  | abstract => cases hvalue

/-- A converter that takes a text for the power of ten with as many zeros as it has characters. -/
def Converter.power : Converter where
  name := some "power"
  convert text := .ok (.int (10 ^ text.length))

/-- The results of a list of conversions are those of its items, one by one. -/
theorem forall₂_of_mapM {α β ε : Type} {f : α → Except ε β} {items : List α} {results : List β}
    (hmap : items.mapM f = .ok results) :
    List.Forall₂ (fun item result => f item = .ok result) items results := by
  induction items generalizing results with
  | nil =>
    simp only [List.mapM_nil, pure, Except.pure, Except.ok.injEq] at hmap
    rw [← hmap]
    exact .nil
  | cons item items ih =>
    rw [List.mapM_cons] at hmap
    cases hfirst : f item with
    | error fault => simp [hfirst, bind, Except.bind] at hmap
    | ok first =>
      cases hrest : items.mapM f with
      | error fault => simp [hfirst, hrest, bind, Except.bind] at hmap
      | ok rest =>
        simp only [hfirst, hrest, bind, Except.bind, pure, Except.pure, Except.ok.injEq] at hmap
        rw [← hmap]
        exact .cons hfirst (ih hrest)

/-- The results of the items of a list, one by one, are those of the list of conversions. -/
theorem mapM_of_forall₂ {α β ε : Type} {f : α → Except ε β} {items : List α} {results : List β}
    (hall : List.Forall₂ (fun item result => f item = .ok result) items results) :
    items.mapM f = .ok results := by
  induction hall with
  | nil => rfl
  | cons hfirst _ ih =>
    rw [List.mapM_cons, hfirst, ih]
    rfl

/-- A list of conversions fails with the error of one of its items. -/
theorem exists_of_mapM_error {α β ε : Type} {f : α → Except ε β} {items : List α} {error : ε}
    (hmap : items.mapM f = .error error) : ∃ item ∈ items, f item = .error error := by
  induction items with
  | nil => cases hmap
  | cons item items ih =>
    rw [List.mapM_cons] at hmap
    cases hfirst : f item with
    | error error' =>
      obtain rfl : error' = error := by simpa [hfirst, bind, Except.bind] using hmap
      exact ⟨item, List.mem_cons_self, hfirst⟩
    | ok first =>
      cases hrest : items.mapM f with
      | error error' =>
        obtain rfl : error' = error := by simpa [hfirst, hrest, bind, Except.bind] using hmap
        obtain ⟨other, hother, herror⟩ := ih hrest
        exact ⟨other, List.mem_cons_of_mem _ hother, herror⟩
      | ok rest => simp [hfirst, hrest, bind, Except.bind, pure, Except.pure] at hmap

/-- Each result of a list of conversions comes from one of its items. -/
theorem exists_of_mem_mapM {α β ε : Type} {f : α → Except ε β} {items : List α} {results : List β}
    (hmap : items.mapM f = .ok results) {result : β} (hresult : result ∈ results) :
    ∃ item ∈ items, f item = .ok result := by
  have hall := forall₂_of_mapM hmap
  clear hmap
  induction hall with
  | nil => cases hresult
  | @cons item _ _ _ hfirst _ ih =>
    rcases List.mem_cons.mp hresult with rfl | hresult
    · exact ⟨item, List.mem_cons_self, hfirst⟩
    · obtain ⟨other, hother, heq⟩ := ih hresult
      exact ⟨other, List.mem_cons_of_mem _ hother, heq⟩

end VersionGate
