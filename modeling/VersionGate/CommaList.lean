import VersionGate.Value

/-!
# Comma lists

A list of counts and other values in running text: values that do not count as
true are left out, and each of the others is set apart from the one before it by a
comma.
-/

namespace VersionGate

/-- The fragments that have been written, in order. -/
structure CommaList where
  fragments : List String := []
deriving DecidableEq

namespace CommaList

/-- Whether nothing has been written yet. -/
def isEmpty (list : CommaList) : Bool :=
  list.fragments.isEmpty

/-- A value with its description, as it stands in the list. -/
def entry (value : Value) (description : Option String) : String :=
  value.plain ++ description.getD ""

/-- What a value adds to the text: nothing if it does not count, and otherwise its
entry, after a comma unless it is the first. -/
def fragment (list : CommaList) (value : Value) (description : Option String) : String :=
  if value.isTrue then (if list.isEmpty then "" else ", ") ++ entry value description else ""

/-- The list after a value; one that does not count leaves it as it is. -/
def add (list : CommaList) (value : Value) (description : Option String) : CommaList :=
  if value.isTrue then ⟨list.fragments ++ [list.fragment value description]⟩ else list

/-- Everything that has been written. -/
def text (list : CommaList) : String :=
  String.join list.fragments

/-- One thing to do with a comma list. -/
inductive Step where
  | add (value : Value) (description : Option String)
  | reset

/-- The list after a step. -/
def perform (list : CommaList) : Step → CommaList
  | .add value description => list.add value description
  | .reset => {}

/-- A value that does not count leaves the list as it is. -/
theorem add_of_not_isTrue {value : Value} (h : value.isTrue = false) (list : CommaList)
    (description : Option String) : list.add value description = list := by
  simp [add, h]

/-- A value adds its fragment to the text, whether it counts or not. -/
theorem text_add (list : CommaList) (value : Value) (description : Option String) :
    (list.add value description).text = list.text ++ list.fragment value description := by
  by_cases h : value.isTrue = true
  · simp [add, text, h, String.join_append]
  · simp [add, text, fragment, h]

end CommaList

end VersionGate
