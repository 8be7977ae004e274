import VersionGate.Text.Quoted

/-!
# Forms

A form has named blanks, which are filled in by position and by name. The first of
them have to be filled in, and the others may be left empty.
-/

namespace VersionGate

/-- Blanks in a fixed order, and the count of those that have to be filled in. -/
structure Form where
  name : String
  blanks : List String
  required : Nat
deriving DecidableEq, Repr

/-- Why a form cannot be filled in. -/
inductive FormFault where
  /-- A name that no blank has. -/
  | unknown (name : String)
  /-- A blank that is filled in by position and by name. -/
  | repeated (blank : String)
  /-- More values than blanks. -/
  | surplus (count : Nat)
  /-- Blanks that have to be filled in and are not. -/
  | missing (blanks : List String)
deriving DecidableEq, Repr

namespace Form

variable {α : Type}

/-- Checks the names in their order: each belongs to a blank that is not filled in by
position. -/
def checkNames (form : Form) (count : Nat) : List String → Except FormFault Unit
  | [] => .ok ()
  | name :: names =>
    match form.blanks.idxOf? name with
    | none => .error (.unknown name)
    | some index =>
      if index < count then .error (.repeated name) else form.checkNames count names

/-- The value for each blank, if there is one: the values in order fill the first
blanks, and the others are filled in by name. -/
def fill (form : Form) (values : List α) (named : List (String × α)) :
    Except FormFault (List (Option α)) := do
  form.checkNames values.length (named.map Prod.fst)
  if form.blanks.length < values.length then .error (.surplus values.length)
  else
    let rest := form.blanks.drop values.length
    let missing := (form.blanks.take form.required).drop values.length |>.filter fun blank =>
      (named.lookup blank).isNone
    if missing.isEmpty then .ok (values.map some ++ rest.map (named.lookup ·))
    else .error (.missing missing)

/-- Some things in a sentence. -/
def enumeration : List String → String
  | [] => ""
  | [only] => only
  | [first, second] => first ++ " and " ++ second
  | first :: second :: rest =>
    ", ".intercalate ((first :: second :: rest).dropLast) ++ ", and " ++
      (rest.getLast?.getD second)

/-- What is said of a form that cannot be filled in. The form itself counts as one
more value. -/
def message (form : Form) : FormFault → String
  | .unknown name => form.name ++ ".__init__() got an unexpected keyword argument '" ++ name ++ "'"
  | .repeated blank => form.name ++ ".__init__() got multiple values for argument '" ++ blank ++ "'"
  | .surplus count =>
    let most := toString (form.blanks.length + 1)
    let span :=
      if form.required = form.blanks.length then most
      else "from " ++ toString (form.required + 1) ++ " to " ++ most
    form.name ++ ".__init__() takes " ++ span ++ " positional arguments but " ++
      toString (count + 1) ++ " were given"
  | .missing blanks =>
    form.name ++ ".__init__() missing " ++ toString blanks.length ++
      " required positional argument" ++ (if blanks.length = 1 then "" else "s") ++ ": " ++
      enumeration (blanks.map Text.quoted)

example : enumeration ["a", "b", "c"] = "a, b, and c" := by decide +kernel

end Form

end VersionGate
