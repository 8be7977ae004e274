import VersionGate.Number.Decimal
import VersionGate.Text.Quoted
import VersionGate.Version.Basic

/-!
# Values

What an option may hold: nothing, a truth value, a number of one of three kinds, a
version, a text, or a list of values. The fields of a version are values themselves,
mostly integers. A value has a plain text, a quoted text for messages, a truth, and
the name of its kind.
-/

namespace VersionGate

open Number

/-- A value that an option may hold. -/
inductive Value where
  | none
  | bool (b : Bool)
  | int (n : Int)
  | float (x : Float)
  | decimal (d : Decimal)
  | version (major minor patch : Value)
  | text (s : String)
  | list (items : List Value)

namespace Value

instance : Inhabited Value := ⟨.none⟩

mutual

/-- The written form of a value. In a marked form texts are quoted, and decimals and
versions are named as such; the items of a list are always marked, the fields of a
version never. -/
def form (marked : Bool) : Value → String
  | .none => "None"
  | .bool b => if b then "True" else "False"
  | .int n => toString n
  | .float x => floatText x
  | .decimal d => if marked then "Decimal('" ++ d.text ++ "')" else d.text
  | .version major minor patch =>
    if marked then
      "SemanticVersion(" ++ form false major ++ ", " ++ form false minor ++ ", " ++
        form false patch ++ ")"
    else form false major ++ "." ++ form false minor ++ "." ++ form false patch
  | .text s => if marked then Text.quoted s else s
  | .list items => "[" ++ ", ".intercalate (itemForms items) ++ "]"

/-- The marked forms of the items of a list. -/
def itemForms : List Value → List String
  | [] => []
  | item :: rest => form true item :: itemForms rest

end

/-- The form of a value inside a message. -/
def quoted (value : Value) : String :=
  form true value

/-- The plain text of a value: a text is itself. -/
def plain (value : Value) : String :=
  form false value

/-- A value counts as true unless it is nothing, false, a zero or empty. -/
def isTrue : Value → Bool
  | .none => false
  | .bool b => b
  | .int n => n != 0
  | .float x => !(x == 0.0)
  | .decimal d => !d.isZero
  | .version .. => true
  | .text s => s != ""
  | .list items => !items.isEmpty

/-- The name of the kind of a value. -/
def kind : Value → String
  | .none => "NoneType"
  | .bool _ => "bool"
  | .int _ => "int"
  | .float _ => "float"
  | .decimal _ => "decimal.Decimal"
  | .version .. => "SemanticVersion"
  | .text _ => "str"
  | .list _ => "list"

mutual

/-- An integer has a written form unless it has more digits than the limit, and any
other value when all values in it have one. -/
def isWritable : Value → Bool
  | .int n => decide (Decimal.digitCount n.natAbs ≤ digitLimit)
  | .version major minor patch => isWritable major && isWritable minor && isWritable patch
  | .list items => areWritable items
  | _ => true

/-- Whether all items of a list have a written form. -/
def areWritable : List Value → Bool
  | [] => true
  | item :: rest => isWritable item && areWritable rest

end

/-- A list of texts as a value. -/
def ofTexts (texts : List String) : Value :=
  .list (texts.map .text)

/-- A version with integer fields as a value. -/
def ofVersion (v : Version) : Value :=
  .version (.int v.major) (.int v.minor) (.int v.patch)

/-- The version that a value is, if its fields are integers. -/
def version? : Value → Option Version
  | .version (.int major) (.int minor) (.int patch) => some { major, minor, patch }
  | _ => Option.none

/-- The integer that a value counts as; truth values count as one and zero. -/
def integer? : Value → Option Int
  | .bool b => some (if b then 1 else 0)
  | .int n => some n
  | _ => Option.none

/-- A version with integer fields is found again in its value. -/
@[simp] theorem version?_ofVersion (v : Version) : (ofVersion v).version? = some v := rfl

/-- A version has the same text as its value. -/
@[simp] theorem plain_ofVersion (v : Version) : (ofVersion v).plain = v.text := rfl

/-- A version has the same quoted form as its value. -/
@[simp] theorem quoted_ofVersion (v : Version) : (ofVersion v).quoted = v.quoted := rfl

example : (ofTexts ["a", "it's"]).quoted = "['a', \"it's\"]" := by decide +kernel

end Value

end VersionGate
