import VersionGate.Complaint
import VersionGate.Text.Words

/-!
# Keywords

An option may be spelled with any of its keywords, which are given as one text
with blanks between them. A keyword applies to a token that equals it, and a short
keyword of an option that takes a value also to a token that it begins.
-/

namespace VersionGate.CommandLine

/-- The longest keyword that may carry an attached value, unless set otherwise. -/
def defaultThreshold : Int := 2

/-- The keywords of an alias spec. Commas and semicolons are refused, since they
suggest another way of separating keywords. -/
def keywords (spec : String) : Except Complaint (List String) :=
  if spec.toList.contains ',' || spec.toList.contains ';' then .error (.aliasSpec spec)
  else .ok (Text.words spec)

/-- Whether a text begins with a keyword. -/
def begins (keyword token : String) : Bool :=
  keyword.toList.isPrefixOf token.toList

/-- Whether a keyword applies to a token: it equals it, or begins it, takes a value
and is not longer than the threshold. -/
def applies (threshold : Int) (takesValue : Bool) (token keyword : String) : Bool :=
  begins keyword token &&
    ((takesValue && decide ((keyword.length : Int) ≤ threshold)) || token == keyword)

/-- What follows a keyword in a token that it begins. -/
def attachedValue (keyword token : String) : String :=
  String.ofList (token.toList.drop keyword.length)

/-- A token begins with a keyword when it is the keyword with something after it. -/
theorem begins_iff {keyword token : String} :
    begins keyword token = true ↔ ∃ rest, token = keyword ++ rest := by
  rw [begins, List.isPrefixOf_iff_prefix]
  constructor
  · rintro ⟨rest, h⟩
    exact ⟨String.ofList rest, String.ext (by simp [h])⟩
  · rintro ⟨rest, rfl⟩
    exact ⟨rest.toList, by simp⟩

/-- The attached value is what was written after the keyword. -/
@[simp] theorem attachedValue_append (keyword rest : String) :
    attachedValue keyword (keyword ++ rest) = rest := by
  simp [attachedValue, ← String.length_toList]

end VersionGate.CommandLine
