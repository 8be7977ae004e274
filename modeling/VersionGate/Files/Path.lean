import VersionGate.Text.ZeroCharacter

/-!
# Paths

A path is a list of names after an optional root. Empty names and single dots do
not count, while double dots stay, since what they lead to depends on the files.
-/

namespace VersionGate.Files

/-- Where a path starts: at the working directory, at the root, or at the root of
its own that exactly two slashes stand for. -/
inductive Anchor where
  | relative
  | root
  | doubleRoot
deriving DecidableEq, Repr

/-- An anchor and the names after it. -/
structure Path where
  anchor : Anchor := .relative
  names : List String := []
deriving DecidableEq, Repr

/-- The text of an anchor. -/
def Anchor.text : Anchor → String
  | .relative => ""
  | .root => "/"
  | .doubleRoot => "//"

namespace Path

/-- A list of characters cut at its slashes, from its right end: the piece at the
left edge and the pieces after it. -/
def cutAtSlashes (text : List Char) : List (List Char) :=
  let cut := text.foldr
    (fun c (state : List Char × List (List Char)) =>
      if c == '/' then ([], state.1 :: state.2) else (c :: state.1, state.2))
    ([], [])
  cut.1 :: cut.2

/-- The anchor of a text, which the slashes at its start decide. -/
def anchorOf : List Char → Anchor
  | '/' :: '/' :: '/' :: _ => .root
  | '/' :: '/' :: _ => .doubleRoot
  | '/' :: _ => .root
  | _ => .relative

/-- The path that a text denotes. -/
def ofText (text : String) : Path where
  anchor := anchorOf text.toList
  names := ((cutAtSlashes text.toList).map String.ofList).filter fun name =>
    name != "" && name != "."

/-- The text of a path; the path without names is a single dot. -/
def text (path : Path) : String :=
  match path.anchor, path.names with
  | .relative, [] => "."
  | anchor, names => anchor.text ++ "/".intercalate names

/-- A path with one more name at its end. -/
def child (path : Path) (name : String) : Path :=
  { path with names := path.names ++ [name] }

/-- Whether the character U+0000, which no path may hold, occurs in a path. -/
def hasNul (path : Path) : Bool :=
  path.names.any Text.hasNul

example : (ofText "./a//b/../c/").text = "a/b/../c" := by decide +kernel
example : (ofText "").text = "." := by decide +kernel

end Path

end VersionGate.Files
