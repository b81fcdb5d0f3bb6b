namespace ChipEight

/-!
# Paths

A path is a text whose parts are separated by slashes.  The parts `.` and `..`
stand for the same and for the enclosing folder.  Here they are resolved on the
text alone, without asking whether the folders exist.
-/

/-- A place is known by the names that lead to it from the root. -/
abbrev Place := List String

namespace Path

/-- Add a part of a path to the names that lead to a folder, the innermost name
first.  Nothing encloses the root. -/
def enter (inward : List String) (part : String) : List String :=
  if part = "" ∨ part = "." then inward
  else if part = ".." then inward.tail
  else part :: inward

/-- The parts of a path, empty ones included. -/
def parts (path : String) : List String :=
  path.splitOn "/"

/-- Whether a path starts at the root. -/
def isAbsolute (path : String) : Bool :=
  path.startsWith "/"

/-- The slashes at the start of a path.  Exactly two are kept apart from one. -/
def rootSlashes (path : String) : String :=
  if path.startsWith "//" ∧ ¬ path.startsWith "///" then "//" else "/"

/-- A path from the root without superfluous parts. -/
def normal (path : String) : String :=
  rootSlashes path ++ "/".intercalate ((parts path).foldl enter []).reverse

/-- The path, in normal form, that leads from the root to what a path means in
a folder. -/
def within (folder path : String) : String :=
  if isAbsolute path then normal path
  else if folder.endsWith "/" then normal (folder ++ path)
  else normal (folder ++ "/" ++ path)

end Path

/-- The place of a part of a path, seen from a folder. -/
def Place.step (place : Place) (part : String) : Place :=
  (Path.enter place.reverse part).reverse

end ChipEight
