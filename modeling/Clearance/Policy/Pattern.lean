import Clearance.Text.Affix

/-!
# Name patterns

How rules and grants cover names.  A trailing star covers everything that begins as the pattern
does; a name covers the names below it, those that go on with a dot.
-/

namespace Clearance.Pattern

/-- Whether a pattern ends with a star. -/
def isStarred (pattern : String) : Bool :=
  Text.endsWith pattern "*"

/-- A pattern without its last character. -/
def stem (pattern : String) : String :=
  String.ofList pattern.toList.dropLast

/-- Whether a rule pattern covers a name. -/
def covers (pattern name : String) : Bool :=
  if pattern == name then true
  else if isStarred pattern then Text.beginsWith name (stem pattern)
  else Text.beginsWith name (pattern ++ ".")

/-- Whether a starred grant covers a name. -/
def wildcardCovers (granted name : String) : Bool :=
  isStarred granted && Text.beginsWith name (stem granted)

/-- Whether a grant without a dot is an ancestor of a name. -/
def hierarchyCovers (granted name : String) : Bool :=
  !granted.contains '.' && Text.beginsWith name (granted ++ ".")

/-- Whether a standing grant covers a name: as itself, by its star, or as an ancestor. -/
def grantCovers (granted name : String) : Bool :=
  granted == name || wildcardCovers granted name || hierarchyCovers granted name

end Clearance.Pattern
