import Clearance.Value

/-!
# JSON documents

Documents as they are read and written, before any meaning is given to them.  Objects keep the
order of their members, and numbers keep whether they were written as whole.
-/

namespace Clearance

inductive Json where
  | null
  | bool (b : Bool)
  | int (n : Int)
  | real (x : Binary64)
  | string (s : String)
  | array (items : List Json)
  | object (members : List (String × Json))
  deriving Inhabited

namespace Json

/-- The first member of an object with a name. -/
def member? (name : String) : Json -> Option Json
  | .object members => members.lookup name
  | _ => none

mutual

/-- The plain value that a document denotes; of two members of one name the later counts. -/
def toValue : Json -> Value
  | .null => .null
  | .bool b => .bool b
  | .int n => .int n
  | .real x => .real x
  | .string s => .str s
  | .array items => .list (toValues items)
  | .object members => Value.dictOf (toEntries members)

def toValues : List Json -> List Value
  | [] => []
  | item :: rest => toValue item :: toValues rest

def toEntries : List (String × Json) -> List (Value × Value)
  | [] => []
  | (name, item) :: rest => (.str name, toValue item) :: toEntries rest

end

end Json

end Clearance
