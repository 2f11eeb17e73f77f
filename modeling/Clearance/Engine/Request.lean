import Clearance.Schema.Record
import Clearance.Table

/-!
# Requests as they are made

A request names a permission and gives a context, and both may be data of any kind.  What makes no
proper request is turned down, with an echo of what was asked.
-/

namespace Clearance.Engine

/-- Why data is no mapping. -/
inductive MappingFault where
  | notIterable (kind : String)
  | noPair (index : Nat)
  | notTwo (index count : Nat)
  | unhashable (kind : String)
  deriving DecidableEq, Repr

def MappingFault.message : MappingFault -> String
  | .notIterable kind => "'" ++ kind ++ "' object is not iterable"
  | .noPair index =>
      "cannot convert dictionary update sequence element #" ++ Decimal.natText index
        ++ " to a sequence"
  | .notTwo index count =>
      "dictionary update sequence element #" ++ Decimal.natText index ++ " has length "
        ++ Decimal.natText count ++ "; 2 is required"
  | .unhashable kind => "unhashable type: '" ++ kind ++ "'"

/-- The items that a value is made of. -/
def itemsOf? : Value -> Option (List Value)
  | .list items | .tuple items | .set items => some items
  | .dict entries => some (entries.map Prod.fst)
  | .str s => some (s.toList.map fun c => .str (String.singleton c))
  | _ => none

/-- The pair at a place in a sequence of pairs. -/
def pairOf (index : Nat) (v : Value) : Except MappingFault (Value × Value) :=
  match itemsOf? v with
  | none => .error (.noPair index)
  | some [key, value] =>
      if key.isHashable then .ok (key, value) else .error (.unhashable key.kindName)
  | some items => .error (.notTwo index items.length)

/-- The mapping that a value stands for: one itself, or a sequence of pairs. -/
def mappingOf (v : Value) : Except MappingFault Value :=
  match v with
  | .dict entries => .ok (.dict entries)
  | v =>
      match itemsOf? v with
      | none => .error (.notIterable v.fullKindName)
      | some items => return Value.dictOf (<- (items.mapIdx pairOf).mapM id)

/-- Why data is no request. -/
inductive Rejection where
  | mapping (f : MappingFault)
  | invalid (e : Schema.Invalid)

def Rejection.message : Rejection -> String
  | .mapping f => f.message
  | .invalid e => e.text

/-- The request that a permission and a context make; whatever is void is an empty context. -/
def requestOf (permission context : Value) : Except Rejection Request := do
  let context <- (mappingOf (if context.isTruthy then context else .dict [])).mapError .mapping
  (Schema.titled "PermissionCheck"
    (Schema.request (.dict [(.str "permission", permission), (.str "context", context)]))).mapError
    .invalid

/-- The texts and literals of a mapping. -/
def echoEntries : List (Value × Value) -> Except Value.NoText Context
  | [] => .ok []
  | entries =>
      entries.foldlM (fun c (k, v) => do return Table.set (<- k.text) (.str v.literal) c) []

/-- What was asked, as far as it can be told. -/
def echo (permission context : Value) : Except Value.NoText Request := do
  let permission <- permission.text
  let context <- match context with
    | .dict entries => echoEntries entries
    | _ => .ok []
  return { permission, context }

end Clearance.Engine
