import Clearance.Json.Document

/-!
# Values as documents

Plain data becomes the document of the same shape.  The keys of a dictionary become texts, and may
be put in order; for all other objects a form says what they become.
-/

namespace Clearance.Json

/-- Why a value has no document. -/
inductive OfValueFault where
  /-- A key of a dictionary can be no text, or two keys have no order. -/
  | key
  | noText (f : Value.NoText)
  deriving DecidableEq, Repr

/-- How values become documents. -/
structure Form where
  /-- Whether the keys of dictionaries are put in order. -/
  sorted : Bool
  /-- The document of a value that is no plain data. -/
  other : Value -> Except OfValueFault Json

/-- The text of a value as a document. -/
def ofText (v : Value) : Except OfValueFault Json :=
  (v.text.map Json.string).mapError OfValueFault.noText

/-- The text of a key. -/
def keyText : Value -> Except OfValueFault String
  | .str s => .ok s
  | .null => .ok "null"
  | .bool b => .ok (if b then "true" else "false")
  | .int n => .ok (Decimal.intText n)
  | .real x => .ok (Decimal.scripted.text x)
  | _ => .error .key

/-- Whether a number that is given as a key is below another. -/
def numberBelow (x y : Int ⊕ Binary64) : Bool :=
  match x, y with
  | .inl m, .inl n => decide (m < n)
  | x, y =>
      let real (v : Int ⊕ Binary64) : Binary64 :=
        match v with
        | .inl n => Binary64.ofInt n
        | .inr x => x
      (real x).lt (real y)

/-- Whether one key is below another; texts and numbers have no common order. -/
def keyBelow? (k l : Value) : Option Bool :=
  match k, l with
  | .str s, .str t => some (decide (s < t))
  | k, l =>
      match k.numeric?, l.numeric? with
      | some x, some y => some (numberBelow x y)
      | _, _ => none

/-- Whether all keys have a common order. -/
def areOrdered (keys : List Value) : Bool :=
  match keys with
  | [] => true
  | k :: rest => rest.all fun l => (keyBelow? k l).isSome

/-- The members of a dictionary in the order of their keys. -/
def sortMembers (ms : List (Value × Except OfValueFault Json)) :
    List (Value × Except OfValueFault Json) :=
  ms.mergeSort fun a b => !(keyBelow? b.1 a.1).getD false

/-- The object with these members; the first fault is told. -/
def ofMembers (form : Form) (ms : List (Value × Except OfValueFault Json)) :
    Except OfValueFault Json :=
  if form.sorted && !areOrdered (ms.map Prod.fst) then .error .key
  else do
    let named <- (if form.sorted then sortMembers ms else ms).mapM fun (k, j) => do
      let name <- keyText k
      let j <- j
      return (name, j)
    return .object named

mutual

def ofValue (form : Form) : Value -> Except OfValueFault Json
  | .null => .ok .null
  | .bool b => .ok (.bool b)
  | .int n => .ok (.int n)
  | .real x => .ok (.real x)
  | .str s => .ok (.string s)
  | .list items => do return .array (<- (itemDocuments form items).mapM id)
  | .tuple items => do return .array (<- (itemDocuments form items).mapM id)
  | .dict entries => ofMembers form (memberDocuments form entries)
  | v => form.other v

def itemDocuments (form : Form) : List Value -> List (Except OfValueFault Json)
  | [] => []
  | v :: rest => ofValue form v :: itemDocuments form rest

def memberDocuments (form : Form) :
    List (Value × Value) -> List (Value × Except OfValueFault Json)
  | [] => []
  | (k, v) :: rest => (k, ofValue form v) :: memberDocuments form rest

end

end Clearance.Json
