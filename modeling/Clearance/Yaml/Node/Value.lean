import Clearance.Yaml.Node.Reader
import Clearance.Yaml.Node.Scalar

/-!
# The value of a document

Sequences are lists, mappings are dictionaries, and a reference is the value of the node it names.
A mapping may take entries over from others; its own entries come behind them and so win.

A document is made level by level.  Of several faults the one on the outermost level is told, on
one level the first.
-/

namespace Clearance.Yaml

/-- A result, or a fault and the level that it is on. -/
abbrev Built (α : Type) := Except (Nat × ContentFault) α

namespace Built

variable {α β : Type}

def fail (level : Nat) (f : ContentFault) : Built α :=
  .error (level, f)

/-- A result seen from one level further out. -/
def deeper (b : Built α) : Built α :=
  b.mapError fun (level, f) => (level + 1, f)

/-- Applies a function; of two faults the outermost is kept, and the first if they are level. -/
def app (f : Built (α -> β)) (a : Built α) : Built β :=
  match f, a with
  | .ok g, .ok x => .ok (g x)
  | .error e, .ok _ => .error e
  | .ok _, .error e => .error e
  | .error e, .error e' => .error (if e'.1 < e.1 then e' else e)

def all : List (Built α) -> Built (List α)
  | [] => .ok []
  | b :: rest => app (b.map List.cons) (all rest)

end Built

/-- A key with its value; faults are counted from the mapping that the entry is in. -/
abbrev BuiltEntry := Built Value × Built Value

/-- A node as its surroundings need it. -/
structure Part where
  tag : Tag
  value : Built Value
  /-- The text of a scalar, or of the scalar that a mapping stands for. -/
  text? : Option (Except ContentFault (String × Bool))
  /-- The entries of a mapping, with those that it takes over. -/
  entries? : Option (Built (List BuiltEntry))
  /-- The keys and values of a mapping as they are written. -/
  pairs? : Option (List BuiltEntry)
  /-- The items of a sequence, each with its entries if it is a mapping. -/
  items? : Option (List (Built Value × Option (Built (List BuiltEntry))))

namespace Part

/-- What stands for a node that is not known yet. -/
def unknown : Part :=
  { tag := .null, value := .ok .null, text? := some (.error .endless), entries? := some (.ok [])
    pairs? := some [(.ok .null, .ok .null)], items? := some [] }

def ofScalar (tag : Tag) (text : String) (sound : Bool) : Part :=
  { tag
    value := (Content.scalar tag text sound).mapError fun f => (0, f)
    text? := some (.ok (text, sound)), entries? := none, pairs? := none, items? := none }

/-- A key that is no collection. -/
def keyOf (key : Built Value) : Built Value :=
  match key with
  | .ok v => if v.isHashable then .ok v else Built.fail 1 (.flaw .unhashableKey)
  | .error e => .error e

/-- The dictionary with these entries. -/
def dict (entries : List BuiltEntry) : Built (List (Value × Value)) :=
  (Built.all (entries.map fun (k, v) => Built.app ((keyOf k).map Prod.mk) v)).map fun pairs =>
    pairs.foldl (fun acc (k, v) => Value.insertEntry k v acc) []

/-- The only entry of a mapping, as a pair. -/
def single (pairs? : Option (List BuiltEntry)) : Built Value :=
  match pairs? with
  | some [(k, v)] => Built.app (k.map fun k v => .tuple [k, v]) v
  | _ => Built.fail 1 (.flaw .wrongKind)

/-- A scalar value of a collection: that of the scalar it stands for, if it stands for one. -/
def scalarValue (tag : Tag) (text? : Option (Except ContentFault (String × Bool))) :
    Built Value :=
  match text? with
  | none => Built.fail 0 (.flaw .wrongKind)
  | some (.error f) => Built.fail 0 f
  | some (.ok (text, sound)) =>
      if tag = .timestamp then Built.fail 0 .momentKind
      else (Content.scalar tag text sound).mapError fun f => (0, f)

/-- A sequence with its items. -/
def ofItems (tag : Tag) (items : List Part) : Part :=
  let wrong : Built Value := Built.fail 1 (.flaw .wrongKind)
  { tag
    value :=
      match tag with
      | .seq => (Built.all (items.map fun p => p.value.deeper)).map Value.list
      | .orderedMap | .pairs => (Built.all (items.map fun p => single p.pairs?)).map Value.list
      | .map | .set => wrong
      | .merge | .value | .other _ => Built.fail 0 (.flaw .unknownTag)
      | tag => scalarValue tag none
    text? := none, entries? := none, pairs? := none
    items? := some (items.map fun p => (p.value, p.entries?)) }

/-- The entries that a mapping takes over from the value of a merge key. -/
def merged (p : Part) : Built (List BuiltEntry) :=
  match p.entries?, p.items? with
  | some entries, _ => entries
  | none, some items =>
      let each := items.map fun (_, entries?) =>
        entries?.getD (Built.fail 1 (.flaw .wrongKind))
      (Built.all each).map fun lists => lists.reverse.flatten
  | none, none => Built.fail 1 (.flaw .wrongKind)

/-- The entries of a mapping: first those that it takes over, then its own. -/
def entriesOf (pairs : List (Part × Part)) : Built (List BuiltEntry) :=
  let (mergers, own) := pairs.partition fun (k, _) => k.tag == .merge
  let own := own.map fun (k, v) =>
    let key : Built Value :=
      match k.tag, k.text? with
      | .value, some text => (text.map fun (text, _) => .str text).mapError fun f => (1, f)
      | _, _ => k.value.deeper
    (key, v.value.deeper)
  (Built.all (mergers.map fun (_, v) => merged v)).map fun lists => lists.flatten ++ own

/-- A mapping with its keys and values. -/
def ofPairs (tag : Tag) (pairs : List (Part × Part)) : Part :=
  let entries := entriesOf pairs
  let text? := (pairs.find? fun (k, _) => k.tag == .value).bind fun (_, v) => v.text?
  let entryDict := entries.bind dict
  { tag
    value :=
      match tag with
      | .map => entryDict.map Value.dict
      | .set => entryDict.map fun es => Value.set (es.map Prod.fst)
      | .seq | .orderedMap | .pairs => Built.fail 1 (.flaw .wrongKind)
      | .merge | .value | .other _ => Built.fail 0 (.flaw .unknownTag)
      | tag => scalarValue tag text?
    text?
    entries? := some entries
    pairs? := some (pairs.map fun (k, v) => (k.value.deeper, v.value.deeper))
    items? := none }

end Part

/-- The parts of the nodes that have names. -/
abbrev Names := List (String × Part)

mutual

def Node.part (names : Names) : Node -> Part
  | .scalar tag text sound => Part.ofScalar tag text sound
  | .sequence tag items => Part.ofItems tag (Node.parts names items)
  | .mapping tag pairs => Part.ofPairs tag (Node.pairParts names pairs)
  | .reference name => (names.lookup name).getD Part.unknown

def Node.parts (names : Names) : List Node -> List Part
  | [] => []
  | n :: rest => Node.part names n :: Node.parts names rest

def Node.pairParts (names : Names) : List (Node × Node) -> List (Part × Part)
  | [] => []
  | (k, v) :: rest => (Node.part names k, Node.part names v) :: Node.pairParts names rest

end

mutual

/-- The names that a node refers to. -/
def Node.references : Node -> List String
  | .scalar .. => []
  | .sequence _ items => Node.allReferences items
  | .mapping _ pairs => Node.pairReferences pairs
  | .reference name => [name]

def Node.allReferences : List Node -> List String
  | [] => []
  | n :: rest => Node.references n ++ Node.allReferences rest

def Node.pairReferences : List (Node × Node) -> List String
  | [] => []
  | (k, v) :: rest => Node.references k ++ Node.references v ++ Node.pairReferences rest

end

namespace Graph

/-- Works the named nodes out in order, on the ground of what is known of them. -/
def round (g : Graph) (names : Names) : Names :=
  g.named.foldl (fun names (name, n) => (name, n.part names) :: names) names

/-- Whether a named node refers to one that ends later, or to itself. -/
def isCyclic (g : Graph) : Bool :=
  (g.named.foldl (fun (acc : List String × Bool) (name, n) =>
    (name :: acc.1, acc.2 || n.references.any fun r => !acc.1.contains r)) ([], false)).2

/-- How far a document that contains itself is unfolded. -/
def unfolding : Nat := 10

/-- The parts of the named nodes. -/
def names (g : Graph) : Names :=
  let rounds := if g.isCyclic then unfolding else 1
  (List.range rounds).foldl (fun names _ => g.round names) []

def value (g : Graph) : Except ContentFault Value :=
  (g.root.part g.names).value.mapError Prod.snd

end Graph

/-- The value of a text; a text without a document has the empty one. -/
def load (text : String) : Except ContentFault Value :=
  match Graph.read text with
  | .error f => .error (.flaw f)
  | .ok none => .ok .null
  | .ok (some g) => g.value

end Clearance.Yaml
