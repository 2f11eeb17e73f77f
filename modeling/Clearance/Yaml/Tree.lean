import Clearance.Value
import Clearance.Yaml.Written

/-!
# Trees

What is written as a configuration text: Booleans, texts, lists, and records with named fields.
Each field stands on a line of its own; the items of a list stand at the column of the record
that the list is a field of.
-/

namespace Clearance.Yaml

inductive Tree where
  | flag (b : Bool)
  | text (s : String)
  | list (items : List Tree)
  | record (fields : List (String × Tree))
  deriving Inhabited

namespace Tree

open Written (spaces newLine)

mutual

/-- The value that a tree stands for. -/
def toValue : Tree -> Value
  | .flag b => .bool b
  | .text s => .str s
  | .list items => .list (itemValues items)
  | .record fields => .dict (fieldValues fields)

def itemValues : List Tree -> List Value
  | [] => []
  | t :: rest => toValue t :: itemValues rest

def fieldValues : List (String × Tree) -> List (Value × Value)
  | [] => []
  | (name, t) :: rest => (.str name, toValue t) :: fieldValues rest

end

mutual

/-- A tree behind the colon of a field of a record at an indentation. -/
def fieldText (indent column : Nat) : Tree -> List Char
  | .flag b => ' ' :: (if b then "true" else "false").toList
  | .text s => ' ' :: Written.scalar (indent + 2) (column + 1) s
  | .list [] => " []".toList
  | .list items => itemsText indent items
  | .record [] => " \x7b\x7d".toList
  | .record fields => newLine (indent + 2) ++ fieldsText (indent + 2) fields

/-- A tree behind the dash of an item of a list at an indentation. -/
def itemText (indent : Nat) : Tree -> List Char
  | .flag b => ' ' :: (if b then "true" else "false").toList
  | .text s => ' ' :: Written.scalar (indent + 2) (indent + 2) s
  | .list [] => " []".toList
  | .list items => ' ' :: (itemsText (indent + 2) items).drop (indent + 3)
  | .record [] => " \x7b\x7d".toList
  | .record fields => ' ' :: fieldsText (indent + 2) fields

/-- The items of a list, each on a new line. -/
def itemsText (indent : Nat) : List Tree -> List Char
  | [] => []
  | t :: rest => newLine indent ++ '-' :: itemText indent t ++ itemsText indent rest

/-- The fields of a record, each but the first on a new line. -/
def fieldsText (indent : Nat) : List (String × Tree) -> List Char
  | [] => []
  | [(name, t)] => name.toList ++ ':' :: fieldText indent (indent + name.length + 1) t
  | (name, t) :: rest =>
      name.toList ++ ':' :: fieldText indent (indent + name.length + 1) t
        ++ newLine indent ++ fieldsText indent rest

end

/-- A record as a whole text. -/
def render (fields : List (String × Tree)) : String :=
  if fields.isEmpty then "\x7b\x7d\n" else String.ofList (fieldsText 0 fields ++ ['\n'])

end Tree

end Clearance.Yaml
