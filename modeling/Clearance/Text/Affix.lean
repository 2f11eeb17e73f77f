/-!
# Parts of texts

How a text begins, ends, and what it holds, said of its characters.
-/

namespace Clearance.Text

/-- Whether a text begins with another one. -/
def beginsWith (s part : String) : Bool :=
  part.toList.isPrefixOf s.toList

/-- Whether a text ends with another one. -/
def endsWith (s part : String) : Bool :=
  part.toList.isSuffixOf s.toList

/-- Whether a list of characters occurs in another one without a gap. -/
def occursIn (part : List Char) : List Char -> Bool
  | [] => part.isEmpty
  | c :: rest => part.isPrefixOf (c :: rest) || occursIn part rest

/-- Whether a text holds another one. -/
def holds (s part : String) : Bool :=
  occursIn part.toList s.toList

/-- The characters before the first occurrence of a character, and those behind it if there is one. -/
def cutAt (c : Char) (cs : List Char) : List Char × Option (List Char) :=
  match cs.dropWhile (· != c) with
  | [] => (cs, none)
  | _ :: rest => (cs.takeWhile (· != c), some rest)

theorem beginsWith_iff {s part : String} :
    beginsWith s part = true ↔ part.toList <+: s.toList := by
  simp [beginsWith]

theorem endsWith_iff {s part : String} :
    endsWith s part = true ↔ part.toList <:+ s.toList := by
  simp [endsWith]

theorem occursIn_iff {part cs : List Char} : occursIn part cs = true ↔ part <:+: cs := by
  induction cs with
  | nil => simp [occursIn]
  | cons c rest ih => simp [occursIn, ih, List.infix_cons_iff]

end Clearance.Text
