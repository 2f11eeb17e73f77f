import Clearance.Printed
import Clearance.Text.Blank

/-!
# Markup

How markup is shown.  A tag is not shown: it opens a style, or closes one that is open.  A
backslash before a tag makes it text, two of them stand for one; before any other bracket a
backslash is left out.  A tag that closes what is not open is a fault.  Codes of emoji, and what
the tag of a link does, are left out.
-/

namespace Clearance.Printed

/-- A piece of markup. -/
inductive Piece where
  /-- A character that is shown. -/
  | char (c : Char)
  /-- What a tag has between its brackets. -/
  | tag (content : List Char)
  deriving DecidableEq, Repr

namespace Piece

def backslashes (n : Nat) : List Piece :=
  List.replicate n (.char '\\')

/-- The character of a piece that is shown. -/
def char? : Piece -> Option Char
  | .char c => some c
  | .tag _ => none

end Piece

open Piece (backslashes)

/--
The pieces of markup.  The first argument counts the characters that still belong to a tag, the
second the backslashes just read.
-/
def piecesFrom : Nat -> Nat -> List Char -> List Piece
  | _, slashes, [] => backslashes slashes
  | left + 1, _, _ :: rest => piecesFrom left 0 rest
  | 0, slashes, c :: rest =>
      if c = '\\' then piecesFrom 0 (slashes + 1) rest
      else if c = '[' then
        match tagLength? rest with
        | some length =>
            backslashes (slashes / 2)
              ++ (if slashes % 2 = 1 then ('[' :: rest.take length).map Piece.char
                else [.tag (rest.take (length - 1))])
              ++ piecesFrom length 0 rest
        | none => backslashes (slashes - 1) ++ .char '[' :: piecesFrom 0 0 rest
      else backslashes slashes ++ .char c :: piecesFrom 0 0 rest

def pieces (s : String) : List Piece :=
  piecesFrom 0 0 s.toList

/-- The characters of pieces that are shown. -/
def shown (ps : List Piece) : List Char :=
  ps.filterMap Piece.char?

/-- Markup without its tags. -/
def plain (s : String) : String :=
  String.ofList (shown (pieces s))

/-! ## Styles -/

/-- The name of the style that a tag speaks of; what follows an equals sign is no part of it. -/
def tagName (content : List Char) : List Char :=
  content.takeWhile fun c => c != '='

section

-- names of styles are compared in a standard spelling
variable (standard : String -> String)

/--
The styles that are open behind a tag, the last one first.  A tag that closes names its style or
means the last one.
-/
def follow (content : List Char) (opened : List String) : Option (List String) :=
  match tagName content with
  | '/' :: name =>
      match Text.strip name with
      | [] => if opened.isEmpty then none else some opened.tail
      | name =>
          let style := standard (String.ofList name)
          if style ∈ opened then some (opened.erase style) else none
  | name => some (standard (String.ofList name) :: opened)

/-- The styles that are open behind pieces, if every tag that closes finds what it closes. -/
def openedBy : List Piece -> List String -> Option (List String)
  | [], opened => some opened
  | .char _ :: rest, opened => openedBy rest opened
  | .tag content :: rest, opened => (follow standard content opened).bind (openedBy rest)

/-- The text that is shown for markup, unless a tag closes what is not open. -/
def display? (s : String) : Option String :=
  (openedBy standard (pieces s) []).map fun _ => plain s

/-- Whether all markup of an item can be shown. -/
def Renders : Printed -> Prop
  | .markup s => (display? standard s).isSome
  | .text _ => True
  | .panel title body => (display? standard title).isSome ∧ body.Renders
  | .table headers? _ rows =>
      ∀ cells ∈ headers?.toList ++ rows, ∀ cell ∈ cells, (display? standard cell).isSome

end

end Clearance.Printed
