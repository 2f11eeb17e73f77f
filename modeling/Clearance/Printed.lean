/-!
# Printed items

What is shown on a console: lines of markup, prompts without markup, tables and panels.
-/

namespace Clearance

inductive Printed where
  /-- A line of markup. -/
  | markup (s : String)
  /-- Text that is shown as it is. -/
  | text (s : String)
  | panel (title : String) (body : Printed)
  /-- A table; the header may be hidden, and there may be lines between the rows. -/
  | table (headers? : Option (List String)) (hasLines : Bool) (rows : List (List String))
  deriving Repr, Inhabited

namespace Printed

def blank : Printed := .markup ""

/-- Text in a style. -/
def styled (style text : String) : String :=
  "[" ++ style ++ "]" ++ text ++ "[/" ++ style ++ "]"

/--
How many characters a tag has behind its opening bracket, if what follows the bracket makes one.
A tag starts with a small letter or one of three signs and ends at the first closing bracket.
-/
def tagLength? : List Char -> Option Nat
  | [] => none
  | c :: rest =>
      if ('a' ≤ c && c ≤ 'z') || c == '#' || c == '/' || c == '@' then
        let inner := rest.takeWhile fun c => c != '[' && c != ']'
        if rest[inner.length]? = some ']' then some (inner.length + 2) else none
      else none

/--
Puts a backslash before every tag, and doubles the ones that stand there.  The first argument
counts the characters that still belong to a tag; the second holds the backslashes just read.
-/
def escapeTags : Nat -> List Char -> List Char -> List Char
  | _, slashes, [] => slashes
  | left + 1, _, c :: rest => c :: escapeTags left [] rest
  | 0, slashes, '[' :: rest =>
      match tagLength? rest with
      | some length => slashes ++ slashes ++ '\\' :: '[' :: escapeTags length [] rest
      | none => slashes ++ '[' :: escapeTags 0 [] rest
  | 0, slashes, '\\' :: rest => escapeTags 0 ('\\' :: slashes) rest
  | 0, slashes, c :: rest => slashes ++ c :: escapeTags 0 [] rest

/-- Markup that shows a text as it is. -/
def escape (s : String) : String :=
  let s := String.ofList (escapeTags 0 [] s.toList)
  if s.endsWith "\\" && !s.endsWith "\\\\" then s ++ "\\" else s

end Printed

end Clearance
