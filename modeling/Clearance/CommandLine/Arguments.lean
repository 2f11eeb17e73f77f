/-!
# Arguments of a command

Words on a command line are options, their values, and arguments.  An option is spelled out after
two dashes, or has one letter after one dash; letters may be run together, and a value may follow
at once.  After a lone pair of dashes everything is an argument.
-/

namespace Clearance.CommandLine

/-- An option under its full name, with a letter if it has one. -/
structure Switch where
  name : String
  letter? : Option Char := none
  hasValue : Bool := false
  deriving Repr, Inhabited

/-- The words cannot be understood. -/
structure Usage where
  deriving DecidableEq, Repr

/-- What words come to: the options in order, each with its value, and the arguments. -/
structure Arguments where
  options : List (String × String) := []
  plain : List String := []
  deriving Repr, Inhabited

namespace Arguments

/-- The values of an option, in order. -/
def values (name : String) (a : Arguments) : List String :=
  a.options.filterMap fun (n, v) => if n = name then some v else none

/-- The value of an option; the last one counts. -/
def value? (name : String) (a : Arguments) : Option String :=
  (a.values name).getLast?

def has (name : String) (a : Arguments) : Bool :=
  !(a.values name).isEmpty

def addOption (name value : String) (a : Arguments) : Arguments :=
  { a with options := a.options ++ [(name, value)] }

def addPlain (word : String) (a : Arguments) : Arguments :=
  { a with plain := a.plain ++ [word] }

end Arguments

/-- A word that spells an option out, with the value after an equals sign. -/
def splitWord (word : String) : String × Option String :=
  let cs := word.toList
  let name := cs.takeWhile (· != '=')
  match cs.drop name.length with
  | _ :: value => (String.ofList name, some (String.ofList value))
  | [] => (word, none)

/-- Options that are run together, and the words that are left. -/
def readLetters (switches : List Switch) :
    List Char -> List String -> Arguments -> Except Usage (Arguments × List String)
  | [], rest, a => .ok (a, rest)
  | c :: letters, rest, a =>
      match switches.find? fun s => s.letter? == some c with
      | none => .error {}
      | some s =>
          if s.hasValue then
            match letters, rest with
            | [], [] => .error {}
            | [], value :: rest => .ok (a.addOption s.name value, rest)
            | letters, rest => .ok (a.addOption s.name (String.ofList letters), rest)
          else readLetters switches letters rest (a.addOption s.name "")

/-- An option at the start of the words, and the words that are left. -/
def readOption (switches : List Switch) (word : String) (rest : List String) (a : Arguments) :
    Except Usage (Arguments × List String) :=
  let (name, value?) := splitWord word
  match switches.find? fun s => s.name == name with
  | some s =>
      match s.hasValue, value?, rest with
      | true, some value, rest => .ok (a.addOption s.name value, rest)
      | true, none, value :: rest => .ok (a.addOption s.name value, rest)
      | false, none, rest => .ok (a.addOption s.name "", rest)
      | _, _, _ => .error {}
  | none =>
      match word.toList with
      | '-' :: '-' :: _ => .error {}
      | _ :: letters => readLetters switches letters rest a
      | [] => .error {}

/-- Whether a word is an option. -/
def isOption (word : String) : Bool :=
  match word.toList with
  | '-' :: _ :: _ => true
  | _ => false

/-- Reads words, as many as there are at most; options may stop at the first argument. -/
def readWords (switches : List Switch) (stops : Bool) :
    Nat -> List String -> Arguments -> Except Usage Arguments
  | 0, _, a => .ok a
  | _, [], a => .ok a
  | fuel + 1, word :: rest, a =>
      if word = "--" then .ok { a with plain := a.plain ++ rest }
      else if isOption word then
        match readOption switches word rest a with
        | .ok (a, rest) => readWords switches stops fuel rest a
        | .error e => .error e
      else if stops then .ok { a with plain := a.plain ++ word :: rest }
      else readWords switches stops fuel rest (a.addPlain word)

namespace Arguments

/-- The options and arguments among words. -/
def ofWords (switches : List Switch) (words : List String) : Except Usage Arguments :=
  readWords switches false (words.length + 1) words {}

/-- The options before a command, and the command with its own words. -/
def beforeCommand (switches : List Switch) (words : List String) : Except Usage Arguments :=
  readWords switches true (words.length + 1) words {}

end Arguments

end Clearance.CommandLine
