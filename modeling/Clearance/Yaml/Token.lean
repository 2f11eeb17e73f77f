import Clearance.Decimal.Layout
import Clearance.Yaml.Cursor

/-!
# Tokens

The words of a configuration text: brackets and marks, the starts and ends of indented blocks,
and scalars with the names and kinds given to them.
-/

namespace Clearance.Yaml

/-- What makes a text unreadable. -/
inductive Flaw where
  | unprintable
  | misplacedEntry
  | misplacedKey
  | misplacedValue
  | missingColon
  | strayCharacter
  | directive
  | anchor
  | tag
  | blockHeader
  | unclosedQuote
  | escape
  | outOfPlace
  | undefinedHandle
  | undefinedAlias
  | repeatedAnchor
  | severalDocuments
  | unknownTag
  | wrongKind
  | unhashableKey
  | binary
  /-- An escape names no character: its number is beyond the last one. -/
  | characterTooLarge
  /-- An escape names a number that is beyond all bounds. -/
  | characterOutOfBounds
  /-- A number in a version directive has more digits than are read. -/
  | longVersion (digits : Nat)
  deriving DecidableEq, Repr

def Flaw.message : Flaw -> String
  | .unprintable => "a character cannot be printed"
  | .misplacedEntry => "a sequence entry cannot stand here"
  | .misplacedKey => "a mapping key cannot stand here"
  | .misplacedValue => "a mapping value cannot stand here"
  | .missingColon => "a key has no colon"
  | .strayCharacter => "a character can start no token"
  | .directive => "a directive is malformed"
  | .anchor => "an anchor or alias is malformed"
  | .tag => "a tag is malformed"
  | .blockHeader => "the header of a block scalar is malformed"
  | .unclosedQuote => "a quoted scalar has no end"
  | .escape => "an escape is malformed"
  | .outOfPlace => "a token cannot stand where it stands"
  | .undefinedHandle => "a tag handle is not defined"
  | .undefinedAlias => "an alias is not defined"
  | .repeatedAnchor => "an anchor is defined twice"
  | .severalDocuments => "there is more than one document"
  | .unknownTag => "a tag has no meaning"
  | .wrongKind => "a node is of another kind than its tag says"
  | .unhashableKey => "a collection cannot be a key"
  | .binary => "binary data is malformed"
  | .characterTooLarge => "chr() arg not in range(0x110000)"
  | .characterOutOfBounds => "Python int too large to convert to C int"
  | .longVersion digits => Decimal.longNumberText digits

/-- A line that tells how a document is to be read. -/
inductive Directive where
  | version (major minor : Nat)
  | handle (name expansion : String)
  | other
  deriving DecidableEq, Repr

inductive Token where
  | directive (d : Directive)
  | documentStart
  | documentEnd
  | blockSequenceStart
  | blockMappingStart
  | blockEnd
  | flowSequenceStart
  | flowSequenceEnd
  | flowMappingStart
  | flowMappingEnd
  | entry
  | comma
  | key
  | value
  | alias (name : String)
  | anchor (name : String)
  /-- A tag, either in full or as a handle and what follows it. -/
  | tag (handle? : Option String) (rest : String)
  /-- A scalar is plain if it stands without quotes, and sound if its escapes name characters. -/
  | scalar (text : String) (plain sound : Bool)
  deriving DecidableEq, Repr

/-- The characters of names: ASCII letters and digits, the hyphen and the low line. -/
def isNameChar (c : Char) : Bool :=
  c.isAlphanum || c == '-' || c == '_'

end Clearance.Yaml
