import Clearance.Yaml.Node
import Clearance.Yaml.Token.Lexer

/-!
# Reading nodes

The tokens of a text are put together to a document.  There is at most one document in a text.
-/

namespace Clearance.Yaml

/-- The tokens that are left, the tag handles, and the names of the nodes so far. -/
structure Reading where
  tokens : List Token
  /-- The flaw that ended the tokens, if one did. -/
  flaw? : Option Flaw
  handles : List (String × String) := []
  names : List String := []
  named : List (String × Node) := []

abbrev Reader (α : Type) := StateT Reading (Except Flaw) α

namespace Reader

def fail {α : Type} (flaw : Flaw) : Reader α :=
  fun _ => .error flaw

/-- The next token; none at the end of the text. -/
def peek : Reader (Option Token) := fun r =>
  match r.tokens, r.flaw? with
  | [], some flaw => .error flaw
  | [], none => .ok (none, r)
  | t :: _, _ => .ok (some t, r)

def drop : Reader Unit := fun r =>
  .ok ((), { r with tokens := r.tokens.tail })

/-- Whether the next token is one of these; the end of the text is none of them. -/
def sees (ts : List Token) : Reader Bool := do
  match <- peek with
  | some t => return ts.contains t
  | none => return false

/-- Takes the next token if it is this one. -/
def accept (t : Token) : Reader Bool := do
  if <- sees [t] then
    drop
    return true
  else return false

def expect (t : Token) : Reader Unit := do
  if !(<- accept t) then fail .outOfPlace

/-- A tag in full. -/
def fullTag (handle? : Option String) (rest : String) : Reader String := fun r =>
  match handle? with
  | none => .ok (rest, r)
  | some handle =>
      match r.handles.lookup handle with
      | some expansion => .ok (expansion ++ rest, r)
      | none => .error .undefinedHandle

/-- The name and the tag in front of a node, in either order. -/
def properties : Reader (Option String × Option String) := do
  match <- peek with
  | some (.anchor name) => do
      drop
      match <- peek with
      | some (.tag handle? rest) => do
          drop
          return (some name, some (<- fullTag handle? rest))
      | _ => return (some name, none)
  | some (.tag handle? rest) => do
      drop
      match <- peek with
      | some (.anchor name) => do
          drop
          return (some name, some (<- fullTag handle? rest))
      | _ => return (none, some (<- fullTag handle? rest))
  | _ => return (none, none)

/-- Notes the name of a node that begins. -/
def openName (name? : Option String) : Reader Unit := fun r =>
  match name? with
  | none => .ok ((), r)
  | some name =>
      if r.names.contains name then .error .repeatedAnchor
      else .ok ((), { r with names := name :: r.names })

/-- Keeps a node that has a name, and puts a reference in its place. -/
def closeName (name? : Option String) (n : Node) : Reader Node := fun r =>
  match name? with
  | none => .ok (n, r)
  | some name => .ok (.reference name, { r with named := r.named ++ [(name, n)] })

/-- The tag of a collection; the lone mark and no tag at all leave it as it is. -/
def collectionTag (tag? : Option String) (standard : Tag) : Tag :=
  match tag? with
  | none => standard
  | some "!" => standard
  | some name => Tag.ofName name

/-- A scalar with the tag it has or gets by its form. -/
def scalarOf (tag? : Option String) (text : String) (plain sound : Bool) : Node :=
  let tag :=
    match tag? with
    | none => if plain && sound then Tag.ofPlain text else .str
    | some "!" => if sound then Tag.ofPlain text else .str
    | some name => Tag.ofName name
  .scalar tag text sound

mutual

/--
A node.  Block collections are possible only outside of flow brackets, and a sequence without an
indentation of its own only as the value or key of a block mapping.
-/
def node (block bare : Bool) : Nat -> Reader Node
  | 0 => fail .outOfPlace
  | fuel + 1 => do
      match <- peek with
      | some (.alias name) => do
          drop
          if (<- get).names.contains name then return .reference name
          else fail .undefinedAlias
      | _ => do
          let (name?, tag?) <- properties
          openName name?
          let content <- match <- peek with
            | some .entry =>
                if bare then
                  (.sequence (collectionTag tag? .seq) ·) <$> bareEntries fuel
                else absent name? tag?
            | some (.scalar text plain sound) => do
                drop
                pure (scalarOf tag? text plain sound)
            | some .flowSequenceStart => do
                drop
                (.sequence (collectionTag tag? .seq) ·) <$> flowItems true fuel
            | some .flowMappingStart => do
                drop
                (.mapping (collectionTag tag? .map) ·) <$> flowPairs true fuel
            | some .blockSequenceStart =>
                if block then do
                  drop
                  (.sequence (collectionTag tag? .seq) ·) <$> entries fuel
                else absent name? tag?
            | some .blockMappingStart =>
                if block then do
                  drop
                  (.mapping (collectionTag tag? .map) ·) <$> pairs fuel
                else absent name? tag?
            | _ => absent name? tag?
          closeName name? content

/-- The node of a name or tag that nothing follows. -/
def absent (name? tag? : Option String) : Reader Node :=
  if name?.isNone && tag?.isNone then fail .outOfPlace
  else pure (scalarOf tag? "" true true)

/-- A node, unless one of these tokens comes first: then there is nothing. -/
def nodeUnless (stops : List Token) (block bare : Bool) : Nat -> Reader Node
  | 0 => fail .outOfPlace
  | fuel + 1 => do
      if <- sees stops then return .empty else node block bare fuel

/-- The entries of a block sequence. -/
def entries : Nat -> Reader (List Node)
  | 0 => fail .outOfPlace
  | fuel + 1 => do
      if <- accept .entry then
        let item <- nodeUnless [.entry, .blockEnd] true false fuel
        return item :: (<- entries fuel)
      else
        expect .blockEnd
        return []

/-- The entries of a sequence without an indentation of its own. -/
def bareEntries : Nat -> Reader (List Node)
  | 0 => fail .outOfPlace
  | fuel + 1 => do
      if <- accept .entry then
        let item <- nodeUnless [.entry, .key, .value, .blockEnd] true false fuel
        return item :: (<- bareEntries fuel)
      else return []

/-- The keys and values of a block mapping. -/
def pairs : Nat -> Reader (List (Node × Node))
  | 0 => fail .outOfPlace
  | fuel + 1 => do
      if <- accept .key then
        let k <- nodeUnless [.key, .value, .blockEnd] true true fuel
        let v <- if <- accept .value then nodeUnless [.key, .value, .blockEnd] true true fuel
          else pure .empty
        return (k, v) :: (<- pairs fuel)
      else
        expect .blockEnd
        return []

/-- The items of a flow sequence; an item may be a single key with its value. -/
def flowItems (first : Bool) : Nat -> Reader (List Node)
  | 0 => fail .outOfPlace
  | fuel + 1 => do
      if <- accept .flowSequenceEnd then return []
      else
        if !first then expect .comma
        if <- accept .flowSequenceEnd then return []
        else if <- accept .key then
          let k <- nodeUnless [.value, .comma, .flowSequenceEnd] false false fuel
          let v <- if <- accept .value then nodeUnless [.comma, .flowSequenceEnd] false false fuel
            else pure .empty
          return .mapping .map [(k, v)] :: (<- flowItems false fuel)
        else
          let item <- node false false fuel
          return item :: (<- flowItems false fuel)

/-- The keys and values of a flow mapping; a key may have no value. -/
def flowPairs (first : Bool) : Nat -> Reader (List (Node × Node))
  | 0 => fail .outOfPlace
  | fuel + 1 => do
      if <- accept .flowMappingEnd then return []
      else
        if !first then expect .comma
        if <- accept .flowMappingEnd then return []
        else if <- accept .key then
          let k <- nodeUnless [.value, .comma, .flowMappingEnd] false false fuel
          let v <- if <- accept .value then nodeUnless [.comma, .flowMappingEnd] false false fuel
            else pure .empty
          return (k, v) :: (<- flowPairs false fuel)
        else
          let k <- node false false fuel
          return (k, .empty) :: (<- flowPairs false fuel)

end

/-- Takes all tokens of a kind that come next. -/
def skipAll (t : Token) : Nat -> Reader Unit
  | 0 => pure ()
  | fuel + 1 => do
      if <- accept t then skipAll t fuel

/-- The directives in front of a document: whether the version was told, and the tag handles. -/
def directives : Nat -> Bool -> List (String × String) -> Reader (List (String × String))
  | 0, _, handles => pure handles
  | fuel + 1, told, handles => do
      match <- peek with
      | some (.directive d) => do
          drop
          match d with
          | .version major _ =>
              if told || major != 1 then fail .directive else directives fuel true handles
          | .handle name expansion =>
              if (handles.lookup name).isSome then fail .directive
              else directives fuel told ((name, expansion) :: handles)
          | .other => directives fuel told handles
      | _ => pure handles

/-- The tag handles that need no directive. -/
def standardHandles : List (String × String) :=
  [("!", "!"), ("!!", Tag.common)]

/-- Whether a document begins with directives or a mark. -/
def isMarked : Option Token -> Bool
  | none | some .documentStart | some (.directive _) => true
  | _ => false

/-- Whether a document that has begun holds nothing. -/
def isVoid : Option Token -> Bool
  | some .documentEnd => true
  | t => isMarked t

/-- The root of the document, if there is one. -/
def root? (fuel : Nat) : Reader (Option Node) := do
  if isMarked (<- peek) then
    skipAll .documentEnd fuel
    if (<- peek).isNone then return none
    let handles <- directives fuel false []
    modify fun r => { r with handles := handles ++ standardHandles }
    expect .documentStart
    if isVoid (<- peek) then return some .empty else return some (<- node true false fuel)
  else
    modify fun r => { r with handles := standardHandles }
    return some (<- node true false fuel)

/-- The document of a text, if it holds one. -/
def document? (fuel : Nat) : Reader (Option Node) := do
  let root? <- root? fuel
  skipAll .documentEnd fuel
  if (<- peek).isSome then fail .severalDocuments else return root?

end Reader

/-- The document in a text; none if it holds nothing. -/
def Graph.read (text : String) : Except Flaw (Option Graph) := do
  let (tokens, flaw?) := Token.read text
  let fuel := 4 * tokens.size + 8
  let (root?, r) <- (Reader.document? fuel).run { tokens := tokens.toList, flaw? }
  return root?.map fun root => { root, named := r.named }

end Clearance.Yaml
