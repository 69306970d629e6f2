/-
  SqlPipeline/Yaml/Node.lean
  ==========================
  **The tree of a YAML document.**

  Every node has a tag, given in the text or chosen by its form.  An alias stands for
  the node with its anchor, which has to come before it.
-/
import SqlPipeline.Yaml.Scan
import SqlPipeline.Yaml.Kind
import SqlPipeline.Data

namespace SqlPipeline.Yaml

inductive Node where
  | scalar (tag text : String)
  | list (tag : String) (items : List Node)
  | map (tag : String) (entries : List (Node × Node))
  | endless                                  -- an alias of a node around it
deriving Repr, Inhabited

namespace Node

def commonShorthands : Entries String :=
  [("!", "!"), ("!!", coreTag "")]

/-- What is known between two tokens. -/
structure Reader where
  tokens : List Token
  shorthands : Entries String := commonShorthands
  anchors : List (String × Option Node) := []      -- the latest first; nodes around have none yet

abbrev Read := StateT Reader (Except Fault)

def peek : Read (Option Token) := do
  match (← get).tokens with
  | .bad fault :: _ => throw fault
  | t :: _ => return some t
  | [] => return none

def drop : Read Unit :=
  modify fun r => { r with tokens := r.tokens.drop 1 }

/-- Whether the next token passes a test; the end of the text never does. -/
def nextIs (test : Token → Bool) : Read Bool :=
  return ((← peek).map test).getD false

def expect (test : Token → Bool) : Read Unit := do
  if ← nextIs test then drop else throw .malformed

/-! ### Kinds of tokens -/

def isItem : Token → Bool
  | .item => true
  | _ => false

def isKey : Token → Bool
  | .key => true
  | _ => false

def isValue : Token → Bool
  | .value => true
  | _ => false

def isBlockEnd : Token → Bool
  | .blockEnd => true
  | _ => false

def isComma : Token → Bool
  | .comma => true
  | _ => false

def isCloseList : Token → Bool
  | .closeList => true
  | _ => false

def isCloseMap : Token → Bool
  | .closeMap => true
  | _ => false

def isDocumentStart : Token → Bool
  | .documentStart => true
  | _ => false

def isDocumentEnd : Token → Bool
  | .documentEnd => true
  | _ => false

def isDirective : Token → Bool
  | .version _ | .shorthand _ _ | .otherDirective => true
  | _ => false

/-! ### Properties of a node -/

def fullTag (handle : Option String) (suffix : String) : Read String := do
  match handle with
  | none => return suffix
  | some handle =>
      match (← get).shorthands.find? handle with
      | some stem => return stem ++ suffix
      | none => throw .malformed

def takeAnchor : Read (Option String) := do
  match ← peek with
  | some (.anchor name) =>
      drop
      return some name
  | _ => return none

def takeTag : Read (Option String) := do
  match ← peek with
  | some (.tag handle suffix) =>
      drop
      return some (← fullTag handle suffix)
  | _ => return none

def properties : Read (Option String × Option String) := do
  match ← takeAnchor with
  | some name => return (some name, ← takeTag)
  | none =>
      let tag ← takeTag
      return (← takeAnchor, tag)

def collectionTag (tag : Option String) (kind : String) : String :=
  match tag with
  | none | some "!" => coreTag kind
  | some tag => tag

/-- The tag of a scalar; a lone exclamation mark has it chosen by form even between quotes. -/
def scalarTag (tag : Option String) (isPlain : Bool) (text : String) : String :=
  match tag with
  | some "!" => plainTag text
  | some tag => tag
  | none => if isPlain then plainTag text else coreTag "str"

def empty : Node :=
  .scalar (coreTag "null") ""

def aliased (name : String) : Read Node := do
  match (← get).anchors.lookup name with
  | some (some node) => return node
  | some none => return .endless
  | none => throw .malformed

/-- Takes a name for a node that is about to be read; it must be new. -/
def openAnchor : Option String → Read Unit
  | none => pure ()
  | some name => do
      let r ← get
      if (r.anchors.lookup name).isSome then throw .malformed
      set { r with anchors := (name, none) :: r.anchors }

def closeAnchor (anchor : Option String) (node : Node) : Read Node := do
  match anchor with
  | none => pure ()
  | some name => modify fun r => { r with anchors := (name, some node) :: r.anchors }
  return node

/-! ### Nodes -/

inductive Position where
  | inBrackets
  | inBlock
  | inEntry                    -- of a block's map, where the items of a list need no indentation
deriving Repr, DecidableEq

mutual

/-- A node; `fuel` bounds the number of steps. -/
def read (position : Position) : (fuel : Nat) → Read Node
  | 0 => throw .malformed
  | fuel + 1 => do
      match ← peek with
      | some (.alias name) =>
          drop
          aliased name
      | _ =>
          let (anchor, tag) ← properties
          openAnchor anchor
          let node ← content position tag anchor.isSome fuel
          closeAnchor anchor node

def content (position : Position) (tag : Option String) (hasAnchor : Bool) : (fuel : Nat) → Read Node
  | 0 => throw .malformed
  | fuel + 1 => do
      match ← peek, position with
      | some .item, .inEntry => return .list (collectionTag tag "seq") (← looseItems fuel)
      | some (.scalar isPlain text), _ =>
          drop
          return .scalar (scalarTag tag isPlain text) text
      | some .openList, _ =>
          drop
          return .list (collectionTag tag "seq") (← flowItems true fuel)
      | some .openMap, _ =>
          drop
          return .map (collectionTag tag "map") (← flowEntries true fuel)
      | some .listStart, .inBlock | some .listStart, .inEntry =>
          drop
          return .list (collectionTag tag "seq") (← blockItems fuel)
      | some .mapStart, .inBlock | some .mapStart, .inEntry =>
          drop
          return .map (collectionTag tag "map") (← blockEntries fuel)
      | _, _ =>
          if tag.isSome || hasAnchor then return .scalar (scalarTag tag true "") ""
          else throw .malformed

/-- A node, or an empty one where a token comes that ends it. -/
def readUnless (position : Position) (ends : Token → Bool) : (fuel : Nat) → Read Node
  | 0 => throw .malformed
  | fuel + 1 => do
      if ← nextIs ends then return empty else read position fuel

def blockItems : (fuel : Nat) → Read (List Node)
  | 0 => throw .malformed
  | fuel + 1 => do
      if ← nextIs isItem then
        drop
        let item ← readUnless .inBlock (fun t => isItem t || isBlockEnd t) fuel
        return item :: (← blockItems fuel)
      else
        expect isBlockEnd
        return []

/-- The items of a list that is not indented within its map. -/
def looseItems : (fuel : Nat) → Read (List Node)
  | 0 => throw .malformed
  | fuel + 1 => do
      if ← nextIs isItem then
        drop
        let item ← readUnless .inBlock
          (fun t => isItem t || isKey t || isValue t || isBlockEnd t) fuel
        return item :: (← looseItems fuel)
      else return []

def blockEntries : (fuel : Nat) → Read (List (Node × Node))
  | 0 => throw .malformed
  | fuel + 1 => do
      if ← nextIs isKey then
        drop
        let ends (t : Token) := isKey t || isValue t || isBlockEnd t
        let key ← readUnless .inEntry ends fuel
        let value ← if ← nextIs isValue then do
            drop
            readUnless .inEntry ends fuel
          else pure empty
        return (key, value) :: (← blockEntries fuel)
      else
        expect isBlockEnd
        return []

def flowValue (close : Token → Bool) : (fuel : Nat) → Read Node
  | 0 => throw .malformed
  | fuel + 1 => do
      if ← nextIs isValue then
        drop
        readUnless .inBrackets (fun t => isComma t || close t) fuel
      else return empty

/-- The items between square brackets; an entry of a map may stand alone as an item. -/
def flowItems (first : Bool) : (fuel : Nat) → Read (List Node)
  | 0 => throw .malformed
  | fuel + 1 => do
      if ← nextIs isCloseList then
        drop
        return []
      unless first do expect isComma
      if ← nextIs isCloseList then
        drop
        return []
      let item ← if ← nextIs isKey then do
          drop
          let key ← readUnless .inBrackets
            (fun t => isValue t || isComma t || isCloseList t) fuel
          let value ← flowValue isCloseList fuel
          pure (.map (coreTag "map") [(key, value)])
        else read .inBrackets fuel
      return item :: (← flowItems false fuel)

/-- The entries between curly brackets; a key may stand without a value. -/
def flowEntries (first : Bool) : (fuel : Nat) → Read (List (Node × Node))
  | 0 => throw .malformed
  | fuel + 1 => do
      if ← nextIs isCloseMap then
        drop
        return []
      unless first do expect isComma
      if ← nextIs isCloseMap then
        drop
        return []
      let entry ← if ← nextIs isKey then do
          drop
          let key ← readUnless .inBrackets
            (fun t => isValue t || isComma t || isCloseMap t) fuel
          pure (key, ← flowValue isCloseMap fuel)
        else do
          pure (← read .inBrackets fuel, empty)
      return entry :: (← flowEntries false fuel)

end

/-! ### Documents -/

/-- Directives before a document; `fuel` bounds their number. -/
def directives (hasVersion : Bool) (own : Entries String) : (fuel : Nat) → Read Unit
  | 0 => throw .malformed
  | fuel + 1 => do
      match ← peek with
      | some (.version major) =>
          if hasVersion || major != 1 then throw .malformed
          drop
          directives true own fuel
      | some (.shorthand handle stem) =>
          if (own.find? handle).isSome then throw .malformed
          drop
          directives hasVersion (own.insert handle stem) fuel
      | some .otherDirective =>
          drop
          directives hasVersion own fuel
      | _ => modify fun r => { r with shorthands := Entries.overlay commonShorthands own }

def dropEndMarks : (fuel : Nat) → Read Unit
  | 0 => pure ()
  | fuel + 1 => do
      if ← nextIs isDocumentEnd then
        drop
        dropEndMarks fuel

/-- The only document of a text; an empty text has none. -/
def document (fuel : Nat) : Read (Option Node) := do
  match ← peek with
  | none => return none
  | some first =>
      let node ←
        if isDirective first || isDocumentStart first then do
          directives false [] fuel
          expect isDocumentStart
          match ← peek with
          | none => pure empty
          | some t =>
              if isDirective t || isDocumentStart t || isDocumentEnd t then pure empty
              else read .inBlock fuel
        else read .inBlock fuel
      dropEndMarks fuel
      if (← peek).isSome then throw .malformed
      return some node

def ofText (text : String) : Except Fault (Option Node) :=
  let tokens := Token.ofText text.toList
  (document (4 * tokens.length + 4) { tokens := tokens }).map (·.1)

end Node

end SqlPipeline.Yaml
