import ApiGateway.Yaml.Node

/-!
# Composing a document from tokens

The grammar of nodes over tokens. A stream holds at most one document.

An anchor gets as its number how many names were anchored before it. A name that is
anchored again therefore takes a number that the next new name takes as well, and a
number stands for the node that was anchored with it last.
-/

namespace ApiGateway.Yaml

/-- What composing reads and keeps. -/
structure Composer where
  tokens : List Token
  handles : List (String × String) := defaultHandles
  /-- The number of each anchored name. -/
  names : List (String × Nat) := []
  /-- For each anchor number, which of the anchored nodes it stands for. -/
  targets : List (Nat × Nat) := []
  /-- How many anchored nodes have been begun. -/
  begun : Nat := 0
  /-- The finished anchored nodes, each with its place among those begun. -/
  anchored : List (Nat × Node) := []
  size : Nat := 0

abbrev Compose := StateT Composer Option

namespace Compose

def peek : Compose (Option Token) :=
  return (← get).tokens.head?

def skip : Compose Unit :=
  modify fun state => { state with tokens := state.tokens.drop 1 }

/-- Take a token that has to come next. -/
def expect (token : Token) : Compose Unit := do
  if (← peek) = some token then skip else failure

/-- Whether one of the given tokens, or the end of the stream, comes next. -/
def comes (tokens : List Token) : Compose Bool := do
  match ← peek with
  | some token => return tokens.contains token
  | none => return false

def grow (units : Nat) : Compose Unit :=
  modify fun state => { state with size := state.size + units }

/-- The node where nothing is written. -/
def nothing : Compose Node := do
  grow 1
  return .empty

/-- The full tag for a handle and a suffix. -/
def expandTag (handle suffix : String) : Compose String := do
  if handle.isEmpty then return suffix
  else match (← get).handles.lookup handle with
    | some expansion => return expansion ++ suffix
    | none => failure

/-- An anchor and a tag, in either order. -/
def properties : Compose (Option String × Option (String × String)) := do
  match ← peek with
  | some (.anchor name) =>
    skip
    match ← peek with
    | some (.tag handle suffix) =>
      skip
      return (some name, some (handle, suffix))
    | _ => return (some name, none)
  | some (.tag handle suffix) =>
    skip
    match ← peek with
    | some (.anchor name) =>
      skip
      return (some name, some (handle, suffix))
    | _ => return (none, some (handle, suffix))
  | _ => return (none, none)

/-- Set the value of a key. -/
def assign {α : Type} [BEq α] (key : α) (value : Nat) (pairs : List (α × Nat)) :
    List (α × Nat) :=
  (key, value) :: pairs.filter fun pair => pair.1 != key

/-- Begin a node under an anchor name. -/
def beginAnchored (name : String) : Compose Nat := do
  let state ← get
  let number := state.names.length
  set { state with
    names := assign name number state.names
    targets := assign number state.begun state.targets
    begun := state.begun + 1 }
  return state.begun

/-- Compose a node, and keep it if it is anchored. -/
def keep (anchor : Option String) (compose : Compose Node) : Compose Node := do
  match anchor with
  | none => compose
  | some name => do
    let place ← beginAnchored name
    let node ← compose
    modify fun state => { state with anchored := (place, node) :: state.anchored }
    return node

/-- The tag `!` asks for the tag that the scalar has anyway. -/
def scalarTag (tag : Option String) : Option String :=
  if tag = some "!" then none else tag

mutual

/-- A node. `inBlock` admits collections written by indentation, `withoutIndent` also a
sequence whose items stand at the column of their mapping. -/
def node (inBlock withoutIndent : Bool) : Nat → Compose Node
  | 0 => failure
  | depth + 1 => do
    match ← peek with
    | some (.alias name) =>
      skip
      grow 1
      match (← get).names.lookup name with
      | some number => return .alias number
      | none => failure
    | _ =>
      let (anchor, written) ← properties
      let tag ← written.mapM fun (handle, suffix) => expandTag handle suffix
      keep anchor do
        match ← peek with
        | some (.scalar style text) =>
          skip
          grow 1
          return .scalar style (scalarTag tag) text
        | some .flowSequenceStart =>
          skip
          grow 2
          return .sequence (← flowItems true depth)
        | some .flowMappingStart =>
          skip
          grow 2
          return .mapping (← flowEntries true depth)
        | next =>
          if withoutIndent && next = some .blockEntry then
            grow 2
            return .sequence (← alignedItems depth)
          else if inBlock && next = some .blockSequenceStart then
            skip
            grow 2
            return .sequence (← blockItems depth)
          else if inBlock && next = some .blockMappingStart then
            skip
            grow 2
            return .mapping (← blockEntries depth)
          else if anchor.isSome || tag.isSome then
            grow 1
            return .scalar .plain tag ""
          else failure

/-- The items of an indented sequence. -/
def blockItems : Nat → Compose (List Node)
  | 0 => failure
  | depth + 1 => do
    match ← peek with
    | some .blockEntry =>
      skip
      let item ← if ← comes [.blockEntry, .blockEnd] then nothing else node true false depth
      return item :: (← blockItems depth)
    | some .blockEnd =>
      skip
      return []
    | _ => failure

/-- The items of a sequence that stand at the column of their mapping. -/
def alignedItems : Nat → Compose (List Node)
  | 0 => failure
  | depth + 1 => do
    match ← peek with
    | some .blockEntry =>
      skip
      let item ←
        if ← comes [.blockEntry, .key, .value, .blockEnd] then nothing
        else node true false depth
      return item :: (← alignedItems depth)
    | _ => return []

/-- The entries of an indented mapping. -/
def blockEntries : Nat → Compose (List (Node × Node))
  | 0 => failure
  | depth + 1 => do
    match ← peek with
    | some .key =>
      skip
      let key ← if ← comes [.key, .value, .blockEnd] then nothing else node true true depth
      let value ←
        if ← comes [.value] then do
          skip
          if ← comes [.key, .value, .blockEnd] then nothing else node true true depth
        else nothing
      return (key, value) :: (← blockEntries depth)
    | some .blockEnd =>
      skip
      return []
    | _ => failure

/-- The items of a sequence in brackets. An item may be a mapping of one entry. -/
def flowItems (first : Bool) : Nat → Compose (List Node)
  | 0 => failure
  | depth + 1 => do
    if ← comes [.flowSequenceEnd] then
      skip
      return []
    else
      if !first then expect .flowEntry
      match ← peek with
      | some .flowSequenceEnd =>
        skip
        return []
      | some .key =>
        skip
        grow 2
        let key ←
          if ← comes [.value, .flowEntry, .flowSequenceEnd] then do
            skip
            nothing
          else node false false depth
        let value ←
          if ← comes [.value] then do
            skip
            if ← comes [.flowEntry, .flowSequenceEnd] then nothing else node false false depth
          else nothing
        return .mapping [(key, value)] :: (← flowItems false depth)
      | _ =>
        let item ← node false false depth
        return item :: (← flowItems false depth)

/-- The entries of a mapping in braces. An entry may be a key alone. -/
def flowEntries (first : Bool) : Nat → Compose (List (Node × Node))
  | 0 => failure
  | depth + 1 => do
    if ← comes [.flowMappingEnd] then
      skip
      return []
    else
      if !first then expect .flowEntry
      match ← peek with
      | some .flowMappingEnd =>
        skip
        return []
      | some .key =>
        skip
        let key ←
          if ← comes [.value, .flowEntry, .flowMappingEnd] then nothing
          else node false false depth
        let value ←
          if ← comes [.value] then do
            skip
            if ← comes [.flowEntry, .flowMappingEnd] then nothing else node false false depth
          else nothing
        return (key, value) :: (← flowEntries false depth)
      | _ =>
        let key ← node false false depth
        let value ← nothing
        return (key, value) :: (← flowEntries false depth)

end

/-- A version that can be read. -/
def isKnownVersion (major minor : Nat) : Bool :=
  major = 1 && (minor = 1 || minor = 2)

/-- The directives before a document: one version at most, and each handle at most once. -/
def directives (versionSeen : Bool) (handles : List (String × String)) :
    List Token → Option (List (String × String) × List Token)
  | .version major minor :: rest =>
    if versionSeen || !isKnownVersion major minor then none else directives true handles rest
  | .handle name expansion :: rest =>
    if (handles.lookup name).isSome then none
    else directives versionSeen ((name, expansion) :: handles) rest
  | tokens => some (handles ++ defaultHandles, tokens)

/-- The root of the one document of a stream. -/
def root : Compose Node := do
  let state ← get
  let depth := 3 * state.tokens.length + 3
  match state.tokens with
  | [] => nothing
  | .version .. :: _ | .handle .. :: _ | .documentStart :: _ =>
    match directives false [] state.tokens with
    | some (handles, .documentStart :: rest) =>
      set { state with handles, tokens := rest }
      match rest with
      | [] | .version .. :: _ | .handle .. :: _ | .documentStart :: _ | .documentEnd :: _ =>
        nothing
      | _ => node true false depth
    | _ => failure
  | _ => node true false depth

/-- The root, after which nothing but ends of documents may come. -/
def stream : Compose Node := do
  let node ← root
  if (← get).tokens.all (· = .documentEnd) then return node else failure

end Compose

namespace Document

/-- The document that tokens write. -/
def ofTokens? (tokens : List Token) : Option Document := do
  let (root, state) ← Compose.stream.run { tokens }
  let anchored := state.targets.filterMap fun (number, place) =>
    (state.anchored.lookup place).map (number, ·)
  return { root, anchored, size := state.size }

end Document

end ApiGateway.Yaml
