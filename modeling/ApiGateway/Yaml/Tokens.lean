import ApiGateway.Yaml.Property
import ApiGateway.Yaml.Scalar.Block
import ApiGateway.Yaml.Scalar.Plain
import ApiGateway.Yaml.Scalar.Quoted

/-!
# Tokens of a source

A key of a mapping is recognised only at the colon behind it. Until then the token that
may begin it is remembered as a candidate, one for each open bracket and one outside
them; a colon turns the candidate into a key by inserting tokens before it.
-/

namespace ApiGateway.Yaml

/-- A token that a colon on the same line would turn into a key. -/
structure Candidate where
  /-- The number of tokens before it. -/
  position : Nat
  start : Spot
  /-- It stands where the surrounding mapping needs a key. -/
  required : Bool
deriving Inhabited

/-- The tokens read so far with what decides how to read on. -/
structure Tokenizer where
  tokens : Array Token := #[]
  /-- The columns of the open block collections, the innermost first. -/
  indents : List Nat := []
  /-- A key may begin here. -/
  keyAllowed : Bool := true
  candidate : Option Candidate := none
  /-- The candidates outside each open bracket, the innermost first. -/
  outer : List (Option Candidate) := []
deriving Inhabited

/-- The longest distance between the beginning of a key and its colon. -/
def maxKeyLength : Nat := 1024

namespace Tokenizer

def inFlow (state : Tokenizer) : Bool :=
  !state.outer.isEmpty

/-- The least column of text inside the innermost block collection. -/
def contentColumn (state : Tokenizer) : Nat :=
  match state.indents with
  | [] => 0
  | column :: _ => column + 1

def push (token : Token) (state : Tokenizer) : Tokenizer :=
  { state with tokens := state.tokens.push token }

def insert (position : Nat) (token : Token) (state : Tokenizer) : Tokenizer :=
  { state with tokens := state.tokens.insertIdxIfInBounds position token }

/-- Close the block collections that stand to the right of a column, given the columns of
those that are open. -/
def closeBlocks (tokens : Array Token) (column : Nat) : List Nat → Array Token × List Nat
  | [] => (tokens, [])
  | innermost :: others =>
    if column < innermost then closeBlocks (tokens.push .blockEnd) column others
    else (tokens, innermost :: others)

/-- Outside brackets, a token closes the block collections to the right of it. -/
def closeRightOf (column : Nat) (state : Tokenizer) : Tokenizer :=
  if state.inFlow then state
  else
    let (tokens, indents) := closeBlocks state.tokens column state.indents
    { state with tokens, indents }

/-- Close all block collections. -/
def closeAll (state : Tokenizer) : Tokenizer :=
  if state.inFlow then state
  else
    { state with
      tokens := state.indents.foldl (fun tokens _ => tokens.push .blockEnd) state.tokens
      indents := [] }

/-- Open a block collection at a column, unless one is open there or further right. Its
start token is inserted at a position. -/
def openAt (column position : Nat) (token : Token) (state : Tokenizer) : Tokenizer :=
  if state.inFlow || state.contentColumn > column then state
  else { state.insert position token with indents := column :: state.indents }

/-- Give up the candidate; one that the mapping needs cannot be given up. -/
def dropCandidate? (state : Tokenizer) : Option Tokenizer :=
  match state.candidate with
  | some candidate => if candidate.required then none else some { state with candidate := none }
  | none => some state

/-- Remember the token that begins at a spot as a candidate, where a key is allowed. -/
def considerKey? (start : Spot) (state : Tokenizer) : Option Tokenizer :=
  if state.keyAllowed then do
    let state ← state.dropCandidate?
    let required := !state.inFlow && state.indents.head? = some start.column
    return { state with candidate := some ⟨state.tokens.size, start, required⟩ }
  else some state

/-- A candidate lasts to the end of its line and for `maxKeyLength` characters. -/
def refresh? (spot : Spot) : Option Candidate → Option (Option Candidate)
  | none => some none
  | some candidate =>
    if candidate.start.line < spot.line ||
        candidate.start.index + maxKeyLength < spot.index then
      if candidate.required then none else some none
    else some (some candidate)

/-- Give up the candidates that have become too old. -/
def refreshAll? (spot : Spot) (state : Tokenizer) : Option Tokenizer := do
  let candidate ← refresh? spot state.candidate
  let outer ← state.outer.mapM (refresh? spot)
  return { state with candidate, outer }

/-- Drop white space and comments. A new line outside brackets allows a key again; tabs are
white space only where no key is allowed. -/
def skip (inFlow inComment keyAllowed : Bool) : List Spot → Bool × List Spot
  | [] => (keyAllowed, [])
  | spot :: rest =>
    if spot.isBreak then skip inFlow false (keyAllowed || !inFlow) rest
    else if inComment then skip inFlow true keyAllowed rest
    else if spot.char = '#' then skip inFlow true keyAllowed rest
    else if spot.char = ' ' || (spot.char = '\t' && (inFlow || !keyAllowed)) ||
        (spot.char = byteOrderMark && spot.column = 0) then
      skip inFlow false keyAllowed rest
    else (keyAllowed, spot :: rest)

/-- A token that stands at the left margin and closes all blocks. -/
def margin? (token : Token) (state : Tokenizer) : Option Tokenizer := do
  let state ← state.closeAll.dropCandidate?
  return { state with keyAllowed := false }.push token

def openBracket? (start : Spot) (token : Token) (state : Tokenizer) : Option Tokenizer := do
  let state ← state.considerKey? start
  return { state with
    candidate := none, outer := state.candidate :: state.outer, keyAllowed := true }.push token

def closeBracket? (token : Token) (state : Tokenizer) : Option Tokenizer := do
  let state ← state.dropCandidate?
  let state := match state.outer with
    | candidate :: outer => { state with candidate, outer }
    | [] => state
  return { state with keyAllowed := false }.push token

/-- A comma. -/
def entryAt? (state : Tokenizer) : Option Tokenizer := do
  let state ← state.dropCandidate?
  return { state with keyAllowed := true }.push .flowEntry

/-- An indicator that begins an item or an explicit key of a block collection, opening the
collection where needed. -/
def blockIndicator? (start : Spot) (opening token : Token) (keyAllowedAfter : Bool)
    (state : Tokenizer) : Option Tokenizer :=
  if !state.inFlow && !state.keyAllowed then none
  else do
    let state ← (state.openAt start.column state.tokens.size opening).dropCandidate?
    return { state with keyAllowed := keyAllowedAfter }.push token

/-- The colon: it turns the candidate into a key, or follows an explicit key. -/
def value? (start : Spot) (state : Tokenizer) : Option Tokenizer :=
  match state.candidate with
  | some candidate =>
    let keyed := (state.insert candidate.position .key).openAt candidate.start.column
      candidate.position .blockMappingStart
    some ({ keyed with candidate := none, keyAllowed := false }.push .value)
  | none =>
    if !state.inFlow && !state.keyAllowed then none
    else
      let opened := state.openAt start.column state.tokens.size .blockMappingStart
      some ({ opened with keyAllowed := !state.inFlow }.push .value)

/-- A token that may begin a key and allows none directly after it. -/
def node? (start : Spot) (read : Option (Token × List Spot)) (state : Tokenizer) :
    Option (Tokenizer × List Spot) := do
  let state ← state.considerKey? start
  let (token, rest) ← read
  return ({ state with keyAllowed := false }.push token, rest)

/-- A plain scalar; a key is allowed after it only on a new line. -/
def plain? (start : Spot) (source : List Spot) (state : Tokenizer) :
    Option (Tokenizer × List Spot) := do
  let state ← state.considerKey? start
  let scalar ← readPlain? state.inFlow state.contentColumn source
  return ({ state with keyAllowed := scalar.endsLine }.push (.scalar .plain scalar.text),
    scalar.rest)

/-- A block scalar; it is no key. -/
def block? (folded : Bool) (source : List Spot) (state : Tokenizer) :
    Option (Tokenizer × List Spot) := do
  let state ← state.dropCandidate?
  let (text, rest) ← readBlock? folded state.contentColumn source
  return ({ state with keyAllowed := true }.push
    (.scalar (if folded then .folded else .literal) text), rest)

/-- A plain scalar may begin with a character that is no indicator, and with `-`, `?` or `:`
before a character that is no white space. -/
def beginsPlain (inFlow : Bool) (c : Char) (rest : List Spot) : Bool :=
  !"-?:,[]\x7b\x7d#&*!|>'\"%@\x60\t".toList.contains c ||
    (c = '-' && match rest with | next :: _ => !next.isBlank | [] => true) ||
    (!inFlow && (c = '?' || c = ':') && !endsWord rest)

/-- Read the token that begins at a spot. -/
def token? (spot : Spot) (rest : List Spot) (state : Tokenizer) :
    Option (Tokenizer × List Spot) :=
  let here (result : Option Tokenizer) := result.map (·, rest)
  match documentMark? (spot :: rest) with
  | some (mark, after) =>
    (state.margin? (if mark = '-' then .documentStart else .documentEnd)).map (·, after)
  | none =>
    if spot.column = 0 && spot.char = '%' then do
      let (token, after) ← directive? rest
      let state ← state.margin? token
      return (state, after)
    else match spot.char with
      | '[' => here (state.openBracket? spot .flowSequenceStart)
      | '\x7b' => here (state.openBracket? spot .flowMappingStart)
      | ']' => here (state.closeBracket? .flowSequenceEnd)
      | '\x7d' => here (state.closeBracket? .flowMappingEnd)
      | ',' => here state.entryAt?
      | '*' => state.node? spot ((anchorName? rest).map fun (name, after) => (.alias name, after))
      | '&' => state.node? spot ((anchorName? rest).map fun (name, after) => (.anchor name, after))
      | '!' => state.node? spot (tag? state.inFlow (spot :: rest))
      | '\'' => state.node? spot
          ((readQuoted? false rest).map fun (text, after) => (.scalar .quoted text, after))
      | '"' => state.node? spot
          ((readQuoted? true rest).map fun (text, after) => (.scalar .quoted text, after))
      | c =>
        if c = '-' && endsWord rest then
          here (state.blockIndicator? spot .blockSequenceStart .blockEntry true)
        else if c = '?' && (state.inFlow || endsWord rest) then
          here (state.blockIndicator? spot .blockMappingStart .key (!state.inFlow))
        else if c = ':' && (state.inFlow || endsWord rest) then here (state.value? spot)
        else if (c = '|' || c = '>') && !state.inFlow then state.block? (c = '>') rest
        else if beginsPlain state.inFlow c rest then state.plain? spot (spot :: rest)
        else none

/-- Read all tokens of a source. Each token takes at least one spot, so a number of rounds
above the number of spots is enough. -/
def run? : Nat → Tokenizer → List Spot → Option Tokenizer
  | 0, _, _ => none
  | rounds + 1, state, source =>
    let (keyAllowed, source) := skip state.inFlow false state.keyAllowed source
    let state := { state with keyAllowed }
    match source with
    | [] => state.closeAll.dropCandidate?
    | spot :: rest => do
      let state ← state.refreshAll? spot
      let (state, rest) ← (state.closeRightOf spot.column).token? spot rest
      run? rounds state rest

end Tokenizer

/-- The tokens of a source. -/
def tokens? (source : List Spot) : Option (List Token) :=
  (Tokenizer.run? (source.length + 1) {} source).map fun state => state.tokens.toList

end ApiGateway.Yaml
