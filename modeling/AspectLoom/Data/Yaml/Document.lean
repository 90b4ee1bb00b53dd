import AspectLoom.Data.Value
import AspectLoom.Data.Yaml.Token
/-!
The single document of a YAML text as data. An alias stands for what its anchor names at that
point; tags are read and dropped.
-/
namespace AspectLoom.Yaml

/-- The anchors defined so far, the latest first, and the handles that tags may use. -/
structure Names where
  anchors : List (String × Data) := []
  handles : List String := ["!", "!!", ""]

/-- What reading a part of a document leaves: its data, the names known then, the other tokens. -/
structure Parsed where
  data : Data
  names : Names
  rest : List Token

def emptyScalar : Data := .plain ""

/-- Anchor and tag in front of a node, in either order. -/
def readMarks : List Token → (Option String × Option (String × String)) × List Token
  | .anchor name :: .tag handle suffix :: rest => ((some name, some (handle, suffix)), rest)
  | .tag handle suffix :: .anchor name :: rest => ((some name, some (handle, suffix)), rest)
  | .anchor name :: rest => ((some name, none), rest)
  | .tag handle suffix :: rest => ((none, some (handle, suffix)), rest)
  | tokens => ((none, none), tokens)

def keyText? : Data → Option String
  | .text value | .plain value => some value
  | _ => none

def endsBlockValue : List Token → Bool
  | [] | .key :: _ | .value :: _ | .blockEnd :: _ => true
  | _ => false

def endsEntry : List Token → Bool
  | [] | .entry :: _ | .blockEnd :: _ => true
  | _ => false

def endsIndentlessEntry (tokens : List Token) : Bool :=
  endsEntry tokens || endsBlockValue tokens

def endsFlowKey (close : Token) : List Token → Bool
  | [] | .value :: _ | .flowEntry :: _ => true
  | token :: _ => token == close

def endsFlowValue (close : Token) : List Token → Bool
  | [] | .flowEntry :: _ => true
  | token :: _ => token == close

inductive Goal where
  /-- A node; inside a block, and as a value that may be a list without further indentation. -/
  | node (block indentless : Bool)
  | entries (items : List Data)
  | indentlessEntries (items : List Data)
  | blockPairs (pairs : List (String × Data))
  | flowItems (first : Bool) (items : List Data)
  | flowPairs (first : Bool) (pairs : List (String × Data))

def onlyIf (condition : Bool) : Option Unit := if condition then some () else none

/-- Reads a part of a document; the fuel bounds the depth and length of what is read. -/
def read : Nat → Goal → Names → List Token → Option Parsed
  | 0, _, _, _ => none
  | fuel + 1, goal, names, tokens =>
    let nodeOr (empty : Bool) (block indentless : Bool) (names : Names) (tokens : List Token) :
        Option Parsed :=
      if empty then some ⟨emptyScalar, names, tokens⟩
      else read fuel (.node block indentless) names tokens
    match goal with
    | .node block indentless =>
      match tokens with
      | .alias name :: rest => do
        let data ← names.anchors.lookup name
        return ⟨data, names, rest⟩
      | _ => do
        let ((anchor, tag), tokens) := readMarks tokens
        onlyIf (tag.all fun (handle, _) => names.handles.contains handle)
        let parsed ← match tokens with
          | .entry :: _ =>
            if indentless then read fuel (.indentlessEntries []) names tokens
            else if anchor.isSome || tag.isSome then some ⟨emptyScalar, names, tokens⟩
            else none
          | .scalar text plain :: rest =>
            some ⟨if plain then .plain text else .text text, names, rest⟩
          | .flowListStart :: rest => read fuel (.flowItems true []) names rest
          | .flowTableStart :: rest => read fuel (.flowPairs true []) names rest
          | .blockList :: rest => if block then read fuel (.entries []) names rest else none
          | .blockTable :: rest => if block then read fuel (.blockPairs []) names rest else none
          | _ =>
            if anchor.isSome || tag.isSome then some ⟨emptyScalar, names, tokens⟩ else none
        match anchor with
        | some name =>
          let anchors := (name, parsed.data) :: parsed.names.anchors
          return { parsed with names := { parsed.names with anchors := anchors } }
        | none => return parsed
    | .entries items =>
      match tokens with
      | .entry :: rest => do
        let item ← nodeOr (endsEntry rest) true false names rest
        read fuel (.entries (item.data :: items)) item.names item.rest
      | .blockEnd :: rest => some ⟨.list items.reverse, names, rest⟩
      | _ => none
    | .indentlessEntries items =>
      match tokens with
      | .entry :: rest => do
        let item ← nodeOr (endsIndentlessEntry rest) true false names rest
        read fuel (.indentlessEntries (item.data :: items)) item.names item.rest
      | _ => some ⟨.list items.reverse, names, tokens⟩
    | .blockPairs pairs =>
      match tokens with
      | .blockEnd :: rest => some ⟨.table pairs.reverse, names, rest⟩
      | .key :: rest => do
        let key ← nodeOr (endsBlockValue rest) true true names rest
        let value ← match key.rest with
          | .value :: rest => nodeOr (endsBlockValue rest) true true key.names rest
          | rest => some ⟨emptyScalar, key.names, rest⟩
        read fuel (.blockPairs ((← keyText? key.data, value.data) :: pairs)) value.names value.rest
      | _ => none
    | .flowItems first items =>
      match tokens with
      | .flowListEnd :: rest => some ⟨.list items.reverse, names, rest⟩
      | _ => do
        let tokens ← match first, tokens with
          | true, _ => some tokens
          | false, .flowEntry :: rest => some rest
          | false, _ => none
        match tokens with
        | .flowListEnd :: rest => return ⟨.list items.reverse, names, rest⟩
        | .key :: rest =>
          let key ← nodeOr (endsFlowKey .flowListEnd rest) false false names rest
          let value ← match key.rest with
            | .value :: rest => nodeOr (endsFlowValue .flowListEnd rest) false false key.names rest
            | rest => some ⟨emptyScalar, key.names, rest⟩
          let pair := Data.table [(← keyText? key.data, value.data)]
          read fuel (.flowItems false (pair :: items)) value.names value.rest
        | _ =>
          let item ← read fuel (.node false false) names tokens
          read fuel (.flowItems false (item.data :: items)) item.names item.rest
    | .flowPairs first pairs =>
      match tokens with
      | .flowTableEnd :: rest => some ⟨.table pairs.reverse, names, rest⟩
      | _ => do
        let tokens ← match first, tokens with
          | true, _ => some tokens
          | false, .flowEntry :: rest => some rest
          | false, _ => none
        match tokens with
        | .flowTableEnd :: rest => return ⟨.table pairs.reverse, names, rest⟩
        | .key :: rest =>
          let key ← nodeOr (endsFlowKey .flowTableEnd rest) false false names rest
          let value ← match key.rest with
            | .value :: rest =>
              nodeOr (endsFlowValue .flowTableEnd rest) false false key.names rest
            | rest => some ⟨emptyScalar, key.names, rest⟩
          read fuel (.flowPairs false ((← keyText? key.data, value.data) :: pairs)) value.names
            value.rest
        | _ =>
          let key ← read fuel (.node false false) names tokens
          read fuel (.flowPairs false ((← keyText? key.data, emptyScalar) :: pairs)) key.names
            key.rest

/-- The directives of a document: one version at most, and no handle twice. -/
def readDirectives (version : Bool) (handles : List String) :
    List Token → Option ((Bool × List String) × List Token)
  | .versionDirective major minor :: rest =>
    if version || major != 1 || (minor != 1 && minor != 2) then none
    else readDirectives true handles rest
  | .tagDirective handle :: rest =>
    if handles.contains handle then none else readDirectives version (handle :: handles) rest
  | tokens => some ((version, handles), tokens)

def dropDocumentEnds (tokens : List Token) : List Token :=
  tokens.dropWhile (· == .documentEnd)

/-- The data of the only document; a text without a document holds nothing. -/
def parse (text : String) : Option Data := do
  let tokens ← tokenize text
  let tokens := dropDocumentEnds tokens
  if tokens.isEmpty then return emptyScalar
  let ((version, handles), tokens) ← readDirectives false [] tokens
  let explicit := tokens.head? == some .documentStart
  if (version || !handles.isEmpty) && !explicit then none
  let tokens := if explicit then tokens.drop 1 else tokens
  let names : Names := { handles := handles ++ ["!", "!!", ""] }
  let parsed ← match tokens with
    | [] | .documentEnd :: _ | .documentStart :: _ | .versionDirective .. :: _
    | .tagDirective .. :: _ => some ⟨emptyScalar, names, tokens⟩
    | _ => read (2 * tokens.length + 2) (.node true false) names tokens
  if (dropDocumentEnds parsed.rest).isEmpty then return parsed.data else none

end AspectLoom.Yaml
