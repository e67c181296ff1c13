import EndpointScaffold.Yaml.Implicit
import EndpointScaffold.Yaml.TokenStream

/-!
# Documents

The node of a document is read from the tokens of a stream by descent: it is a scalar, or a
collection in blocks or between brackets, after an optional anchor and tag. A text holds one document
at most.

A node is a scalar, a sequence or a mapping with its tag and the place where it starts. An alias is
replaced by the node that it stands for, unless it stands inside that node.

* `Node` nodes with their tags and places;
* `readNode` one node, with `readItems`, `readEntries` and so on for the parts of
  collections;
* `readDocument` the document of a text, if there is one.
-/

namespace EndpointScaffold.Yaml

open Text

/-! ### Nodes -/

inductive Node where
  | scalar (tag : String) (text : String) (mark : Mark)
  | sequence (tag : String) (items : List Node) (mark : Mark)
  | mapping (tag : String) (entries : List (Node × Node)) (mark : Mark)
  /-- the collection around this place that starts at `mark` -/
  | again (isMapping : Bool) (mark : Mark)

namespace Node

def tag : Node → String
  | .scalar tag _ _ => tag
  | .sequence tag _ _ => tag
  | .mapping tag _ _ => tag
  | .again isMapping _ => coreTag (if isMapping then "map" else "seq")

def mark : Node → Mark
  | .scalar _ _ mark => mark
  | .sequence _ _ mark => mark
  | .mapping _ _ mark => mark
  | .again _ mark => mark

def kindName : Node → String
  | .scalar _ _ _ => "scalar"
  | .sequence _ _ _ => "sequence"
  | .mapping _ _ _ => "mapping"
  | .again isMapping _ => if isMapping then "mapping" else "sequence"

def nothing (mark : Mark) : Node := .scalar (coreTag "null") "" mark

end Node

/-! ### Reading -/

/-- what is known while a document is read -/
structure Draft where
  stream : Stream
  /-- tag handles with what they stand for -/
  handles : List (String × String) := []
  /-- anchors with their nodes; a collection that is not finished is one that is found again -/
  anchors : List (String × Node) := []

abbrev Descent (α : Type) := StateT Draft (Except Trouble) α

namespace Descent

def peek : Descent Token := do
  let d ← get
  let (t, stream) ← d.stream.head
  set { d with stream := stream }
  pure t

def take : Descent Token := do
  let t ← peek
  modify fun d => { d with stream := d.stream.tail }
  pure t

def failIn {α : Type} (context : String) (start : Mark) (text : String) (mark : Mark) :
    Descent α := fun _ => Yaml.failIn context start text mark

def failAt {α : Type} (text : String) (mark : Mark) : Descent α := fun _ => Yaml.failAt text mark

def unexpected {α : Type} (context : String) (start : Mark) (expected : String) (t : Token) :
    Descent α :=
  failIn context start (expected ++ quoted t.kind.name) t.start

end Descent

open Descent (peek take failIn failAt unexpected)

/-! ### Anchors and tags -/

/-- what stands before the content of a node -/
structure Properties where
  anchor : Option String := none
  tag : Option (Option String × String × Mark) := none
  start : Option Mark := none

def readAnchorOf (p : Properties) : Descent Properties := do
  let t ← peek
  match t.kind with
  | .anchor name => do
    let _ ← take
    pure { p with anchor := some name, start := some (p.start.getD t.start) }
  | _ => pure p

def readTagOf (p : Properties) : Descent Properties := do
  let t ← peek
  match t.kind with
  | .tag handle suffix => do
    let _ ← take
    pure { p with tag := some (handle, suffix, t.start), start := some (p.start.getD t.start) }
  | _ => pure p

/-- reads anchor and tag in either order -/
def readProperties : Descent Properties := do
  let p ← readAnchorOf {}
  let p ← readTagOf p
  if p.anchor.isNone then readAnchorOf p else pure p

def resolveTag (p : Properties) (start : Mark) : Descent (Option String) := do
  match p.tag with
  | none => pure none
  | some (none, suffix, _) => pure (some suffix)
  | some (some handle, suffix, mark) =>
    match (← get).handles.lookup handle with
    | some stem => pure (some (stem ++ suffix))
    | none =>
      failIn "while parsing a node" start ("found undefined tag handle " ++ quoted handle) mark

def scalarTag (tag : Option String) (text : String) (plain : Bool) : String :=
  match tag with
  | none => if plain then implicitTag text else coreTag "str"
  | some "!" => implicitTag text
  | some tag => tag

def collectionTag (tag : Option String) (standard : String) : String :=
  match tag with
  | none => coreTag standard
  | some "!" => coreTag standard
  | some tag => tag

def nodeOfAlias (name : String) (mark : Mark) : Descent Node := do
  match (← get).anchors.lookup name with
  | none => failAt ("found undefined alias " ++ quoted name) mark
  | some node => pure node

/-- notes that a node with an anchor begins -/
def openAnchor (anchor : Option String) (isMapping : Bool) (start : Mark) : Descent Unit := do
  match anchor with
  | none => pure ()
  | some name =>
    match (← get).anchors.lookup name with
    | some first =>
      failIn ("found duplicate anchor " ++ quoted name ++ "; first occurrence") first.mark
        "second occurrence" start
    | none => modify fun d => { d with anchors := (name, .again isMapping start) :: d.anchors }

def closeAnchor (anchor : Option String) (node : Node) : Descent Node := do
  match anchor with
  | none => pure node
  | some name => do
    modify fun d => { d with anchors := (name, node) :: d.anchors }
    pure node

/-! ### Nodes -/

def endsBlockPart (k : Kind) : Bool := k == .key || k == .value || k == .blockEnd

/-- takes the comma between the parts of a flow collection, which `close` would end -/
def takeComma (name close : String) (start : Mark) : Descent Unit := do
  let t ← take
  if t.kind == .flowEntry then pure ()
  else
    unexpected ("while parsing a flow " ++ name) start ("expected ',' or " ++ close ++ ", but got ") t

mutual
/-- reads a node; `inBlock` allows block collections, and `indentless` a sequence whose signs are
not indented -/
def readNode (fuel : Nat) (inBlock indentless : Bool) : Descent Node :=
  match fuel with
  | 0 => do failAt "found too many nodes" (← peek).start
  | n + 1 => do
    let first ← peek
    match first.kind with
    | .alias name => do
      let _ ← take
      nodeOfAlias name first.start
    | _ => do
      let p ← readProperties
      let start := p.start.getD first.start
      let tag ← resolveTag p start
      let t ← peek
      let whole := fun (isMapping : Bool) (make : Descent Node) => do
        openAnchor p.anchor isMapping start
        closeAnchor p.anchor (← make)
      match t.kind with
      | .scalar text plain => do
        let _ ← take
        whole false (pure (.scalar (scalarTag tag text plain) text start))
      | .flowSequenceStart => whole false do
        let _ ← take
        pure (.sequence (collectionTag tag "seq") (← readFlowItems n true t.start) start)
      | .flowMappingStart => whole true do
        let _ ← take
        pure (.mapping (collectionTag tag "map") (← readFlowEntries n true t.start) start)
      | k =>
        if indentless && k == .blockEntry then whole false do
          pure (.sequence (collectionTag tag "seq") (← readIndentlessItems n) start)
        else if inBlock && k == .blockSequenceStart then whole false do
          let _ ← take
          pure (.sequence (collectionTag tag "seq") (← readItems n t.start) start)
        else if inBlock && k == .blockMappingStart then whole true do
          let _ ← take
          pure (.mapping (collectionTag tag "map") (← readEntries n t.start) start)
        else if p.anchor.isSome || p.tag.isSome then
          whole false (pure (.scalar (scalarTag tag "" true) "" start))
        else
          unexpected ("while parsing a " ++ (if inBlock then "block" else "flow") ++ " node") start
            "expected the node content, but found " t

def readItems (fuel : Nat) (start : Mark) : Descent (List Node) :=
  match fuel with
  | 0 => pure []
  | n + 1 => do
    let t ← take
    match t.kind with
    | .blockEntry => do
      let next ← peek
      let item ←
        if next.kind == .blockEntry || next.kind == .blockEnd then pure (Node.nothing t.stop)
        else readNode n true false
      pure (item :: (← readItems n start))
    | .blockEnd => pure []
    | _ => unexpected "while parsing a block collection" start "expected <block end>, but found " t

/-- reads the items of a sequence whose signs are not indented -/
def readIndentlessItems (fuel : Nat) : Descent (List Node) :=
  match fuel with
  | 0 => pure []
  | n + 1 => do
    let t ← peek
    if t.kind == .blockEntry then do
      let _ ← take
      let next ← peek
      let item ←
        if next.kind == .blockEntry || endsBlockPart next.kind then pure (Node.nothing t.stop)
        else readNode n true false
      pure (item :: (← readIndentlessItems n))
    else pure []

/-- reads a part of a block mapping after its sign, which ends at `stop` -/
def readBlockPart (fuel : Nat) (stop : Mark) : Descent Node :=
  match fuel with
  | 0 => pure (Node.nothing stop)
  | n + 1 => do
    if endsBlockPart (← peek).kind then pure (Node.nothing stop) else readNode n true true

def readEntries (fuel : Nat) (start : Mark) : Descent (List (Node × Node)) :=
  match fuel with
  | 0 => pure []
  | n + 1 => do
    let t ← take
    match t.kind with
    | .key => do
      let key ← readBlockPart n t.stop
      let next ← peek
      let value ←
        if next.kind == .value then do
          let sign ← take
          readBlockPart n sign.stop
        else pure (Node.nothing next.start)
      pure ((key, value) :: (← readEntries n start))
    | .blockEnd => pure []
    | _ => unexpected "while parsing a block mapping" start "expected <block end>, but found " t

/-- reads a part of a flow entry after its sign, which ends at `stop`; `close` ends the
collection -/
def readFlowPart (fuel : Nat) (close : Kind) (orValue : Bool) (stop : Mark) : Descent Node :=
  match fuel with
  | 0 => pure (Node.nothing stop)
  | n + 1 => do
    let k := (← peek).kind
    if k == .flowEntry || k == close || (orValue && k == .value) then pure (Node.nothing stop)
    else readNode n false false

/-- reads key and value of a flow entry whose key sign ends at `stop` -/
def readFlowEntry (fuel : Nat) (close : Kind) (stop : Mark) : Descent (Node × Node) :=
  match fuel with
  | 0 => pure (Node.nothing stop, Node.nothing stop)
  | n + 1 => do
    let key ← readFlowPart n close true stop
    let next ← peek
    if next.kind == .value then do
      let sign ← take
      pure (key, ← readFlowPart n close false sign.stop)
    else pure (key, Node.nothing next.start)

def readFlowItems (fuel : Nat) (isFirst : Bool) (start : Mark) : Descent (List Node) :=
  match fuel with
  | 0 => pure []
  | n + 1 => do
    if (← peek).kind == .flowSequenceEnd then do
      let _ ← take
      pure []
    else do
      if !isFirst then takeComma "sequence" "']'" start
      let t ← peek
      match t.kind with
      | .key => do
        let _ ← take
        let entry ← readFlowEntry n .flowSequenceEnd t.stop
        let item := Node.mapping (coreTag "map") [entry] t.start
        pure (item :: (← readFlowItems n false start))
      | .flowSequenceEnd => do
        let _ ← take
        pure []
      | _ => do
        let item ← readNode n false false
        pure (item :: (← readFlowItems n false start))

def readFlowEntries (fuel : Nat) (isFirst : Bool) (start : Mark) :
    Descent (List (Node × Node)) :=
  match fuel with
  | 0 => pure []
  | n + 1 => do
    if (← peek).kind == .flowMappingEnd then do
      let _ ← take
      pure []
    else do
      if !isFirst then takeComma "mapping" "'\x7d'" start
      let t ← peek
      match t.kind with
      | .key => do
        let _ ← take
        let entry ← readFlowEntry n .flowMappingEnd t.stop
        pure (entry :: (← readFlowEntries n false start))
      | .flowMappingEnd => do
        let _ ← take
        pure []
      | _ => do
        let key ← readNode n false false
        let next ← peek
        pure ((key, Node.nothing next.start) :: (← readFlowEntries n false start))
end

/-! ### Documents -/

def standardHandles : List (String × String) := [("!", "!"), ("!!", coreStem)]

/-- reads directives; `n` bounds their number, `hasVersion` tells whether a version came before -/
def readDirectives (hasVersion : Bool) : Nat → Descent Unit
  | 0 => pure ()
  | n + 1 => do
    let t ← peek
    match t.kind with
    | .version major _ => do
      let _ ← take
      if hasVersion then failAt "found duplicate YAML directive" t.start
      else if major != 1 then
        failAt "found incompatible YAML document (version 1.* is required)" t.start
      else readDirectives true n
    | .tagHandle handle stem => do
      let _ ← take
      if ((← get).handles.lookup handle).isSome then
        failAt ("duplicate tag handle " ++ quoted handle) t.start
      else do
        modify fun d => { d with handles := d.handles ++ [(handle, stem)] }
        readDirectives hasVersion n
    | .otherDirective => do
      let _ ← take
      readDirectives hasVersion n
    | _ => pure ()

/-- skips signs that end documents; `n` bounds their number -/
def skipDocumentEnds : Nat → Descent Unit
  | 0 => pure ()
  | n + 1 => do
    if (← peek).kind == .documentEnd then do
      let _ ← take
      skipDocumentEnds n
    else pure ()

/-- whether the content of a document that has a start sign is left out -/
def endsDocument (k : Kind) : Bool :=
  match k with
  | .version _ _ => true
  | .tagHandle _ _ => true
  | .otherDirective => true
  | .documentStart => true
  | .documentEnd => true
  | .streamEnd => true
  | _ => false

/-- reads up to the start sign of a document and gives the place where the document begins; none
at the end of the text -/
def openDocument (n : Nat) : Descent (Option Mark) := do
  skipDocumentEnds n
  let t ← peek
  if t.kind == .streamEnd then pure none
  else do
    modify fun d => { d with handles := [] }
    readDirectives false n
    let next ← peek
    if next.kind == .documentStart then do
      let _ ← take
      modify fun d => { d with handles := d.handles ++ standardHandles }
      pure (some t.start)
    else failAt ("expected '<document start>', but found " ++ quoted next.kind.name) next.start

def readContent (n : Nat) : Descent Node := do
  let t ← peek
  if endsDocument t.kind then pure (Node.nothing t.start) else readNode n true false

/-- whether a document begins with a sign or a directive, or the text ends -/
def hasStartSign (k : Kind) : Bool := endsDocument k && k != .documentEnd

/-- reads the first document -/
def readFirst (n : Nat) : Descent (Option Node) := do
  if hasStartSign (← peek).kind then
    match ← openDocument n with
    | none => pure none
    | some _ => pure (some (← readContent n))
  else do
    modify fun d => { d with handles := standardHandles }
    pure (some (← readNode n true false))

def readDocument (n : Nat) : Descent (Option Node) := do
  match ← readFirst n with
  | none => pure none
  | some node => do
    match ← openDocument n with
    | none => pure (some node)
    | some mark =>
      failIn "expected a single document in the stream" node.mark "but found another document" mark

/-- the node of a text; none if the text holds nothing -/
def Node.ofText? (s : String) : Result (Option Node) :=
  (readDocument (8 * s.length + 16)).run' { stream := Stream.ofText s }

end EndpointScaffold.Yaml
