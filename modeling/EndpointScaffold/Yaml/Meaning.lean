import EndpointScaffold.Data.Key
import EndpointScaffold.Yaml.Document
import EndpointScaffold.Yaml.ScalarValue

/-!
# Values of nodes

A node has a value by its tag. Collections are filled level by level: the troubles of a level come
before those of deeper ones, and on one level the first in the text counts.

* `Met` a value, or the trouble that is met first;
* `flatten` entries of a mapping with those that are merged into it;
* `Node.value` the value of a node;
* `read` the value of a text.
-/

namespace EndpointScaffold.Yaml

open Data Text

/-! ### Troubles by level -/

/-- a trouble with the level where it is met -/
structure Meeting where
  level : Nat
  trouble : Trouble

abbrev Met (α : Type) := Except Meeting α

namespace Met

variable {α β : Type}

/-- something that is met on a level -/
def on (level : Nat) (r : Result α) : Met α := r.mapError fun t => ⟨level, t⟩

/-- two values; of two troubles the one on the outer level counts -/
def pair (a : Met α) (b : Met β) : Met (α × β) :=
  match a, b with
  | .ok x, .ok y => .ok (x, y)
  | .ok _, .error e => .error e
  | .error e, .ok _ => .error e
  | .error e, .error f => .error (if f.level < e.level then f else e)

def all : List (Met α) → Met (List α)
  | [] => .ok []
  | a :: rest => (pair a (all rest)).map fun p => p.1 :: p.2

end Met

/-! ### Merging -/

abbrev NodeEntries := List (Node × Node)

def isMergeKey (n : Node) : Bool := n.tag == coreTag "merge"

def isDefaultKey (n : Node) : Bool := n.tag == coreTag "value"

/-- the sign for a default value is a text where it is a key -/
def keyNode (n : Node) : Node :=
  match n with
  | .scalar tag text mark => .scalar (if tag == coreTag "value" then coreTag "str" else tag) text mark
  | n => n

def mappingContext : String := "while constructing a mapping"

/-- entries of the mapping at `mark` after those of the mappings that it merges; `fuel` bounds the
depth of merging -/
def flatten (fuel : Nat) (mark : Mark) (entries : NodeEntries) : Result NodeEntries :=
  match fuel with
  | 0 => .ok entries
  | n + 1 => do
    let merged ← entries.mapM fun (key, value) =>
      if !isMergeKey key then .ok []
      else
        match value with
        | .again true _ => .ok []
        | .mapping _ inner start => flatten n start inner
        | .sequence _ items _ => do
          let parts ← items.mapM fun item =>
            match item with
            | .again true _ => .ok []
            | .mapping _ inner start => flatten n start inner
            | other => failIn mappingContext mark
                ("expected a mapping for merging, but found " ++ other.kindName) other.mark
          .ok parts.reverse.flatten
        | other => failIn mappingContext mark
            ("expected a mapping or list of mappings for merging, but found " ++ other.kindName)
            other.mark
    let own := entries.filter fun entry => !isMergeKey entry.1
    .ok (merged.flatten ++ own.map fun (key, value) => (keyNode key, value))

/-! ### Scalars -/

/-- the text of a scalar, or of the default value of a mapping -/
def scalarText (fuel : Nat) (node : Node) : Result String :=
  match fuel, node with
  | _, .scalar _ text _ => .ok text
  | n + 1, .mapping _ entries mark =>
    match entries.find? fun entry => isDefaultKey entry.1 with
    | some (_, value) => scalarText n value
    | none => failAt "expected a scalar node, but found mapping" mark
  | _, other => failAt ("expected a scalar node, but found " ++ other.kindName) other.mark

def scalarRule? (mark : Mark) (tag : String) : Option (String → Result Value) :=
  ([("null", fun _ => .ok .null), ("bool", flagValue), ("int", integerValue),
    ("float", floatValue), ("binary", bytesValue mark), ("timestamp", timeValue),
    ("str", fun s => .ok (.text s))].find? fun rule => coreTag rule.1 == tag).map (·.2)

/-! ### Collections -/

/-- kinds of collections, as tags name them -/
inductive Shape where
  | list
  | mapping
  | set
  /-- a list of mappings of one entry; `context` is said of its problems -/
  | entries (context : String)

def shape? (tag : String) : Option Shape :=
  ([("seq", .list), ("map", .mapping), ("set", .set),
    ("omap", .entries "while constructing an ordered map"),
    ("pairs", .entries "while constructing pairs")].find? fun s => coreTag s.1 == tag).map (·.2)

def itemsOf : Node → Result (List Node)
  | .sequence _ items _ => .ok items
  | other => failAt ("expected a sequence node, but found " ++ other.kindName) other.mark

def entriesOf (fuel : Nat) : Node → Result NodeEntries
  | .mapping _ entries mark => flatten fuel mark entries
  | other => failAt ("expected a mapping node, but found " ++ other.kindName) other.mark

def onlyEntry (context : String) (mark : Mark) : Node → Result (Node × Node)
  | .mapping _ [entry] _ => .ok entry
  | .mapping _ entries start => failIn context mark
      ("expected a single mapping item, but found " ++ toString entries.length ++ " items") start
  | other => failIn context mark
      ("expected a mapping of length 1, but found " ++ other.kindName) other.mark

def singleEntries (context : String) : Node → Result (List Node)
  | .sequence _ items _ => .ok items
  | other => failIn context other.mark ("expected a sequence, but found " ++ other.kindName) other.mark

def unknownTag {α : Type} (node : Node) : Result α :=
  failAt ("could not determine a constructor for the tag " ++ quoted node.tag) node.mark

/-- the value of a key in the mapping at `mark` -/
def keyValue (fuel : Nat) (mark : Mark) (node : Node) : Result Value :=
  match scalarRule? node.mark node.tag with
  | some rule => do rule (← scalarText fuel node)
  | none =>
    if (shape? node.tag).isSome then failIn mappingContext mark "found unhashable key" node.mark
    else unknownTag node

/-- the value of a node on a level; `fuel` bounds the depth of the node, and `around` are the starts
of the collections around it, the innermost first -/
def Node.value (fuel level : Nat) (around : List (Option Mark)) (node : Node) : Met Value :=
  match fuel, node with
  | 0, _ => .ok .null
  | _, .again isMapping mark =>
    .ok (.again (around.findIdx fun m => m == some mark) isMapping)
  | n + 1, node =>
    let inner := some node.mark :: around
    match scalarRule? node.mark node.tag, shape? node.tag with
    | some rule, _ => .on level (do rule (← scalarText fuel node))
    | none, none => .on level (unknownTag node)
    | none, some .list => do
      let items ← .on (level + 1) (itemsOf node)
      let values ← .all (items.map (Node.value n (level + 1) inner))
      .ok (.list values)
    | none, some .mapping => do
      let entries ← .on (level + 1) (entriesOf fuel node)
      let pairs ← .all (entries.map fun (key, value) =>
        .pair (.on (level + 1) (keyValue fuel node.mark key)) (Node.value n (level + 1) inner value))
      .ok (.object (pairs.foldl (fun out (key, value) => Value.insert key value out) []))
    | none, some .set => do
      let entries ← .on (level + 1) (entriesOf fuel node)
      let pairs ← .all (entries.map fun (key, value) =>
        .pair (.on (level + 1) (keyValue fuel node.mark key)) (Node.value n (level + 1) inner value))
      .ok (.set ((pairs.foldl (fun out (key, value) => Value.insert key value out) []).map (·.1)))
    | none, some (.entries context) => do
      let items ← .on (level + 1) (singleEntries context node)
      let pairs ← .all (items.map fun item => do
        let (key, value) ← .on (level + 1) (onlyEntry context node.mark item)
        .pair (Node.value n (level + 1) (none :: inner) key)
          (Node.value n (level + 1) (none :: inner) value))
      .ok (.list (pairs.map fun (key, value) => .pair key value))

/-! ### Texts -/

/-- whether a character may stand in a text -/
def isAllowed (c : Char) : Bool :=
  let n := c.toNat
  n == 9 || n == 10 || n == 13 || (0x20 ≤ n && n ≤ 0x7E) || n == 0x85 || (0xA0 ≤ n && n ≤ 0xD7FF)
    || (0xE000 ≤ n && n ≤ 0xFFFD) || 0x10000 ≤ n

/-- the first character that may not stand in a text, with its index -/
def forbidden? (s : String) : Option (Char × Nat) :=
  s.toList.zipIdx.find? fun p => !isAllowed p.1

/-- the value of a text; a text that holds nothing stands for null -/
def read (s : String) : Result Value :=
  match forbidden? s with
  | some (c, index) => .error (.forbidden c index)
  | none => do
    match ← Node.ofText? s with
    | none => .ok .null
    | some node => (node.value (s.length + 2) 0 []).mapError (·.trouble)

end EndpointScaffold.Yaml
