import EndpointScaffold.Parsing.Fragment

/-!
# The shared stack

Several readings of a text are followed side by side. Their stacks share their lower parts: a node
of the stack has links to the nodes below it, more than one where readings have met in the same
state.

A `Version` is one reading: the node on top of its stack, and what is known about its damage. The
`Machine` holds the nodes, the versions, and the best complete tree found so far.
-/

namespace EndpointScaffold.Parsing

open Grammar

/-! ### Bounds on the work -/

namespace Bound

def versions : Nat := 6

/-- versions that may be made beyond these while a token is read -/
def overflow : Nat := 4

/-- nodes looked at below the top when damage is found -/
def depth : Nat := 16

def links : Nat := 8

/-- paths followed down the stack -/
def paths : Nat := 64

/-- cost that a version may be worse than another, less for versions that have read more -/
def difference : Nat := 1800

end Bound

structure StackNode (σ : Type) where
  state : Nat
  place : Nat
  cost : Nat
  /-- tree nodes in the fragments below -/
  nodes : Nat
  weight : Int
  /-- nodes below with the fragments between; a link without a fragment marks damage -/
  links : List (Nat × Option (Fragment σ))
  deriving Inhabited

inductive Status where
  | active
  /-- waits for the other versions after it has met damage -/
  | paused
  | halted
  deriving DecidableEq, Repr, Inhabited

/-- states below the top, with their depths and places -/
structure Level where
  state : Nat
  depth : Nat
  place : Nat
  deriving Inhabited

structure Version (σ : Type) where
  top : Nat
  /-- tree nodes below the last damage -/
  nodesAtDamage : Nat
  summary : Option (List Level)
  status : Status
  /-- the token that could not be read -/
  lookahead : Option (Fragment σ)
  scanner : σ
  deriving Inhabited

structure Machine (σ : Type) where
  nodes : Array (StackNode σ)
  versions : Array (Version σ)
  finished : Option (Fragment σ)
  /-- trees that were accepted -/
  accepted : Nat
  deriving Inhabited

/-- what the machine works with -/
structure Setting (σ : Type) where
  table : Table
  source : Source
  /-- tokens that are looked for in damaged text -/
  recoveryTokens : SymbolSet
  /-- white space -/
  isSpace : Char → Bool
  /-- a special token among the expected ones: its symbol, its place, and the state after it -/
  special : SymbolSet → Nat → σ → Option (Nat × Nat × Nat × σ)
  /-- a plain token among the expected ones, and its place -/
  plain : SymbolSet → Nat → Option (Nat × Nat × Nat)
  /-- how far the search for a plain token goes at a place where there is none -/
  reach : Nat → Nat

abbrev Work (σ : Type) := StateM (Machine σ)

variable {σ : Type} [BEq σ] [Inhabited σ]

namespace Machine

/-! ### Versions -/

def version (v : Nat) : Work σ (Version σ) := do pure ((← get).versions.getD v default)

def setVersion (v : Nat) (x : Version σ) : Work σ Unit :=
  modify fun m => { m with versions := m.versions.setIfInBounds v x }

def changeVersion (v : Nat) (f : Version σ → Version σ) : Work σ Unit :=
  modify fun m => { m with versions := m.versions.modify v f }

def removeVersion (v : Nat) : Work σ Unit :=
  modify fun m => { m with versions := m.versions.eraseIdxIfInBounds v }

def versionCount : Work σ Nat := do pure (← get).versions.size

def node (n : Nat) : Work σ (StackNode σ) := do pure ((← get).nodes.getD n default)

def top (v : Nat) : Work σ (StackNode σ) := do node (← version v).top

def halt (v : Nat) : Work σ Unit := changeVersion v fun x => { x with status := .halted }

/-- a version made from another one; its number -/
def addVersion (x : Version σ) : Work σ Nat :=
  modifyGet fun m => (m.versions.size, { m with versions := m.versions.push x })

/-- a version with another top but with the damage of `v` -/
def forkVersion (v top : Nat) : Work σ Nat := do
  let x ← version v
  addVersion { top := top, nodesAtDamage := x.nodesAtDamage, summary := none, status := .active,
               lookahead := none, scanner := x.scanner }

/-- puts version `a` in the place of version `b` -/
def renumber (a b : Nat) : Work σ Unit := do
  if a != b then
    let x ← version a
    let y ← version b
    setVersion b { x with summary := x.summary.or y.summary }
    removeVersion a

/-! ### Pushing -/

/-- puts a fragment on a stack, or a mark of damage, and goes to a state -/
def push (e : Setting σ) (v : Nat) (fragment : Option (Fragment σ)) (state : Nat) :
    Work σ Unit := do
  let x ← version v
  let below ← node x.top
  let new : StackNode σ :=
    match fragment with
    | none => { below with state := state, links := [(x.top, none)] }
    | some f =>
      { state := state
        place := f.facts.stop
        cost := below.cost + f.cost
        nodes := below.nodes + f.nodeCount e.table.language
        weight := below.weight + f.facts.weight
        links := [(x.top, some f)] }
  modify fun m =>
    let n := m.nodes.size
    { m with
      nodes := m.nodes.push new
      versions := m.versions.modify v fun x => { x with
        top := n, nodesAtDamage := if fragment.isNone then new.nodes else x.nodesAtDamage } }

/-! ### Merging -/

/-- whether the fragments of two links can stand for each other -/
def likeFragments : Option (Fragment σ) → Option (Fragment σ) → Bool
  | none, none => true
  | some f, some g => f.isLike g
  | _, _ => false

def weightOf (f : Option (Fragment σ)) : Int := (f.map (·.facts.weight)).getD 0

/-- whether two nodes below like fragments can be merged -/
def likeNodes (a b : StackNode σ) : Bool :=
  a.state == b.state && a.place == b.place && a.cost == b.cost

/-- the first link that a new one can be joined with -/
def findLink (nodes : Array (StackNode σ)) (below : Nat) (f : Option (Fragment σ)) :
    List (Nat × Option (Fragment σ)) → Nat → Option Nat
  | [], _ => none
  | l :: ls, i =>
    if likeFragments l.2 f &&
        (l.1 == below || likeNodes (nodes.getD l.1 default) (nodes.getD below default)) then some i
    else findLink nodes below f ls (i + 1)

/-- adds a link to a node of the stack. Where a like link is there already, the nodes below are
merged. -/
def addLink (e : Setting σ) : Nat → Nat → Nat × Option (Fragment σ) → Work σ Unit
  | 0, _, _ => pure ()
  | fuel + 1, n, (below, f) => do
    if below == n then return
    let m ← get
    let self := m.nodes.getD n default
    let lower := m.nodes.getD below default
    match findLink m.nodes below f self.links 0 with
    | some i =>
      let (old, g) := self.links.getD i default
      if old == below then
        if f.isSome && weightOf g < weightOf f then
          modify fun m => { m with nodes := m.nodes.modify n fun s => { s with
            links := s.links.set i (old, f), weight := lower.weight + weightOf f } }
      else
        for l in lower.links do addLink e fuel old l
        let weight := (← node below).weight + weightOf f
        modify fun m => { m with nodes := m.nodes.modify n fun s => { s with
          weight := if s.weight < weight then weight else s.weight } }
    | none =>
      if self.links.length != Bound.links then
        let count := lower.nodes + (f.map fun g => g.nodeCount e.table.language).getD 0
        let weight := lower.weight + weightOf f
        modify fun m => { m with nodes := m.nodes.modify n fun s => { s with
          links := s.links ++ [(below, f)]
          nodes := max s.nodes count
          weight := if s.weight < weight then weight else s.weight } }

/-- whether two versions have met -/
def canMerge (a b : Nat) : Work σ Bool := do
  let x ← version a
  let y ← version b
  let s ← node x.top
  let t ← node y.top
  pure (x.status == .active && y.status == .active && likeNodes s t && x.scanner == y.scanner)

/-- merges version `b` into version `a` if they have met -/
def merge (e : Setting σ) (a b : Nat) : Work σ Bool := do
  if !(← canMerge a b) then return false
  let x ← version a
  let s ← node x.top
  let t ← top b
  for l in t.links do addLink e ((← get).nodes.size + 1) x.top l
  if s.state == 0 then
    let s ← node x.top
    changeVersion a fun x => { x with nodesAtDamage := s.nodes }
  removeVersion b
  pure true

/-! ### Following paths down -/

/-- a path down a stack: the node reached, the fragments passed, and how many of them count -/
structure Path (σ : Type) where
  node : Nat
  fragments : List (Fragment σ)
  count : Nat

/-- a path one link further down -/
def Path.along (p : Path σ) (l : Nat × Option (Fragment σ)) : Path σ :=
  match l.2 with
  | none => ⟨l.1, p.fragments, p.count + 1⟩
  | some f => ⟨l.1, f :: p.fragments, if f.facts.isExtra then p.count else p.count + 1⟩

/-- what is done at the end of a path -/
structure Visit (τ : Type) where
  state : τ
  takes : Bool
  stops : Bool

/-- one step down along all paths; `sofar` are the paths already gone on with, latest first, and
`extra` those that branched off. What is taken is kept with the node it ends at. -/
def stepPaths {τ : Type} (nodes : Array (StackNode σ)) (visit : τ → Path σ → Visit τ) :
    List (Path σ) → τ → List (Path σ) → List (Path σ) → List (Nat × List (Fragment σ)) →
    τ × List (Path σ) × List (Nat × List (Fragment σ))
  | [], t, sofar, extra, taken => (t, sofar.reverse ++ extra.reverse, taken)
  | p :: ps, t, sofar, extra, taken =>
    let r := visit t p
    let taken := if r.takes then (p.node, p.fragments) :: taken else taken
    match (nodes.getD p.node default).links with
    | [] => stepPaths nodes visit ps r.state sofar extra taken
    | l :: ls =>
      if r.stops then stepPaths nodes visit ps r.state sofar extra taken
      else
        let room := Bound.paths - (ps.length + 1 + sofar.length + extra.length)
        let branches := (ls.take room).map p.along
        stepPaths nodes visit ps r.state (p.along l :: sofar) (branches.reverse ++ extra) taken

/-- follows all paths down from a node; what was taken comes in the order it was taken -/
def followPaths {τ : Type} (nodes : Array (StackNode σ)) (visit : τ → Path σ → Visit τ) :
    Nat → List (Path σ) → τ → List (Nat × List (Fragment σ)) →
    τ × List (Nat × List (Fragment σ))
  | 0, _, t, taken => (t, taken.reverse)
  | _, [], t, taken => (t, taken.reverse)
  | fuel + 1, ps, t, taken =>
    let r := stepPaths nodes visit ps t [] [] taken
    followPaths nodes visit fuel r.2.1 r.1 r.2.2

/-- the ends of paths down from a version -/
def paths {τ : Type} (v : Nat) (visit : τ → Path σ → Visit τ) (t : τ) :
    Work σ (τ × List (Nat × List (Fragment σ))) := do
  let x ← version v
  let m ← get
  pure (followPaths m.nodes visit (m.nodes.size + 1) [⟨x.top, [], 0⟩] t [])

/-- joins what was taken at the same node, in the order of the first time -/
def byNode (taken : List (Nat × List (Fragment σ))) : List (Nat × List (List (Fragment σ))) :=
  taken.foldl (fun (found : List (Nat × List (List (Fragment σ)))) t =>
    if found.any fun g => g.1 == t.1 then
      found.map fun g => if g.1 == t.1 then (g.1, g.2 ++ [t.2]) else g
    else found ++ [(t.1, [t.2])]) []

/-- what was popped off a stack, with the version that is left -/
structure Popped (σ : Type) where
  version : Nat
  readings : List (List (Fragment σ))

/-- pops along all paths of a version; each node that is reached becomes a version -/
def popPaths {τ : Type} (v : Nat) (visit : τ → Path σ → Visit τ) (t : τ) :
    Work σ (List (Popped σ)) := do
  let r ← paths v visit t
  (byNode r.2).mapM fun g => do
    let n ← forkVersion v g.1
    pure ⟨n, g.2⟩

/-- pops a number of fragments, extras not counted -/
def pop (v count : Nat) : Work σ (List (Popped σ)) :=
  popPaths v (fun _ p => ⟨(), p.count == count, p.count == count⟩) ()

def popAll (v : Nat) : Work σ (List (Popped σ)) := do
  let m ← get
  popPaths v (fun _ p =>
    let isBottom := ((m.nodes.getD p.node default).links).isEmpty
    ⟨(), isBottom, isBottom⟩) ()

/-- pops a fragment of damage off a version; nothing if there is none on top -/
def popDamage (v : Nat) : Work σ (List (Fragment σ)) := do
  let t ← top v
  if !(t.links.any fun l => l.2.any (·.isDamage)) then return []
  let popped ← popPaths v (fun found p =>
    match p.fragments.getLast? with
    | none => ⟨found, false, false⟩
    | some f => if !found && f.isDamage then ⟨true, true, true⟩ else ⟨found, false, true⟩) false
  match popped with
  | [] => pure []
  | p :: _ =>
    renumber p.version v
    pure (p.readings.headD [])

end Machine

end EndpointScaffold.Parsing
