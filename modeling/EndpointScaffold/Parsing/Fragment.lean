import EndpointScaffold.Grammar.Table
import EndpointScaffold.Parsing.Source

/-!
# Fragments

A fragment is a piece of the tree while it is built: a token, or fragments under a symbol. Text that
fits nowhere is kept in fragments of damage.

Every fragment knows its cost, the measure of the damage in it. Of two readings of the same text the
one of lower cost is kept, then the one of higher weight.
-/

namespace EndpointScaffold.Parsing

open Grammar

inductive Role where
  /-- text that fits nowhere -/
  | damage
  /-- tokens that were passed over -/
  | passed
  | symbol (n : Nat)
  deriving DecidableEq, Repr, Inhabited

/-- what is known of a fragment; `σ` is the state of the reader of special tokens -/
structure Facts (σ : Type) where
  role : Role
  /-- how the parts are shown -/
  reduction : Option Nat
  /-- where the blanks before the fragment start -/
  before : Nat
  start : Nat
  stop : Nat
  cost : Nat
  weight : Int
  /-- nodes inside -/
  nodes : Nat
  /-- nodes among the parts, those of hidden parts included -/
  shownParts : Nat
  isExtra : Bool
  /-- whether it stands for a token that is not there -/
  isMissing : Bool
  /-- whether it is a word that is reserved somewhere -/
  isReserved : Bool
  /-- the state after a special token -/
  after : Option σ
  /-- whether a special token inside changes the state -/
  changesState : Bool
  deriving Inhabited

inductive Fragment (σ : Type) where
  | mk (facts : Facts σ) (parts : List (Fragment σ))
  deriving Inhabited

/-! ### Costs -/

namespace Cost

def damage : Nat := 500

/-- each token that is not there -/
def missing : Nat := 110

def node : Nat := 100

def byte : Nat := 1

def line : Nat := 30

end Cost

namespace Fragment

variable {σ : Type}

def facts : Fragment σ → Facts σ
  | mk f _ => f

def parts : Fragment σ → List (Fragment σ)
  | mk _ ps => ps

def withFacts (f : Fragment σ) (change : Facts σ → Facts σ) : Fragment σ :=
  mk (change f.facts) f.parts

def isDamage (f : Fragment σ) : Bool := f.facts.role == .damage

def isVisible (l : Language) (f : Fragment σ) : Bool :=
  match f.facts.role with
  | .damage => true
  | .passed => false
  | .symbol n => (l.entry n).isVisible

def cost (f : Fragment σ) : Nat :=
  if f.facts.isMissing then Cost.missing + Cost.damage else f.facts.cost

def leaf (role : Role) (before start stop : Nat) : Fragment σ :=
  mk { role := role, reduction := none, before := before, start := start, stop := stop, cost := 0,
       weight := 0, nodes := 0, shownParts := 0, isExtra := role == .symbol 0, isMissing := false,
       isReserved := false, after := none, changesState := false } []

/-- nodes that a fragment adds to a stack -/
def nodeCount (l : Language) (f : Fragment σ) : Nat :=
  f.facts.nodes + (if f.isVisible l then 1 else 0) + (if f.facts.role == .passed then 1 else 0)

/-- whether a part is shown under another name; `shown` are the parts of the reduction to come -/
def isRenamed (part : Fragment σ)
    (shown : List (Option (String × Bool) × Option String)) : Bool :=
  !part.facts.isExtra && shown.head?.any fun s => s.1.isSome

/-- what the parts of a fragment add to its facts -/
structure PartFacts where
  cost : Nat := 0
  weight : Int := 0
  nodes : Nat := 0
  shownParts : Nat := 0
  changesState : Bool := false

/-- adds the facts of parts; `shown` tells how the parts to come are shown -/
def addParts (l : Language) (isDamaged : Bool) (sums : PartFacts)
    (shown : List (Option (String × Bool) × Option String)) :
    List (Fragment σ) → PartFacts
  | [] => sums
  | p :: ps =>
    let f := p.facts
    let own := if f.role == .passed then 0 else p.cost
    let inDamage :=
      if isDamaged && !f.isExtra && !(p.isDamage && p.parts.isEmpty) then
        (if p.isVisible l then Cost.node
        else if p.parts.isEmpty then 0
        else Cost.node * f.shownParts)
      else 0
    let isShown := p.isRenamed shown || p.isVisible l
    addParts l isDamaged
      { cost := sums.cost + own + inDamage
        weight := sums.weight + f.weight
        nodes := sums.nodes + f.nodes + (if isShown then 1 else 0)
        shownParts := sums.shownParts
          + (if isShown then 1 else if p.parts.isEmpty then 0 else f.shownParts)
        changesState := sums.changesState || f.changesState }
      (if f.isExtra then shown else shown.tail) ps

/-- a fragment with parts; without any it stands at `place` -/
def node (t : Table) (s : Source) (role : Role) (reduction : Option Nat)
    (parts : List (Fragment σ)) (place : Nat) : Fragment σ :=
  let isDamaged := role == .damage || role == .passed
  let shown := match reduction with
    | some r => (t.reductions.getD r default).parts.toList
    | none => []
  let sums := addParts t.language isDamaged {} shown parts
  let first := parts.head?.map (·.facts)
  let start := (first.map (·.start)).getD place
  let stop := (parts.getLast?.map (·.facts.stop)).getD place
  let damage :=
    if !isDamaged then 0
    else if parts.isEmpty then Cost.damage
    else Cost.damage + Cost.byte * s.bytesBetween start stop + Cost.line * s.linesBetween start stop
  mk { role := role, reduction := reduction, before := (first.map (·.before)).getD place,
       start := start, stop := stop, cost := sums.cost + damage, weight := sums.weight,
       nodes := sums.nodes, shownParts := sums.shownParts, isExtra := false, isMissing := false,
       isReserved := false, after := none, changesState := sums.changesState } parts

/-! ### Comparison -/

def compareNumbers (a b : Nat) : Ordering := if a < b then .lt else if a = b then .eq else .gt

def Role.key : Role → Nat
  | .passed => 0
  | .damage => 1
  | .symbol n => n + 2

mutual
/-- order of fragments by their symbols and the numbers of their parts, from the top down and from
left to right -/
def compareTrees : Fragment σ → Fragment σ → Ordering
  | mk f ps, mk g qs =>
    ((compareNumbers (Role.key f.role) (Role.key g.role)).then
      (compareNumbers ps.length qs.length)).then (compareAll ps qs)

def compareAll : List (Fragment σ) → List (Fragment σ) → Ordering
  | p :: ps, q :: qs => (compareTrees p q).then (compareAll ps qs)
  | _, _ => .eq
end

/-- whether the second reading of the same text is kept -/
def prefersSecond (f g : Fragment σ) : Bool :=
  if f.cost != g.cost then decide (g.cost < f.cost)
  else if f.facts.weight != g.facts.weight then decide (f.facts.weight < g.facts.weight)
  else if 0 < f.cost then true
  else compareTrees f g == .gt

/-- whether two fragments can stand for each other -/
def isLike [BEq σ] (f g : Fragment σ) : Bool :=
  let a := f.facts
  let b := g.facts
  let state := fun h : Fragment σ => if h.parts.isEmpty then h.facts.after else none
  a.role == b.role &&
    ((0 < f.cost && 0 < g.cost) ||
      (a.before == b.before && a.start == b.start && a.stop == b.stop
        && f.parts.length == g.parts.length && a.isExtra == b.isExtra && state f == state g))

/-- takes the extras at the end off -/
def splitExtras (fs : List (Fragment σ)) : List (Fragment σ) × List (Fragment σ) :=
  let extras := (fs.reverse.takeWhile (·.facts.isExtra)).reverse
  (fs.take (fs.length - extras.length), extras)

end Fragment

end EndpointScaffold.Parsing
