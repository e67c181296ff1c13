import EndpointScaffold.Parsing.Stack

/-!
# Comparing versions

Versions are compared by the damage they have met, then by weight. A version whose damage costs
much more than another's is given up; how much more depends on how far the other one has read since
its own damage.
-/

namespace EndpointScaffold.Parsing

open Grammar

variable {σ : Type} [BEq σ] [Inhabited σ]

/-- what counts in the comparison of versions -/
structure Standing where
  cost : Nat
  /-- tree nodes read since the last damage -/
  nodes : Nat
  weight : Int
  isDamaged : Bool

/-- how two versions compare -/
inductive Judgement where
  | takeFirst
  | preferFirst
  | undecided
  | preferSecond
  | takeSecond
  deriving DecidableEq, Repr

def Standing.judge (a b : Standing) : Judgement :=
  if !a.isDamaged && b.isDamaged then (if a.cost < b.cost then .takeFirst else .preferFirst)
  else if a.isDamaged && !b.isDamaged then
    (if b.cost < a.cost then .takeSecond else .preferSecond)
  else if a.cost < b.cost then
    (if Bound.difference < (b.cost - a.cost) * (1 + a.nodes) then .takeFirst else .preferFirst)
  else if b.cost < a.cost then
    (if Bound.difference < (a.cost - b.cost) * (1 + b.nodes) then .takeSecond else .preferSecond)
  else if b.weight < a.weight then .preferFirst
  else if a.weight < b.weight then .preferSecond
  else .undecided

namespace Machine

def costOf (v : Nat) : Work σ Nat := do
  let x ← version v
  let t ← node x.top
  let isInDamage := x.status == .paused
    || (t.state == 0 && t.links.head?.any fun l => l.2.isNone)
  pure (if isInDamage then t.cost + Cost.damage else t.cost)

def nodesSinceDamage (v : Nat) : Work σ Nat := do
  let x ← version v
  let t ← node x.top
  if t.nodes < x.nodesAtDamage then
    changeVersion v fun x => { x with nodesAtDamage := t.nodes }
    pure 0
  else pure (t.nodes - x.nodesAtDamage)

def standing (v : Nat) : Work σ Standing := do
  let cost ← costOf v
  let nodes ← nodesSinceDamage v
  let x ← version v
  let t ← node x.top
  let isPaused := x.status == .paused
  pure ⟨if isPaused then cost + Cost.node else cost, nodes, t.weight, isPaused || t.state == 0⟩

/-- whether one of the versions from `i` on is better than version `v` would be -/
def isBeatenFrom (v : Nat) (s : Standing) (place : Nat) : Nat → Nat → Work σ Bool
  | 0, _ => pure false
  | fuel + 1, i => do
    if (← versionCount) ≤ i then return false
    let x ← version i
    if i == v || x.status != .active || (← node x.top).place < place then
      isBeatenFrom v s place fuel (i + 1)
    else
      match s.judge (← standing i) with
      | .takeSecond => pure true
      | .preferSecond =>
        if ← canMerge i v then pure true else isBeatenFrom v s place fuel (i + 1)
      | _ => isBeatenFrom v s place fuel (i + 1)

/-- whether there is something better than version `v` would be with a cost -/
def isBeaten (v : Nat) (isDamaged : Bool) (cost : Nat) : Work σ Bool := do
  let m ← get
  if m.finished.any fun f => decide (f.cost ≤ cost) then return true
  let t ← top v
  let nodes ← nodesSinceDamage v
  isBeatenFrom v ⟨cost, nodes, t.weight, isDamaged⟩ t.place (m.versions.size + 1) 0

/-- whether a version has read any text since its last damage -/
def hasAdvanced (nodes : Array (StackNode σ)) (nodesAtDamage : Nat) : Nat → Nat → Bool
  | 0, _ => false
  | fuel + 1, n =>
    let t := nodes.getD n default
    match t.links with
    | (below, some f) :: _ =>
      if f.facts.before < f.facts.stop then true
      else if nodesAtDamage < t.nodes && f.cost == 0 then
        hasAdvanced nodes nodesAtDamage fuel below
      else false
    | _ => false

def advancedSinceDamage (v : Nat) : Work σ Bool := do
  let m ← get
  let x ← version v
  pure ((m.nodes.getD x.top default).cost == 0
    || hasAdvanced m.nodes x.nodesAtDamage (m.nodes.size + 1) x.top)

end Machine

end EndpointScaffold.Parsing
