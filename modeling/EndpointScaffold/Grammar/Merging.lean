import EndpointScaffold.Grammar.Choice

/-!
# Merging of states

States with the same items can often stand for each other although other tokens may follow their
items. They are put into groups so that

* the states of a group never do different things with a token that both expect;
* no token comes to be expected beside one that it would be confused with;
* reading a symbol leads from all states of a group into one group.

A token may thus be expected in a group where it is not possible; that shows one step later. Groups
are formed greedily in the order of the states, so that the result depends on the grammar alone.
-/

namespace EndpointScaffold.Grammar

open Std

structure Grouping where
  groups : Array (Array Nat)
  groupOf : Array Nat
  deriving Inhabited

namespace Grouping

def target (g : Grouping) (n : Nat) : Nat := g.groupOf.getD n 0

/-- states with the same items -/
def ofDrafts (drafts : Array Draft) : Grouping := Id.run do
  let mut groups : Array (Array Nat) := #[#[0]]
  let mut groupOf : Array Nat := #[0]
  let mut known : HashMap (Array Nat) Nat := ∅
  for i in [1:drafts.size] do
    let key := (drafts.getD i default).kernel.map (·.1)
    match known[key]? with
    | some n =>
      groups := groups.modify n (·.push i)
      groupOf := groupOf.push n
    | none =>
      known := known.insert key groups.size
      groupOf := groupOf.push groups.size
      groups := groups.push #[i]
  return ⟨groups, groupOf⟩

/-- moves states of a group into a new one -/
def split (g : Grouping) (n : Nat) (stay leave : Array Nat) : Grouping :=
  let new := g.groups.size
  ⟨(g.groups.setIfInBounds n stay).push leave,
    leave.foldl (fun groupOf i => groupOf.setIfInBounds i new) g.groupOf⟩

/-! ### States that do different things -/

/-- tokens that must not come to be expected beside the given ones -/
def forbidden (l : Language) (clashes : Array SymbolSet) (expected : SymbolSet) : SymbolSet :=
  let special := SymbolSet.ofList
    (l.anything :: (List.range (l.tokenEnd - l.plainEnd)).map (· + l.plainEnd))
  (expected.toList l.plainEnd).foldl (fun s t => s.union (clashes.getD t .empty)) special

/-- whether two states read on to different groups, or only one of them does -/
def readsApart (l : Language) (g : Grouping) (r s : Row) : Bool :=
  (List.range r.symbols.size).any fun i =>
    let symbol := r.symbols.getD i 0
    let a := r.targets.getD i 0
    let b := s.targets.getD i 0
    l.isToken symbol && a != b &&
      (if a == 0 || b == 0 then r.expects.contains symbol && s.expects.contains symbol
      else g.target a != g.target b)

/-- a state with what the comparison with others needs -/
structure Candidate where
  row : Row
  /-- tokens that complete items -/
  completing : SymbolSet
  /-- tokens that must not join it -/
  forbids : SymbolSet
  /-- equal for states that read on to the same groups -/
  way : Nat
  deriving Inhabited

/-- whether two states cannot be in one group -/
def clash (l : Language) (g : Grouping) (a b : Candidate) : Bool :=
  let r := a.row
  let s := b.row
  (r.expects != s.expects &&
    (!((r.expects.diff s.expects).inter b.forbids).isEmpty
    || !((s.expects.diff r.expects).inter a.forbids).isEmpty))
  || !((a.completing.inter s.expects).diff b.completing).isEmpty
  || !((b.completing.inter r.expects).diff a.completing).isEmpty
  || r.reduces.any (fun x => s.reduces.any fun y => x.2 != y.2 && !(x.1.inter y.1).isEmpty)
  || (r.repeats != s.repeats
    && !(((r.repeats.diff s.repeats).union (s.repeats.diff r.repeats)).inter
        (r.expects.inter s.expects)).isEmpty)
  || (a.way != b.way && readsApart l g r s)

/-- what tells a state from the others of its group: the groups that it leads to, and the rest -/
def signature (g : Grouping) (r : Row) : Array Nat × Array Nat :=
  (r.targets.map g.target,
    (r.reduces.foldl (fun key e => (key.push e.2).push e.1.bits) #[]).push r.repeats.bits)

/-- states with equal signatures, in the order of their first states, and for each the number of
its way -/
def bySignature (g : Grouping) (rows : Array Row) (states : Array Nat) :
    Array (Nat × Array Nat) := Id.run do
  let mut classes : Array (Nat × Array Nat) := #[]
  let mut ways : HashMap (Array Nat) Nat := ∅
  let mut known : HashMap (Array Nat) Nat := ∅
  for i in states do
    let (way, rest) := g.signature (rows.getD i default)
    let w := ways.getD way ways.size
    ways := ways.insertIfNew way w
    let key := rest.push w
    match known[key]? with
    | some n => classes := classes.modify n fun c => (c.1, c.2.push i)
    | none =>
      known := known.insert key classes.size
      classes := classes.push (w, #[i])
  return classes

/-- for each candidate whether it clashes with an earlier one that stays -/
def leaving (l : Language) (g : Grouping) (candidates : Array Candidate) : Array Bool := Id.run do
  let mut out : Array Bool := candidates.map fun _ => false
  for i in [0:candidates.size] do
    if !out.getD i false then
      let a := candidates.getD i default
      for j in [i + 1:candidates.size] do
        if !out.getD j false then
          if clash l g a (candidates.getD j default) then out := out.setIfInBounds j true
  return out

/-- the candidates of classes of states; `known` holds what sets of tokens forbid -/
def candidatesOf (l : Language) (clashes : Array SymbolSet) (rows : Array Row)
    (classes : Array (Nat × Array Nat)) (known : HashMap SymbolSet SymbolSet) :
    Array Candidate × HashMap SymbolSet SymbolSet :=
  classes.foldl (fun (found : Array Candidate × HashMap SymbolSet SymbolSet) c =>
    let r := rows.getD (c.2.getD 0 0) default
    match found.2[r.expects]? with
    | some f => (found.1.push ⟨r, r.reduceTokens, f, c.1⟩, found.2)
    | none =>
      let f := forbidden l clashes r.expects
      (found.1.push ⟨r, r.reduceTokens, f, c.1⟩, found.2.insert r.expects f)) (#[], known)

/-- splits the groups from `n` on so that no states of a group clash -/
def splitClashes (l : Language) (clashes : Array SymbolSet) (rows : Array Row) :
    Nat → Nat → HashMap SymbolSet SymbolSet → Grouping → Grouping
  | 0, _, _, g => g
  | fuel + 1, n, known, g =>
    match g.groups[n]? with
    | none => g
    | some states =>
      if states.size ≤ 1 then splitClashes l clashes rows fuel (n + 1) known g
      else
        let classes := g.bySignature rows states
        let (candidates, known) := candidatesOf l clashes rows classes known
        let out := leaving l g candidates
        if !out.contains true then splitClashes l clashes rows fuel (n + 1) known g
        else
          let leavers : HashSet Nat := (classes.zip out).foldl (fun s e =>
            if e.2 then e.1.2.foldl (fun s i => s.insert i) s else s) ∅
          splitClashes l clashes rows fuel (n + 1) known
            (g.split n (states.filter fun i => !leavers.contains i)
              (states.filter fun i => leavers.contains i))

/-! ### States that lead to different groups -/

/-- whether two states lead to the same groups -/
def leadsAlike (g : Grouping) (r s : Row) : Bool :=
  (List.range r.targets.size).all fun i =>
    let a := r.targets.getD i 0
    let b := s.targets.getD i 0
    a == b || g.target a == g.target b

/-- splits the groups from `n` on whose states lead to different groups, and tells whether there
were any -/
def refineOnce (rows : Array Row) : Nat → Nat → Bool → Grouping → Bool × Grouping
  | 0, _, changed, g => (changed, g)
  | fuel + 1, n, changed, g =>
    match g.groups[n]? with
    | none => (changed, g)
    | some states =>
      if states.size ≤ 1 then refineOnce rows fuel (n + 1) changed g
      else
        let first := rows.getD (states.getD 0 0) default
        let marked := states.map fun i => (i, leadsAlike g first (rows.getD i default))
        if marked.all (·.2) then refineOnce rows fuel (n + 1) changed g
        else
          let stay := (marked.filter (·.2)).map (·.1)
          let leave := (marked.filter fun e => !e.2).map (·.1)
          refineOnce rows fuel (n + 1) true (g.split n stay leave)

/-- splits groups until all states of a group lead to the same groups -/
def refine (rows : Array Row) : Nat → Grouping → Grouping
  | 0, g => g
  | fuel + 1, g =>
    match refineOnce rows (rows.size + 1) 0 false g with
    | (true, g) => refine rows fuel g
    | (false, g) => g

/-- the groups of an automaton's states; `clashes` holds for each token those that it could be
confused with -/
def ofRows (a : Automaton) (clashes : Array SymbolSet) (rows : Array Row) : Grouping :=
  refine rows rows.size
    (splitClashes a.language clashes rows (rows.size + 1) 0 ∅ (ofDrafts a.drafts))

end Grouping

end EndpointScaffold.Grammar
