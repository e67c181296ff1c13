import EndpointScaffold.Grammar.Production

/-!
# Items

An item is a production that has been read up to some point. Productions that differ only in what
has been read, and not in how it is shown, share their items.

Items are numbered in an order that depends on the grammar alone: by how much has been read, then by
the head, the rank, and what is still to come. Where two readings stay possible they are followed in
this order.
-/

namespace EndpointScaffold.Grammar

open Std

/-- what becomes of the symbols that a production has read -/
structure Reduction where
  head : Nat
  size : Nat
  weight : Int
  /-- for each symbol the name it is shown under and its label -/
  parts : Array (Option (String × Bool) × Option String)
  deriving DecidableEq, Hashable, Repr, Inhabited

structure Item where
  head : Nat
  read : Nat
  /-- the symbol to come; none if all is read -/
  next : Option Nat
  /-- the symbol after it -/
  second : Option Nat
  /-- the item after reading `next` -/
  advanced : Nat
  /-- rank and side of the symbol read last -/
  level : Option Int
  side : Option Side
  reduction : Nat
  deriving Repr, Inhabited

/-! ### Order -/

def listLt : List Nat → List Nat → Bool
  | [], [] => false
  | [], _ :: _ => true
  | _ :: _, [] => false
  | a :: as, b :: bs => if a = b then listLt as bs else decide (a < b)

def listLe (as bs : List Nat) : Bool := !listLt bs as

/-- a number that orders ranks, no rank first -/
def levelKey : Option Int → Nat
  | none => 0
  | some n => (n + 1000).toNat

def sideKey : Option Side → Nat
  | none => 0
  | some .left => 1
  | some .right => 2

/-- texts in their alphabetic order; no text comes first -/
def textKey (s : String) : List Nat := s.toList.map Char.toNat ++ [0]

def showingKey (s : Step) : List Nat :=
  (match s.shown with
    | none => [0]
    | some (name, isNamed) => textKey name ++ [if isNamed then 1 else 0])
  ++ textKey (s.label.getD "")

/-- special tokens come first, then plain tokens, then rules -/
def symbolKey (l : Language) (n : Nat) : Nat :=
  if n < l.plainEnd then l.tokenEnd + n else if n < l.tokenEnd then n else 2 * l.tokenEnd + n

/-- the place of the item of production `p` that has read `n` symbols -/
def itemKey (l : Language) (p : Production) (n : Nat) : List Nat :=
  let before := p.steps.toList.take n
  let last := before.getLast?
  let after := p.steps.toList.drop n
  [n, if p.head = l.symbols.size then 0 else p.head + 1, (p.weight + 1000).toNat, p.steps.size,
    levelKey (last.bind (·.level)), sideKey (last.bind (·.side))]
  ++ before.flatMap showingKey
  ++ after.flatMap fun s => symbolKey l s.symbol :: levelKey s.level :: sideKey s.side :: showingKey s

/-! ### All items -/

structure Items where
  all : Array Item
  /-- for each rule the first symbols of its productions, with the items before and after them -/
  openings : Array (List (Nat × Nat × Nat))
  /-- the item before the whole text -/
  start : Nat
  reductions : Array Reduction
  deriving Inhabited

def Production.reduction (p : Production) : Reduction :=
  ⟨p.head, p.steps.size, p.weight, p.steps.map fun s => (s.shown, s.label)⟩

/-- the production that stands for the whole text -/
def Language.whole (l : Language) : Production :=
  ⟨l.symbols.size, #[⟨l.start, none, none, none, none⟩], 0⟩

/-- numbers values in the order of their first occurrence -/
def numberAll {α : Type} [BEq α] [Hashable α] (values : List α) : Array α × HashMap α Nat :=
  values.foldl (fun (found : Array α × HashMap α Nat) a =>
    if found.2.contains a then found else (found.1.push a, found.2.insert a found.1.size)) (#[], ∅)

/-- the item of production `p` that has read `n` symbols; `number` finds items by their keys -/
def itemAt (l : Language) (number : HashMap (List Nat) Nat) (reductions : HashMap Reduction Nat)
    (p : Production) (n : Nat) : Item :=
  let last := if n = 0 then none else p.steps[n - 1]?
  let next := p.steps[n]?
  { head := p.head
    read := n
    next := next.map (·.symbol)
    second := p.steps[n + 1]?.map (·.symbol)
    advanced := if next.isSome then number.getD (itemKey l p (n + 1)) 0 else 0
    level := last.bind (·.level)
    side := last.bind (·.side)
    reduction := reductions.getD p.reduction 0 }

def Items.ofLanguage (l : Language) : Items :=
  let productions := l.whole :: l.productions.toList
  let keyed : List (List Nat × Production × Nat) := productions.flatMap fun p =>
    (List.range (p.steps.size + 1)).map fun n => (itemKey l p n, p, n)
  let sorted := keyed.mergeSort fun a b => listLe a.1 b.1
  let numbered := numberAll (sorted.map (·.1))
  let reductions := numberAll (l.productions.toList.map Production.reduction)
  let number := numbered.2
  let all := keyed.foldl (fun found e =>
    found.setIfInBounds (number.getD e.1 0) (itemAt l number reductions.2 e.2.1 e.2.2))
    (numbered.1.map fun _ => default)
  { all := all
    openings := l.productionsOf.map fun ps => ps.filterMap fun i =>
      let p := l.productions.getD i default
      p.steps[0]?.map fun s =>
        (s.symbol, number.getD (itemKey l p 0) 0, number.getD (itemKey l p 1) 0)
    start := number.getD (itemKey l l.whole 0) 0
    reductions := reductions.1 }

end EndpointScaffold.Grammar
