import EndpointScaffold.Grammar.Item

/-!
# The automaton of a grammar

A state of the automaton stands for a set of items, each with the tokens that may follow it once it
is complete. `Automaton.ofLanguage` makes all states that can be reached, each item of a state with
exactly the tokens that are possible there.

A state is known by its kernel, the items that something has been read of. What the rules that can
begin there add depends only on those rules and on what may follow them; this part, the opening, is
made once and shared by the states that have it.
-/

namespace EndpointScaffold.Grammar

open Std

/-- items with the numbers of the sets of tokens that may follow, in the order of the items -/
abbrev Kernel := Array (Nat × Nat)

structure Part where
  symbol : Nat
  /-- orders the parts of an opening -/
  place : Nat
  kernel : Kernel
  deriving Inhabited

/-- what rules that can begin in a state lead to; the state after a part is 0 until it is made -/
structure Opening where
  parts : Array Part
  targets : Array Nat
  /-- the symbols of the parts that are tokens -/
  tokens : SymbolSet
  deriving Inhabited

/-- a state with the states after it -/
structure Draft where
  kernel : Kernel
  symbols : Array Nat
  targets : Array Nat
  /-- the symbols that are tokens -/
  tokens : SymbolSet
  deriving Inhabited

structure Drafting where
  drafts : Array Draft
  draftOf : HashMap (Array Nat) Nat
  sets : Array SymbolSet
  setOf : HashMap SymbolSet Nat
  openings : Array Opening
  openingOf : HashMap (Array Nat) Nat

/-! ### Numbers of sets and states -/

namespace Drafting

def empty : Drafting := ⟨#[], ∅, #[], ∅, #[], ∅⟩

def numberSet (s : SymbolSet) : StateM Drafting Nat := do
  match (← get).setOf[s]? with
  | some n => pure n
  | none =>
    modifyGet fun d => (d.sets.size, { d with
      sets := d.sets.push s, setOf := d.setOf.insert s d.sets.size })

/-- the state of a kernel, made if there is none yet -/
def numberDraft (kernel : Kernel) : StateM Drafting Nat := do
  let key := kernel.foldl (fun key e => (key.push e.1).push e.2) #[]
  match (← get).draftOf[key]? with
  | some n => pure n
  | none =>
    modifyGet fun d => (d.drafts.size, { d with
      drafts := d.drafts.push ⟨kernel, #[], #[], .empty⟩
      draftOf := d.draftOf.insert key d.drafts.size })

/-- adds an item to a kernel; the tokens of an item already there are joined -/
def addItem (kernel : Kernel) (item set : Nat) : StateM Drafting Kernel := do
  match kernel.findIdx? fun e => e.1 == item with
  | some i =>
    let old := (kernel.getD i default).2
    if old == set then pure kernel
    else
      let d ← get
      let n ← numberSet ((d.sets.getD old .empty).union (d.sets.getD set .empty))
      pure (kernel.setIfInBounds i (item, n))
  | none =>
    let before := kernel.takeWhile fun e => decide (e.1 < item)
    pure (before ++ #[(item, set)] ++ kernel.extract before.size kernel.size)

end Drafting

/-! ### Openings -/

/-- for each rule the rules that its productions begin with, and what can follow them there; nothing
if they end it -/
def Language.leads (l : Language) : Array (List (Nat × Option SymbolSet)) :=
  l.productionsOf.map fun ps => ps.filterMap fun i =>
    let p := l.productions.getD i default
    match p.steps[0]? with
    | none => none
    | some s =>
      if l.isToken s.symbol then none
      else some (s.symbol, p.steps[1]?.map fun t => l.firstsOf t.symbol)

/-- the rules that can begin where a rule begins: the tokens that can follow each within it, and
whether what follows the whole can follow it too -/
def spread (leads : Array (List (Nat × Option SymbolSet))) :
    Nat → List Nat → HashMap Nat (SymbolSet × Bool) → HashMap Nat (SymbolSet × Bool)
  | 0, _, found => found
  | _, [], found => found
  | fuel + 1, rule :: work, found =>
    let here := found.getD rule (.empty, false)
    let next := (leads.getD rule []).foldl
      (fun (s : List Nat × HashMap Nat (SymbolSet × Bool)) lead =>
        let new := match lead.2 with
          | some follow => (follow, false)
          | none => here
        match s.2[lead.1]? with
        | none => (lead.1 :: s.1, s.2.insert lead.1 new)
        | some old =>
          let joined := (old.1.union new.1, old.2 || new.2)
          if joined == old then s else (lead.1 :: s.1, s.2.insert lead.1 joined))
      (work, found)
    spread leads fuel next.1 next.2

def Language.spreads (l : Language) : Array (List (Nat × SymbolSet × Bool)) :=
  let leads := l.leads
  (Array.range l.symbols.size).map fun n =>
    if l.isToken n then []
    else (spread leads 100000 [n] (HashMap.ofList [(n, (.empty, true))])).toList

/-- rules that can begin in a state, with what may follow them -/
abbrev Beginnings := List (Nat × SymbolSet)

def Beginnings.add (rule : Nat) (follow : SymbolSet) : Beginnings → Beginnings
  | [] => [(rule, follow)]
  | (r, f) :: rest =>
    if r = rule then (r, f.union follow) :: rest
    else if rule < r then (rule, follow) :: (r, f) :: rest
    else (r, f) :: Beginnings.add rule follow rest

/-- the place of a token among the parts: special tokens before plain ones -/
def Language.tokenPlace (l : Language) (n : Nat) : Nat :=
  if n < l.plainEnd then l.tokenEnd + n else n

/-- the place of a rule, by the first item that waits for it -/
def Language.rulePlace (l : Language) (item : Nat) : Nat := 2 * l.tokenEnd + item

/-- what the rules lead to, given what may follow each of them -/
def openingParts (l : Language) (items : Items) (follows : Array (Nat × SymbolSet)) :
    StateM Drafting (Array Part) := do
  let mut parts : Array Part := #[]
  let mut partOf : HashMap Nat Nat := ∅
  for (rule, follow) in follows do
    let set ← Drafting.numberSet follow
    for (symbol, before, after) in items.openings.getD rule [] do
      let place := if l.isToken symbol then l.tokenPlace symbol else l.rulePlace before
      match partOf[symbol]? with
      | none =>
        partOf := partOf.insert symbol parts.size
        parts := parts.push ⟨symbol, place, #[(after, set)]⟩
      | some i =>
        let part := parts.getD i default
        let kernel ← Drafting.addItem part.kernel after set
        parts := parts.setIfInBounds i ⟨symbol, min place part.place, kernel⟩
  pure (parts.toList.mergeSort fun p q => decide (p.place ≤ q.place)).toArray

def Language.tokensOfParts (l : Language) (parts : List Part) : SymbolSet :=
  .ofList ((parts.map (·.symbol)).filter l.isToken)

def addOpening (l : Language) (key : Array Nat) (parts : Array Part) : StateM Drafting Nat :=
  modifyGet fun d => (d.openings.size, { d with
    openings := d.openings.push ⟨parts, parts.map fun _ => 0, l.tokensOfParts parts.toList⟩
    openingOf := d.openingOf.insert key d.openings.size })

def numberOpening (l : Language) (items : Items)
    (spreads : Array (List (Nat × SymbolSet × Bool))) (bs : Beginnings) :
    StateM Drafting Nat := do
  let mut key : Array Nat := #[]
  for (rule, follow) in bs do
    key := (key.push rule).push (← Drafting.numberSet follow)
  match (← get).openingOf[key]? with
  | some n => pure n
  | none =>
    let mut follows : HashMap Nat SymbolSet := ∅
    for (rule, follow) in bs do
      for (r, within, passes) in spreads.getD rule [] do
        let here := if passes then within.union follow else within
        follows := follows.insert r ((follows.getD r .empty).union here)
    let parts ← openingParts l items follows.toArray
    addOpening l key parts

/-! ### States -/

/-- what the items of a kernel lead to by themselves, in the order of the parts -/
def ownParts (l : Language) (items : Items) (kernel : Kernel) :
    StateM Drafting (List Part) := do
  let mut parts : Array Part := #[]
  for (item, set) in kernel do
    let i := items.all.getD item default
    match i.next with
    | none => pure ()
    | some symbol =>
      match parts.findIdx? fun p => p.symbol == symbol with
      | some n =>
        let part := parts.getD n default
        let kernel ← Drafting.addItem part.kernel i.advanced set
        parts := parts.setIfInBounds n { part with kernel := kernel }
      | none =>
        let place := if l.isToken symbol then l.tokenPlace symbol else l.rulePlace item
        parts := parts.push ⟨symbol, place, #[(i.advanced, set)]⟩
  pure (parts.toList.mergeSort fun p q => decide (p.place ≤ q.place))

def beginnings (l : Language) (items : Items) (sets : Array SymbolSet) (kernel : Kernel) :
    Beginnings :=
  kernel.foldl (fun bs e =>
    let i := items.all.getD e.1 default
    match i.next with
    | none => bs
    | some symbol =>
      if l.isToken symbol then bs
      else
        Beginnings.add symbol
          (match i.second with
            | some s => l.firstsOf s
            | none => sets.getD e.2 .empty) bs) []

/-- the symbols and states after the own parts that come before `place`, and the parts left -/
def ownBefore (place : Nat) (symbols targets : Array Nat) :
    List Part → StateM Drafting (Array Nat × Array Nat × List Part)
  | [] => pure (symbols, targets, [])
  | p :: ps =>
    if p.place < place then do
      let n ← Drafting.numberDraft p.kernel
      ownBefore place (symbols.push p.symbol) (targets.push n) ps
    else pure (symbols, targets, p :: ps)

def finishDraft (l : Language) (items : Items)
    (spreads : Array (List (Nat × SymbolSet × Bool))) (n : Nat) : StateM Drafting Unit := do
  let d ← get
  let kernel := (d.drafts.getD n default).kernel
  let bs := beginnings l items d.sets kernel
  let own ← ownParts l items kernel
  let o ← numberOpening l items spreads bs
  let opening ← modifyGet fun d =>
    (d.openings.getD o default, { d with openings := d.openings.setIfInBounds o default })
  let parts := opening.parts
  let mut made := opening.targets
  let mut left := own.filter fun p => !parts.any fun q => q.symbol == p.symbol
  let mut symbols : Array Nat := Array.mkEmpty (parts.size + 1)
  let mut targets : Array Nat := Array.mkEmpty (parts.size + 1)
  for i in [0:parts.size] do
    let part := parts.getD i default
    if !left.isEmpty then
      let r ← ownBefore part.place symbols targets left
      symbols := r.1
      targets := r.2.1
      left := r.2.2
    symbols := symbols.push part.symbol
    match own.find? fun p => p.symbol == part.symbol with
    | some p =>
      let joined ← p.kernel.foldlM (fun k e => Drafting.addItem k e.1 e.2) part.kernel
      targets := targets.push (← Drafting.numberDraft joined)
    | none =>
      let known := made.getD i 0
      if known == 0 then
        let t ← Drafting.numberDraft part.kernel
        made := made.setIfInBounds i t
        targets := targets.push t
      else targets := targets.push known
  for p in left do
    symbols := symbols.push p.symbol
    targets := targets.push (← Drafting.numberDraft p.kernel)
  finish o ⟨parts, made, opening.tokens⟩
    ⟨kernel, symbols, targets, opening.tokens.union (l.tokensOfParts own)⟩
where
  finish o opening draft := modify fun d => { d with
    openings := d.openings.setIfInBounds o opening
    drafts := d.drafts.setIfInBounds n draft }

/-- makes the states after all states from `n` on, new ones included -/
def finishFrom (l : Language) (items : Items)
    (spreads : Array (List (Nat × SymbolSet × Bool))) : Nat → Nat → StateM Drafting Unit
  | 0, _ => pure ()
  | fuel + 1, n => do
    if n < (← get).drafts.size then
      finishDraft l items spreads n
      finishFrom l items spreads fuel (n + 1)
    else pure ()

/-- an automaton; state 0 is that of damaged text and has no items, state 1 is the start -/
structure Automaton where
  language : Language
  items : Items
  drafts : Array Draft
  sets : Array SymbolSet
  /-- tokens that start an extra rule, and the states after them -/
  extraStarts : List (Nat × Nat)
  deriving Inhabited

/-- kernels of the states after the first tokens of the extra rules -/
def extraKernels (l : Language) (items : Items) (anything : Nat) : List (Nat × Kernel) :=
  l.extraRules.flatMap fun rule =>
    let openings := items.openings.getD rule []
    let tokens := openings.foldl (fun ts o => if ts.contains o.1 then ts else ts ++ [o.1]) []
    tokens.map fun t =>
      let after := (openings.filterMap fun o => if o.1 = t then some o.2.2 else none).mergeSort
        fun a b => decide (a ≤ b)
      (t, ((numberAll after).1.map fun i => (i, anything)))

/-- all states of a language, at most `limit` of them -/
def Automaton.ofLanguage (l : Language) (limit : Nat) : Automaton :=
  let items := Items.ofLanguage l
  let make : StateM Drafting (List (Nat × Nat)) := do
    let atEnd ← Drafting.numberSet (.single 0)
    let anything ← Drafting.numberSet (.single l.anything)
    modify fun d => { d with
      drafts := #[default, ⟨#[(items.start, atEnd)], #[], #[], .empty⟩] }
    let starts ← (extraKernels l items anything).mapM fun e => do
      pure (e.1, ← Drafting.numberDraft e.2)
    finishFrom l items l.spreads limit 1
    pure starts
  let r := make.run .empty
  ⟨l, items, r.2.drafts, r.2.sets, r.1⟩

end EndpointScaffold.Grammar
