import EndpointScaffold.Grammar.Merging

/-!
# Tables

A table tells what to do in each state with each token. `Table.ofRulebook` makes it from a grammar:
the automaton, the choice between readings, and the merging of states.
-/

namespace EndpointScaffold.Grammar

open Std

inductive Action where
  /-- read the token and go on in a state; a repetition is completed first -/
  | shift (state : Nat) (isRepetition : Bool)
  /-- read the token as an extra and stay in the state -/
  | skip
  /-- complete the items of a reduction -/
  | reduce (reduction : Nat)
  | accept
  deriving DecidableEq, Hashable, Repr, Inhabited

structure Table where
  language : Language
  reductions : Array Reduction
  /-- lists of actions; number 0 is the empty one -/
  lists : Array (List Action)
  /-- for each state and token the number of a list of actions -/
  cells : Array (Array Nat)
  /-- for each state and rule the state after the rule; 0 if there is none -/
  gotos : Array (Array Nat)
  /-- for each state the tokens that it expects -/
  expects : Array SymbolSet
  deriving Inhabited

namespace Table

/-- what the states of a group do together -/
def joinRows (rows : Array Row) (states : Array Nat) : Row :=
  states.foldl (fun joined i =>
    let r := rows.getD i default
    { symbols := r.symbols
      targets := (Array.range r.targets.size).map fun n =>
        let t := r.targets.getD n 0
        if t == 0 then joined.targets.getD n 0 else t
      reduces := r.reduces.foldl (fun found e => addReduces e.1 e.2 found) joined.reduces
      repeats := joined.repeats.union r.repeats
      expects := joined.expects.union r.expects }) default

structure ActionLists where
  all : Array (List Action)
  numbers : HashMap (List Action) Nat

def ActionLists.number (actions : List Action) : StateM ActionLists Nat := do
  match (← get).numbers[actions]? with
  | some n => pure n
  | none =>
    modifyGet fun s => (s.all.size, ⟨s.all.push actions, s.numbers.insert actions s.all.size⟩)

/-- a reduction number as an action; the number behind the last stands for accepting -/
def completing (a : Automaton) (n : Nat) : Action :=
  if n = a.items.reductions.size then .accept else .reduce n

def cellsOf (a : Automaton) (g : Grouping) (lists : Array (List Nat)) (r : Row) :
    StateM ActionLists (Array Nat) := do
  let l := a.language
  let mut actions : Array (List Action) := Array.replicate (l.tokenEnd + 1) []
  for (tokens, n) in r.reduces do
    for t in tokens.toList (l.tokenEnd + 1) do
      actions := actions.setIfInBounds t ((lists.getD n []).map (completing a))
  for i in [0:r.symbols.size] do
    let symbol := r.symbols.getD i 0
    let target := r.targets.getD i 0
    if l.isToken symbol && target != 0 then
      actions := actions.modify symbol
        (· ++ [.shift (g.target target) (r.repeats.contains symbol)])
  if !r.isOpenEnded l then
    for (token, state) in a.extraStarts do
      actions := actions.modify token fun as =>
        if as.isEmpty then [.shift (g.target state) false] else as
    for token in l.extraTokens do
      actions := actions.modify token fun as => if as.isEmpty then [.skip] else as
  actions.mapM ActionLists.number

/-- the states after the rules -/
def gotosOf (l : Language) (g : Grouping) (r : Row) : Array Nat :=
  (List.range r.symbols.size).foldl (fun found i =>
    let symbol := r.symbols.getD i 0
    if l.isToken symbol then found
    else found.setIfInBounds (symbol - l.tokenEnd) (g.target (r.targets.getD i 0)))
    (Array.replicate (l.symbols.size - l.tokenEnd) 0)

def ofAutomaton (a : Automaton) (clashes : Array SymbolSet) : Table :=
  let (rows, lists) := a.rows
  let g := Grouping.ofRows a clashes rows
  let joined := g.groups.map (joinRows rows)
  let r := (joined.mapM (cellsOf a g lists)).run ⟨#[[]], HashMap.ofList [([], 0)]⟩
  { language := a.language
    reductions := a.items.reductions
    lists := r.2.all
    cells := r.1
    gotos := joined.map (gotosOf a.language g)
    expects := joined.map (·.expects) }

/-- for each token the tokens that must not be expected beside it, from pairs of which the first
must not join the second -/
def clashesOf (l : Language) (pairs : List (Nat × Nat)) : Array SymbolSet :=
  pairs.foldl (fun found p => found.modify p.2 (·.insert p.1)) (Array.replicate l.tokenEnd .empty)

/-! ### Looking up -/

def actions (t : Table) (state token : Nat) : List Action :=
  t.lists.getD ((t.cells.getD state #[]).getD token 0) []

def expected (t : Table) (state : Nat) : SymbolSet := t.expects.getD state .empty

/-- whether anything can follow, as after an extra rule -/
def isOpenEnded (t : Table) (state : Nat) : Bool :=
  (t.expected state).contains t.language.anything

/-- the state after a symbol; 0 if there is none -/
def after (t : Table) (state symbol : Nat) : Nat :=
  if t.language.isToken symbol then
    match (t.actions state symbol).getLast? with
    | some (.shift s _) => s
    | some .skip => state
    | _ => 0
  else if t.language.extraRules.contains symbol then
    (if state = 0 || t.isOpenEnded state then 0 else state)
  else (t.gotos.getD state #[]).getD (symbol - t.language.tokenEnd) 0

end Table

end EndpointScaffold.Grammar
