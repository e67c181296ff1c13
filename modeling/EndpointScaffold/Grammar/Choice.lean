import EndpointScaffold.Grammar.Automaton

/-!
# Choices between readings

In a state a token can be read on with, or complete an item, or both, or complete several items.
`Row.ofDraft` weighs these readings against each other:

* of completed items those of the highest rank stay;
* reading on wins over completing if every item that reads on has the higher rank, and loses if
  every one has the lower; at equal ranks the side decides, left for completing;
* where this decides nothing, all readings stay and are followed side by side.

Reading on with a repetition that the same token could also complete is only marked: the repetition
is completed first.
-/

namespace EndpointScaffold.Grammar

open Std

/-- what can be done in a state with each token; a target of 0 is no target -/
structure Row where
  symbols : Array Nat
  targets : Array Nat
  /-- tokens that complete items, with the number of the list of their reductions -/
  reduces : List (SymbolSet × Nat)
  /-- tokens that read on with a repetition which they could also complete -/
  repeats : SymbolSet
  /-- all tokens that can be done something with -/
  expects : SymbolSet
  deriving Inhabited

/-- tokens that complete the same items -/
structure Region where
  tokens : SymbolSet
  reductions : List Nat
  level : Option Int
  heads : List Nat
  sides : List (Option Side)
  deriving Inhabited

/-- how the first of two groups of rules compares with the second by rank, or if there is none by
the preferences of the grammar -/
def compareRanks (l : Language) (level : Option Int) (heads : List Nat) (level' : Option Int)
    (heads' : List Nat) : Ordering :=
  let a := level.getD 0
  let b := level'.getD 0
  if a != 0 || b != 0 then (if a < b then .lt else if b < a then .gt else .eq)
  else
    (l.preferences.findSome? fun p =>
      if heads.contains p.1 then
        (if !heads.contains p.2 && heads'.contains p.2 then some .gt else none)
      else if heads'.contains p.1 && heads.contains p.2 then some .lt
      else none).getD .eq

/-- joins a completed item to the regions, where its tokens are `tokens` -/
def addCompleted (l : Language) (item : Item) (reduction : Nat) (tokens : SymbolSet) :
    List Region → List Region
  | [] =>
    if tokens.isEmpty then [] else [⟨tokens, [reduction], item.level, [item.head], [item.side]⟩]
  | r :: rs =>
    let common := r.tokens.inter tokens
    if common.isEmpty then r :: addCompleted l item reduction tokens rs
    else
      let here : Region :=
        match compareRanks l item.level [item.head] r.level r.heads with
        | .gt => ⟨common, [reduction], item.level, [item.head], [item.side]⟩
        | .eq => ⟨common, r.reductions ++ [reduction], item.level, item.head :: r.heads,
            item.side :: r.sides⟩
        | .lt => { r with tokens := common }
      let left := r.tokens.diff common
      let rest := here :: addCompleted l item reduction (tokens.diff common) rs
      if left.isEmpty then rest else { r with tokens := left } :: rest

/-- which of two readings stays -/
inductive Outcome where
  | readOn
  | complete
  | both
  | repetition
  deriving DecidableEq, Repr

/-- what to do with a token that can be read on with and completes the items of a region. `items`
are the items of the kernel with their tokens. -/
def outcome (l : Language) (items : List (Item × SymbolSet)) (r : Region) (token : Nat) :
    Outcome :=
  let waiting := items.filter fun e =>
    e.1.read != 0 && e.1.next.any fun s => (l.firstsOf s).contains token
  let completed := items.filter fun e => e.1.next.isNone && e.2.contains token
  let heads := (waiting ++ completed).filterMap fun e =>
    if e.1.head = l.symbols.size then none else some e.1.head
  let isRepetition :=
    match heads with
    | [] => false
    | h :: hs => hs.all (· == h) && decide (l.repetitionStart ≤ h)
  if isRepetition then .repetition
  else
    let orders := waiting.map fun e => compareRanks l e.1.level [e.1.head] r.level r.heads
    match orders.contains .gt, orders.contains .lt with
    | true, true => .both
    | true, false => .readOn
    | false, true => .complete
    | false, false =>
      if r.sides.all (· == some .left) then .complete
      else if r.sides.all (· == some .right) then .readOn
      else .both

/-! ### Rows -/

/-- lists of reductions with their numbers; the last reduction number stands for accepting -/
structure Lists where
  all : Array (List Nat)
  numbers : HashMap (List Nat) Nat
  deriving Inhabited

def Lists.number (rs : List Nat) : StateM Lists Nat := do
  match (← get).numbers[rs]? with
  | some n => pure n
  | none =>
    modifyGet fun s => (s.all.size, ⟨s.all.push rs, s.numbers.insert rs s.all.size⟩)

/-- joins the tokens of equal lists -/
def addReduces (tokens : SymbolSet) (n : Nat) :
    List (SymbolSet × Nat) → List (SymbolSet × Nat)
  | [] => [(tokens, n)]
  | (s, m) :: rest =>
    if m = n then (s.union tokens, m) :: rest else (s, m) :: addReduces tokens n rest

namespace Row

def reduceTokens (r : Row) : SymbolSet := r.reduces.foldl (fun s e => s.union e.1) .empty

/-- whether anything can follow, as after an extra rule -/
def isOpenEnded (l : Language) (r : Row) : Bool := r.expects.contains l.anything

def ofDraft (a : Automaton) (extras : SymbolSet) (isStart : Bool) (d : Draft) :
    StateM Lists Row := do
  let l := a.language
  let items := d.kernel.toList.map fun e => (a.items.all.getD e.1 default, a.sets.getD e.2 .empty)
  let regions := items.foldl (fun rs e =>
    if e.1.next.isSome then rs
    else
      let reduction := if e.1.head = l.symbols.size then a.items.reductions.size else e.1.reduction
      addCompleted l e.1 reduction e.2 rs) []
  let shifts := d.tokens
  let mut targets := d.targets
  let mut repeats := SymbolSet.empty
  let mut reduces : List (SymbolSet × Nat) := []
  let mut expects := shifts
  for r in regions do
    let mut tokens := r.tokens
    let common := r.tokens.inter shifts
    if !common.isEmpty then
      for t in common.toList l.tokenEnd do
        match outcome l items r t with
        | .readOn => tokens := tokens.diff (.single t)
        | .complete =>
          match d.symbols.findIdx? (· == t) with
          | some i => targets := targets.setIfInBounds i 0
          | none => pure ()
        | .both => pure ()
        | .repetition => repeats := repeats.insert t
    if !tokens.isEmpty then
      let n ← Lists.number r.reductions
      reduces := addReduces tokens n reduces
    expects := expects.union r.tokens
  if isStart then
    for i in [0:a.items.reductions.size] do
      let r := a.items.reductions.getD i default
      if r.head == l.start && r.size == 0 then
        let n ← Lists.number [i]
        reduces := addReduces (.single 0) n reduces
        expects := expects.insert 0
  if !expects.contains l.anything then expects := expects.union extras
  pure ⟨d.symbols, targets, reduces, repeats, expects⟩

end Row

def Automaton.rows (a : Automaton) : Array Row × Array (List Nat) :=
  let extras := SymbolSet.ofList (a.language.extraTokens ++ a.extraStarts.map (·.1))
  let make : StateM Lists (Array Row) := do
    let mut rows : Array Row := Array.mkEmpty a.drafts.size
    for i in [0:a.drafts.size] do
      if i == 0 then rows := rows.push ⟨#[], #[], [], .empty, .empty⟩
      else rows := rows.push (← Row.ofDraft a extras (i == 1) (a.drafts.getD i default))
    pure rows
  let r := make.run ⟨#[], ∅⟩
  (r.1, r.2.all)

end EndpointScaffold.Grammar
