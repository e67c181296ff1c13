import EndpointScaffold.Parsing.Versions

/-!
# Reading on

The steps of a version as long as the text is sound: find the next token, read it, complete what it
completes, accept. Where the table leaves several readings open the version splits.
-/

namespace EndpointScaffold.Parsing

open Grammar

variable {σ : Type} [BEq σ] [Inhabited σ]

namespace Setting

/-- actions of a state on a token; in damage every token is damage, so there are none -/
def actions (e : Setting σ) (state : Nat) (role : Role) : List Action :=
  match role with
  | .symbol n => if state = 0 then [] else e.table.actions state n
  | _ => []

/-- whether a state has something to do with a token -/
def canRead (e : Setting σ) (state : Nat) (role : Role) : Bool :=
  match role with
  | .symbol n =>
    if state = 0 then
      e.recoveryTokens.contains n
        || (e.table.language.plainEnd ≤ n && n < e.table.language.tokenEnd)
    else !(e.table.actions state n).isEmpty
  | _ => false

def after (e : Setting σ) (state : Nat) (role : Role) : Nat :=
  match role with
  | .symbol n => e.table.after state n
  | _ => 0

end Setting

namespace Machine

/-! ### Tokens -/

/-- the next place from `i` on where a token can be found in damaged text; what a search has taken
in vain is not searched again -/
def nextToken (e : Setting σ) : Nat → Nat → Nat
  | 0, i => i
  | fuel + 1, i =>
    if (e.plain e.recoveryTokens i).isSome || e.source.size ≤ i then i
    else nextToken e fuel (max (e.reach i) (i + 1))

/-- a plain token as a fragment: a word that the state can read as a reserved one is that -/
def tokenFragment (e : Setting σ) (state before : Nat) (found : Nat × Nat × Nat) : Fragment σ :=
  let (token, start, stop) := found
  let l := e.table.language
  let reserved :=
    if token = l.word then l.reserved[e.source.slice start stop]? else none
  let symbol :=
    match reserved with
    | some r => if e.canRead state (.symbol r) then r else token
    | none => token
  (Fragment.leaf (.symbol symbol) before start stop).withFacts fun f =>
    { f with isReserved := reserved.isSome }

/-- the next token of a version, or the text up to it if it is no token; none where anything can
follow -/
def nextFragment (e : Setting σ) (v : Nat) : Work σ (Option (Fragment σ)) := do
  let x ← version v
  let t ← node x.top
  if t.state != 0 && e.table.isOpenEnded t.state then return none
  let expects := if t.state = 0 then e.recoveryTokens else e.table.expected t.state
  if t.state != 0 then
    match e.special expects t.place x.scanner with
    | none => pure ()
    | some (symbol, start, stop, after) =>
      let isIdle ←
        if stop ≤ t.place && after == x.scanner then do
          pure (!(← advancedSinceDamage v) || e.table.after t.state symbol == t.state)
        else pure false
      if !isIdle then
        return some ((Fragment.leaf (.symbol symbol) t.place start stop).withFacts fun f =>
          { f with after := some after, changesState := !(after == x.scanner) })
    match e.plain expects t.place with
    | some found => return some (tokenFragment e t.state t.place found)
    | none => pure ()
  match e.plain e.recoveryTokens t.place with
  | some found => pure (some (tokenFragment e t.state t.place found))
  | none =>
    let start := e.source.skip e.isSpace t.place
    let stop := nextToken e (e.source.size + 1) start
    pure (some (Fragment.leaf .damage t.place start (min stop e.source.size)))

/-! ### Reading and completing -/

def shift (e : Setting σ) (v state : Nat) (token : Fragment σ) (isExtra : Bool) : Work σ Unit := do
  push e v (some (if token.parts.isEmpty then token.withFacts fun f => { f with isExtra := isExtra }
    else token)) state
  match token.facts.after with
  | some s => changeVersion v fun x => { x with scanner := s }
  | none => pure ()

/-- of several readings of the same text the one to keep, with the extras after it -/
def bestReading (e : Setting σ) (r : Reduction) (number place : Nat)
    (readings : List (List (Fragment σ))) : Fragment σ × List (Fragment σ) :=
  let made := readings.map fun fs =>
    let (parts, extras) := Fragment.splitExtras fs
    (Fragment.node e.table e.source (.symbol r.head) (some number) parts place, extras)
  match made with
  | [] => default
  | first :: rest => rest.foldl (fun best m =>
      if Fragment.prefersSecond best.1 m.1 then m else best) first

/-- merges version `n` into the first of the versions before it that it has met, `v` apart -/
def mergeEarlier (e : Setting σ) (v n : Nat) : Nat → Nat → Work σ Bool
  | 0, _ => pure false
  | fuel + 1, i => do
    if n ≤ i then return false
    if i != v then
      if ← merge e i n then return true
    mergeEarlier e v n fuel (i + 1)

/-- completes a symbol in each of the popped versions; `removed` versions before them are gone -/
def completeAll (e : Setting σ) (v : Nat) (r : Reduction) (number : Nat) (isEnd : Bool)
    (limit : Nat) : Nat → List (Popped σ) → Work σ Unit
  | _, [] => pure ()
  | removed, p :: ps => do
    let n := p.version - removed
    if limit < n then
      removeVersion n
      completeAll e v r number isEnd limit (removed + 1) ps
    else
      let t ← top n
      let (parent, extras) := bestReading e r number t.place p.readings
      let state := e.table.after t.state r.head
      let parent := parent.withFacts fun f =>
        { f with weight := f.weight + r.weight, isExtra := f.isExtra || (isEnd && state == t.state) }
      push e n (some parent) state
      for x in extras do push e n (some x) state
      let merged ← mergeEarlier e v n (n + 1) 0
      completeAll e v r number isEnd limit (if merged then removed + 1 else removed) ps

/-- completes a symbol; the number of the first version made by this, if there is any. `isEnd`
holds at the end of an extra rule. -/
def reduce (e : Setting σ) (v number : Nat) (isEnd : Bool) : Work σ (Option Nat) := do
  let r := e.table.reductions.getD number default
  let first ← versionCount
  let popped ← pop v r.size
  let m ← get
  let halted := (m.versions.filter fun x => x.status == .halted).size
  completeAll e v r number isEnd (Bound.versions + Bound.overflow + halted) 0 popped
  pure (if first < (← versionCount) then some first else none)

/-- the tree of a complete stack: the last fragment that is no extra, with the extras around it
inside -/
def wholeTree (e : Setting σ) (fs : List (Fragment σ)) : Option (Fragment σ) :=
  let isRoot := fun f : Fragment σ => !f.facts.isExtra && f.facts.role != .symbol 0
  let behind := (fs.reverse.takeWhile fun f => !isRoot f).reverse
  match (fs.take (fs.length - behind.length)).getLast? with
  | none => none
  | some root =>
    let before := fs.take (fs.length - behind.length - 1)
    some (Fragment.node e.table e.source root.facts.role root.facts.reduction
      (before ++ root.parts ++ behind) 0)

/-- reads the end of the text and keeps the tree if it is the best one -/
def accept (e : Setting σ) (v : Nat) (token : Fragment σ) : Work σ Unit := do
  push e v (some token) 1
  let popped ← popAll v
  for p in popped do
    for fs in p.readings do
      match wholeTree e fs with
      | none => modify fun m => { m with accepted := m.accepted + 1 }
      | some tree =>
        modify fun m => { m with
          accepted := m.accepted + 1
          finished :=
            match m.finished with
            | none => some tree
            | some best => some (if Fragment.prefersSecond best tree then tree else best) }
  match popped with
  | p :: _ => removeVersion p.version
  | [] => pure ()
  halt v

end Machine

end EndpointScaffold.Parsing
