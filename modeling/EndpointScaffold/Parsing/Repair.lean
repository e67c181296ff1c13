import EndpointScaffold.Parsing.Machine

/-!
# Repair

What a version does when its next token fits nowhere. It completes whatever can be completed, tries
to go on as if one token were there that is missing, and then either goes back to an earlier state
that can read the token, with all in between as damage, or passes over the token.
-/

namespace EndpointScaffold.Parsing

open Grammar

variable {σ : Type} [BEq σ] [Inhabited σ]

namespace Machine

/-! ### Completing what can be completed -/

/-- tokens that a state can do something with, in order; the end of the text is none of them -/
def readableTokens (e : Setting σ) (state : Nat) : List Nat :=
  ((e.table.expected state).toList e.table.language.tokenEnd).drop
    (if (e.table.expected state).contains 0 then 1 else 0)

/-- adds a reduction unless one of the same head and size is there -/
def addReduction (t : Table) (found : List Nat) (n : Nat) : List Nat :=
  let r := t.reductions.getD n default
  let isKnown := found.any fun m =>
    let s := t.reductions.getD m default
    s.head == r.head && s.size == r.size
  if r.size == 0 || isKnown then found else found ++ [n]

/-- what a state can do with some tokens: whether it can read one of them, and the reductions -/
def possibilities (e : Setting σ) (state : Nat) (tokens : List Nat) : Bool × List Nat :=
  tokens.foldl (fun found t =>
    (e.table.actions state t).foldl (fun (found : Bool × List Nat) a =>
      match a with
      | .shift _ false => (true, found.2)
      | .reduce n => (found.1, addReduction e.table found.2 n)
      | _ => found) found) (false, [])

/-- completes what can be completed in version `v` and in those from `next` on that come of it,
before the token `token`, or before any token if that is 0. Tells whether the token can be read in
one of them; versions that cannot read it are given up. -/
def completeFrom (e : Setting σ) (token start initial : Nat) :
    Nat → Nat → Nat → Bool → Work σ Bool
  | 0, _, _, can => pure can
  | fuel + 1, v, rounds, can => do
    let count ← versionCount
    if count ≤ v then return can
    if ← mergeEarlier e count v (v + 1) initial then
      return ← completeFrom e token start initial fuel v (rounds + 1) can
    let state := (← top v).state
    let (reads, reductions) :=
      if state = 0 then (true, [])
      else possibilities e state (if token = 0 then readableTokens e state else [token])
    let mut made : Option Nat := none
    for r in reductions do
      made ← reduce e v r false
    if !reads && rounds < Bound.versions then
      match made with
      | some n =>
        renumber n v
        return ← completeFrom e token start initial fuel v (rounds + 1) can
      | none => pure ()
    if !reads && token != 0 then removeVersion v
    completeFrom e token start initial fuel (if v = start then count else v + 1) (rounds + 1)
      (can || reads)

def completeAllFrom (e : Setting σ) (v token : Nat) : Work σ Bool := do
  let initial ← versionCount
  completeFrom e token v initial 10000 v 0 false

/-! ### Going back -/

/-- goes back to the state `goal` at a depth, with what is above as damage; tells whether it is
there -/
def goBack (e : Setting σ) (v depth goal : Nat) : Work σ Bool := do
  let mut found := false
  for p in ← pop v depth do
    if (← top p.version).state != goal then halt p.version
    else
      let damage ← popDamage p.version
      let all := (damage.head?.map (·.parts)).getD [] ++ p.readings.headD []
      let (parts, extras) := Fragment.splitExtras all
      if !parts.isEmpty then
        let f := (Fragment.node e.table e.source .damage none parts 0).withFacts fun f =>
          { f with isExtra := true }
        push e p.version (some f) goal
      for x in extras do push e p.version (some x) goal
      found := true
  pure found

def removeIdle : Nat → Nat → Work σ Unit
  | 0, _ => pure ()
  | fuel + 1, i => do
    if i < (← versionCount) then
      if (← version i).status == .active then removeIdle fuel (i + 1)
      else
        removeVersion i
        removeIdle fuel i

def removeBehind (i : Nat) : Work σ Unit :=
  modify fun m => { m with versions := m.versions.extract 0 (i + 1) }

/-- goes back to the first state of the summary that can read the token and is worth it -/
def goBackFor (e : Setting σ) (v count nodes cost place : Nat) (role : Role) :
    List Level → Work σ Bool
  | [] => pure false
  | l :: ls => do
    if l.state == 0 || l.place == place then return ← goBackFor e v count nodes cost place role ls
    let m ← get
    let isThere := (m.versions.toList.take count).any fun x =>
      let t := m.nodes.getD x.top default
      t.state == l.state && t.place == place
    if isThere then return ← goBackFor e v count nodes cost place role ls
    let newCost := cost + l.depth * Cost.node + e.source.bytesBetween l.place place * Cost.byte
      + e.source.linesBetween l.place place * Cost.line
    if ← isBeaten v false newCost then return false
    if e.canRead l.state role then
      if ← goBack e v (if 0 < nodes then l.depth + 1 else l.depth) l.state then return true
    goBackFor e v count nodes cost place role ls

/-! ### Passing over -/

def passOver (e : Setting σ) (v nodes : Nat) (token : Fragment σ) : Work σ Unit := do
  let isExtra := (e.actions 1 token.facts.role).getLast? == some .skip
  let token := if isExtra then token.withFacts fun f => { f with isExtra := true } else token
  let passed := Fragment.node e.table e.source .passed none [token] 0
  if 0 < nodes then
    match ← pop v 1 with
    | [] => push e v (some passed) 0
    | p :: rest =>
      if !rest.isEmpty then removeBehind p.version
      renumber p.version v
      push e v (some (Fragment.node e.table e.source .passed none
        (p.readings.headD [] ++ [passed]) 0)) 0
  else push e v (some passed) 0
  match token.facts.after with
  | some s => changeVersion v fun x => { x with scanner := s }
  | none => pure ()

/-- goes on after damage with a token -/
def recover (e : Setting σ) (v : Nat) (token : Fragment σ) : Work σ Unit := do
  let count ← versionCount
  let place := (← top v).place
  let summary := (← version v).summary
  let nodes ← nodesSinceDamage v
  let cost ← costOf v
  let isBack ←
    if token.isDamage then pure false
    else goBackFor e v count nodes cost place token.facts.role (summary.getD [])
  removeIdle ((← versionCount) + 1) count
  if token.facts.role == .symbol 0 then
    push e v (some (Fragment.node e.table e.source .damage none [] place)) 1
    accept e v token
  else if isBack && Bound.versions < (← versionCount) then halt v
  else if isBack && token.facts.changesState then halt v
  else
    let f := token.facts
    let newCost := cost + Cost.node + e.source.bytesBetween f.before f.stop * Cost.byte
      + e.source.linesBetween f.before f.stop * Cost.line
    if ← isBeaten v false newCost then halt v
    else passOver e v nodes token

/-! ### Meeting damage -/

/-- tries to go on in version `v` with a token put in that is missing before `role`; tells whether
that works -/
def tryMissing (e : Setting σ) (v place : Nat) (role : Role) (state : Nat) :
    List Nat → Work σ Bool
  | [] => pure false
  | t :: ts => do
    let after := e.table.after state t
    let completes :=
      match e.actions after role with
      | .reduce _ :: _ => true
      | _ => false
    if after != 0 && after != state && completes then
      let x ← version v
      let n ← addVersion { x with summary := none }
      push e n (some ((Fragment.leaf (.symbol t) place place place).withFacts fun f =>
        { f with isMissing := true })) after
      let token := match role with
        | .symbol n => n
        | _ => 0
      if ← completeAllFrom e n token then return true
    tryMissing e v place role state ts

/-- marks the damage in version `v` and in those from `next` on, trying to put a missing token in -/
def markDamage (e : Setting σ) (place : Nat) (role : Role) (v next count : Nat) :
    Nat → Nat → Bool → Work σ Unit
  | 0, _, _ => pure ()
  | fuel + 1, w, isDone => do
    if w < count then
      let state := (← top w).state
      let isDone ←
        if isDone || state == 0 then pure isDone
        else tryMissing e w place role state (readableTokens e state)
      push e w none 0
      markDamage e place role v next count fuel (if w = v then next else w + 1) isDone

def summaryOf (v : Nat) : Work σ (List Level) := do
  let m ← get
  let r ← paths v (fun (found : List Level) p =>
    if Bound.depth < p.count then ⟨found, false, true⟩
    else
      let t := m.nodes.getD p.node default
      if (found.takeWhile fun l => p.count ≤ l.depth).any fun l =>
          l.depth == p.count && l.state == t.state then ⟨found, false, false⟩
      else ⟨⟨t.state, p.count, t.place⟩ :: found, false, false⟩) []
  pure r.1.reverse

/-- merges the `n` versions from `i` on into version `v` -/
def mergeMarked (e : Setting σ) (v i : Nat) : Nat → Work σ Unit
  | 0 => pure ()
  | n + 1 => do
    let _ ← merge e v i
    mergeMarked e v i n

/-- what a version does that cannot read a token -/
def handleDamage (e : Setting σ) (v : Nat) (token : Fragment σ) : Work σ Unit := do
  let before ← versionCount
  let _ ← completeAllFrom e v 0
  let count ← versionCount
  let place := (← top v).place
  markDamage e place token.facts.role v before count (count + 1) v false
  mergeMarked e v before (count - before)
  let summary ← summaryOf v
  changeVersion v fun x => { x with summary := some summary }
  recover e v token

end Machine

end EndpointScaffold.Parsing
