import EndpointScaffold.Parsing.Repair

/-!
# Reading a text

`parse` reads a whole text. All versions take turns: each reads on until it has come as far as the
one before it, then the versions are compared, the hopeless ones are given up, and one that waits
with damage is taken up. Reading ends when no version can become better than the best tree found.
-/

namespace EndpointScaffold.Parsing

open Grammar

variable {σ : Type} [BEq σ] [Inhabited σ]

namespace Machine

/-! ### One token -/

inductive Done where
  | finished
  /-- symbols were completed; the first version made by the last reduction that made any -/
  | completed (made : Option Nat)

def doActions (e : Setting σ) (v state : Nat) (token : Option (Fragment σ)) :
    Bool → Option Nat → List Action → Work σ (Bool × Done)
  | any, made, [] => pure (any, .completed made)
  | any, made, .shift s isRepetition :: rest =>
    match isRepetition, token with
    | false, some f => do
      shift e v s f false
      pure (any, .finished)
    | _, _ => doActions e v state token any made rest
  | any, made, .skip :: rest =>
    match token with
    | some f => do
      shift e v state f true
      pure (any, .finished)
    | none => doActions e v state token any made rest
  | _, made, .reduce n :: rest => do
    let new ← reduce e v n token.isNone
    doActions e v state token true (new.or made) rest
  | any, made, .accept :: rest =>
    match token with
    | some f => do
      accept e v f
      pure (any, .finished)
    | none => doActions e v state token any made rest

/-- reads a token in a version, completing symbols as long as that is needed -/
def advanceWith (e : Setting σ) (v : Nat) : Nat → Option (Fragment σ) → Work σ Unit
  | 0, _ => halt v
  | fuel + 1, token => do
    let state := (← top v).state
    let role := (token.map (·.facts.role)).getD (.symbol e.table.language.anything)
    match ← doActions e v state token false none (e.actions state role) with
    | (_, .finished) => pure ()
    | (_, .completed (some n)) =>
      renumber n v
      match token with
      | some f => advanceWith e v fuel (some f)
      | none => advanceWith e v fuel (← nextFragment e v)
    | (true, .completed none) => halt v
    | (false, .completed none) =>
      let word : Role := .symbol e.table.language.word
      match token with
      | none => halt v
      | some f =>
        if state != 0 && f.facts.isReserved && f.facts.role != word
            && !(e.actions state word).isEmpty then
          advanceWith e v fuel (some (f.withFacts fun x => { x with role := word }))
        else if state == 0 then recover e v f
        else
          let count := (← top v).nodes
          changeVersion v fun x => { x with
            status := .paused, lookahead := some f, nodesAtDamage := count }

def advance (e : Setting σ) (v : Nat) : Work σ Unit := do
  let token ← nextFragment e v
  advanceWith e v (1000 + (← get).nodes.size) token

/-! ### Taking turns -/

/-- reads on in version `v` until it has come further than `reached`; that is one more than the
furthest place so far -/
def advanceTo (e : Setting σ) (v : Nat) : Nat → Nat → Work σ Nat
  | 0, reached => pure reached
  | fuel + 1, reached => do
    if (← version v).status != .active then return reached
    advance e v
    if (← versionCount) ≤ v then return reached
    let place := (← top v).place
    if reached ≤ place || (0 < v && place + 1 == reached) then pure (place + 1)
    else advanceTo e v fuel reached

def advanceAll (e : Setting σ) : Nat → Nat → Nat → Work σ Nat
  | 0, _, reached => pure reached
  | fuel + 1, v, reached => do
    if (← versionCount) ≤ v then return reached
    let reached ← advanceTo e v (1000 + e.source.size) reached
    advanceAll e fuel (v + 1) reached

/-! ### Giving versions up -/

/-- compares version `i`, which stands at `s`, with the versions from `j` on before it; the place of
the version after this, and whether it is still there. After an exchange of two versions the later
ones are still compared with `s`. -/
def compareWith (e : Setting σ) (s : Standing) : Nat → Nat → Nat → Work σ (Nat × Bool)
  | 0, _, i => pure (i, true)
  | fuel + 1, j, i => do
    if i ≤ j then return (i, true)
    match (← standing j).judge s with
    | .takeFirst =>
      removeVersion i
      pure (i, false)
    | .preferFirst | .undecided =>
      if ← merge e j i then pure (i, false) else compareWith e s fuel (j + 1) i
    | .preferSecond =>
      if ← merge e j i then pure (i, false)
      else
        modify fun m => { m with versions := m.versions.swapIfInBounds i j }
        compareWith e s fuel (j + 1) i
    | .takeSecond =>
      removeVersion j
      compareWith e s fuel j (i - 1)

/-- compares the versions from `i` on with those before them; the least cost of a version without
damage -/
def compareFrom (e : Setting σ) : Nat → Nat → Option Nat → Work σ (Option Nat)
  | 0, _, least => pure least
  | fuel + 1, i, least => do
    if (← versionCount) ≤ i then return least
    if (← version i).status == .halted then
      removeVersion i
      compareFrom e fuel i least
    else
      let s ← standing i
      let least :=
        if s.isDamaged then least
        else some (match least with
          | some n => min n s.cost
          | none => s.cost)
      let (next, isThere) ← compareWith e s 1000 0 i
      compareFrom e fuel (if isThere then next + 1 else next) least

/-- takes the first waiting version up unless one before it is active, and gives the others up; `n`
versions are left to look at -/
def resumeFrom (e : Setting σ) : Nat → Nat → Bool → Option Nat → Work σ (Option Nat)
  | 0, _, _, least => pure least
  | n + 1, i, isActive, least => do
    let x ← version i
    if x.status != .paused then resumeFrom e n (i + 1) true least
    else if isActive || Bound.versions ≤ (← get).accepted then
      removeVersion i
      resumeFrom e n i isActive least
    else
      let cost ← costOf i
      changeVersion i fun x => { x with status := .active, lookahead := none }
      match x.lookahead with
      | some f => handleDamage e i f
      | none => halt i
      resumeFrom e n (i + 1) true (some cost)

/-- gives hopeless versions up; the least cost of a version that is left, if it matters -/
def condense (e : Setting σ) : Work σ (Option Nat) := do
  let least ← compareFrom e 1000 0 none
  modify fun m => { m with versions := m.versions.extract 0 Bound.versions }
  resumeFrom e (← versionCount) 0 false least

/-! ### Whole texts -/

def run (e : Setting σ) : Nat → Nat → Work σ Unit
  | 0, _ => pure ()
  | fuel + 1, reached => do
    let reached ← advanceAll e 1000 0 reached
    let least ← condense e
    let m ← get
    let isDone := m.finished.any fun f => least.all fun n => decide (f.cost < n)
    if isDone || m.versions.isEmpty then pure ()
    else run e fuel reached

/-- the machine before the text, with the state `s` of the reader of special tokens -/
def start (s : σ) : Machine σ :=
  ⟨#[⟨1, 0, 0, 0, 0, []⟩], #[⟨0, 0, none, .active, none, s⟩], none, 0⟩

end Machine

/-- reads a text; it has a tree whatever it is, unless the bound on the work is met -/
def parse (e : Setting σ) (s : σ) : Option (Fragment σ) :=
  ((Machine.run e (1000 + 64 * e.source.size) 0).run (Machine.start s)).2.finished

end EndpointScaffold.Parsing
