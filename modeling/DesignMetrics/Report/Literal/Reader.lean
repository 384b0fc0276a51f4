import DesignMetrics.Report.Literal.Rule

/-!
# Readers

Tokens are read by the rules of a grammar, within a number of levels. What a rule has read at a
place may be kept, so that it is not read there again.
-/

namespace DesignMetrics.Report.Literal

/-- Why a reader ends early: at a fault of the tokens, at one that it has found after looking at a
number of tokens, or for another reason. -/
inductive Failure where
  | tokens (f : Fault)
  | found (f : Fault) (seen : Nat)
  | other (h : Halt)
deriving DecidableEq, Repr

/-- What is read: tokens, possibly of an expression in a text that values are filled in. The column
is the one from which places are counted. -/
structure Source where
  lexemes : Array Lexeme
  isWithin : Bool
  column : Nat
  joined : List QuotedText → Except TextFault TextKind

namespace Source

/-- The fault of an expression, told as one within a text if it is. -/
def blame (s : Source) (f : Fault) : Fault := if s.isWithin then .within f else f

/-- The token at a position. After the last one comes the end. -/
def lexeme (s : Source) (position : Nat) : Lexeme :=
  s.lexemes.getD position { token := .stop .whole, line := 0, column := 0 }

/-- Whether the place of a fault at a token can be told. -/
def tells (s : Source) (position : Nat) : Bool := s.column ≤ (s.lexeme position).column + 1

end Source

/-- How far reading has come, the number of tokens that have been looked at, and what is kept for
each place: a part, if there is one, and where it ends. -/
structure Progress (ρ : Type) where
  position : Nat := 0
  seen : Nat := 0
  careful : Bool
  kept : Array (List (ρ × Option Part × Nat))

/-- Reads what a source holds. -/
abbrev Reader (ρ : Type) := ReaderT Source (StateT (Progress ρ) (Except Failure))

namespace Reader

variable {ρ : Type}

def position : Reader ρ Nat := return (← get).position

def moveTo (position : Nat) : Reader ρ Unit := modify fun p => { p with position }

/-- The next token. Looking at one that cannot be made brings out its fault. -/
def peek : Reader ρ Token := do
  let source ← read
  let place ← position
  modify fun p => { p with seen := max p.seen (place + 1) }
  match (source.lexeme place).token with
  | .stop (.broken f) => throw (.tokens f)
  | .stop (.halted f _) => throw (.tokens (source.blame f))
  | t => return t

/-- Reads the next token if it is right. -/
def accept (isRight : Token → Bool) : Reader ρ (Option Part) := do
  let t ← peek
  if isRight t then
    modify fun p => { p with position := p.position + 1 }
    return some (.token t)
  else return none

/-- Reads something that may be missing. -/
def attempt (r : Reader ρ (Option Part)) : Reader ρ Part := do
  let start ← position
  match ← r with
  | some p => return p
  | none => do
    moveTo start
    return .nothing

/-- Whether something comes next. -/
def comes (r : Reader ρ (Option Part)) : Reader ρ Bool := do
  let start ← position
  let found ← r
  moveTo start
  return found.isSome

/-- Reads something as often as it comes, at most as often as the last argument says. -/
def repeated (r : Reader ρ (Option Part)) : Nat → Reader ρ (List Part)
  | 0 => return []
  | n + 1 => do
    let start ← position
    match ← r with
    | some p => return p :: (← repeated r n)
    | none => do
      moveTo start
      return []

/-- How many tokens there are. -/
def size : Reader ρ Nat := return (← read).lexemes.size

/-! ## Keeping what has been read -/

section Keeping

variable [DecidableEq ρ]

/-- What is kept of a rule here. -/
def kept? (r : ρ) : Reader ρ (Option (Option Part × Nat)) := do
  let p ← get
  return ((p.kept.getD p.position []).find? (·.1 = r)).map (·.2)

/-- Keeps what a rule has read from a place on. -/
def keep (r : ρ) (start : Nat) (found : Option Part) (stop : Nat) : Reader ρ Unit :=
  modify fun p =>
    { p with kept := p.kept.modify start fun ks => (r, found, stop) :: ks.filter (·.1 ≠ r) }

/-- Reads a rule unless it is known what it reads here. -/
def once (r : ρ) (reader : Reader ρ (Option Part)) : Reader ρ (Option Part) := do
  match ← kept? r with
  | some (found, stop) => do
    moveTo stop
    return found
  | none => do
    let start ← position
    let found ← reader
    keep r start found (← position)
    return found

/-- Reads a rule that begins with itself. It is read again and again, each time with what was read
before at its beginning, as long as more is read. -/
def grown (r : ρ) (reader : Reader ρ (Option Part)) (start : Nat) (best : Option Part)
    (reached : Nat) : Nat → Reader ρ (Option Part)
  | 0 => return best
  | n + 1 => do
    keep r start best reached
    moveTo start
    let found ← reader
    let place ← position
    if found.isSome && reached < place then grown r reader start found place n
    else
      moveTo reached
      return best

end Keeping

/-! ## Reading alternatives -/

section Items

variable (enter : Item ρ → Reader ρ (Option Part))

/-- Reads an item that stands for itself; `enter` reads the others. -/
def item : Item ρ → Reader ρ (Option Part)
  | .sign s => accept fun t => t = .mark s || (t = .word s && !isName s)
  | .name => accept fun | .word w => isName w | _ => false
  | .opening => accept fun
    | .word w => isName w && openings.any fun o => w.toList.isPrefixOf o.toList
    | _ => false
  | .number => accept fun | .number _ => true | _ => false
  | .text => accept fun | .text _ => true | _ => false
  | .lineEnd => accept (· = .lineEnd)
  | .finish => accept (· = .stop .whole)
  | .optional i => do return some (← attempt (item i))
  | .ahead i => do return if ← comes (item i) then some .nothing else none
  | .notAhead i => do return if ← comes (item i) then none else some .nothing
  | .cut => return some .nothing
  | i => enter i

/-- Reads items one after the other. If one does not come, it is told whether another alternative
may be tried. -/
def items (mayTry : Bool) : List (Item ρ) → Reader ρ (List (Part × Nat) ⊕ Bool)
  | [] => return .inl []
  | i :: is => do
    let place ← position
    match ← item enter i with
    | none => return .inr mayTry
    | some p =>
      let mayTry := match i with | .cut => false | _ => mayTry
      match ← items mayTry is with
      | .inl ps => return .inl ((p, place) :: ps)
      | .inr mayTry => return .inr mayTry

/-- How many brackets are open after what was read last. -/
def depth : Reader ρ Nat := return ((← read).lexeme ((← position) - 1)).depth

/-- Puts together what was read for an alternative. -/
def built (build : Build) (ps : List (Part × Nat)) : Reader ρ (Option Part) := do
  let source ← read
  let seen := (← get).seen
  let context : Context := { depth := ← depth, places := ps.map (·.2), joined := source.joined }
  match build context (ps.map (·.1)) with
  | .ok (.part p) => return some p
  | .ok .refused => return none
  | .ok (.fault f place) =>
    if source.tells (place.getD (seen - 1)) then throw (.found (source.blame f) seen)
    else throw (.other .untold)
  | .error (.fault f) => throw (.found f seen)
  | .error h => throw (.other h)

/-- Reads the first alternative that fits. -/
def choose (start : Nat) : List (Alternative ρ) → Reader ρ (Option Part)
  | [] => return none
  | .mk isSuspicion is build :: as => do
    if isSuspicion && !(← get).careful then choose start as
    else
      moveTo start
      match ← items enter true is with
      | .inl ps => built build ps
      | .inr mayTry => if mayTry then choose start as else return none

/-- Reads something with a comma before it. -/
def following (i : Item ρ) : Reader ρ (Option Part) := do
  match ← item enter (.sign ",") with
  | some _ => item enter i
  | none => return none

end Items

/-- Reads a rule, without care if it is trusted. -/
def withTrust (isTrusting : Bool) (r : Reader ρ (Option Part)) : Reader ρ (Option Part) := do
  let careful := (← get).careful
  modify fun p => { p with careful := careful && !isTrusting }
  let found ← r
  modify fun p => { p with careful }
  return found

/-- Reads an item within a number of levels. Every rule, every group and every repetition takes
one, and a rule that begins with itself takes two. -/
def enter [DecidableEq ρ] (g : Grammar ρ) : (levels : Nat) → Item ρ → Reader ρ (Option Part)
  | 0, _ => throw (.other .exhausted)
  | levels + 1, .rule r => do
    let start ← position
    if g.isLeftRecursive r then
      match ← kept? r with
      | some (found, stop) => do
        moveTo stop
        return found
      | none => grown r (enter g levels (.body r)) start none start ((← size) + 2)
    else
      let reader := withTrust (g.isTrusting r) (choose (enter g levels) start (g.alternatives r))
      if g.keeps r then once r reader else reader
  | levels + 1, .body r => do choose (enter g levels) (← position) (g.alternatives r)
  | levels + 1, .group as => do choose (enter g levels) (← position) as
  | levels + 1, .many atLeastOne i => do
    let ps ← repeated (item (enter g levels) i) ((← size) + 1)
    return if atLeastOne && ps.isEmpty then none else some (.list ps)
  | levels + 1, .separated i => do
    match ← item (enter g levels) i with
    | none => return none
    | some p =>
      match ← enter g levels (.followers i) with
      | some ps => return some (.list (p :: ps.parts))
      | none => return none
  | levels + 1, .followers i => do
    return some (.list (← repeated (following (enter g levels) i) ((← size) + 1)))
  | levels + 1, i => item (enter g levels) i

end Reader
end DesignMetrics.Report.Literal
