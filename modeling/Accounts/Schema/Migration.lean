import Accounts.Schema.History
import Accounts.Text.Integer
import Accounts.Text.Word

/-! # Migrations

A migration takes a database up or down to a revision, or writes the script that would. The revision
is named, or given as a number of steps from the present one or from a named one. A branch may be
named before an `@`. The history has a single line, so a branch can only be the name of one of its
revisions, and then every revision belongs to it.
-/
namespace Accounts.Schema

inductive Direction where
  | up
  | down
  deriving DecidableEq, Repr

inductive Refusal where
  | unknown (name : String)
  | outside (written : String) (count : Nat)
  | tooFar
  | above (target : String)
  | rangeGiven
  | rangeMissing
  | rangeMalformed
  | countTooLong
  | nowhere
  | noStart
  deriving DecidableEq, Repr

def Refusal.message? : Refusal → Option String
  | .unknown name => some ("Can't locate revision identified by '" ++ name ++ "'")
  | .outside written count =>
    some ("Relative revision " ++ written ++ " didn't produce " ++ toString count ++ " migrations")
  | .tooFar => some "Walked too far"
  | .above target =>
    some ("Destination " ++ target ++ " is not a valid downgrade target from current head(s)")
  | .rangeGiven => some "Range revision not allowed"
  | .rangeMissing => some "downgrade with --sql requires <fromrev>:<torev>"
  | .rangeMalformed | .countTooLong | .nowhere | .noStart => none

def lookUp (id : String) : Except Refusal Nat :=
  if id.isEmpty then .error .nowhere
  else
    match history.findIdx? (·.id == id) with
    | some i => .ok (i + 1)
    | none => .error (.unknown id)

def isHead (name : String) : Bool :=
  name == "head" || name == "heads"

/-- The ids that a name without a branch stands for. The base has none. -/
def idsOf (name : String) : List String :=
  if isHead name then (idOf? top).toList
  else if name = "base" then []
  else [name]

/-- A name taken apart: the branch before the first `@`, if there is one, and the rest. -/
def splitBranch (name : String) : Option String × String :=
  let cs := name.toList
  match cs.dropWhile (· != '@') with
  | [] => (none, name)
  | _ :: r => (some (String.ofList (cs.takeWhile (· != '@'))), String.ofList r)

def lookUpAll (ids : List String) : Except Refusal (List Nat) :=
  ids.mapM lookUp

/-- The branch that counts. An empty one does not. -/
def namedBranch : Option String → Option String
  | some b => if b.isEmpty then none else some b
  | none => none

/-- The ids that a name stands for. The head of a branch is looked for among the revisions of the
branch. -/
def resolve (name : String) : Except Refusal (List String) :=
  let (branch, rest) := splitBranch name
  match namedBranch branch with
  | some b => do
    if isHead rest then let _ ← lookUpAll (idsOf b)
    pure (idsOf rest)
  | none => pure (idsOf rest)

/-- Looks for revisions on a branch; there may be none to look at. -/
def checkBranch (anyRevision : Bool) (branch : String) : Except Refusal Unit := do
  let ids ← resolve branch
  if anyRevision then
    let _ ← lookUpAll ((namedBranch (splitBranch branch).1).toList ++ ids)

def checkNamedBranch (name : String) : Except Refusal Unit :=
  match namedBranch (splitBranch name).1 with
  | some b => (lookUp b).map fun _ => ()
  | none => .ok ()

def levelOf (name : String) : Except Refusal Nat := do
  let ids ← resolve name
  checkNamedBranch name
  match ids with
  | id :: _ => lookUp id
  | [] => pure 0

/-- Where to go. Steps keep the way they were written. -/
inductive Target where
  | named (name : String)
  | steps (branch origin : Option String) (count : Int) (written : String)
  deriving DecidableEq, Repr

/-- Steps at the start of a text: perhaps a name, then a sign and decimal digits. What follows the
digits does not count. -/
def stepsAt? (cs : List Char) : Option (Option String × String) :=
  let name := cs.takeWhile Text.isWordChar
  match cs.dropWhile Text.isWordChar with
  | sign :: r =>
    let digits := r.takeWhile fun c => (Text.decimalValue? c).isSome
    if (sign == '+' || sign == '-') && !digits.isEmpty then
      let origin := if name.isEmpty then none else some (String.ofList name)
      some (origin, String.ofList (sign :: digits))
    else none
  | [] => none

/-- The ways to take a branch off the front of a line, the shortest first. `before` has the
characters that are part of it already, the last one first. -/
def branchSplits (before : List Char) : List Char → List (List Char × List Char)
  | [] => []
  | c :: r =>
    if c = '\n' then []
    else
      (if c = '@' && !before.isEmpty then [(before.reverse, r)] else []) ++
        branchSplits (c :: before) r

def stepsIn? (cs : List Char) : Option (Option String × Option String × String) :=
  let branched := (branchSplits [] cs).findSome? fun (branch, rest) =>
    (stepsAt? rest).map fun (origin, written) => (some (String.ofList branch), origin, written)
  branched.or ((stepsAt? cs).map fun (origin, written) => (none, origin, written))

/-- Reads a target. What has no steps at its start is a name. -/
def Target.ofText (s : String) : Except Refusal Target :=
  match stepsIn? s.toList with
  | none => .ok (.named s)
  | some (branch, origin, written) =>
    match Text.Integer.ofDecimal? written with
    | some n => .ok (.steps branch origin n written)
    | none => .error .countTooLong

/-- The level a number of steps away. Going down from the base starts over above the top. -/
def walk? (source : Nat) (count : Int) : Option Nat :=
  if 0 ≤ count then
    if source + count.toNat ≤ top then some (source + count.toNat) else none
  else
    let start := if source = 0 then top + 1 else source
    if count.natAbs ≤ start then some (start - count.natAbs) else none

def climb (branch : Option String) (source : Nat) (count : Int) : Except Refusal (Option Nat) := do
  match branch with
  | some b => if 0 < count then checkBranch (source < top) b
  | none => pure ()
  pure (walk? source count)

def onBranch (branch : Option String) (name : String) : String :=
  match branch with
  | some b => b ++ "@" ++ name
  | none => name

def goalOf : Option Nat → Except Refusal Nat
  | some (level + 1) => .ok (level + 1)
  | _ => .error .nowhere

/-- The level that a name leads up to. A negative number counts from the head, where no branch has
that name. The base of a branch is not looked at. -/
def namedGoal (name : String) : Except Refusal Nat := do
  let ids ← resolve name
  match ids with
  | [id] =>
    match Text.Integer.ofDecimal? id with
    | some n =>
      if 0 ≤ n then levelOf name
      else if (splitBranch name).1.isSome then pure 0
      else goalOf (walk? top n)
    | none => levelOf name
  | _ => pure 0

/-- The level that an upgrade leads to. Steps from a name lead to a revision. -/
def upgradeGoal (level : Nat) : Target → Except Refusal Nat
  | .named name => namedGoal name
  | .steps branch none count written =>
    if 0 < count then do
      match branch with
      | some b => checkBranch (level != 0) b
      | none => pure ()
      match ← climb branch level count with
      | some goal => pure goal
      | none => throw (.outside written count.natAbs)
    else .error (.outside (toString count) count.natAbs)
  | .steps branch (some origin) count _ => do
    if 0 < count then goalOf (← climb branch (← levelOf origin) count)
    else goalOf (walk? (← levelOf (onBranch branch origin)) count)

def stepsDownGoal (level : Nat) (branch : Option String) (count : Int) (written : String) :
    Except Refusal Nat := do
  let source ← match branch, idOf? level with
    | some b, some id => do
      checkBranch true b
      levelOf (onBranch branch id)
    | some b, none => do
      checkBranch false b
      throw .nowhere
    | none, some _ => pure level
    | none, none => throw (.outside written count.natAbs)
  match walk? source count with
  | some goal => pure goal
  | none => throw (.outside written count.natAbs)

def lastName (name : String) : String :=
  String.ofList (name.toList.reverse.takeWhile (· != '@')).reverse

/-- The level that a downgrade leads to. Steps up from a name lead to a revision. The branch before
a name does not count. -/
def downgradeGoal (level : Nat) : Target → Except Refusal Nat
  | .named name => levelOf (lastName name)
  | .steps branch none count written =>
    if 0 ≤ count then .error (.outside written count.natAbs)
    else stepsDownGoal level branch count written
  | .steps branch (some origin) count _ => do
    if 0 ≤ count then
      match ← climb branch (← levelOf origin) count with
      | some (goal + 1) => pure (goal + 1)
      | _ => throw .tooFar
    else
      match walk? (← levelOf (onBranch branch origin)) count with
      | some goal => pure goal
      | none => throw .tooFar

/-- The steps of a migration from a level. Going up to a level that is reached already takes none;
going down to one that is not is refused. -/
def plan (direction : Direction) (level : Nat) (target : String) : Except Refusal (List Step) :=
  match direction with
  | .up => do
    let goal ← upgradeGoal level (← Target.ofText target)
    pure (stepsUp level goal)
  | .down => do
    let goal ← downgradeGoal level (← Target.ofText target)
    if level < goal then throw (.above target)
    pure (stepsDown level goal)

/-- The two ends of a range; a single revision has no start. -/
def splitRange (s : String) : Except Refusal (Option String × String) :=
  let cs := s.toList
  match cs.dropWhile (· != ':') with
  | [] => .ok (none, s)
  | _ :: r =>
    if r.contains ':' then .error .rangeMalformed
    else .ok (some (String.ofList (cs.takeWhile (· != ':'))), String.ofList r)

def startLevel (name : String) : Except Refusal Nat :=
  if name = "base" then .ok 0
  else do
    match ← levelOf name with
    | 0 => throw .noStart
    | level => pure level

def migrate (direction : Direction) (revision : String) (d : Database) : Except Refusal Database :=
  if revision.toList.contains ':' then .error .rangeGiven
  else (plan direction d.level revision).map fun steps => steps.foldl Step.apply d

/-- Writes the script that takes a database from the start of a range to its end. Going up, the
start may be left out and is the base. -/
def script (direction : Direction) (range : String) : Except Refusal (List String) := do
  let (start, target) ← splitRange range
  let level ← match start, direction with
    | some name, _ => startLevel name
    | none, .up => pure 0
    | none, .down => throw .rangeMissing
  let steps ← plan direction level target
  pure (steps.flatMap Step.script)

end Accounts.Schema
