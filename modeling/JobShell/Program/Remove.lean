import JobShell.Program.Manage

/-!
The program `rm`, which removes files, and directories with all that is in them.
-/

namespace JobShell.Remove

open Manage (Tally ask)
open Text (quoteAlways)

def options : List OptionRule :=
  [.flag 'd' "dir", .flag 'f' "force", .plain 'i', .plain 'I', .flag 'r' "recursive",
    { letter := some 'R', word := "" }, .flag 'v' "verbose",
    { word := "interactive", value := .optional },
    { word := "one-file-system" }, { word := "no-preserve-root" },
    { word := "preserve-root", value := .optional }]

structure Manner where
  recursive : Bool
  /-- Whether empty directories are removed. -/
  directories : Bool
  /-- Whether it is no error if a file does not exist. -/
  force : Bool
  /-- Whether every removal is asked for. -/
  asks : Bool
  verbose : Bool
  deriving DecidableEq, Repr

def Manner.ofArguments (args : Arguments) : Manner :=
  let choice := args.lastOf? ["force", "i", "I", "interactive"]
  { recursive := args.has "recursive" || args.has "R"
    directories := args.has "dir"
    force := choice == some "force"
    asks := choice == some "i" ||
      (choice == some "interactive" &&
        [none, some "always", some "yes"].contains (args.value? "interactive"))
    verbose := args.has "verbose" }

def kind (node : Node) : String :=
  let protection := if node.grants .write then "" else "write-protected "
  match node with
  | .directory _ => protection ++ "directory"
  | .file _ [] => protection ++ "regular empty file"
  | .file _ _ | .program _ => protection ++ "regular file"
  | .link _ => "symbolic link"
  | .pipe .. | .descriptor _ => "fifo"
  | .device _ => "character special file"

def confirm (invocation : Invocation) (manner : Manner) (what path : String) : Task Bool := do
  if manner.asks then ask (invocation.name ++ ": " ++ what ++ " " ++ quoteAlways path ++ "? ")
  else return true

inductive Outcome where
  | removed
  /-- It is still there because the answer to a question was no. -/
  | declined
  | failed
  deriving DecidableEq, Repr

def cannotRemove (invocation : Invocation) (path : String) (error : FileError) : Task Unit :=
  invocation.complain ("cannot remove " ++ quoteAlways path ++ ": " ++ error.message)

def removeName (invocation : Invocation) (manner : Manner) (tally : Tally) (path : String)
    (isDirectory : Bool) : Task (Outcome × Tally) := do
  let name := Text.ofRaw path
  match ← Task.edit fun fs cwd =>
      if isDirectory then fs.removeDirectory cwd name else fs.unlink cwd name with
  | .ok () =>
    let what := if isDirectory then "removed directory " else "removed "
    return (.removed, ← tally.say manner.verbose (what ++ quoteAlways path))
  | .error error =>
    cannotRemove invocation path error
    return (.failed, tally.fail)

def removePath (invocation : Invocation) (manner : Manner) (fuel : Nat) (tally : Tally)
    (path : String) : Task (Outcome × Tally) := do
  match ← Task.stat path false with
  | .error error =>
    if manner.force && (error == .notFound || error == .notDirectory) then
      return (.removed, tally)
    else
      cannotRemove invocation path error
      return (.failed, tally.fail)
  | .ok (_, .directory d) =>
    if !manner.recursive && !(manner.directories && d.entries.isEmpty) then
      cannotRemove invocation path (if manner.directories then .notEmpty else .isDirectory)
      return (.failed, tally.fail)
    else if d.entries.isEmpty then
      if ← confirm invocation manner ("remove " ++ kind (.directory d)) path then
        removeName invocation manner tally path true
      else return (.declined, tally)
    else
      match fuel with
      | 0 => return (.failed, tally.fail)
      | fuel + 1 =>
        if !(d.grants .read && d.grants .execute) then
          cannotRemove invocation path .denied
          return (.failed, tally.fail)
        else if !(← confirm invocation manner ("descend into " ++ kind (.directory d)) path) then
          return (.declined, tally)
        else
          let (kept, tally) ← d.entries.foldlM (fun (kept, tally) (name, _) => do
            let (outcome, tally) ← removePath invocation manner fuel tally
              (joinPath path (Text.raw name))
            return (kept || outcome != .removed, tally)) (false, tally)
          if kept then return (.failed, tally)
          else if ← confirm invocation manner ("remove " ++ kind (.directory d)) path then
            removeName invocation manner tally path true
          else return (.declined, tally)
  | .ok (_, node) =>
    if endsWithSlash path then
      cannotRemove invocation path .notDirectory
      return (.failed, tally.fail)
    else if ← confirm invocation manner ("remove " ++ kind node) path then
      removeName invocation manner tally path false
    else return (.declined, tally)

def depthLimit : Nat := 4096

/-- Removes one operand. The working directory and its parent, and the root, are refused. -/
def removeOperand (invocation : Invocation) (manner : Manner) (tally : Tally) (path : String) :
    Task Tally := do
  let last := (Text.runs (· == '/') path.toList).getLast?
  if manner.recursive && (last == some ['.'] || last == some ['.', '.']) then
    invocation.complain
      ("refusing to remove '.' or '..' directory: skipping " ++ quoteAlways path)
    return tally.fail
  else if manner.recursive && last == none && path != "" then
    invocation.complain ("it is dangerous to operate recursively on " ++ quoteAlways path ++
      (if path = "/" then "" else " (same as '/')"))
    invocation.complain "use --no-preserve-root to override this failsafe"
    return tally.fail
  else
    return (← removePath invocation manner depthLimit tally path).2

def cautiousCount : Nat := 3

def firstQuestion? (args : Arguments) (manner : Manner) : Option String :=
  let count := args.operands.length
  let cautious := args.lastOf? ["force", "i", "I", "interactive"] = some "I"
  if cautious ∧ (manner.recursive ∨ cautiousCount < count) then
    some ("remove " ++ toString count ++ (if count = 1 then " argument" else " arguments") ++
      (if manner.recursive then " recursively? " else "? "))
  else none

def rm : Utility := fun invocation =>
  invocation.withArguments options 1 fun args => do
    let manner := Manner.ofArguments args
    if args.operands = [] then
      if manner.force then return 0 else invocation.misuse 1 "missing operand"
    else
      match firstQuestion? args manner with
      | some question =>
        if ← ask (invocation.name ++ ": " ++ question) then
          Manage.forOperands invocation args.operands (removeOperand invocation manner)
        else return 0
      | none => Manage.forOperands invocation args.operands (removeOperand invocation manner)

end JobShell.Remove
