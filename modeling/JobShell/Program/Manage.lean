import JobShell.Files.Mode
import JobShell.Program.Arguments

/-!
The programs that make and move files: `mkdir`, `rmdir`, `mv` and `touch`. Each goes through its
operands in order, whatever became of the ones before.
-/

namespace JobShell.Manage

open Text (quoteAlways)

/-- What a program that goes through operands has come to: its code, and why it could not print
something. -/
structure Tally where
  code : UInt8 := 0
  unprinted : Option FileError := none
  deriving DecidableEq, Repr

namespace Tally

def fail (tally : Tally) : Tally :=
  { tally with code := 1 }

def say (tally : Tally) (wanted : Bool) (line : String) : Task Tally := do
  if !wanted then return tally
  match ← Task.write 1 (line ++ "\n") with
  | .ok () => return tally
  | .error error => return { tally with unprinted := some error }

end Tally

def forOperands (invocation : Invocation) (operands : List String)
    (act : Tally → String → Task Tally) : Task UInt8 := do
  let tally ← operands.foldlM act {}
  match tally.unprinted with
  | none => return tally.code
  | some error =>
    invocation.complain ("write error: " ++ error.message)
    return 1

/-! Making directories. -/

def cannotCreate (invocation : Invocation) (path : String) (error : FileError) : Task Unit :=
  invocation.complain ("cannot create directory " ++ quoteAlways path ++ ": " ++ error.message)

def makeDirectory (path : String) (mode : Nat) : Task (Except FileError Unit) :=
  Task.edit fun fs cwd => fs.makeDirectory cwd (Text.ofRaw path) mode

def setMode (path : String) (mode : Nat) : Task Unit := do
  let _ ← Task.edit fun fs cwd =>
    (fs.find cwd (Text.ofRaw path)).map fun id => fs.setMode id mode

def steps (path : String) : List String :=
  let names := (Text.runs (· == '/') path.toList).map String.ofList
  let start := if isAbsolute path then "/" else ""
  (List.range names.length).map fun n => start ++ String.intercalate "/" (names.take (n + 1))

structure DirectoryModes where
  /-- For directories on the way. -/
  inner : Nat
  last : Nat
  /-- The bits of the last mode that hold whatever the umask says. -/
  fixed : Nat

def DirectoryModes.final (modes : DirectoryModes) (created : Nat) : Nat :=
  FileMode.without created modes.fixed ||| (modes.last &&& modes.fixed)

/-- Makes the directories of a path in turn; those that exist stay as they are. -/
def makeSteps (invocation : Invocation) (modes : DirectoryModes) (told : Bool) (path : String)
    (tally : Tally) : List String → Task Tally
  | [] => pure tally
  | step :: rest => do
    let last := rest.isEmpty
    let mode := if last then modes.last else modes.inner
    let shown := if last then path else step
    match ← makeDirectory step mode with
    | .ok () =>
      if last && modes.fixed != 0 then setMode step (modes.final mode)
      let tally ← tally.say told (invocation.name ++ ": created directory " ++ quoteAlways shown)
      makeSteps invocation modes told path tally rest
    | .error error =>
      if ← Task.isDirectory step then makeSteps invocation modes told path tally rest
      else
        let error := if error = .alreadyExists ∧ !last then .notDirectory else error
        cannotCreate invocation shown error
        return tally.fail

def directoryModes? (umask : Nat) (text : Option String) : Option DirectoryModes :=
  let inner := FileMode.without FileMode.everyone umask ||| 0o300
  match text with
  | none => some { inner, last := FileMode.without FileMode.everyone umask, fixed := 0 }
  | some text =>
    (FileMode.ofText? umask text).map fun (mode, fixed) =>
      let special := fixed &&& 0o6000 != 0 || mode &&& 0o1000 != 0
      let created := if special then FileMode.without mode 0o022 else mode
      { inner, last := (FileMode.without created fixed) ||| (mode &&& fixed), fixed }

def mkdir : Utility := fun invocation =>
  invocation.withArguments
    [.valued 'm' "mode", .flag 'p' "parents", .flag 'v' "verbose", .plain 'Z'] 1 fun args => do
    let umask ← Task.look (·.context.umask)
    let told := args.has "verbose"
    if args.operands = [] then invocation.misuse 1 "missing operand"
    else
      match directoryModes? umask (args.value? "mode") with
      | none =>
        invocation.complain ("invalid mode " ++ quoteAlways ((args.value? "mode").getD ""))
        return 1
      | some modes =>
        forOperands invocation args.operands fun tally path => do
          if args.has "parents" && path != "" then
            makeSteps invocation modes told path tally (steps path)
          else
            match ← makeDirectory path modes.last with
            | .ok () =>
              tally.say told (invocation.name ++ ": created directory " ++ quoteAlways path)
            | .error error =>
              cannotCreate invocation path error
              return tally.fail

/-! Removing directories. -/

/-- A path without the slashes and the name at its end; none if nothing is left. -/
def parentPath? (path : String) : Option String :=
  let trimmed := path.toList.reverse.dropWhile (· == '/')
  let parent := (trimmed.dropWhile (· != '/')).dropWhile (· == '/')
  if parent = [] then none else some (String.ofList parent.reverse)

/-- Removes a directory, and with `parents` those on the way to it; at most `fuel` of them. -/
def removeDirectories (invocation : Invocation) (args : Arguments) (fuel : Nat) (first : Bool)
    (tally : Tally) (path : String) : Task Tally := do
  match fuel with
  | 0 => return tally
  | fuel + 1 =>
    let tally ← tally.say (args.has "verbose")
      (invocation.name ++ ": removing directory, " ++ quoteAlways path)
    match ← Task.edit fun fs cwd => fs.removeDirectory cwd (Text.ofRaw path) with
    | .ok () =>
      match if args.has "parents" then parentPath? path else none with
      | some parent => removeDirectories invocation args fuel false tally parent
      | none => return tally
    | .error error =>
      if args.has "ignore-fail-on-non-empty" && error == .notEmpty then return tally
      let what := if first then "failed to remove " else "failed to remove directory "
      invocation.complain (what ++ quoteAlways path ++ ": " ++ error.message)
      return tally.fail

def rmdir : Utility := fun invocation =>
  invocation.withArguments
    [.flag 'p' "parents", .flag 'v' "verbose", { word := "ignore-fail-on-non-empty" }] 1 fun args =>
    if args.operands = [] then invocation.misuse 1 "missing operand"
    else
      forOperands invocation args.operands fun tally path =>
        removeDirectories invocation args (path.length + 1) true tally path

/-! Moving. -/

/-- Reads a line of standard input, a byte at a time; at most `fuel` bytes of it. -/
def readAnswer (fuel : Nat) (line : List Char) : Task (List Char) := do
  match fuel with
  | 0 => return line.reverse
  | fuel + 1 =>
    match ← Task.read 0 1 with
    | .ok [byte] =>
      if byte = 10 then return line.reverse
      else readAnswer fuel (Char.ofNat byte.toNat :: line)
    | _ => return line.reverse

/-- More bytes than an answer has. -/
def answerLimit : Nat := 1000000

/-- Asks a question on standard error; the answer is yes if it starts with y. -/
def ask (question : String) : Task Bool := do
  Task.complain question
  return match ← readAnswer answerLimit [] with
    | c :: _ => c == 'y' || c == 'Y'
    | [] => false

def baseName (path : String) : String :=
  ((Text.runs (· == '/') path.toList).getLast?.map String.ofList).getD path

def moveFailure (source target : String) (error : FileError) : String :=
  match error with
  | .invalid =>
    "cannot move " ++ quoteAlways source ++ " to a subdirectory of itself, " ++ quoteAlways target
  | .notEmpty | .alreadyExists =>
    "cannot overwrite " ++ quoteAlways target ++ ": " ++ error.message
  | error =>
    "cannot move " ++ quoteAlways source ++ " to " ++ quoteAlways target ++ ": " ++ error.message

def moveNow (invocation : Invocation) (args : Arguments) (tally : Tally) (source target : String) :
    Task Tally := do
  match ← Task.edit fun fs cwd => fs.rename cwd (Text.ofRaw source) (Text.ofRaw target) with
  | .ok () =>
    tally.say (args.has "verbose")
      ("renamed " ++ quoteAlways source ++ " -> " ++ quoteAlways target)
  | .error error =>
    invocation.complain (moveFailure source target error)
    return tally.fail

def isDirectoryNode : Node → Bool
  | .directory _ => true
  | _ => false

def moveTo (invocation : Invocation) (args : Arguments) (tally : Tally) (source target : String) :
    Task Tally := do
  match ← Task.stat source false with
  | .error error =>
    invocation.complain ("cannot stat " ++ quoteAlways source ++ ": " ++ error.message)
    return tally.fail
  | .ok (id, node) =>
    match ← Task.stat target false with
    | .error _ => moveNow invocation args tally source target
    | .ok (old, oldNode) =>
      let behind ← Task.stat source true
      let same := old = id || (match behind with
        | .ok (behind, _) => behind == old
        | .error _ => false)
      let choice := args.lastOf? ["force", "interactive", "no-clobber"]
      if same then
        invocation.complain
          (quoteAlways source ++ " and " ++ quoteAlways target ++ " are the same file")
        return tally.fail
      else if choice = some "no-clobber" then
        invocation.complain ("not replacing " ++ quoteAlways target)
        return tally.fail
      if args.has "update" then return tally
      let agreed ←
        if choice = some "interactive" then
          ask (invocation.name ++ ": overwrite " ++ quoteAlways target ++ "? ")
        else pure true
      if !agreed then return tally.fail
      else if isDirectoryNode oldNode && !isDirectoryNode node then
        invocation.complain
          ("cannot overwrite directory " ++ quoteAlways target ++ " with non-directory")
        return tally.fail
      else if isDirectoryNode node && !isDirectoryNode oldNode then
        invocation.complain
          ("cannot overwrite non-directory " ++ quoteAlways target ++ " with directory " ++
            quoteAlways source)
        return tally.fail
      else moveNow invocation args tally source target

def moveInto (invocation : Invocation) (args : Arguments) (directory : String)
    (sources : List String) : Task UInt8 :=
  forOperands invocation sources fun tally source =>
    moveTo invocation args tally source (joinPath directory (baseName source))

def moveOptions : List OptionRule :=
  [.flag 'f' "force", .flag 'i' "interactive", .flag 'n' "no-clobber",
    .valued 't' "target-directory", .flag 'T' "no-target-directory", .flag 'u' "update",
    .flag 'v' "verbose", { word := "strip-trailing-slashes" }]

def noDirectory (invocation : Invocation) (what path : String) : Task UInt8 := do
  let error := match ← Task.stat path true with
    | .ok _ => FileError.notDirectory
    | .error error => error
  invocation.complain (what ++ quoteAlways path ++ ": " ++ error.message)
  return 1

/-- Moves files. With more than two operands the last is a directory. -/
def mv : Utility := fun invocation =>
  invocation.withArguments moveOptions 1 fun args => do
    let operands :=
      if args.has "strip-trailing-slashes" then args.operands.map FileSystem.trimSlashes
      else args.operands
    match operands, args.value? "target-directory" with
    | [], _ => invocation.misuse 1 "missing file operand"
    | sources, some directory =>
      if ← Task.isDirectory directory then moveInto invocation args directory sources
      else noDirectory invocation "target directory " directory
    | [source], none =>
      invocation.misuse 1 ("missing destination file operand after " ++ quoteAlways source)
    | source :: target :: rest, none =>
      let last := (target :: rest).getLast?.getD target
      if args.has "no-target-directory" then
        if rest = [] then
          forOperands invocation [source] fun tally source =>
            moveTo invocation args tally source target
        else invocation.misuse 1 ("extra operand " ++ quoteAlways (rest.headD ""))
      else if ← Task.isDirectory last then
        moveInto invocation args last (source :: (target :: rest).dropLast)
      else if rest = [] then
        forOperands invocation [source] fun tally source =>
          moveTo invocation args tally source target
      else noDirectory invocation "target " last

/-! Touching. -/

def touchOptions : List OptionRule :=
  [.plain 'a', .flag 'c' "no-create", .valued 'd' "date", .plain 'f', .flag 'h' "no-dereference",
    .plain 'm', .valued 'r' "reference", .valued 't' "t", { word := "time", value := .required }]

def daysIn (year month : Nat) : Nat :=
  match month with
  | 2 => if year % 4 = 0 ∧ (year % 100 ≠ 0 ∨ year % 400 = 0) then 29 else 28
  | 4 | 6 | 9 | 11 => 30
  | _ => 31

/-- Whether a text is a time in digits: maybe a year, then month, day, hour and minute, and maybe
seconds after a dot. -/
def isTime (text : String) : Bool :=
  let main := text.toList.takeWhile (· != '.')
  let seconds := text.toList.drop main.length
  let number (digits : List Char) : Nat := Number.ofDigits 10 digits
  let late := main.drop (main.length - 8)
  let year := main.take (main.length - 8)
  let fullYear :=
    if year.length = 2 then (if number year < 69 then 2000 else 1900) + number year else number year
  let month := number (late.take 2)
  let day := number ((late.drop 2).take 2)
  [8, 10, 12].contains main.length && main.all Char.isDigit &&
    (seconds == [] || seconds.length == 3 && seconds.tail.all Char.isDigit &&
      number seconds.tail ≤ 60) &&
    1 ≤ month && month ≤ 12 && 1 ≤ day && day ≤ daysIn fullYear month &&
    number ((late.drop 4).take 2) < 24 && number (late.drop 6) < 60

def touchOne (invocation : Invocation) (create : Bool) (tally : Tally) (path : String) :
    Task Tally := do
  let fail (what : String) (error : FileError) : Task Tally := do
    invocation.complain (what ++ quoteAlways path ++ ": " ++ error.message)
    return tally.fail
  if path = "-" then return tally
  match ← Task.stat path true with
  | .ok _ => return tally
  | .error .notFound =>
    if !create then return tally
    else if endsWithSlash path then fail "setting times of " .notFound
    else
      match ← Task.openForWriting path .atEnd with
      | .ok _ => return tally
      | .error error => fail "cannot touch " error
  | .error .notDirectory =>
    if endsWithSlash path then fail "setting times of " .notDirectory
    else fail "cannot touch " .notDirectory
  | .error error => fail "cannot touch " error

/-- Creates files that do not exist. Times are not kept. -/
def touch : Utility := fun invocation =>
  invocation.withArguments touchOptions 1 fun args => do
    let wrongTime := (args.value? "t").filter fun time => !isTime time
    let reference := args.value? "reference"
    let unread ← match reference with
      | some path => do
        pure (match ← Task.stat path true with
          | .error error => some (path, error)
          | .ok _ => none)
      | none => pure none
    match wrongTime, unread, args.operands with
    | some time, _, _ =>
      invocation.complain ("invalid date format " ++ Text.quotePlain time)
      return 1
    | none, some (path, error), _ =>
      invocation.complain
        ("failed to get attributes of " ++ quoteAlways path ++ ": " ++ error.message)
      return 1
    | none, none, [] => invocation.misuse 1 "missing file operand"
    | none, none, operands =>
      forOperands invocation operands (touchOne invocation (!args.has "no-create"))

end JobShell.Manage
