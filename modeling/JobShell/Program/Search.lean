import JobShell.Program
import JobShell.Text.Raw

/-!
From the name of a command to the program that runs. A name with a slash is a path; any other is
looked for in the directories of PATH. A file whose first line names an interpreter is run by that;
any other file that may be executed and is no program is run by the shell of the system.
-/

namespace JobShell

def defaultSearchPath : String := "/bin:/usr/bin"

def systemShell : String := "/bin/sh"

/-- The longest word a program can be given, in bytes with the final zero. -/
def maxWordBytes : Nat := 131072

/-- How much of a file is looked at to see what interprets it, in bytes. -/
def interpreterWindow : Nat := 256

def maxInterpreters : Nat := 5

namespace Image

def isGap (c : Char) : Bool :=
  c == ' ' || c == '\t'

def endsName (c : Char) : Bool :=
  isGap c || c == '\x00'

def trimGaps (text : List Char) : List Char :=
  (text.reverse.dropWhile isGap).reverse

def window (content : Bytes) : List Char :=
  let bytes : Bytes :=
    content.take interpreterWindow ++ List.replicate (interpreterWindow - content.length) 0
  bytes.map fun b => Char.ofNat b.toNat

/-- The text between `#!` and the end of the line, without the gaps at its end. A line that does
not end in the part that is looked at is cut off there, but not within the name. -/
def interpreterText? (content : Bytes) : Option (List Char) :=
  match window content with
  | '#' :: '!' :: rest =>
    let line := (rest.takeWhile (· != '\x00')).takeWhile (· != '\n')
    if rest[line.length]? = some '\n' then some (trimGaps line)
    else if (rest.dropWhile isGap).any endsName then some (trimGaps rest.dropLast)
    else none
  | _ => none

def interpreterLine? (content : Bytes) : Option (String × List String) :=
  match (interpreterText? content).map (List.dropWhile isGap) with
  | none | some [] => none
  | some text =>
    let name := text.takeWhile (!endsName ·)
    let after := text.drop name.length
    let word := (after.dropWhile isGap).takeWhile (· != '\x00')
    some (String.ofList name, if after.head?.any isGap then [String.ofList word] else [])

/-- What runs when the file at `path` is executed by a process whose open files are `own`. Nothing
runs that is being written through one of the open files `held`, whoever has it. `depth` bounds
interpreters of interpreters. -/
def ofFile (store : Store) (held : List Handle) (own : Nat → Option Handle) (cwd : NodeId)
    (depth : Nat) (path : String) : Except FileError Image := do
  let node ← store.find own cwd path
  match store.files.get? node with
  | some (.program name) => .ok (.binary name)
  | some (.file mode content) =>
    if !Permission.execute.grantedBy mode then .error .denied
    else if store.hasOpen held node OpenFile.writes then .error .textBusy
    else
      match interpreterLine? content with
      | none => .error .badFormat
      | some (interpreter, word) =>
        match depth with
        | 0 => .error .tooManyLinks
        | depth + 1 =>
          let image ← ofFile store held own cwd depth (Text.ofRaw interpreter)
          let leading := Text.ofRaw interpreter :: word.map Text.ofRaw
          .ok (.script image.program (image.words leading ++ [path]))
  | _ => .error .denied

/-- What runs when the file at `path` is executed; a file of no known format is a script for the
shell of the system. -/
def ofPath (store : Store) (held : List Handle) (own : Nat → Option Handle) (cwd : NodeId)
    (path : String) : Except FileError Image :=
  match ofFile store held own cwd maxInterpreters path with
  | .error .badFormat => do
    let image ← ofFile store held own cwd maxInterpreters systemShell
    .ok (.script image.program [systemShell, path])
  | result => result

def candidates (exported : Variables) (name : String) : List String :=
  if name.toList.contains '/' then [name]
  else
    let dirs := ((exported.get? "PATH").getD defaultSearchPath).toList.splitOnP (· == ':')
    dirs.map fun dir => if dir = [] then name else String.ofList dir ++ "/" ++ name

def passesOver : FileError → Bool
  | .notFound | .notDirectory | .denied => true
  | _ => false

/-- The first of the paths that can be executed; a failure that is not passed over ends the
search. -/
def findAmong (store : Store) (held : List Handle) (own : Nat → Option Handle) (cwd : NodeId)
    (failure : FileError) : List String → Except FileError Image
  | [] => .error failure
  | path :: rest =>
    match ofPath store held own cwd path with
    | .ok image => .ok image
    | .error error =>
      if passesOver error then
        findAmong store held own cwd (if error = .denied then error else failure) rest
      else .error error

def find (store : Store) (held : List Handle) (own : Nat → Option Handle) (cwd : NodeId)
    (exported : Variables) (argv : List String) : Except FileError Image :=
  let name := argv.headD ""
  if name = "" || argv.any (maxWordBytes ≤ ·.utf8ByteSize) then .error .notFound
  else findAmong store held own cwd .notFound (candidates exported name)

end Image

end JobShell
