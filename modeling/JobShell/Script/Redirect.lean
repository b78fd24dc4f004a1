import JobShell.Script.Expansion

/-!
Redirections of a script: the open files under some numbers are replaced for one command and put
back after it.
-/

namespace JobShell.Script

inductive Prepared where
  | file (number : Nat) (way : OpenWay) (path : String)
  | copy (number source : Nat)
  | close (number : Nat)
  | text (number : Nat) (text : String)
  deriving DecidableEq, Repr

def Prepared.number : Prepared → Nat
  | file number .. | copy number _ | close number | text number _ => number

namespace Run

def badNumber {α : Type} : Run α := do
  modify fun state => { state with line := state.reached }
  fail "Syntax error: Bad fd number"

def prepare (e : Expander) (redirections : List Redirection) : Run (List Prepared) :=
  redirections.mapM fun redirection => do
    match redirection with
    | .file number way path => return .file number way (← e.text path)
    | .copy number source => return .copy number source
    | .close number => return .close number
    | .named number source =>
      match (← e.text source).toList with
      | ['-'] => return .close number
      | [c] =>
        if c.isDigit then return .copy number (c.toNat - '0'.toNat) else badNumber
      | _ => badNumber
    | .document number document =>
      let parts ← know fun state => (state.documents.lookup document).getD []
      return .text number (← e.document parts)

def openMessage (creates : Bool) : FileError → String
  | .notFound | .notDirectory => if creates then "Directory nonexistent" else "No such file"
  | error => error.message

def isRegular (path : String) : Task Bool := do
  match ← Task.stat path true with
  | .ok (_, .file _ _) | .ok (_, .program _) => return true
  | _ => return false

def place (number : Nat) (handle : Handle) : Run Unit :=
  Task.modifyContext (·.setHandle number handle)

def openFile (way : OpenWay) (path : String) : Run Handle := do
  let creates := way != .read
  let exclusive := way == .write && (← isOn .noclobber) && (← isRegular path)
  if exclusive then fail ("cannot create " ++ path ++ ": " ++ FileError.alreadyExists.message)
  let opened ← match way with
    | .read => Task.openForReading path
    | .write | .overwrite => Task.openForWriting path .empty
    | .append => Task.openForWriting path .atEnd
    | .both => Task.openForWriting path .kept
  match opened with
  | .ok handle => return handle
  | .error error =>
    fail ("cannot " ++ (if creates then "create " else "open ") ++ path ++ ": " ++
      openMessage creates error)

/-- Makes a pipe: its end for reading and the one for writing. -/
def makePipe : Task (Handle × Handle) :=
  Task.change fun view =>
    let (ends, store) := view.store.openPipe
    (ends, { view with store })

def writeTo (handle : Handle) (text : String) : Task Unit :=
  Task.change fun view =>
    ((), { view with store := view.store.tryWrite handle (Text.rawBytes text) })

def perform (redirection : Prepared) : Run Unit := do
  match redirection with
  | .file number way path => place number (← openFile way path)
  | .close number => Task.modifyContext (·.close number)
  | .copy number source =>
    match ← Task.look (·.context.handle? source) with
    | some handle => place number handle
    | none => fail (toString source ++ ": " ++ FileError.badDescriptor.message)
  | .text number text =>
    let (source, sink) ← makePipe
    writeTo sink text
    place number source

def performAll (redirections : List Prepared) : Run Unit :=
  redirections.forM perform

def restore (before : List (Nat × Handle)) (numbers : List Nat) : Task Unit :=
  Task.modifyContext fun context =>
    { context with
      descriptors := before.filter (fun entry => numbers.contains entry.1) ++
        context.descriptors.filter fun entry => !numbers.contains entry.1 }

/-- Does something with other open files; what was there before is put back after it. -/
def redirected {α : Type} (redirections : List Prepared) (body : Run α) : Run α := do
  if redirections = [] then body
  else
    let before ← Task.look (·.context.descriptors)
    let result ← attempt body
    restore before (redirections.map Prepared.number)
    resume result

end Run

end JobShell.Script
