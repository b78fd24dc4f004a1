import JobShell.Program.Arguments

/-!
The program `cat`, which passes its inputs on, one after the other. With options it numbers lines,
leaves out repeated empty ones and shows what cannot be seen.
-/

namespace JobShell.Cat

structure Style where
  number : Bool
  /-- Whether empty lines are not numbered. -/
  skipEmpty : Bool
  squeeze : Bool
  ends : Bool
  tabs : Bool
  visible : Bool
  deriving DecidableEq, Repr

def Style.isPlain (style : Style) : Bool :=
  !(style.number || style.squeeze || style.ends || style.tabs || style.visible)

structure Progress where
  /-- The number of the last line that was numbered. -/
  line : Nat := 0
  /-- How many empty lines came last, two at most; none inside a line. -/
  empty : Option Nat := some 0
  deriving DecidableEq, Repr

def options : List OptionRule :=
  [.flag 'A' "show-all", .flag 'b' "number-nonblank", .plain 'e', .flag 'E' "show-ends",
    .flag 'n' "number", .flag 's' "squeeze-blank", .plain 't', .flag 'T' "show-tabs",
    .plain 'u', .flag 'v' "show-nonprinting"]

def Style.ofArguments (args : Arguments) : Style :=
  let all := args.has "show-all"
  { number := args.has "number" || args.has "number-nonblank"
    skipEmpty := args.has "number-nonblank"
    squeeze := args.has "squeeze-blank"
    ends := all || args.has "e" || args.has "show-ends"
    tabs := all || args.has "t" || args.has "show-tabs"
    visible := all || args.has "e" || args.has "t" || args.has "show-nonprinting" }

def lineNumber (n : Nat) : List Char :=
  let digits := (toString n).toList
  List.replicate (6 - digits.length) ' ' ++ digits ++ ['\t']

def showSeven (n : Nat) : List Char :=
  if n < 32 then ['^', Char.ofNat (n + 64)]
  else if n < 127 then [Char.ofNat n]
  else ['^', '?']

def showByte (style : Style) (byte : UInt8) (next : Option UInt8) : List Char :=
  let n := byte.toNat
  if byte = 9 then if style.tabs then ['^', 'I'] else ['\t']
  else if style.visible then if n < 128 then showSeven n else ['M', '-'] ++ showSeven (n - 128)
  else if style.ends && byte == 13 && next == some 10 then ['^', 'M']
  else [Char.ofNat n]

/-- Puts an input into the style. `out` is what was put out so far, in reverse. -/
def format (style : Style) (progress : Progress) (out : List Char) :
    Bytes → List Char × Progress
  | [] => (out.reverse, progress)
  | 10 :: rest =>
    match progress.empty with
    | none => format style { progress with empty := some 0 } (mark ['\n'] ++ out) rest
    | some n =>
      if n ≥ 1 && style.squeeze then format style progress out rest
      else
        let progress := { progress with empty := some (n + 1) }
        if style.number && !style.skipEmpty then
          format style { progress with line := progress.line + 1 }
            (mark ['\n'] ++ (lineNumber (progress.line + 1)).reverse ++ out) rest
        else format style progress (mark ['\n'] ++ out) rest
  | byte :: rest =>
    let shown := (showByte style byte rest.head?).reverse
    match progress.empty with
    | some _ =>
      if style.number then
        format style { line := progress.line + 1, empty := none }
          (shown ++ (lineNumber (progress.line + 1)).reverse ++ out) rest
      else format style { progress with empty := none } (shown ++ out) rest
    | none => format style progress (shown ++ out) rest
where
  /-- A line end with the mark before it, in reverse. -/
  mark (newline : List Char) : List Char :=
    if style.ends then newline ++ ['$'] else newline

def openInput (path : String) : Task (Except FileError Handle) := do
  if path = "-" then
    match ← Task.look (·.context.handle? 0) with
    | some handle => return .ok handle
    | none => return .error .badDescriptor
  else Task.openForReading path

def feedsItself (input : Handle) : Task Bool :=
  Task.look fun view =>
    match view.store.opened[input]?, view.openFile? 1 with
    | some source, some target =>
      match view.store.files.get? source.node with
      | some (.file _ content) => source.node == target.node && source.offset < content.length
      | _ => false
    | _, _ => false

inductive Copied where
  | whole (progress : Progress)
  | failed (progress : Progress)
  /-- The output cannot be written. -/
  | stuck

def copyBlocks (invocation : Invocation) (path : String) (input : Handle) (style : Style)
    (progress : Progress) : Nat → Task Copied
  | 0 => pure (.whole progress)
  | fuel + 1 => do
    match ← Task.readHandle input Task.blockBytes with
    | .error error =>
      invocation.complainOf path error
      return .failed progress
    | .ok [] => return .whole progress
    | .ok block =>
      let (bytes, progress) :=
        if style.isPlain then (block, progress)
        else
          let (text, progress) := format style progress [] block
          (text.map fun c => UInt8.ofNat c.toNat, progress)
      match ← Task.writeBytes 1 bytes with
      | .ok () => copyBlocks invocation path input style progress fuel
      | .error error =>
        invocation.complain ("write error: " ++ error.message)
        return .stuck

def copy (invocation : Invocation) (style : Style) (progress : Progress) (path : String) :
    Task Copied := do
  match ← openInput path with
  | .error error =>
    invocation.complainOf path error
    return .failed progress
  | .ok input =>
    if ← feedsItself input then
      invocation.complain (Text.quoteIfNeeded true path ++ ": input file is output file")
      return .failed progress
    else copyBlocks invocation path input style progress Task.blockLimit

/-- Copies the inputs; the code tells whether that worked for all of them. -/
def copyAll (invocation : Invocation) (style : Style) (progress : Progress) (code : UInt8) :
    List String → Task UInt8
  | [] => pure code
  | path :: rest => do
    match ← copy invocation style progress path with
    | .whole progress => copyAll invocation style progress code rest
    | .failed progress => copyAll invocation style progress 1 rest
    | .stuck => return 1

/-- Passes its inputs on; without operands that is standard input. -/
def cat : Utility := fun invocation =>
  invocation.withArguments options 1 fun args =>
    copyAll invocation (.ofArguments args) {} 0
      (if args.operands = [] then ["-"] else args.operands)

end JobShell.Cat
