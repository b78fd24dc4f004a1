import JobShell.Program.Arguments
import JobShell.Program.Sort.Key

/-!
The program `sort`, which puts lines in order, merges inputs that are in order, or checks that an
input is. Lines that no key tells apart are in the order of their bytes.
-/

namespace JobShell.Sort

abbrev Line := List Char

inductive Check where
  | loud
  | quiet
  deriving DecidableEq, Repr

structure Settings where
  /-- How lines are compared where a key does not say. -/
  overall : Manner := {}
  /-- The keys, first the last to be given. -/
  keys : List Key := []
  separator : Option Char := none
  check : Option Check := none
  merge : Bool := false
  unique : Bool := false
  stable : Bool := false
  output : Option String := none
  /-- Whether lines end in NUL. -/
  zero : Bool := false
  /-- The inputs, first the last to be given. -/
  files : List String := []
  deriving DecidableEq, Repr, Inhabited

inductive Fault where
  | wrong (message : String)
  /-- Something that the help would tell. -/
  | misuse (message : String)
  deriving DecidableEq, Repr

def options : List OptionRule :=
  [.flag 'b' "ignore-leading-blanks", .plain 'c', .plain 'C',
    { word := "check", value := .optional }, .flag 'd' "dictionary-order",
    .flag 'f' "ignore-case", .flag 'g' "general-numeric-sort", .flag 'h' "human-numeric-sort",
    .flag 'i' "ignore-nonprinting", .valued 'k' "key", .flag 'm' "merge", .flag 'M' "month-sort",
    .flag 'n' "numeric-sort", .valued 'o' "output", .flag 'r' "reverse", .flag 'R' "random-sort",
    { word := "random-source", value := .required }, { word := "sort", value := .required },
    .flag 's' "stable", .valued 'S' "buffer-size", .valued 't' "field-separator",
    .valued 'T' "temporary-directory", .flag 'u' "unique", .flag 'V' "version-sort",
    { letter := some 'y', value := .optional }, .flag 'z' "zero-terminated",
    { word := "parallel", value := .required }, { word := "batch-size", value := .required },
    { word := "compress-program", value := .required }]

def mannerLetters : List (String × Char) :=
  [("ignore-leading-blanks", 'b'), ("dictionary-order", 'd'), ("ignore-case", 'f'),
    ("general-numeric-sort", 'g'), ("human-numeric-sort", 'h'), ("ignore-nonprinting", 'i'),
    ("month-sort", 'M'), ("numeric-sort", 'n'), ("reverse", 'r'), ("random-sort", 'R'),
    ("version-sort", 'V')]

def sortWords : List (String × Char) :=
  [("general-numeric", 'g'), ("human-numeric", 'h'), ("month", 'M'), ("numeric", 'n'),
    ("random", 'R'), ("version", 'V')]

def choose {α : Type} [BEq α] (choices : List (String × α)) (word : String) : Option α :=
  match choices.lookup word with
  | some value => some value
  | none =>
    match choices.filter fun (name, _) => name.startsWith word with
    | [] => none
    | (_, value) :: rest => if rest.all (·.2 == value) then some value else none

def notAmong (option word : String) (lines : List String) : Fault :=
  .misuse ("invalid argument " ++ Text.quotePlain word ++ " for '--" ++ option ++
    "'\nValid arguments are:" ++ String.join (lines.map ("\n  - " ++ ·)))

def checkNumber (option : String) (units : List Char) (text : String) : Except Fault Nat :=
  match Key.readCount text.toList with
  | none => .error (.wrong ("invalid " ++ option ++ " argument '" ++ text ++ "'"))
  | some (n, rest) =>
    match rest with
    | [] => .ok n
    | [c] =>
      if units.contains c then .ok n
      else .error (.wrong ("invalid suffix in " ++ option ++ " argument '" ++ text ++ "'"))
    | _ => .error (.wrong ("invalid suffix in " ++ option ++ " argument '" ++ text ++ "'"))

namespace Settings

def setCheck (s : Settings) (check : Check) : Except Fault Settings :=
  if s.check.any (· != check) then .error (.wrong "options '-cC' are incompatible")
  else .ok { s with check := some check }

def setSeparator (s : Settings) (text : String) : Except Fault Settings :=
  let set (c : Char) : Except Fault Settings :=
    if s.separator.any (· != c) then .error (.wrong "incompatible tabs")
    else .ok { s with separator := some c }
  match text.toList with
  | [] => .error (.wrong "empty tab")
  | [c] => set c
  | ['\\', '0'] => set '\x00'
  | _ => .error (.wrong ("multi-character tab " ++ Text.quotePlain text))

def addKey (s : Settings) (key : Key) : Settings :=
  { s with keys := key :: s.keys }

def addOption (s : Settings) (key : String) (value : Option String) : Except Fault Settings :=
  let text := value.getD ""
  let manner (letter : Char) : Settings :=
    { s with overall := (s.overall.add? true true letter).getD s.overall }
  match mannerLetters.lookup key with
  | some letter => .ok (manner letter)
  | none =>
    match key with
    | "c" => s.setCheck .loud
    | "C" => s.setCheck .quiet
    | "check" =>
      match value with
      | none => s.setCheck .loud
      | some word =>
        match choose [("quiet", Check.quiet), ("silent", .quiet), ("diagnose-first", .loud)] word with
        | some check => s.setCheck check
        | none => .error (notAmong "check" word ["'quiet', 'silent'", "'diagnose-first'"])
    | "sort" =>
      match choose sortWords text with
      | some letter => .ok (manner letter)
      | none =>
        .error (notAmong "sort" text (sortWords.map fun (word, _) => "'" ++ word ++ "'"))
    | "key" =>
      match Key.ofText (Text.quotePlain text) text.toList with
      | .ok key => .ok (s.addKey key)
      | .error message => .error (.wrong message)
    | "merge" => .ok { s with merge := true }
    | "output" =>
      if s.output.any (· != text) then .error (.wrong "multiple output files specified")
      else .ok { s with output := some text }
    | "stable" => .ok { s with stable := true }
    | "unique" => .ok { s with unique := true }
    | "zero-terminated" => .ok { s with zero := true }
    | "field-separator" => s.setSeparator text
    | "buffer-size" =>
      (checkNumber "-S" "%bEgGkKmMPQRtTYZ".toList text).map fun _ => s
    | "parallel" => do
      if (← checkNumber "--parallel" [] text) = 0 then
        .error (.wrong "number in parallel must be nonzero")
      else .ok s
    | "batch-size" => do
      if (← checkNumber "--batch-size" [] text) < 2 then
        .error (.wrong ("invalid --batch-size argument '" ++ text ++
          "'\nsort: minimum --batch-size argument is '2'"))
      else .ok s
    | _ => .ok s

def addOptions (s : Settings) : List (String × Option String) → Except Fault Settings
  | [] => .ok s
  | (key, value) :: rest => do (← s.addOption key value).addOptions rest

end Settings

/-! Keys can also be told by operands: `+1` is the start of one, counted from zero, and an operand
like `-2` after it is the end. -/

/-- A field and maybe a character after a point, counted from zero. -/
def readPlace (text : List Char) : Option (Nat × Nat × List Char) :=
  (Key.readCount text).bind fun (field, rest) =>
    match rest with
    | '.' :: rest => (Key.readCount rest).map fun (characters, rest) => (field, characters, rest)
    | _ => some (field, 0, rest)

def startOfOperand (operand : String) : Option Key :=
  match operand.toList with
  | '+' :: text =>
    (readPlace text).bind fun (field, characters, rest) =>
      match Key.readLetters {} true rest with
      | (manner, []) => some { field, characters, manner }
      | _ => none
  | _ => none

def endOfOperand (key : Key) (operand : String) : Option (Except Fault Key) :=
  match operand.toList with
  | '-' :: c :: rest =>
    if !c.isDigit then none
    else
      some <| match readPlace (c :: rest) with
        | none => .error (.wrong "invalid number after '.'")
        | some (field, characters, rest) =>
          match Key.readLetters key.manner false rest with
          | (manner, []) =>
            let stop : Option KeyEnd :=
              if characters = 0 ∧ field = 0 then some { field := 0, characters := 0 }
              else if characters = 0 then some { field := field - 1, characters := 0 }
              else some { field, characters }
            .ok { key with stop, manner }
          | _ =>
            .error (.wrong ("stray character in field spec: invalid field specification " ++
              Text.quotePlain operand))
  | _ => none

def readArguments (fuel : Nat) (s : Settings) (words : List String) : Except Fault Settings :=
  match fuel, words with
  | 0, _ | _, [] => .ok s
  | fuel + 1, word :: rest =>
    match word.toList with
    | ['-', '-'] => .ok { s with files := rest.reverse ++ s.files }
    | '-' :: '-' :: text =>
      match Arguments.readWord options (String.ofList text) rest with
      | .error message => .error (.misuse message)
      | .ok (key, value, rest) => do readArguments fuel (← s.addOption key value) rest
    | '-' :: letter :: letters =>
      match Arguments.readLetters options rest (letter :: letters) with
      | .error message => .error (.misuse message)
      | .ok (given, rest) => do readArguments fuel (← s.addOptions given) rest
    | _ =>
      match startOfOperand word with
      | none => readArguments fuel { s with files := word :: s.files } rest
      | some key =>
        match rest with
        | [] => readArguments fuel (s.addKey key) rest
        | next :: later =>
          match endOfOperand key next with
          | none => readArguments fuel (s.addKey key) rest
          | some (.error fault) => .error fault
          | some (.ok key) => readArguments fuel (s.addKey key) later

structure Criteria where
  keys : List Key
  separator : Option Char
  /-- Whether lines that no key tells apart are the same. -/
  final : Bool
  /-- Whether the order of the bytes is reversed. -/
  reverse : Bool
  deriving DecidableEq, Repr

namespace Criteria

def compareKeys (separator : Option Char) (a b : Line) : List Key → Ordering
  | [] => .eq
  | key :: rest =>
    match key.manner.compareKeys (key.ofLine separator a) (key.ofLine separator b) with
    | .eq => compareKeys separator a b rest
    | order => order

def compareLines (c : Criteria) (a b : Line) : Ordering :=
  let bytes := if c.reverse then (compareText a b).swap else compareText a b
  if c.keys = [] then bytes
  else
    match compareKeys c.separator a b c.keys with
    | .eq => if c.final then .eq else bytes
    | order => order

def le (c : Criteria) (a b : Line) : Bool :=
  c.compareLines a b != .gt

def firsts (c : Criteria) : List Line → List Line
  | [] => []
  | line :: rest => line :: go line rest
where
  go (last : Line) : List Line → List Line
    | [] => []
    | line :: rest =>
      if c.compareLines last line = .eq then go last rest else line :: go line rest

/-- The number of the first line, counted from `n`, that is not in order after the one before it. -/
def firstDisorder (c : Criteria) (unique : Bool) (n : Nat) : List Line → Option (Nat × Line)
  | a :: b :: rest =>
    let order := c.compareLines a b
    if order = .gt ∨ (unique ∧ order = .eq) then some (n + 1, b)
    else firstDisorder c unique (n + 1) (b :: rest)
  | _ => none

/-- Puts the next lines of several inputs together, at most `fuel` of them: always the least one,
and of those that are the same the one of the first input. -/
def merge (c : Criteria) (fuel : Nat) (inputs : List (List Line)) : List Line :=
  match fuel with
  | 0 => []
  | fuel + 1 =>
    match least none 0 inputs with
    | none => []
    | some (i, line) => line :: merge c fuel (inputs.modify i List.tail)
where
  least (best : Option (Nat × Line)) (i : Nat) : List (List Line) → Option (Nat × Line)
    | [] => best
    | [] :: rest => least best (i + 1) rest
    | (line :: _) :: rest =>
      match best with
      | none => least (some (i, line)) (i + 1) rest
      | some (_, other) =>
        least (if c.compareLines line other = .lt then some (i, line) else best) (i + 1) rest

end Criteria

def Settings.criteria (s : Settings) : Except Fault Criteria := do
  let keys := s.keys.reverse.map fun key =>
    if key.manner.isPlain && !key.manner.reverse then { key with manner := s.overall } else key
  let keys := if keys = [] ∧ !s.overall.isPlain then [{ manner := s.overall }] else keys
  match keys.findSome? (·.manner.conflict?) with
  | some letters => .error (.wrong ("options '-" ++ letters ++ "' are incompatible"))
  | none =>
    return { keys, separator := s.separator, final := s.stable || s.unique
             reverse := s.overall.reverse }

/-- The lines of a text; the last may lack its end. -/
def linesOf (stop : UInt8) (bytes : Bytes) : List Line :=
  let lines := (bytes.splitOnP (· == stop)).map fun line =>
    line.map fun byte => Char.ofNat byte.toNat
  if lines.getLast? = some [] then lines.dropLast else lines

def unlines (stop : Char) (lines : List Line) : List Char :=
  lines.flatMap (· ++ [stop])

def failed (invocation : Invocation) (message : String) : Task UInt8 := do
  invocation.complain message
  return 2

def openInput (path : String) : Task (Except FileError Handle) := do
  if path = "-" then
    match ← Task.look (·.context.handle? 0) with
    | some handle => return .ok handle
    | none => return .error .badDescriptor
  else Task.openForReading path

def readInput (path : String) : Task (Except String Bytes) := do
  let shown := Text.quoteIfNeeded true path
  match ← openInput path with
  | .error error => return .error ("open failed: " ++ shown ++ ": " ++ error.message)
  | .ok handle =>
    match ← Task.readAll handle with
    | .error error => return .error ("read failed: " ++ shown ++ ": " ++ error.message)
    | .ok bytes => return .ok bytes

def readInputs : List String → Task (Except String (List Bytes))
  | [] => pure (.ok [])
  | path :: rest => do
    match ← readInput path with
    | .error message => return .error message
    | .ok bytes =>
      match ← readInputs rest with
      | .error message => return .error message
      | .ok more => return .ok (bytes :: more)

def firstUnreadable : List String → Task (Option String)
  | [] => pure none
  | path :: rest => do
    match ← openInput path with
    | .ok _ => firstUnreadable rest
    | .error error =>
      return some ("cannot read: " ++ Text.quoteIfNeeded true path ++ ": " ++ error.message)

def putOut (invocation : Invocation) (s : Settings) (lines : List Line) : Task UInt8 := do
  let bytes := (unlines (if s.zero then '\x00' else '\n') lines).map fun c => UInt8.ofNat c.toNat
  let stuck (name : String) (error : FileError) : Task UInt8 := do
    invocation.complain ("fflush failed: " ++ name ++ ": " ++ error.message)
    failed invocation "write error"
  match s.output with
  | none =>
    if bytes = [] then return 0
    match ← Task.writeBytes 1 bytes with
    | .ok () => return 0
    | .error error => stuck "'standard output'" error
  | some path =>
    match ← Task.openForWriting path .empty with
    | .error error =>
      failed invocation
        ("open failed: " ++ Text.quoteIfNeeded true path ++ ": " ++ error.message)
    | .ok handle =>
      let number := 3
      Task.modifyContext (·.setHandle number handle)
      match ← Task.writeBytes number bytes with
      | .ok () => return 0
      | .error error => stuck (Text.quoteIfNeeded true path) error

def checkInput (invocation : Invocation) (s : Settings) (criteria : Criteria) (check : Check)
    (path : String) : Task UInt8 := do
  match ← readInput path with
  | .error message => failed invocation message
  | .ok bytes =>
    match criteria.firstDisorder s.unique 1 (linesOf (if s.zero then 0 else 10) bytes) with
    | none => return 0
    | some (n, line) =>
      if check = .loud then
        invocation.complain (Text.quoteIfNeeded true path ++ ":" ++ toString n ++ ": disorder: " ++
          String.ofList line)
      return 1

def run (invocation : Invocation) (s : Settings) : Task UInt8 := do
  match s.criteria with
  | .error (.wrong message) => failed invocation message
  | .error (.misuse message) => invocation.misuse 2 message
  | .ok criteria =>
    let files := if s.files = [] then ["-"] else s.files.reverse
    match s.check with
    | some check =>
      let letter := if check = .loud then "c" else "C"
      match files with
      | _ :: extra :: _ =>
        failed invocation
          ("extra operand " ++ Text.quotePlain extra ++ " not allowed with -" ++ letter)
      | _ =>
        if s.output.isSome then
          failed invocation ("options '-" ++ letter ++ "o' are incompatible")
        else checkInput invocation s criteria check (files.headD "-")
    | none =>
      match ← firstUnreadable files with
      | some message => failed invocation message
      | none =>
        match ← (s.output.mapM fun path => Task.openForWriting path .kept) with
        | some (.error error) =>
          failed invocation ("open failed: " ++
            Text.quoteIfNeeded true (s.output.getD "") ++ ": " ++ error.message)
        | _ =>
          match ← readInputs files with
          | .error message => failed invocation message
          | .ok contents =>
            let inputs := contents.map (linesOf (if s.zero then 0 else 10))
            let lines :=
              if s.merge then criteria.merge (inputs.flatten.length + 1) inputs
              else inputs.flatten.mergeSort criteria.le
            putOut invocation s (if s.unique then criteria.firsts lines else lines)

/-- Puts the lines of its inputs in order; without operands that is standard input. -/
def sort : Utility := fun invocation =>
  match readArguments (invocation.args.length + 1) {} invocation.args with
  | .error (.wrong message) => failed invocation message
  | .error (.misuse message) => invocation.misuse 2 message
  | .ok settings => run invocation settings

end JobShell.Sort
