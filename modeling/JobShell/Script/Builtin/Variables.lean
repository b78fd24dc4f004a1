import JobShell.Script.Builtin.Output
import JobShell.Script.Field

/-!
Builtins for variables, parameters and settings.
-/

namespace JobShell.Script.Builtin

/-- A text as one word of a script, always quoted. At most `fuel` runs of single quotes are put
between double ones. -/
def quoted (fuel : Nat) (text : List Char) : List Char :=
  match fuel with
  | 0 => []
  | fuel + 1 =>
    let plain := text.takeWhile (· != '\'')
    let rest := text.drop plain.length
    let quotes := rest.takeWhile (· == '\'')
    let first := ['\''] ++ plain ++ ['\'']
    if quotes = [] then first
    else
      let both := first ++ ['"'] ++ quotes ++ ['"']
      let after := rest.drop quotes.length
      if after = [] then both else both ++ quoted fuel after

def quote (text : String) : String :=
  String.ofList (quoted (text.length + 1) text.toList)

def sortedVariables (wanted : Variable → Bool) : Run (List (String × Variable)) := do
  let found := (← get).bindings.filter fun entry => wanted entry.2
  return found.mergeSort fun a b => a.1 ≤ b.1

def printVariables (word : String) (wanted : Variable → Bool) : Run Nat := do
  (← sortedVariables wanted).forM fun (name, v) =>
    Run.print (word ++ name ++
      (match v.value with
        | some value => "=" ++ quote value
        | none => "") ++ "\n")
  return 0

def splitAssignment (arg : String) : String × Option String :=
  let name := arg.toList.takeWhile (· != '=')
  match arg.toList.drop name.length with
  | _ :: value => (String.ofList name, some (String.ofList value))
  | [] => (String.ofList name, none)

def modifyVariable (name : String) (f : Variable → Variable) : Run Unit := do
  let old := ((← get).bindings.lookup name).getD { value := none }
  modify fun state =>
    let others := state.bindings.filter (·.1 != name)
    { state with bindings := (name, f old) :: others }

def mark (word : String) (wanted : Variable → Bool) (f : Variable → Variable) : Body :=
  fun args => do
    let (given, names) ← options ['p'] [] (args.length + 1) args
    if given ≠ [] ∨ names = [] then printVariables (word ++ " ") wanted
    else
      names.forM fun arg => do
        let (name, value) := splitAssignment arg
        if !isName name then Run.fail (name ++ ": bad variable name")
        if let some value := value then Run.assign name value
        modifyVariable name f
      return 0

def markExported : Body :=
  mark "export" (·.exported) fun v => { v with exported := true }

def markFixed : Body :=
  mark "readonly" (·.fixed) fun v => { v with fixed := true }

def localize : Body := fun args => do
  if (← get).functionDepth = 0 then Run.fail "not in a function"
  (← operands args).forM fun arg => do
    if arg = "-" then
      modify fun state =>
        match state.frames with
        | frame :: frames =>
          { state with
            frames := { frame with settings := frame.settings.or (some state.settings) } :: frames }
        | [] => state
    else
      let (name, value) := splitAssignment arg
      if !isName name then Run.fail (name ++ ": bad variable name")
      Run.makeLocal name
      if let some value := value then Run.assign name value
  return 0

def unset : Body := fun args => do
  let (given, names) ← options ['f', 'v'] [] (args.length + 1) args
  let functions := given.getLast?.any (·.1 == 'f')
  names.forM fun name => do
    if functions then
      modify fun state => { state with functions := state.functions.filter (·.1 != name) }
    else
      if !isName name then Run.fail (name ++ ": bad variable name")
      if ((← get).bindings.lookup name).any (·.fixed) then Run.fail (name ++ ": is read only")
      Run.putVariable name none
  return 0

def switch (setting : Setting) (on : Bool) : Run Unit :=
  modify fun state =>
    let others := state.settings.filter (· != setting)
    { state with settings := if on then setting :: others else others }

def switchLetter (letter : Char) (on : Bool) : Run Unit := do
  match Setting.ofLetter? letter with
  | some setting => switch setting on
  | none => Run.fail ("Illegal option -" ++ letter.toString)

/-- Switches the setting with a name; without one, prints all of them. -/
def switchName (name : Option String) (on : Bool) : Run Unit := do
  match name with
  | some name =>
    match Setting.ofName? name with
    | some setting => switch setting on
    | none => Run.fail ("Illegal option -o " ++ name)
  | none =>
    let settings ← Run.know (·.settings)
    if on then
      Run.print "Current option settings\n"
      Setting.all.forM fun s =>
        Run.print (s.name ++ String.ofList (List.replicate (16 - s.name.length) ' ') ++
          (if settings.contains s then "on" else "off") ++ "\n")
    else
      Setting.all.forM fun s =>
        Run.print ("set " ++ (if settings.contains s then "-o " else "+o ") ++ s.name ++ "\n")

/-- Switches the settings of one word; `rest` are the words after it, of which those that are not
names of settings are left. -/
def switchLetters (on : Bool) (rest : List String) : List Char → Run (List String)
  | [] => pure rest
  | 'o' :: letters => do
    switchName rest.head? on
    switchLetters on rest.tail letters
  | letter :: letters => do
    switchLetter letter on
    switchLetters on rest letters

def setParameters (parameters : List String) : Run Unit :=
  modify fun state =>
    { state with parameters, optionIndex := 1, optionOffset := 0 }

/-- Switches the settings in front of arguments, at most `fuel` words of them. The arguments that
follow; none if there was not even a word that says that arguments follow. -/
def switchAll (fuel : Nat) (args : List String) : Run (Option (List String)) := do
  match fuel, args with
  | fuel + 1, word :: rest =>
    match word.toList with
    | ['-'] =>
      switch .xtrace false
      switch .verbose false
      return if rest = [] then none else some rest
    | ['-', '-'] => return some rest
    | '-' :: letters => do switchAll fuel (← switchLetters true rest letters)
    | '+' :: letters => do switchAll fuel (← switchLetters false rest letters)
    | _ => return some args
  | _, _ => return none

/-- Switches settings and replaces the positional parameters; without arguments, prints the
variables. -/
def set : Body := fun args => do
  if args = [] then printVariables "" fun v => v.value.isSome
  else
    if let some parameters ← switchAll (args.length + 1) args then setParameters parameters
    return 0

def shift : Body := fun args => do
  let count ← match args with
    | [] => pure 1
    | arg :: _ => Run.number arg
  let state ← get
  if count > state.parameters.length then Run.fail "can't shift that many"
  setParameters (state.parameters.drop count)
  return 0

/-- Where `getopts` reads on: the word and the characters of it that are left; none at the end. -/
def optionAt (args : List String) (index offset : Nat) : Option (Nat × List Char) :=
  let inWord := if offset = 0 ∨ index ≤ 1 then [] else ((args[index - 2]?).getD "").toList.drop offset
  if inWord ≠ [] then some (index, inWord)
  else
    match (args[index - 1]?).map String.toList with
    | some ['-', '-'] => none
    | some ('-' :: c :: rest) => some (index + 1, c :: rest)
    | _ => none

/-- Reads the next option of some arguments: sets a variable to its letter and OPTARG to its
value. -/
def getopts : Body := fun args => do
  match args with
  | letters :: name :: given =>
    let state ← get
    let words := if given = [] then state.parameters else given
    let inRange := state.optionIndex ≤ words.length + 1
    let start := if inRange then state.optionIndex else 1
    let quiet := letters.toList.head? = some ':'
    let finish (index : Nat) (offset : Nat) (letter : Char) (status : Nat) : Run Nat := do
      Run.assign "OPTIND" (toString index)
      Run.assign name letter.toString
      modify fun state => { state with optionOffset := offset }
      return status
    match optionAt words start (if inRange then state.optionOffset else 0) with
    | none =>
      let ended := words[start - 1]? = some "--"
      finish (if ended then start + 1 else start) 0 '?' 1
    | some (index, []) => finish index 0 '?' 1
    | some (index, c :: rest) =>
      let offset :=
        if rest = [] then 0 else ((words[index - 2]?).getD "").length - rest.length
      let known := c != ':' && letters.toList.contains c
      let takesValue := known && (letters.toList.dropWhile (· != c))[1]? == some ':'
      if !known then
        if quiet then Run.assign "OPTARG" c.toString
        else
          Task.complain ("Illegal option -" ++ c.toString ++ "\n")
          Run.putVariable "OPTARG" none
        finish index offset '?' 0
      else if !takesValue then
        Run.assign "OPTARG" ""
        finish index offset c 0
      else
        match rest, words[index - 1]? with
        | [], none =>
          if quiet then
            Run.assign "OPTARG" c.toString
            finish index 0 ':' 0
          else
            Task.complain ("No arg for -" ++ c.toString ++ " option\n")
            Run.putVariable "OPTARG" none
            finish index 0 '?' 0
        | [], some value =>
          Run.assign "OPTARG" value
          finish (index + 1) 0 c 0
        | value, _ =>
          Run.assign "OPTARG" (String.ofList value)
          finish index 0 c 0
  | _ => Run.fail "Usage: getopts optstring var [arg...]"

/-- Reads a line byte by byte, at most `fuel` of them; a backslash keeps its meaning unless `raw`
says that it has none. Tells whether the line had an end. -/
def readLine (raw : Bool) (fuel : Nat) (escaped : Bool) (done : List Glyph) :
    Run (List Glyph × Bool) := do
  match fuel with
  | 0 => return (done.reverse, false)
  | fuel + 1 =>
    match ← Task.read 0 1 with
    | .ok [byte] =>
      let c := Char.ofNat byte.toNat
      if c = '\x00' then readLine raw fuel escaped done
      else if escaped then
        if c = '\n' then readLine raw fuel false (.edge :: done)
        else readLine raw fuel false (.edge :: .char c true false :: done)
      else if c = '\\' ∧ !raw then readLine raw fuel true done
      else if c = '\n' then return (done.reverse, true)
      else readLine raw fuel false (.char c false true :: done)
    | _ => return (done.reverse, false)

/-- Sets variables to fields; those for which there is none become empty. -/
def assignFields : List String → List (List Glyph) → Run Unit
  | [], _ => pure ()
  | name :: names, fields => do
    Run.assign name (String.ofList (Glyph.text (fields.headD [])))
    assignFields names fields.tail

def read : Body := fun args => do
  let (given, names) ← options ['r'] ['p'] (args.length + 1) args
  if names = [] then Run.fail "arg count"
  let (line, complete) ← readLine (given.any (·.1 == 'r')) limit false []
  let separators := ((← Run.value? "IFS").map String.toList).getD blanks
  assignFields names (splitFields separators (some names.length) line)
  return if complete then 0 else 1

def setAliases : Body := fun args => do
  let shown (name value : String) : String := name ++ "=" ++ quote value ++ "\n"
  let aliases ← Run.know (·.aliases)
  if args = [] then
    (aliases.mergeSort fun a b => a.1 ≤ b.1).forM fun (name, value) => Run.print (shown name value)
    return 0
  else
    let codes ← args.mapM fun arg => do
      match splitAssignment arg with
      | (name, some value) =>
        modify fun state => { state with aliases := state.aliases.set name value }
        return 0
      | (name, none) =>
        match (← Run.know (·.aliases)).get? name with
        | some value =>
          Run.print (shown name value)
          return 0
        | none =>
          Task.complain ("alias: " ++ name ++ " not found\n")
          return 1
    return codes.foldl max 0

def unalias : Body := fun args => do
  let (given, names) ← options ['a'] [] (args.length + 1) args
  if given ≠ [] then
    modify fun state => { state with aliases := [] }
    return 0
  else
    let codes ← names.mapM fun name => do
      if ((← Run.know (·.aliases)).get? name).isSome then
        modify fun state => { state with aliases := state.aliases.filter (·.1 != name) }
        return 0
      else
        Task.complain ("unalias: " ++ name ++ " not found\n")
        return 1
    return codes.foldl max 0

end JobShell.Script.Builtin
