import JobShell.Script.Arithmetic
import JobShell.Script.Field
import JobShell.Script.Glob
import JobShell.Script.State

/-!
From words to texts: tildes, parameters, commands whose output is put in and arithmetic, then fields
and the paths that match.
-/

namespace JobShell.Script

structure Expander where
  /-- The output of a command, without the line ends at its end. -/
  output : Command → Run (List Char)

namespace Expander

inductive Value where
  | unset
  | text (text : String)
  /-- All positional parameters. -/
  | list (texts : List String)
  deriving DecidableEq, Repr

def separators : Run (List Char) := do
  return ((← Run.value? "IFS").map String.toList).getD blanks

def joint : Run (List Char) := do
  match ← Run.value? "IFS" with
  | none => return [' ']
  | some text => return text.toList.take 1

def valueOf (name : String) : Run Value := do
  let state ← get
  let number (n : Nat) : Value := .text (toString n)
  match name with
  | "@" | "*" => return .list state.parameters
  | "#" => return number state.parameters.length
  | "?" => return number state.status
  | "$" => return .text (toString state.root)
  | "!" => return match state.background with
    | some pid => .text (toString pid)
    | none => .unset
  | "-" =>
    let letters := state.settings.filterMap Setting.letter?
    let ordered := (Setting.all.filterMap Setting.letter?).reverse.filter letters.contains
    return .text (String.ofList ordered)
  | _ =>
    if name.toList.all Char.isDigit then
      match Number.ofDigits 10 name.toList with
      | 0 => return .text state.name
      | n + 1 => return match state.parameters[n]? with
        | some text => .text text
        | none => .unset
    else
      match ← Run.value? name with
      | some text => return .text text
      | none => return .unset

def inserted (quoted : Bool) (text : List Char) : List Glyph :=
  if quoted then Glyph.quotedText text else text.map fun c => .char c false true

def region (quoted : Bool) (glyphs : List Glyph) : List Glyph :=
  (if quoted then [] else [Glyph.edge]) ++ glyphs ++ [.close]

/-- Positional parameters that are put in: apart from each other if `apart` says so and they can
be. -/
def insertedList (apart quoted star : Bool) (texts : List String) : Run (List Glyph) := do
  if apart && !(quoted && star) then
    let each := texts.map fun text => inserted quoted text.toList
    let start := if quoted && !texts.isEmpty then [Glyph.list] else []
    return start ++ List.flatten (each.intersperse [.stop quoted])
  else
    return inserted quoted (List.intercalate (← joint) (texts.map String.toList))

def Value.asText : Value → Run (List Char)
  | .unset => pure []
  | .text value => pure value.toList
  | .list texts => do return List.intercalate (← joint) (texts.map String.toList)

def plainGlyph? (splits : Bool) : Part → Option Glyph
  | .char c => some (.char c false splits)
  | .literal c => some (.char c true false)
  | .mark => some .mark
  | _ => none

def endsTilde (colons : Bool) (c : Char) : Bool :=
  c == '/' || (colons && c == ':')

/-- The home directory of a user; with no name, that of the script's user. -/
def homeOf (user : String) : Run (Option String) := do
  match user with
  | "" => Run.value? "HOME"
  | "root" => return some "/root"
  | _ => return none

/-- Puts in the home directory for a tilde at the start; with `colons` also for those after
colons. -/
def tildes (colons : Bool) (fuel : Nat) (parts : List Part) : Run (List Part) := do
  match fuel with
  | 0 => return parts
  | fuel + 1 =>
    let later (parts : List Part) : Run (List Part) := do
      if !colons then return parts
      else
        let before := parts.takeWhile fun part => part.char? != some ':'
        match parts.drop before.length with
        | colon :: rest => return before ++ colon :: (← tildes colons fuel rest)
        | [] => return parts
    match parts with
    | .char '~' :: rest =>
      let user := rest.takeWhile fun part => part.char?.any (!endsTilde colons ·)
      let after := rest.drop user.length
      let isEnd := match after with
        | [] => true
        | part :: _ => part.char?.isSome
      match plainText? user with
      | some name =>
        match ← (if isEnd then homeOf name else pure none) with
        | some home => return (home.toList.map Part.literal) ++ (← later after)
        | none => later parts
      | none => later parts
    | _ => later parts

def glyphsWith (splits : Bool) (special : Part → Run (List Glyph)) :
    List Part → Run (List Glyph)
  | [] => pure []
  | part :: rest => do
    match plainGlyph? splits part with
    | some glyph => return glyph :: (← glyphsWith splits special rest)
    | none =>
      let first ← special part
      return first ++ (← glyphsWith splits special rest)

def arithmetic (text : List Char) : Run (List Char) := do
  let bindings ← Run.know (·.bindings)
  let strict ← Run.isOn .nounset
  match Arithmetic.evaluate (fun name => (bindings.lookup name).bind Variable.value) strict text with
  | .ok (value, assigned) =>
    assigned.forM fun (name, value) => Run.assign name (toString value)
    return (toString value).toList
  | .error (.wrong message) =>
    Run.fail ("arithmetic expression: " ++ message ++ ": \"" ++ String.ofList text ++ "\"")
  | .error (.illegalNumber text) => Run.fail ("Illegal number: " ++ text)
  | .error (.unset name) => Run.fail (name ++ ": parameter not set")

def notSet (name : String) (empty : Bool) (message : List Char) : Run (List Glyph) :=
  if message = [] then
    Run.fail (name ++ ": parameter not set" ++ if empty then " or null" else "")
  else Run.fail (name ++ ": " ++ String.ofList message)

/-- What a parameter comes to. `apart` says whether fields are made of the result, and `word` expands
a word that belongs to it, as text that may be split or as a pattern. -/
def parameter (word : (forText : Bool) → List Part → Run (List Glyph)) (apart : Bool)
    (name : String) (use : ParameterUse) (empty : Bool) (parts : List Part) (quoted : Bool) :
    Run (List Glyph) := do
  if use = .invalid then Run.fail "Bad substitution"
  let value ← valueOf name
  let isSet := match value with
    | .unset => false
    | .text text => !(empty && text = "")
    | .list texts => !(empty && texts.length ≤ 1 && texts.all (· == ""))
  let put (value : Value) : Run (List Glyph) := do
    match value with
    | .unset => return region quoted []
    | .text text => return region quoted (inserted quoted text.toList)
    | .list texts => return region quoted (← insertedList apart quoted (name == "*") texts)
  let putWord : Run (List Glyph) := do
    return .close :: (← word true parts) ++ [.close]
  match use with
  | .otherwise => if isSet then put value else putWord
  | .instead => if isSet then putWord else return region quoted []
  | .required =>
    if isSet then put value else notSet name empty (Glyph.text (← word false parts))
  | .assigned =>
    if isSet then put value
    else
      let text := String.ofList (Glyph.text (← word false parts))
      Run.assign name text
      put (.text text)
  | _ =>
    if value = .unset && (← Run.isOn .nounset) then notSet name false []
    else
      match use with
      | .length =>
        return region quoted (inserted quoted (toString (← value.asText).length).toList)
      | .trimmed atStart greedy =>
        let pattern := Glyph.pattern (← word false parts)
        let trim (text : List Char) : List Char :=
          if atStart then pattern.trimStart greedy text else pattern.trimEnd greedy text
        if value = .unset then return region quoted []
        else return region quoted (inserted quoted (trim (← value.asText)))
      | _ => put value

/-- What parts come to, nested at most `fuel` deep. `apart` says whether fields are made of them and
`splits` whether text that is not quoted can be split. -/
def glyphs (e : Expander) (fuel : Nat) (apart splits : Bool) (parts : List Part) :
    Run (List Glyph) :=
  match fuel with
  | 0 => Run.fail "nested too deeply"
  | fuel + 1 =>
    glyphsWith splits (fun part => do
      match part with
      | .parameter name use empty word quoted =>
        let expand (forText : Bool) (parts : List Part) : Run (List Glyph) := do
          let parts ← tildes false 1 parts
          if forText then e.glyphs fuel apart (!quoted) parts else e.glyphs fuel false false parts
        parameter expand apart name use empty word quoted
      | .output command quoted => return region quoted (inserted quoted (← e.output command))
      | .arithmetic text quoted =>
        let text := Glyph.text (← e.glyphs fuel false false text)
        return region quoted (inserted quoted (← arithmetic text))
      | _ => return []) parts

def maxDepth : Nat := 1000000

def text (e : Expander) (parts : List Part) : Run String := do
  let parts ← tildes false 1 parts
  return String.ofList (Glyph.text (← e.glyphs maxDepth false false parts))

def assigned (e : Expander) (parts : List Part) : Run String := do
  let parts ← tildes true limit parts
  return String.ofList (Glyph.text (← e.glyphs maxDepth false false parts))

def document (e : Expander) (parts : Document) : Run String := do
  return String.ofList (Glyph.text (← e.glyphs maxDepth false false parts))

def pattern (e : Expander) (parts : List Part) : Run Pattern := do
  let parts ← tildes false 1 parts
  return Glyph.pattern (← e.glyphs maxDepth false false parts)

def paths (field : List Glyph) : Run (List String) := do
  let pattern := Glyph.pattern field
  if !pattern.isSpecial || (← Run.isOn .noglob) then return [String.ofList (Glyph.text field)]
  else
    let found ← Task.look fun view =>
      matchingPaths view.store.files view.context.cwd pattern
    if found = [] then return [String.ofList (Glyph.text field)]
    else return found.map String.ofList

def fields (e : Expander) (parts : List Part) : Run (List String) := do
  match plainText? parts with
  | some text =>
    if text.toList.any ['~', '*', '?', '[', '\\'].contains then expand else return [text]
  | none => expand
where
  expand : Run (List String) := do
    let parts ← tildes false 1 parts
    let glyphs ← e.glyphs maxDepth true false parts
    let fields := splitFields (← separators) none glyphs
    return (← fields.mapM paths).flatten

def allFields (e : Expander) (words : List (List Part)) : Run (List String) := do
  return (← words.mapM e.fields).flatten

end Expander

end JobShell.Script
