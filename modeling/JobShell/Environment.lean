/-!
What the shell knows of its surroundings: variables, and the directory it believes to be in.
-/

namespace JobShell

/-- Variables by name; each name occurs once. -/
abbrev Variables := List (String × String)

namespace Variables

def get? (vars : Variables) (key : String) : Option String :=
  List.lookup key vars

def set (vars : Variables) (key value : String) : Variables :=
  match vars with
  | [] => [(key, value)]
  | (k, v) :: rest => if k = key then (key, value) :: rest else (k, v) :: set rest key value

@[simp] theorem get?_set_self (vars : Variables) (key value : String) :
    (vars.set key value).get? key = some value := by
  induction vars with
  | nil => simp [set, get?]
  | cons entry rest ih =>
    obtain ⟨k, v⟩ := entry
    by_cases h : k = key
    · simp [set, get?, h]
    · have hk : (key == k) = false := by simpa using Ne.symm h
      simpa [set, get?, h, List.lookup_cons, hk] using ih

/-- Setting one variable leaves the others as they are. -/
theorem get?_set_of_ne (vars : Variables) {key other : String} (value : String)
    (h : other ≠ key) : (vars.set key value).get? other = vars.get? other := by
  have hne : (other == key) = false := by simpa using h
  induction vars with
  | nil => simp [set, get?, List.lookup_cons, hne]
  | cons entry rest ih =>
    obtain ⟨k, v⟩ := entry
    by_cases hk : k = key
    · subst hk
      simp [set, get?, List.lookup_cons, hne]
    · simp only [set, hk, if_false, get?, List.lookup_cons]
      split
      · rfl
      · exact ih

end Variables

def isAbsolute (path : String) : Bool :=
  path.toList.head? == some '/'

/-- `path` as seen from `directory`, as text: one slash is put between the two where it is needed,
and an absolute path stands for itself. -/
def joinPath (directory path : String) : String :=
  if isAbsolute path || directory.isEmpty then path
  else if directory.toList.getLast? == some '/' then directory ++ path
  else directory ++ "/" ++ path

structure Environment where
  /-- The shell's own variables, which no child sees. -/
  vars : Variables := []
  /-- The variables of the shell's process, which its children get. -/
  inherited : Variables := []
  /-- The directory that relative paths of `cd` start from. -/
  currentDir : String := ""
  deriving DecidableEq, Repr, Inhabited

namespace Environment

/-- A variable of the shell, or else of its process. -/
def getVar (env : Environment) (key : String) : Option String :=
  (env.vars.get? key).or (env.inherited.get? key)

def setVar (env : Environment) (key value : String) : Environment :=
  { env with vars := env.vars.set key value }

/-- The home directory; an empty one does not count. -/
def home (env : Environment) : Option String :=
  (env.getVar "HOME").filter fun path => !path.isEmpty

def resolve (env : Environment) (path : String) : String :=
  joinPath env.currentDir path

theorem resolve_of_isAbsolute (env : Environment) {path : String}
    (h : isAbsolute path = true) : env.resolve path = path := by
  simp [resolve, joinPath, h]

end Environment

end JobShell
