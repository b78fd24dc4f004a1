import JobShell.Text.Grapheme.Ranges

/-!
Characters as a reader sees them: clusters of characters that belong together. `clusters` takes a
text apart by the rules for extended grapheme clusters, `applyBackspaces` lets each backspace take
the cluster before it away.
-/

namespace JobShell.Text

inductive ClusterClass where
  | carriageReturn
  | lineFeed
  | control
  | extend
  | joiner
  | spacing
  | prepend
  | flagHalf
  | leading
  | vowel
  | trailing
  /-- A syllable of a leading part and a vowel. -/
  | openSyllable
  /-- A syllable with a trailing part. -/
  | closedSyllable
  | pictograph
  | consonant
  | other
  deriving DecidableEq, Repr

def inRanges (ranges : List (Nat × Nat)) (code : Nat) : Bool :=
  ranges.any fun (first, last) => first ≤ code && code ≤ last

def syllables : Nat × Nat := (0xAC00, 0xD7A3)

/-- How many syllables share a leading part and a vowel; the first of them has no trailing part. -/
def syllableStride : Nat := 28

def flagHalves : Nat × Nat := (0x1F1E6, 0x1F1FF)

def ClusterClass.ofChar (c : Char) : ClusterClass :=
  let code := c.toNat
  if c = '\r' then .carriageReturn
  else if c = '\n' then .lineFeed
  else if 0x20 ≤ code ∧ code < 0x7F then .other
  else if c = '\u200d' then .joiner
  else if inRanges controlRanges code then .control
  else if inRanges extendRanges code then .extend
  else if inRanges spacingRanges code then .spacing
  else if inRanges prependRanges code then .prepend
  else if inRanges [flagHalves] code then .flagHalf
  else if inRanges leadingRanges code then .leading
  else if inRanges vowelRanges code then .vowel
  else if inRanges trailingRanges code then .trailing
  else if inRanges [syllables] code then
    if (code - syllables.1) % syllableStride = 0 then .openSyllable else .closedSyllable
  else if inRanges pictographRanges code then .pictograph
  else if inRanges consonantRanges code then .consonant
  else .other

def ClusterClass.isControl : ClusterClass → Bool
  | carriageReturn | lineFeed | control => true
  | _ => false

def isLinker (c : Char) : Bool :=
  inRanges linkerRanges c.toNat

def isLinking (c : Char) : Bool :=
  c != '\u200c' && (ClusterClass.ofChar c == .extend || c == '\u200d')

def endsLinked (cluster : List Char) : Bool :=
  (cluster.takeWhile isLinking).any isLinker &&
    (cluster.dropWhile isLinking).head?.any (ClusterClass.ofChar · == .consonant)

def endsPictograph (cluster : List Char) : Bool :=
  (cluster.dropWhile (ClusterClass.ofChar · == .extend)).head?.any
    (ClusterClass.ofChar · == .pictograph)

def endsHalfFlag (cluster : List Char) : Bool :=
  (cluster.takeWhile (ClusterClass.ofChar · == .flagHalf)).length % 2 == 1

def joins (cluster : List Char) (c : Char) : Bool :=
  match cluster with
  | [] => false
  | last :: before =>
    match ClusterClass.ofChar last, ClusterClass.ofChar c with
    | .carriageReturn, .lineFeed => true
    | .leading, .leading | .leading, .vowel | .leading, .openSyllable
    | .leading, .closedSyllable => true
    | .openSyllable, .vowel | .openSyllable, .trailing | .vowel, .vowel | .vowel, .trailing => true
    | .closedSyllable, .trailing | .trailing, .trailing => true
    | left, right =>
      if left.isControl || right.isControl then false
      else
        match left, right with
        | _, .extend | _, .joiner | _, .spacing | .prepend, _ => true
        | _, .consonant => endsLinked cluster
        | .joiner, .pictograph => endsPictograph before
        | .flagHalf, .flagHalf => endsHalfFlag cluster
        | _, _ => false

/-- Adds a character to the clusters before it; clusters and their characters are in reverse. -/
def addToClusters (clusters : List (List Char)) (c : Char) : List (List Char) :=
  match clusters with
  | [] => [[c]]
  | cluster :: rest =>
    if joins cluster c then (c :: cluster) :: rest else [c] :: cluster :: rest

def clusters (text : List Char) : List (List Char) :=
  ((text.foldl addToClusters []).map List.reverse).reverse

structure Typed where
  text : String := ""
  /-- The sizes in bytes of the clusters that can be taken away, the last one first. -/
  sizes : List Nat := []
  deriving DecidableEq, Repr

def sizeLimit : Nat := 256

/-- The text without its last bytes; none if that would cut a character in two. -/
def dropBytes? (text : String) (count : Nat) : Option String :=
  String.fromUTF8? (text.toUTF8.extract 0 (text.utf8ByteSize - count))

/-- Types a cluster. A backspace takes away as many bytes as the last cluster had, as far as that is
remembered. None if that would cut a character in two. -/
def Typed.type? (typed : Typed) (cluster : List Char) : Option Typed :=
  if cluster = ['\x08'] then
    match typed.sizes with
    | [] => some typed
    | size :: sizes => (dropBytes? typed.text size).map fun text => { text, sizes }
  else
    let cluster := String.ofList cluster
    some
      { text := typed.text ++ cluster
        sizes := cluster.utf8ByteSize % sizeLimit :: typed.sizes }

/-- The text that is left when each backspace has taken away the cluster before it; none if a
character would be cut in two. -/
def applyBackspaces (text : String) : Option String :=
  if text.toList.contains '\x08' then
    ((clusters text.toList).foldlM Typed.type? {}).map Typed.text
  else some text

@[simp] theorem clusters_nil : clusters [] = [] := rfl

theorem flatten_addToClusters (clusters : List (List Char)) (c : Char) :
    (addToClusters clusters c).flatten = c :: clusters.flatten := by
  cases clusters with
  | nil => rfl
  | cons cluster rest =>
    by_cases h : joins cluster c = true <;> simp [addToClusters, h]

theorem applyBackspaces_of_not_mem {text : String} (h : '\x08' ∉ text.toList) :
    applyBackspaces text = some text := by
  simp [applyBackspaces, h]

end JobShell.Text
