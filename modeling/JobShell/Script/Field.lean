import JobShell.Script.Pattern

/-!
From what a word comes to, to fields: what expansions put in is split where separators are, and
quoted text is kept together.
-/

namespace JobShell.Script

inductive Glyph where
  /-- A character; `splits` says whether it may separate fields. -/
  | char (c : Char) (quoted splits : Bool)
  /-- Something quoted is here, even if it is empty. -/
  | mark
  /-- Something that can be split is put in from here on. -/
  | edge
  /-- What is put in ends here, or the text of a word that belongs to a parameter starts. -/
  | close
  /-- Quoted parameters follow that are kept apart. -/
  | list
  /-- A new field starts here; the one before it may be left out if it is empty and `kept` does not
  say that it stays. -/
  | stop (kept : Bool)
  deriving DecidableEq, Repr

namespace Glyph

def char? : Glyph → Option Char
  | char c _ _ => some c
  | _ => none

def quotedText (text : List Char) : List Glyph :=
  text.map fun c => char c true false

def text (glyphs : List Glyph) : List Char :=
  glyphs.filterMap char?

def pattern (glyphs : List Glyph) : Pattern :=
  glyphs.filterMap fun glyph =>
    match glyph with
    | char c quoted _ => some (c, quoted)
    | _ => none

end Glyph

def blanks : List Char := [' ', '\t', '\n']

structure Splitting where
  /-- The fields that are complete, last first. -/
  fields : List (List Glyph) := []
  /-- The field that is being read, in reverse. -/
  current : List Glyph := []
  /-- Whether a blank has just ended a field. -/
  blank : Bool := false
  /-- How many more fields may be ended; no limit if there is none. -/
  left : Option Nat := none
  /-- What the last field is cut down to if nothing but separators follows. -/
  cut : Option (List Glyph) := none
  /-- Whether text that can be split would be something new that is put in. -/
  fresh : Bool := false
  /-- Whether nothing was put in after quoted parameters, of which the last stays even if it is
  empty. -/
  listed : Bool := false
  /-- Whether every separator ends a field, which is so in what follows quoted parameters. -/
  strict : Bool := false
  deriving DecidableEq, Repr

namespace Splitting

def add (s : Splitting) (glyph : Glyph) : Splitting :=
  { s with current := glyph :: s.current }

def finish (s : Splitting) : Splitting :=
  { s with fields := s.current.reverse :: s.fields, current := [] }

def separate (separators : List Char) (s : Splitting) (glyph : Glyph) (c : Option Char) :
    Splitting :=
  let isSeparator := match c with
    | some c => separators.contains c
    | none => true
  let s := if s.fresh then { s with fresh := false, listed := false, strict := s.listed } else s
  let isBlank := isSeparator && !s.strict && match c with
    | some c => blanks.contains c
    | none => true
  if s.left = some 0 then
    if isBlank then { s.add glyph with cut := s.cut.or (some s.current) }
    else
      { s.add glyph with
        cut := if isSeparator && s.blank then s.cut else none
        blank := false }
  else if s.blank && isBlank then s
  else if s.blank && isSeparator then { s with blank := false }
  else if !isSeparator then { s.add glyph with blank := false }
  else if s.current = [] && isBlank then s
  else
    match s.left with
    | some 1 => { s.add glyph with left := some 0, cut := some s.current, blank := isBlank }
    | left => { s.finish with left := left.map (· - 1), blank := isBlank }

def step (separators : List Char) (s : Splitting) (glyph : Glyph) : Splitting :=
  match glyph with
  | .edge => { s with blank := false, fresh := false, listed := false, strict := s.listed }
  | .close => { s with blank := false, fresh := true }
  | .list => { s with listed := true }
  | .mark => { s.add glyph with blank := false }
  | .stop true => { s.finish with blank := false }
  | .stop false => s.separate separators glyph none
  | .char c _ splits =>
    if splits then s.separate separators glyph (some c) else { s.add glyph with blank := false }

def result (s : Splitting) : List (List Glyph) :=
  let last := s.cut.getD s.current
  (if last = [] ∧ !s.listed then s.fields else last.reverse :: s.fields).reverse

end Splitting

/-- Splits into fields; into no more than `most` of them, if there is a limit. -/
def splitFields (separators : List Char) (most : Option Nat) (glyphs : List Glyph) :
    List (List Glyph) :=
  (glyphs.foldl (Splitting.step separators) { left := most }).result

theorem splitFields_quotedText (separators : List Char) {text : List Char} (h : text ≠ []) :
    splitFields separators none (Glyph.quotedText text) = [Glyph.quotedText text] := by
  have step : ∀ (text : List Char) (s : Splitting),
      (Glyph.quotedText text).foldl (Splitting.step separators) s =
        { s with current := (Glyph.quotedText text).reverse ++ s.current
                 blank := s.blank && text.isEmpty } := by
    intro text
    induction text with
    | nil => intro s; simp [Glyph.quotedText]
    | cons c rest ih =>
      intro s
      simp only [Glyph.quotedText, List.map_cons, List.foldl_cons] at ih ⊢
      rw [ih]
      simp [Splitting.step, Splitting.add]
  rw [splitFields, step]
  cases text with
  | nil => exact absurd rfl h
  | cons c rest => simp [Splitting.result, Glyph.quotedText]

end JobShell.Script
