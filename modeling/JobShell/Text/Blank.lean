/-!
Blank characters and the words between them. A word is a longest run of characters that are
not blank; `words` finds them, `unwords` puts single spaces between them.
-/

namespace JobShell.Text

/-- The code points with the Unicode property `White_Space`, as inclusive ranges. -/
def blankRanges : List (Nat × Nat) :=
  [(0x09, 0x0D), (0x20, 0x20), (0x85, 0x85), (0xA0, 0xA0), (0x1680, 0x1680), (0x2000, 0x200A),
    (0x2028, 0x2029), (0x202F, 0x202F), (0x205F, 0x205F), (0x3000, 0x3000)]

def isBlank (c : Char) : Bool :=
  blankRanges.any fun (first, last) => first ≤ c.toNat && c.toNat ≤ last

def trimEnd (text : List Char) : List Char :=
  (text.reverse.dropWhile isBlank).reverse

def runs (sep : Char → Bool) (text : List Char) : List (List Char) :=
  (text.splitOnP sep).filter (!·.isEmpty)

def words (text : List Char) : List (List Char) :=
  runs isBlank text

def unwords (ws : List String) : String :=
  String.intercalate " " ws

theorem isBlank_space : isBlank ' ' = true := by decide

@[simp] theorem runs_nil (sep : Char → Bool) : runs sep [] = [] := rfl

theorem ne_nil_of_mem_runs {sep : Char → Bool} {text word : List Char} (h : word ∈ runs sep text) :
    word ≠ [] := by
  simpa using (List.mem_filter.mp h).2

end JobShell.Text
