import JobShell.Proofs.Trees
import Mathlib.Data.Fintype.Card

/-!
Where names lead in a tree with links. Without a limit on links this is a relation, and what is said
of names in a row can be said of them in parts. In a tree with one root, whatever directory names lead
to from the root can also be reached without links, from each directory to one below it, and that way
is its path.
-/

namespace JobShell

def pathParts (path : String) : List String :=
  (Text.runs (· == '/') path.toList).map String.ofList

def Node.target? : Node → Option String
  | .link target => some target
  | _ => none

structure Directory.Lists (d : Directory) (name : String) (id : NodeId) : Prop where
  notHere : name ≠ "."
  notUp : name ≠ ".."
  short : name.utf8ByteSize ≤ maxNameBytes
  found : d.entries.lookup name = some id

instance (name : String) : Decidable (IsName name) :=
  decidable_of_iff (name ≠ "" ∧ '/' ∉ name.toList ∧ '\x00' ∉ name.toList ∧ name ≠ "." ∧
    name ≠ ".." ∧ name.utf8ByteSize ≤ maxNameBytes)
    ⟨fun ⟨nonempty, noSlash, noNul, notHere, notUp, short⟩ =>
      ⟨nonempty, noSlash, noNul, notHere, notUp, short⟩,
      fun h => ⟨h.nonempty, h.noSlash, h.noNul, h.notHere, h.notUp, h.short⟩⟩

namespace FileSystem

/-- Where one name leads from a directory: by so many links to another node, from where these names
are to be followed first. -/
inductive Turn (fs : FileSystem) (here : NodeId) (d : Directory) (name : String) :
    Nat → NodeId → List String → Prop
  | stay (dot : name = ".") : Turn fs here d name 0 here []
  | up (dots : name = "..") : Turn fs here d name 0 d.parent []
  | down {id : NodeId} (lists : d.Lists name id)
      (noLink : ∀ target, fs.get? id ≠ some (.link target)) : Turn fs here d name 0 id []
  | link {id : NodeId} {target : String} (lists : d.Lists name id)
      (isLink : fs.get? id = some (.link target)) (nonempty : target ≠ "") :
      Turn fs here d name 1 (if isAbsolute target then root else here) (pathNames target)

/-- The names lead from one node to another, by so many links. Each of them is looked up in a
directory that may be searched. -/
inductive Follows (fs : FileSystem) : NodeId → List String → Nat → NodeId → Prop
  | done (here : NodeId) : Follows fs here [] 0 here
  | turn {here next there : NodeId} {d : Directory} {name : String} {more rest : List String}
      {k n : Nat} (directory : fs.directory? here = some d)
      (searchable : d.grants .execute = true) (turn : fs.Turn here d name k next more)
      (later : Follows fs next (more ++ rest) n there) : Follows fs here (name :: rest) (k + n) there

/-- The node at the end of a walk on which all links are followed. -/
def destination (fs : FileSystem) (links : Nat) (here : NodeId) (names : List String) :
    Except FileError (Option NodeId) :=
  (fs.walk true links here names).map Place.node?

/-- The node is a directory that can be entered and searched. -/
def Enterable (fs : FileSystem) (id : NodeId) : Prop :=
  ∃ d, fs.directory? id = some d ∧ d.grants .execute = true

/-- The names lead down from the root to the directory, through directories that may be searched. -/
inductive Way (fs : FileSystem) : List String → NodeId → Prop
  | root : Way fs [] root
  | step {names : List String} {parent id : NodeId} {name : String} (way : Way fs names parent)
      (searchable : fs.grants parent .execute = true)
      (named : fs.nameOf? id = some (parent, name)) : Way fs (names ++ [name]) id

/-- A proper tree with one root. A directory is listed by its parent only, and the root is its own
parent and not listed. -/
structure Rooted (fs : FileSystem) : Prop extends Proper fs where
  top : ∃ d, fs.directory? root = some d ∧ d.parent = root
  unlisted : ∀ id d, fs.directory? id = some d → ∀ entry ∈ d.entries, entry.2 ≠ root
  parents : ∀ id d, fs.directory? id = some d → ∀ entry ∈ d.entries, ∀ below,
    fs.directory? entry.2 = some below → below.parent = id

/-- What is to be checked of the directories and links of a tree with one root. -/
def Checked (fs : FileSystem) : Prop :=
  (∀ id < fs.nodes.size, ∀ d ∈ fs.directory? id, (d.entries.map (·.1)).Nodup ∧
    ∀ entry ∈ d.entries, IsName entry.1 ∧ entry.2 ≠ root ∧
      ∀ below ∈ fs.directory? entry.2, below.parent = id) ∧
  (∀ id < fs.nodes.size, ∀ target ∈ (fs.get? id).bind Node.target?, '\x00' ∉ target.toList) ∧
  ∃ d ∈ fs.directory? root, d.parent = root

instance : DecidablePred Checked :=
  fun _ => inferInstanceAs (Decidable (_ ∧ _ ∧ _))

variable {fs : FileSystem} {here next there id parent : NodeId} {d : Directory} {name path : String}
  {names front rest more : List String} {links k n : Nat}

theorem Checked.rooted (h : fs.Checked) : fs.Rooted := by
  obtain ⟨directories, links, top⟩ := h
  have each (id : NodeId) (d : Directory) (h : fs.directory? id = some d) :=
    directories id (lt_size_of_get? (directory?_eq_some.mp h)) d h
  refine ⟨⟨fun id d h => (each id d h).1, fun id d h entry hm => ((each id d h).2 entry hm).1,
    fun id target h => links id (lt_size_of_get? h) target ?_⟩, top,
    fun id d h entry hm => ((each id d h).2 entry hm).2.1,
    fun id d h entry hm => ((each id d h).2 entry hm).2.2⟩
  rw [h]
  rfl

/-! Walks. -/

private theorem destination_turn (directory : fs.directory? here = some d)
    (searchable : d.grants .execute = true) (turn : fs.Turn here d name k next more)
    (links : Nat) (rest : List String) :
    fs.destination (k + links) here (name :: rest) = fs.destination links next (more ++ rest) := by
  rw [destination, walk_cons]
  simp only [directory, searchable, Bool.not_true, Bool.false_eq_true, if_false]
  cases turn with
  | stay dot => simp [dot, destination]
  | up dots => simp [dots, destination]
  | down lists noLink =>
    obtain ⟨notHere, notUp, short, found⟩ := lists
    simp only [notHere, notUp, Nat.not_lt.mpr short, found, if_false]
    split
    · next last =>
      subst last
      rw [destination, List.append_nil, walk_nil]
      rfl
    · rw [Nat.zero_add]
      rfl
  | link lists isLink nonempty =>
    obtain ⟨notHere, notUp, short, found⟩ := lists
    simp [notHere, notUp, Nat.not_lt.mpr short, found, isLink, nonempty, Nat.add_comm 1, destination]

private theorem destination_link (directory : fs.directory? here = some d)
    (searchable : d.grants .execute = true) (turn : fs.Turn here d name (k + 1) next more)
    (rest : List String) : fs.destination 0 here (name :: rest) = .error .tooManyLinks := by
  cases turn with
  | link lists isLink nonempty =>
    obtain ⟨notHere, notUp, short, found⟩ := lists
    rw [destination, walk_cons]
    simp [directory, searchable, notHere, notUp, Nat.not_lt.mpr short, found, isLink, nonempty]
    rfl

theorem destination_of_follows (h : fs.Follows here names n there) (links : Nat) :
    fs.destination links here names =
      if n ≤ links then .ok (some there) else .error .tooManyLinks := by
  induction h generalizing links with
  | done here =>
    rw [destination, walk_nil, if_pos (Nat.zero_le links)]
    rfl
  | @turn here next there d name more rest k n directory searchable turn later ih =>
    by_cases enough : k ≤ links
    · obtain ⟨left, rfl⟩ := Nat.exists_eq_add_of_le enough
      rw [destination_turn directory searchable turn, ih]
      simp only [Nat.add_le_add_iff_left]
    · obtain ⟨rfl, rfl⟩ : k = 1 ∧ links = 0 := by
        cases turn <;> omega
      rw [destination_link directory searchable turn, if_neg (by omega)]

/-- Names in a row are followed one part after the other. -/
theorem follows_append : fs.Follows here (front ++ rest) n there ↔
    ∃ mid k m, fs.Follows here front k mid ∧ fs.Follows mid rest m there ∧ n = k + m := by
  constructor
  · intro h
    generalize all : front ++ rest = names at h
    -- behind a link the names of its target are part of the front
    induction h generalizing front with
    | done here =>
      obtain ⟨rfl, rfl⟩ := List.append_eq_nil_iff.mp all
      exact ⟨here, 0, 0, .done here, .done here, rfl⟩
    | @turn here next there d name more others k n directory searchable turn later ih =>
      cases front with
      | nil =>
        obtain rfl : rest = name :: others := all
        exact ⟨here, 0, k + n, .done here, .turn directory searchable turn later,
          (Nat.zero_add _).symm⟩
      | cons first front =>
        obtain ⟨rfl, rfl⟩ := List.cons.inj all
        obtain ⟨mid, m, l, before, after, rfl⟩ := ih (List.append_assoc more front rest)
        exact ⟨mid, k + m, l, .turn directory searchable turn before, after,
          (Nat.add_assoc k m l).symm⟩
  · rintro ⟨mid, k, m, before, after, rfl⟩
    induction before with
    | done here => rwa [List.nil_append, Nat.zero_add]
    | turn directory searchable turn later ih =>
      rw [List.cons_append, Nat.add_assoc]
      refine .turn directory searchable turn ?_
      rw [← List.append_assoc]
      exact ih after

theorem Turn.unique {k' : Nat} {next' : NodeId} {more' : List String}
    (h : fs.Turn here d name k next more) (h' : fs.Turn here d name k' next' more') :
    k' = k ∧ next' = next ∧ more' = more := by
  cases h with
  | stay dot =>
    subst dot
    cases h' with
    | stay => exact ⟨rfl, rfl, rfl⟩
    | up dots => exact absurd dots (by decide)
    | down lists | link lists => exact absurd rfl lists.notHere
  | up dots =>
    subst dots
    cases h' with
    | stay dot => exact absurd dot (by decide)
    | up => exact ⟨rfl, rfl, rfl⟩
    | down lists | link lists => exact absurd rfl lists.notUp
  | down lists noLink =>
    cases h' with
    | stay dot => exact absurd dot lists.notHere
    | up dots => exact absurd dots lists.notUp
    | down lists' =>
      obtain rfl := Option.some.inj (lists.found.symm.trans lists'.found)
      exact ⟨rfl, rfl, rfl⟩
    | link lists' isLink =>
      obtain rfl := Option.some.inj (lists.found.symm.trans lists'.found)
      exact absurd isLink (noLink _)
  | link lists isLink =>
    cases h' with
    | stay dot => exact absurd dot lists.notHere
    | up dots => exact absurd dots lists.notUp
    | down lists' noLink =>
      obtain rfl := Option.some.inj (lists.found.symm.trans lists'.found)
      exact absurd isLink (noLink _)
    | link lists' isLink' =>
      obtain rfl := Option.some.inj (lists.found.symm.trans lists'.found)
      obtain rfl := Node.link.inj (Option.some.inj (isLink.symm.trans isLink'))
      exact ⟨rfl, rfl, rfl⟩

theorem follows_turn (directory : fs.directory? here = some d)
    (searchable : d.grants .execute = true) (turn : fs.Turn here d name k next more) :
    fs.Follows here (name :: rest) n there ↔
      ∃ m, fs.Follows next (more ++ rest) m there ∧ n = k + m := by
  constructor
  · intro h
    cases h with
    | turn directory' searchable' turn' later =>
      obtain rfl := Option.some.inj (directory.symm.trans directory')
      obtain ⟨rfl, rfl, rfl⟩ := turn.unique turn'
      exact ⟨_, later, rfl⟩
  · rintro ⟨m, later, rfl⟩
    exact .turn directory searchable turn later

theorem Follows.enterable (h : fs.Follows here (name :: rest) n there) : fs.Enterable here := by
  cases h with
  | turn directory searchable turn later => exact ⟨_, directory, searchable⟩

theorem Follows.directory (h : fs.Follows here names n there)
    (ends : ∃ d, fs.directory? there = some d) : ∃ d, fs.directory? here = some d := by
  cases h with
  | done => exact ends
  | turn directory searchable turn later => exact ⟨_, directory⟩

/-- For the way to a directory that can be entered a slash at its end does not matter. -/
theorem follows_pathNames (enterable : fs.Enterable there) :
    fs.Follows here (pathNames path) n there ↔ fs.Follows here (pathParts path) n there := by
  have dot {mid : NodeId} {m : Nat} : fs.Follows mid ["."] m there ↔ mid = there ∧ m = 0 := by
    constructor
    · intro h
      obtain ⟨d, directory, searchable⟩ := h.enterable
      obtain ⟨l, later, rfl⟩ := (follows_turn directory searchable (.stay rfl)).mp h
      cases later with
      | done => exact ⟨rfl, rfl⟩
    · rintro ⟨rfl, rfl⟩
      obtain ⟨d, directory, searchable⟩ := enterable
      exact .turn directory searchable (.stay rfl) (.done mid)
  rw [pathNames]
  change fs.Follows here (if endsWithSlash path && !(pathParts path).isEmpty then
    pathParts path ++ ["."] else pathParts path) n there ↔ _
  split
  · simp [follows_append, dot]
  · rfl

/-! The way from the root. -/

theorem Way.chain (h : fs.Way names id) : fs.Chain names id := by
  induction h with
  | root => exact .root
  | step way searchable named ih => exact .step ih named

private theorem Rooted.nameOf?_root (rooted : fs.Rooted) : fs.nameOf? root = none := by
  by_contra some
  obtain ⟨⟨parent, name⟩, named⟩ := Option.ne_none_iff_exists'.mp some
  obtain ⟨-, p, hp, entry⟩ := nameOf?_eq_some named
  exact rooted.unlisted parent p hp _ entry rfl

private theorem Rooted.ne_root (rooted : fs.Rooted) (named : fs.nameOf? id = some (parent, name)) :
    id ≠ root := by
  rintro rfl
  cases rooted.nameOf?_root.symm.trans named

theorem Chain.unique {other : List String} (rooted : fs.Rooted) (h : fs.Chain names id)
    (h' : fs.Chain other id) : names = other := by
  induction h generalizing other with
  | root =>
    cases h' with
    | root => rfl
    | step chain named => exact absurd rfl (rooted.ne_root named)
  | step chain named ih =>
    cases h' with
    | root => exact absurd rfl (rooted.ne_root named)
    | step chain' named' =>
      obtain ⟨rfl, rfl⟩ := Prod.mk.inj (Option.some.inj (named.symm.trans named'))
      rw [ih chain']

private theorem Chain.exists_of_prefix (h : fs.Chain names id) (begins : front <+: names) :
    ∃ mid, fs.Chain front mid := by
  induction h with
  | root =>
    obtain rfl := List.prefix_nil.mp begins
    exact ⟨_, .root⟩
  | step chain named ih =>
    rcases List.prefix_concat_iff.mp begins with rfl | begins
    · exact ⟨_, .step chain named⟩
    · exact ih begins

private theorem Chain.lt_size (h : fs.Chain names id) (nonempty : names ≠ []) :
    id < fs.nodes.size := by
  cases h with
  | root => exact absurd rfl nonempty
  | step chain named =>
    obtain ⟨⟨d, directory, -⟩, -⟩ := nameOf?_eq_some named
    exact lt_size_of_get? (directory?_eq_some.mp directory)

/-- On the way from the root to a directory no directory comes twice. -/
theorem Chain.length_le (rooted : fs.Rooted) (h : fs.Chain names id) :
    names.length ≤ fs.nodes.size := by
  -- the directory behind each name; no two of them are the same, as their ways differ in length
  have visits (i : Fin names.length) : ∃ mid : Fin fs.nodes.size,
      fs.Chain (names.take (i + 1)) mid := by
    obtain ⟨mid, chain⟩ := h.exists_of_prefix (List.take_prefix (i + 1) names)
    have nonempty : names.take (i + 1) ≠ [] := by
      simpa [List.take_eq_nil_iff] using List.ne_nil_of_length_pos (Nat.zero_lt_of_lt i.isLt)
    exact ⟨⟨mid, chain.lt_size nonempty⟩, chain⟩
  choose visited chains using visits
  have injective : Function.Injective visited := by
    intro i j same
    have lengths := congrArg List.length ((chains i).unique rooted (same ▸ chains j))
    simp only [List.length_take, Nat.min_eq_left (Nat.succ_le_of_lt i.isLt),
      Nat.min_eq_left (Nat.succ_le_of_lt j.isLt)] at lengths
    exact Fin.ext (Nat.succ.inj lengths)
  simpa using Fintype.card_le_of_injective visited injective

private theorem climb_of_chain (rooted : fs.Rooted) (h : fs.Chain names id) {fuel : Nat}
    (enough : names.length ≤ fuel) : fs.climb fuel id rest = some (names ++ rest) := by
  induction h generalizing fuel rest with
  | root => exact climb_root fuel rest
  | step chain named ih =>
    rw [List.length_append, List.length_singleton] at enough
    obtain ⟨fuel, rfl⟩ := Nat.exists_eq_succ_of_ne_zero (Nat.ne_zero_of_lt enough)
    rw [climb_succ (rooted.ne_root named), named, Option.bind_some, List.append_assoc]
    exact ih (Nat.le_of_succ_le_succ enough)

/-- The path of a directory consists of the names that lead to it. -/
theorem Chain.pathOf? (rooted : fs.Rooted) (h : fs.Chain names id) :
    fs.pathOf? id = some (pathOfNames names) := by
  rw [FileSystem.pathOf?, climb_of_chain rooted h (h.length_le rooted), List.append_nil]
  rfl

private theorem Way.step_inv (rooted : fs.Rooted) (h : fs.Way names id)
    (named : fs.nameOf? id = some (parent, name)) :
    ∃ front, names = front ++ [name] ∧ fs.Way front parent ∧
      fs.grants parent .execute = true := by
  cases h with
  | root => exact absurd rfl (rooted.ne_root named)
  | step way searchable named' =>
    obtain ⟨rfl, rfl⟩ := Prod.mk.inj (Option.some.inj (named.symm.trans named'))
    exact ⟨_, rfl, way, searchable⟩

private theorem follows_directory (proper : fs.Proper)
    (named : fs.nameOf? id = some (parent, name)) : fs.Follows parent (name :: rest) n there ↔
      fs.grants parent .execute = true ∧ fs.Follows id rest n there := by
  obtain ⟨⟨d, directory, -⟩, p, hp, entry⟩ := nameOf?_eq_some named
  have isName := proper.named parent p hp _ entry
  have found := lookup_of_mem (proper.distinct parent p hp) entry
  have noLink (target : String) : fs.get? id ≠ some (.link target) := by
    rw [directory?_eq_some.mp directory]
    simp
  have turn : fs.Turn parent p name 0 id [] :=
    .down ⟨isName.notHere, isName.notUp, isName.short, found⟩ noLink
  rw [grants_directory hp]
  constructor
  · intro h
    obtain ⟨p', hp', searchable⟩ := h.enterable
    obtain rfl := Option.some.inj (hp.symm.trans hp')
    obtain ⟨m, later, rfl⟩ := (follows_turn hp searchable turn).mp h
    rw [Nat.zero_add]
    exact ⟨searchable, later⟩
  · rintro ⟨searchable, later⟩
    exact (follows_turn hp searchable turn).mpr ⟨n, later, (Nat.zero_add n).symm⟩

/-- To follow the names of a directory from the root is to come to the directory, if those above may
be searched. -/
theorem Chain.follows_iff (rooted : fs.Rooted) (h : fs.Chain names id) :
    fs.Follows FileSystem.root (names ++ rest) n there ↔
      fs.Way names id ∧ fs.Follows id rest n there := by
  induction h generalizing rest with
  | root => exact (and_iff_right Way.root).symm
  | @step names parent id name chain named ih =>
    rw [List.append_assoc, List.singleton_append, ih,
      follows_directory rooted.toProper named]
    constructor
    · rintro ⟨way, searchable, later⟩
      exact ⟨.step way searchable named, later⟩
    · rintro ⟨way, later⟩
      obtain ⟨front, same, above, searchable⟩ := way.step_inv rooted named
      obtain rfl := List.append_cancel_right same
      exact ⟨above, searchable, later⟩

private theorem Rooted.exists_nameOf? {below : Directory} (rooted : fs.Rooted)
    (directory : fs.directory? here = some d) (lists : d.Lists name id)
    (hbelow : fs.directory? id = some below) : ∃ other, fs.nameOf? id = some (here, other) := by
  obtain ⟨before, after, split, -⟩ := List.lookup_eq_some_iff.mp lists.found
  have entry : (name, id) ∈ d.entries := by simp [split]
  have parent := rooted.parents here d directory _ entry below hbelow
  have found : (d.entries.find? (·.2 == id)).isSome :=
    List.find?_isSome.mpr ⟨_, entry, beq_self_eq_true id⟩
  obtain ⟨first, hfirst⟩ := Option.isSome_iff_exists.mp found
  refine ⟨first.1, ?_⟩
  simp only [FileSystem.nameOf?, hbelow, parent, directory, hfirst, Option.map_some]

/-- Where names lead from a directory with a way from the root, there is one too. -/
theorem Follows.way (rooted : fs.Rooted) (h : fs.Follows here names n there)
    (way : fs.Way front here) (ends : ∃ d, fs.directory? there = some d) :
    ∃ front, fs.Way front there := by
  induction h generalizing front with
  | done => exact ⟨front, way⟩
  | @turn here next there d name more rest k n directory searchable turn later ih =>
    cases turn with
    | stay => exact ih way ends
    | up =>
      cases way with
      | root =>
        obtain ⟨top, htop, parent⟩ := rooted.top
        obtain rfl := Option.some.inj (htop.symm.trans directory)
        rw [parent] at ih
        exact ih .root ends
      | step above searchable' named =>
        obtain ⟨⟨d', hd', parent⟩, -⟩ := nameOf?_eq_some named
        obtain rfl := Option.some.inj (directory.symm.trans hd')
        exact ih (parent.symm ▸ above) ends
    | down lists noLink =>
      obtain ⟨below, hbelow⟩ := later.directory ends
      obtain ⟨other, named⟩ := rooted.exists_nameOf? directory lists hbelow
      exact ih (.step way ((grants_directory directory _).trans searchable) named) ends
    | link lists isLink nonempty =>
      split at ih
      · exact ih .root ends
      · exact ih way ends

end FileSystem

end JobShell
