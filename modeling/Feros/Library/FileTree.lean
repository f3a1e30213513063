import Feros.Library.PathWalk
/-! # Trees of files

A directory is the list of its entries.  What is put at a place changes nothing else, and the files below a
directory change in number by what is put there. -/

namespace Posix

/-- **The entries of a directory.** -/
inductive Forest where
  | nil
  | directory (name : String) (entries rest : Forest)
  | file (name : String) (bytes : ByteArray) (rest : Forest)
  | link (name : String) (target : Target) (rest : Forest)

/-- What an entry is. -/
inductive Node where
  | directory (entries : Forest)
  | file (bytes : ByteArray)
  | link (target : Target)

namespace Node

def kind : Node → Kind
  | directory _ => .directory
  | file _ => .file
  | link target => .link target

/-- A node as the entry in front of others. -/
def entry (name : String) (rest : Forest) : Node → Forest
  | directory entries => .directory name entries rest
  | file bytes => .file name bytes rest
  | link target => .link name target rest

/-- Nothing is below the node. -/
def Bare : Node → Prop
  | directory entries => entries = .nil
  | file _ | link _ => True

end Node

namespace Forest

/-- The entry of a name. -/
def get (name : String) : Forest → Option Node
  | nil => none
  | directory other entries rest => if other = name then some (.directory entries) else rest.get name
  | file other bytes rest => if other = name then some (.file bytes) else rest.get name
  | link other target rest => if other = name then some (.link target) else rest.get name

/-- The entries with another one, which may replace one. -/
def set (name : String) (node : Node) : Forest → Forest
  | nil => node.entry name nil
  | directory other entries rest =>
    if other = name then node.entry name rest else directory other entries (rest.set name node)
  | file other bytes rest => if other = name then node.entry name rest else file other bytes (rest.set name node)
  | link other target rest => if other = name then node.entry name rest else link other target (rest.set name node)

/-- What is at a place. -/
def find : Forest → Location → Option Node
  | tree, [] => some (.directory tree)
  | tree, name :: rest =>
    match tree.get name with
    | some (.directory entries) => entries.find rest
    | some node => if rest = [] then some node else none
    | none => none

/-- A node is put at a place in an existing directory. -/
def put (node : Node) : Forest → Location → Forest
  | tree, [] => tree
  | tree, name :: rest =>
    if rest = [] then tree.set name node
    else
      match tree.get name with
      | some (.directory entries) => tree.set name (.directory (entries.put node rest))
      | _ => tree

/-- The kind of what is at a place. -/
def look (tree : Forest) (place : Location) : Option Kind := (tree.find place).map Node.kind

/-- **The files below a directory**, by the recursion over its subdirectories; a link counts as one and is not
followed. -/
def files : Forest → ℕ
  | nil => 0
  | directory _ entries rest => entries.files + rest.files
  | file _ _ rest => 1 + rest.files
  | link _ _ rest => 1 + rest.files

/-- The files below a place. -/
def filesAt (tree : Forest) (place : Location) : ℕ :=
  match tree.find place with
  | some (.directory entries) => entries.files
  | _ => 0

/-! ## Entries -/

/-- Every list of entries is empty, or an entry in front of others. -/
theorem entry_induction {motive : Forest → Prop} (nil : motive nil)
    (entry : ∀ name (node : Node) rest, motive rest → motive (node.entry name rest)) (tree : Forest) :
    motive tree := by
  induction tree with
  | nil => exact nil
  | directory name entries rest _ ih => exact entry name (.directory entries) rest ih
  | file name bytes rest ih => exact entry name (.file bytes) rest ih
  | link name target rest ih => exact entry name (.link target) rest ih

/-- A name is the first entry, or it is in the rest. -/
theorem get_entry (first name : String) (node : Node) (rest : Forest) :
    (node.entry first rest).get name = if first = name then some node else rest.get name := by
  cases node with
  | directory | file | link => rfl

/-- A name is set at the first entry, or in the rest. -/
theorem set_entry (first name : String) (node new : Node) (rest : Forest) :
    (node.entry first rest).set name new =
      if first = name then new.entry name rest else node.entry first (rest.set name new) := by
  cases node with
  | directory | file | link => rfl

/-- The files that a node is or holds. -/
def filesIn : Option Node → ℕ
  | some (.directory entries) => entries.files
  | some (.file _) | some (.link _) => 1
  | none => 0

/-- The files of a directory are those of its first entry and of the rest. -/
theorem files_entry (name : String) (node : Node) (rest : Forest) :
    (node.entry name rest).files = filesIn (some node) + rest.files := by
  cases node with
  | directory | file | link => rfl

/-- **Setting an entry leaves the others alone.** -/
theorem get_set (tree : Forest) (name other : String) (new : Node) :
    (tree.set name new).get other = if name = other then some new else tree.get other := by
  induction tree using entry_induction with
  | nil => exact get_entry name other new nil
  | entry first node rest ih =>
      rw [set_entry, get_entry]
      by_cases same : first = name
      · rw [if_pos same, get_entry, same]
        split
        · rfl
        · rfl
      · rw [if_neg same, get_entry, ih]
        by_cases here : first = other
        · rw [if_pos here, if_neg fun there : name = other => same (here.trans there.symm), if_pos here]
        · rw [if_neg here, if_neg here]

/-- The files change by what was set and what it replaces. -/
theorem files_set (tree : Forest) (name : String) (new : Node) :
    (tree.set name new).files + filesIn (tree.get name) = tree.files + filesIn (some new) := by
  induction tree using entry_induction with
  | nil =>
      change (new.entry name nil).files = 0 + filesIn (some new)
      rw [files_entry, Nat.zero_add]
      rfl
  | entry first node rest ih =>
      rw [set_entry, get_entry, files_entry]
      by_cases same : first = name
      · rw [if_pos same, if_pos same, files_entry]
        omega
      · rw [if_neg same, if_neg same, files_entry]
        omega

/-! ## Places -/

/-- What is at a place below something. -/
def inside (place : Location) : Option Node → Option Node
  | some (.directory entries) => entries.find place
  | some node => if place = [] then some node else none
  | none => none

/-- A place with no segments is where it starts. -/
@[simp] theorem inside_nil (found : Option Node) : inside [] found = found := by
  cases found with
  | none => rfl
  | some node =>
      cases node with
      | directory | file | link => rfl

/-- Nothing is below what is no directory. -/
theorem inside_leaf {found : Option Node} (leaf : found.map Node.kind ≠ some .directory) {place : Location}
    (more : place ≠ []) : inside place found = none := by
  cases found with
  | none => rfl
  | some node =>
      cases node with
      | directory => exact absurd rfl leaf
      | file | link => exact if_neg more

/-- Nothing is below a bare node. -/
theorem inside_bare {node : Node} (bare : node.Bare) {place : Location} (more : place ≠ []) :
    inside place (some node) = none := by
  cases node with
  | directory entries =>
      have empty : entries = nil := bare
      rw [empty]
      cases place with
      | nil => exact absurd rfl more
      | cons => rfl
  | file | link => exact if_neg more

/-- What is at a place is inside its first entry. -/
theorem find_cons (tree : Forest) (name : String) (place : Location) :
    tree.find (name :: place) = inside place (tree.get name) := by
  rw [find]
  cases tree.get name with
  | none => rfl
  | some node =>
      cases node with
      | directory | file | link => rfl

/-- What is at a longer place is inside what is at the shorter one. -/
theorem find_append (tree : Forest) (place more : Location) :
    tree.find (place ++ more) = inside more (tree.find place) := by
  induction place generalizing tree with
  | nil => rfl
  | cons name place ih =>
      rw [List.cons_append, find_cons, find_cons]
      cases tree.get name with
      | none => rfl
      | some node =>
          cases node with
          | directory entries => exact ih entries
          | file | link =>
              by_cases last : place = []
              · rw [last, List.nil_append, inside_nil]
              · rw [inside_leaf (by rintro ⟨⟩) last, inside_leaf (by rintro ⟨⟩) (List.append_ne_nil_of_left_ne_nil last _)]
                rfl

/-- **What is below something is in a directory.** -/
theorem directory_above {tree : Forest} {place more : Location} {node : Node} (nonempty : more ≠ [])
    (there : tree.find (place ++ more) = some node) : ∃ entries, tree.find place = some (.directory entries) := by
  rw [find_append] at there
  by_contra leaf
  rw [inside_leaf _ nonempty] at there
  · cases there
  · intro directory
    cases found : tree.find place with
    | none =>
        rw [found] at directory
        cases directory
    | some node =>
        rw [found] at directory
        cases node with
        | directory entries => exact leaf ⟨entries, found⟩
        | file | link => cases directory

/-- The first directory on the way to a directory. -/
theorem entry_above {tree dir : Forest} {name : String} {place : Location}
    (here : tree.find (name :: place) = some (.directory dir)) :
    ∃ entries, tree.get name = some (.directory entries) ∧ entries.find place = some (.directory dir) := by
  rw [find_cons] at here
  cases entry : tree.get name with
  | none =>
      rw [entry] at here
      cases here
  | some node =>
      rw [entry] at here
      cases node with
      | directory entries => exact ⟨entries, rfl, here⟩
      | file | link =>
          by_cases last : place = []
          · rw [last, inside_nil] at here
            cases here
          · rw [inside_leaf (by rintro ⟨⟩) last] at here
            cases here

/-- What is put deep below an entry is put into it. -/
theorem put_cons (node : Node) {tree entries : Forest} {name : String} {place : Location} (more : place ≠ [])
    (entry : tree.get name = some (.directory entries)) :
    tree.put node (name :: place) = tree.set name (.directory (entries.put node place)) := by
  rw [put, if_neg more, entry]

/-- What is put at a place below a directory. -/
theorem find_put_above {tree entries : Forest} {place : Location} (here : tree.find place = some (.directory entries))
    {more : Location} (nonempty : more ≠ []) (node : Node) :
    (tree.put node (place ++ more)).find place = some (.directory (entries.put node more)) := by
  induction place generalizing tree with
  | nil =>
      cases here
      rfl
  | cons name place ih =>
      obtain ⟨inner, entry, rest⟩ := entry_above here
      rw [List.cons_append, put_cons node (List.append_ne_nil_of_right_ne_nil _ nonempty) entry, find_cons, get_set,
        if_pos rfl]
      exact ih rest

/-- **What is put at a place is there, and everything else is as before**, if nothing is below either what
was there or what is put. -/
theorem look_put {tree : Forest} {dir : Location} {name : String} {node : Node} {entries : Forest}
    (here : tree.find dir = some (.directory entries)) (leaf : tree.look (dir ++ [name]) ≠ some .directory)
    (bare : node.Bare) (place : Location) :
    (tree.put node (dir ++ [name])).look place =
      if place = dir ++ [name] then some node.kind else tree.look place := by
  induction dir generalizing tree place with
  | nil =>
      have set : tree.put node [name] = tree.set name node := rfl
      rw [List.nil_append, set]
      cases place with
      | nil => rfl
      | cons first rest =>
          rw [look, look, find_cons, find_cons, get_set]
          by_cases same : name = first
          · rw [if_pos same]
            by_cases last : rest = []
            · rw [if_pos (by rw [last, same]), last, inside_nil]
              rfl
            · rw [if_neg fun eq : first :: rest = [name] => last (List.cons.inj eq).2, inside_bare bare last]
              rw [List.nil_append, look, find_cons, inside_nil] at leaf
              rw [← same, inside_leaf leaf last]
          · rw [if_neg same, if_neg fun eq : first :: rest = [name] => same (List.cons.inj eq).1.symm]
  | cons first dir ih =>
      obtain ⟨inner, entry, below'⟩ := entry_above here
      have leaf' : inner.look (dir ++ [name]) ≠ some .directory := by
        rw [List.cons_append, look, find_cons, entry] at leaf
        exact leaf
      rw [List.cons_append, put_cons node (List.append_ne_nil_of_right_ne_nil _ (List.cons_ne_nil _ _)) entry]
      cases place with
      | nil => rfl
      | cons second rest =>
          rw [look, look, find_cons, find_cons, get_set]
          by_cases same : first = second
          · have there := ih below' leaf' rest
            rw [if_pos same, ← same, entry]
            change (inner.put node (dir ++ [name])).look rest = _
            rw [there]
            by_cases at' : rest = dir ++ [name]
            · rw [if_pos at', if_pos (by rw [at'])]
            · rw [if_neg at', if_neg fun eq => at' (List.cons.inj eq).2]
              rfl
          · rw [if_neg same, if_neg fun eq => same (List.cons.inj eq).1.symm]

/-! ## Counting -/

/-- The files below a directory change by what is put there and what it replaces. -/
theorem files_put {tree : Forest} {dir : Location} {entries : Forest} (name : String) (node : Node)
    (here : tree.find dir = some (.directory entries)) :
    (tree.put node (dir ++ [name])).files + filesIn (tree.find (dir ++ [name])) =
      tree.files + filesIn (some node) := by
  induction dir generalizing tree with
  | nil =>
      have set : tree.put node [name] = tree.set name node := rfl
      rw [List.nil_append, set, find_cons, inside_nil]
      exact files_set tree name node
  | cons first dir ih =>
      obtain ⟨inner, entry, rest⟩ := entry_above here
      have below' := ih rest
      have set := files_set tree first (.directory (inner.put node (dir ++ [name])))
      rw [List.cons_append, put_cons node (List.append_ne_nil_of_right_ne_nil _ (List.cons_ne_nil _ _)) entry,
        find_cons, entry]
      rw [entry] at set
      change (tree.set first _).files + filesIn (inner.find (dir ++ [name])) = _
      change (tree.set first _).files + inner.files = tree.files + (inner.put node (dir ++ [name])).files at set
      omega

/-- **A place elsewhere is left alone.** -/
theorem find_put_of_apart {tree : Forest} {node : Node} {place other : Location} (notBelow : ¬ place <+: other)
    (notAbove : ¬ other <+: place) : (tree.put node place).find other = tree.find other := by
  induction place generalizing tree other with
  | nil => exact absurd (List.nil_prefix) notBelow
  | cons name place ih =>
      cases other with
      | nil => exact absurd List.nil_prefix notAbove
      | cons first other =>
          by_cases same : name = first
          · rw [same] at notBelow notAbove
            have apart (entries : Forest) : (entries.put node place).find other = entries.find other :=
              ih (fun before => notBelow (List.cons_prefix_cons.2 ⟨rfl, before⟩))
                fun before => notAbove (List.cons_prefix_cons.2 ⟨rfl, before⟩)
            rw [same, put]
            split
            · rename_i last
              rw [last] at notBelow
              exact absurd (List.cons_prefix_cons.2 ⟨rfl, List.nil_prefix⟩) notBelow
            · split
              · rename_i entries entry
                rw [find_cons, find_cons, get_set, if_pos rfl, entry]
                exact apart entries
              · rfl
          · rw [put]
            split
            · rw [find_cons, find_cons, get_set, if_neg same]
            · split
              · rw [find_cons, find_cons, get_set, if_neg same]
              · rfl

/-- What is put at a place is there. -/
theorem find_put_self {tree entries : Forest} {dir : Location} (here : tree.find dir = some (.directory entries))
    (name : String) (node : Node) : (tree.put node (dir ++ [name])).find (dir ++ [name]) = some node := by
  rw [find_append, find_put_above here (List.cons_ne_nil _ _)]
  change (entries.set name node).find [name] = some node
  rw [find_cons, inside_nil, get_set, if_pos rfl]

/-- What is on the way to a directory is a directory. -/
theorem directory_prefix {tree dir : Forest} {place more : Location}
    (there : tree.find (place ++ more) = some (.directory dir)) :
    ∃ entries, tree.find place = some (.directory entries) ∧ entries.find more = some (.directory dir) := by
  by_cases last : more = []
  · rw [last, List.append_nil] at there
    rw [last]
    exact ⟨dir, there, rfl⟩
  · obtain ⟨entries, here⟩ := directory_above last there
    rw [find_append, here] at there
    exact ⟨entries, here, there⟩

/-- Where there is no directory there are no files. -/
theorem filesAt_of_leaf {tree : Forest} {place : Location} (leaf : tree.look place ≠ some .directory) :
    tree.filesAt place = 0 := by
  rw [filesAt]
  split
  · rename_i entries here
    rw [look, here] at leaf
    exact absurd rfl leaf
  · rfl

/-- **The files below a directory change by what is put below it.** -/
theorem filesAt_put {tree : Forest} {dir : Location} {name : String} {node : Node} {entries : Forest}
    (here : tree.find dir = some (.directory entries)) (leaf : tree.look (dir ++ [name]) ≠ some .directory)
    (bare : node.Bare) (place : Location) :
    (tree.put node (dir ++ [name])).filesAt place + (if place <+: dir then filesIn (tree.find (dir ++ [name])) else 0) =
      tree.filesAt place + (if place <+: dir then filesIn (some node) else 0) := by
  by_cases above : place <+: dir
  · obtain ⟨more, rfl⟩ := above
    obtain ⟨upper, there, inner⟩ := directory_prefix here
    rw [if_pos ⟨more, rfl⟩, if_pos ⟨more, rfl⟩, filesAt, filesAt, List.append_assoc,
      find_put_above there (List.append_ne_nil_of_right_ne_nil _ (List.cons_ne_nil _ _)), find_append, there]
    exact files_put name node inner
  · rw [if_neg above, if_neg above]
    by_cases below : dir ++ [name] <+: place
    · obtain ⟨more, rfl⟩ := below
      by_cases last : more = []
      · rw [last, List.append_nil, filesAt_of_leaf leaf, filesAt, find_put_self here]
        cases node with
        | directory inner =>
            have empty : inner = nil := bare
            rw [empty]
            rfl
        | file | link => rfl
      · rw [filesAt, filesAt, find_append, find_put_self here, find_append, inside_bare bare last,
          inside_leaf leaf last]
    · rw [filesAt, find_put_of_apart below]
      · rfl
      · intro before
        rcases List.prefix_concat_iff.1 before with same | before
        · exact below ⟨[], by rw [same, List.append_nil]⟩
        · exact above before

end Forest

end Posix
