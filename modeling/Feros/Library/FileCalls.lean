import Feros.Library.FileTree
import Mathlib.Data.List.Induction
/-! # File calls

The calls of a file system that programs make: a path is resolved with all links followed, directories are
made with whatever is missing above them, and files are read and written.  A volume keeps the places of the
files that were opened. -/

namespace Posix

/-- **A volume**: its tree, and the files that were opened, with all links resolved. -/
structure Volume where
  tree : Forest
  opened : List Location := []

/-- A path that the system does not take. -/
def hasNul (path : List String) : Bool := path.any (·.toList.contains '\x00')

namespace Volume

/-- The links that a call follows at most. -/
def maxLinks : ℕ := 40

def look (d : Volume) : Location → Option Kind := d.tree.look

/-- Where a path leads. -/
def resolve (d : Volume) (path : List String) : Except IoError Location :=
  if hasNul path then .error .invalidInput
  else (walk d.look maxLinks [] path).map Prod.fst

/-- Something is there. -/
def pathExists (d : Volume) (path : List String) : Bool :=
  match d.resolve path with
  | .ok place => (d.look place).isSome
  | .error _ => false

def isDir (d : Volume) (path : List String) : Bool :=
  match d.resolve path with
  | .ok place => d.look place == some .directory
  | .error _ => false

def canonicalize (d : Volume) (path : List String) : Except IoError Location :=
  match d.resolve path with
  | .ok place => if (d.look place).isSome then .ok place else .error .notFound
  | .error e => .error e

/-- A directory is made in an existing one. -/
def mkdir (d : Volume) (parent : List String) (name : String) : Except IoError Volume :=
  if hasNul [name] then .error .invalidInput
  else
    match d.resolve (parent ++ ["."]) with
    | .error e => .error e
    | .ok dir =>
      if name = ".." ∨ (d.look (dir ++ [name])).isSome then .error .alreadyExists
      else .ok { d with tree := d.tree.put (.directory .nil) (dir ++ [name]) }

/-- A directory is made, and first the ones above it if they are missing; the segments come from the end. -/
def createUp (d : Volume) : List String → Volume × Except IoError Unit
  | [] => (d, .ok ())
  | name :: above =>
    match d.mkdir above.reverse name with
    | .ok made => (made, .ok ())
    | .error .notFound =>
      match createUp d above with
      | (made, .error e) => (made, .error e)
      | (made, .ok ()) =>
        match made.mkdir above.reverse name with
        | .ok made => (made, .ok ())
        | .error e => if made.isDir (above.reverse ++ [name]) then (made, .ok ()) else (made, .error e)
    | .error e => if d.isDir (above.reverse ++ [name]) then (d, .ok ()) else (d, .error e)

/-- **A directory with all that is missing above it is made.** -/
def createDirAll (d : Volume) (path : List String) : Volume × Except IoError Unit :=
  d.createUp (components path).reverse

/-- **The text of a file is read.** -/
def readToString (d : Volume) (path : List String) : Volume × Except IoError String :=
  match d.resolve path with
  | .error e => (d, .error e)
  | .ok place =>
    match d.tree.find place with
    | none => (d, .error .notFound)
    | some (.directory _) => (d, .error .isADirectory)
    | some (.link _) => (d, .error .filesystemLoop)
    | some (.file bytes) =>
      ({ d with opened := d.opened ++ [place] },
        match String.fromUTF8? bytes with
        | some text => .ok text
        | none => .error .invalidData)

/-- **A file is created or overwritten.** -/
def write (d : Volume) (path : List String) (bytes : ByteArray) : Volume × Except IoError Unit :=
  match d.resolve path with
  | .error e => (d, .error e)
  | .ok place =>
    match d.tree.find place with
    | some (.directory _) => (d, .error .isADirectory)
    | some (.link _) => (d, .error .filesystemLoop)
    | some (.file _) | none =>
      ({ tree := d.tree.put (.file bytes) place, opened := d.opened ++ [place] }, .ok ())

/-! ## Resolved paths -/

/-- **The path leads to a directory**, at a place. -/
structure DirAt (d : Volume) (path : List String) (place : Location) : Prop where
  resolves : d.resolve path = .ok place
  directory : d.look place = some .directory

/-- A path leads where its walk ends. -/
theorem resolve_eq_ok {d : Volume} {path : List String} {place : Location} :
    d.resolve path = .ok place ↔ hasNul path = false ∧ ∃ left, walk d.look maxLinks [] path = .ok (place, left) := by
  rw [resolve]
  by_cases nul : hasNul path = true
  · rw [if_pos nul, nul]
    exact iff_of_false (by rintro ⟨⟩) (by rintro ⟨⟨⟩, -⟩)
  · rw [if_neg nul, Bool.eq_false_iff]
    cases walked : walk d.look maxLinks [] path with
    | error e => exact iff_of_false (by rintro ⟨⟩) (by rintro ⟨-, left, ⟨⟩⟩)
    | ok result =>
        constructor
        · intro ok
          cases ok
          exact ⟨nul, result.2, rfl⟩
        · rintro ⟨-, left, same⟩
          cases same
          rfl

/-- A path is one of a directory if it leads to one. -/
theorem isDir_iff {d : Volume} {path : List String} : d.isDir path = true ↔ ∃ place, d.DirAt path place := by
  rw [isDir]
  cases resolved : d.resolve path with
  | error e =>
      refine iff_of_false Bool.false_ne_true ?_
      rintro ⟨place, there⟩
      rw [there.resolves] at resolved
      cases resolved
  | ok place =>
      constructor
      · intro here
        exact ⟨place, resolved, by simpa using here⟩
      · rintro ⟨other, there⟩
        rw [there.resolves] at resolved
        cases resolved
        simp [there.directory]

/-- A path leads to one place. -/
theorem DirAt.unique {d : Volume} {path : List String} {place other : Location} (here : d.DirAt path place)
    (there : d.DirAt path other) : place = other := by
  have same := here.resolves.symm.trans there.resolves
  cases same
  rfl

/-- The canonical path of a directory is its place. -/
theorem DirAt.canonicalize {d : Volume} {path : List String} {place : Location} (here : d.DirAt path place) :
    d.canonicalize path = .ok place := by
  rw [Volume.canonicalize, here.resolves]
  dsimp only
  rw [here.directory]
  rfl

/-- A directory is there. -/
theorem DirAt.pathExists {d : Volume} {path : List String} {place : Location} (here : d.DirAt path place) :
    d.pathExists path = true := by
  rw [Volume.pathExists, here.resolves]
  dsimp only
  rw [here.directory]
  rfl

/-- The root is there. -/
theorem dirAt_nil (d : Volume) : d.DirAt [] [] := ⟨rfl, rfl⟩

/-- A path has a NUL in its front or in the rest. -/
theorem hasNul_append (path more : List String) : hasNul (path ++ more) = (hasNul path || hasNul more) :=
  List.any_append

/-- Segments that stay hold no character. -/
theorem hasNul_components (path : List String) : hasNul (components path) = hasNul path := by
  induction path with
  | nil => rfl
  | cons segment path ih =>
      by_cases same : stays segment = true
      · rw [components_cons_stays path same, ih, hasNul, hasNul, List.any_cons]
        have none : segment.toList.contains '\x00' = false := by
          rw [stays, Bool.or_eq_true] at same
          rcases same with empty | dot
          · rw [eq_of_beq empty]
            rfl
          · rw [eq_of_beq dot]
            decide
        rw [none]
        rfl
      · rw [components_cons path (by simpa using same), hasNul, hasNul, List.any_cons, List.any_cons]
        change (_ || hasNul (components path)) = (_ || hasNul path)
        rw [ih]

/-- **A directory is the same with and without the segments that stay.** -/
theorem dirAt_components {d : Volume} {path : List String} {place : Location} :
    d.DirAt (components path) place ↔ d.DirAt path place := by
  constructor
  · rintro ⟨resolves, directory⟩
    refine ⟨?_, directory⟩
    rw [resolve_eq_ok] at resolves ⊢
    obtain ⟨clean, left, walked⟩ := resolves
    exact ⟨by rw [← hasNul_components]; exact clean, left, (walk_components directory).2 walked⟩
  · rintro ⟨resolves, directory⟩
    refine ⟨?_, directory⟩
    rw [resolve_eq_ok] at resolves ⊢
    obtain ⟨clean, left, walked⟩ := resolves
    exact ⟨by rw [hasNul_components]; exact clean, left, (walk_components directory).1 walked⟩

/-- The way to a directory, or to anything in one, leads through directories. -/
theorem dirAt_above {d : Volume} {path more : List String} {place : Location} (nonempty : more ≠ [])
    (there : d.resolve (path ++ more) = .ok place) : ∃ dir, d.DirAt path dir := by
  rw [resolve_eq_ok, hasNul_append, Bool.or_eq_false_iff] at there
  obtain ⟨clean, left, walked⟩ := there
  rw [walk_append] at walked
  cases front : walk d.look maxLinks [] path with
  | error e =>
      rw [front] at walked
      cases walked
  | ok between =>
      rw [front] at walked
      refine ⟨between.1, resolve_eq_ok.2 ⟨clean.1, between.2, front⟩, ?_⟩
      cases more with
      | nil => exact absurd rfl nonempty
      | cons segment more => exact directory_of_walk walked

/-- What is on the way to a directory is one. -/
theorem dirAt_prefix {d : Volume} {path more : List String} {place : Location} (there : d.DirAt (path ++ more) place) :
    ∃ dir, d.DirAt path dir := by
  by_cases last : more = []
  · rw [last, List.append_nil] at there
    exact ⟨place, there⟩
  · exact dirAt_above last there.resolves

/-- **A name in a directory** that is no link. -/
theorem DirAt.resolve_name {d : Volume} {path : List String} {dir : Location} (here : d.DirAt path dir) {name : String}
    (isName : IsName name) (clean : hasNul [name] = false)
    (plain : ∀ target, d.look (dir ++ [name]) ≠ some (.link target)) :
    d.resolve (path ++ [name]) = .ok (dir ++ [name]) := by
  obtain ⟨cleanPath, left, walked⟩ := resolve_eq_ok.1 here.resolves
  refine resolve_eq_ok.2 ⟨by rw [hasNul_append, cleanPath, clean]; rfl, left, ?_⟩
  rw [walk_append, walked]
  exact (walk_cons_name [] here.directory isName plain).trans (walk_nil left _)

/-- A path that ends with a name is resolved in the directory above. -/
theorem resolve_concat {d : Volume} {path : List String} {name : String} {place : Location} (isName : IsName name)
    (resolves : d.resolve (path ++ [name]) = .ok place) :
    ∃ dir, d.DirAt path dir ∧
      ((∀ target, d.look (dir ++ [name]) ≠ some (.link target)) → place = dir ++ [name]) := by
  obtain ⟨clean, left, walked⟩ := resolve_eq_ok.1 resolves
  obtain ⟨dir, fewer, front, directory, plain⟩ := walk_concat_name isName walked
  rw [hasNul_append, Bool.or_eq_false_iff] at clean
  exact ⟨dir, ⟨resolve_eq_ok.2 ⟨clean.1, fewer, front⟩, directory⟩, plain⟩

/-- A path that ends with a segment that stays leads to a directory. -/
theorem directory_of_stays {d : Volume} {path : List String} {segment : String} {place : Location}
    (same : stays segment = true) (resolves : d.resolve (path ++ [segment]) = .ok place) :
    d.look place = some .directory := by
  obtain ⟨-, left, walked⟩ := resolve_eq_ok.1 resolves
  exact walk_concat_stays same walked

/-- What is below something is in a directory. -/
theorem look_above {d : Volume} {place more : Location} (nonempty : more ≠ [])
    (there : d.look (place ++ more) ≠ none) : d.look place = some .directory := by
  cases found : d.tree.find (place ++ more) with
  | none =>
      rw [look, Forest.look, found] at there
      exact absurd rfl there
  | some node =>
      obtain ⟨entries, here⟩ := Forest.directory_above nonempty found
      rw [look, Forest.look, here]
      rfl

/-- A directory has entries. -/
theorem entries_of_look {d : Volume} {place : Location} (directory : d.look place = some .directory) :
    ∃ entries, d.tree.find place = some (.directory entries) := by
  rw [look, Forest.look] at directory
  cases found : d.tree.find place with
  | none =>
      rw [found] at directory
      cases directory
  | some node =>
      rw [found] at directory
      cases node with
      | directory entries => exact ⟨entries, rfl⟩
      | file | link => cases directory

/-! ## Volumes that grow -/

/-- In a tree that has grown a path leads where it did. -/
theorem resolve_grown {d d' : Volume} (grown : Grown d.look d'.look) {path : List String} {place : Location}
    (resolves : d.resolve path = .ok place) : d'.resolve path = .ok place := by
  obtain ⟨clean, left, walked⟩ := resolve_eq_ok.1 resolves
  exact resolve_eq_ok.2 ⟨clean, left, walk_grown grown walked⟩

/-- A directory is still there in a tree that has grown. -/
theorem DirAt.grown {d d' : Volume} {path : List String} {place : Location} (here : d.DirAt path place)
    (grown : Grown d.look d'.look) : d'.DirAt path place :=
  ⟨resolve_grown grown here.resolves, grown.kept _ _ here.directory⟩

/-- **Only directories are new**, and no file was opened. -/
structure Expanded (d d' : Volume) : Prop where
  grown : Grown d.look d'.look
  opened : d'.opened = d.opened
  files : ∀ place, d'.tree.filesAt place = d.tree.filesAt place

/-- Nothing is made. -/
theorem Expanded.refl (d : Volume) : Expanded d d := ⟨.refl _, rfl, fun _ => rfl⟩

/-- One directory after the other is made. -/
theorem Expanded.trans {d d' d'' : Volume} (first : Expanded d d') (second : Expanded d' d'') : Expanded d d'' :=
  ⟨first.grown.trans second.grown, second.opened.trans first.opened,
    fun place => (second.files place).trans (first.files place)⟩

/-- **A directory that was made.** -/
structure MadeIn (d d' : Volume) (parent : List String) (name : String) (dir : Location) : Prop where
  above : d.DirAt parent dir
  missing : d.look (dir ++ [name]) = none
  clean : hasNul [name] = false
  looks : ∀ place, d'.look place = if place = dir ++ [name] then some .directory else d.look place
  expanded : Expanded d d'

/-- With a dot behind it a path leads to a directory. -/
theorem dirAt_dot {d : Volume} {path : List String} {place : Location} :
    d.resolve (path ++ ["."]) = .ok place ↔ d.DirAt path place := by
  have same : components (path ++ ["."]) = components path := by
    rw [components_append]
    exact List.append_nil _
  constructor
  · intro resolves
    refine dirAt_components.1 ?_
    rw [← same]
    exact dirAt_components.2 ⟨resolves, directory_of_stays rfl resolves⟩
  · intro here
    refine (dirAt_components.1 ?_).resolves
    rw [same]
    exact dirAt_components.2 here

/-- **What `mkdir` does**: a missing directory is made in one that is there. -/
theorem mkdir_spec {d d' : Volume} {parent : List String} {name : String} (ok : d.mkdir parent name = .ok d') :
    ∃ dir, MadeIn d d' parent name dir := by
  rw [mkdir] at ok
  split at ok
  · cases ok
  · rename_i clean
    split at ok
    · cases ok
    · rename_i dir resolves
      split at ok
      · cases ok
      · rename_i free
        cases ok
        rw [not_or, Bool.not_eq_true, Option.isSome_eq_false_iff, Option.isNone_iff_eq_none] at free
        have above := dirAt_dot.1 resolves
        obtain ⟨entries, here⟩ := entries_of_look above.directory
        have missing : d.tree.look (dir ++ [name]) = none := free.2
        have leaf : d.tree.look (dir ++ [name]) ≠ some .directory := by
          rw [missing]
          rintro ⟨⟩
        have bare : (Node.directory .nil).Bare := rfl
        -- What is put there is an empty directory.
        have looks := Forest.look_put here leaf bare
        have count := Forest.filesAt_put here leaf bare
        refine ⟨dir, above, missing, by simpa using clean, looks, ⟨?_, ?_⟩, rfl, fun place => ?_⟩
        -- What was there is still there.
        · intro place kind there
          change Forest.look _ place = _
          rw [looks, if_neg]
          · exact there
          · intro same
            rw [same] at there
            exact absurd (missing.symm.trans there) (by rintro ⟨⟩)
        · intro place target there
          change Forest.look _ place = _ at there
          rw [looks] at there
          split at there
          · cases there
          · exact there
        -- A directory that is new holds no file.
        · have nothing : Forest.filesIn (d.tree.find (dir ++ [name])) = 0 := by
            cases found : d.tree.find (dir ++ [name]) with
            | none => rfl
            | some node =>
                rw [Forest.look, found] at missing
                cases missing
          have changed := count place
          rw [nothing, ite_self] at changed
          change _ = _ + (if _ then 0 else 0) at changed
          rw [ite_self] at changed
          exact changed

/-- The directory that was made. -/
theorem MadeIn.dirAt {d d' : Volume} {parent : List String} {name : String} {dir : Location}
    (made : MadeIn d d' parent name dir) (isName : IsName name) : d'.DirAt (parent ++ [name]) (dir ++ [name]) := by
  have here : d'.look (dir ++ [name]) = some .directory := by
    rw [made.looks, if_pos rfl]
  refine ⟨(made.above.grown made.expanded.grown).resolve_name isName made.clean fun target there => ?_, here⟩
  rw [here] at there
  cases there

/-- Nothing is in a directory that was made. -/
theorem MadeIn.empty {d d' : Volume} {parent : List String} {name : String} {dir : Location}
    (made : MadeIn d d' parent name dir) (other : String) : d'.look (dir ++ [name] ++ [other]) = none := by
  rw [made.looks, if_neg]
  · by_contra there
    have here := look_above (List.cons_ne_nil other []) there
    rw [made.missing] at here
    cases here
  · intro same
    have longer := congrArg List.length same
    simp at longer

/-- A directory that is there is not made again. -/
theorem mkdir_dirAt {d : Volume} {parent : List String} {name : String} {place : Location} (moves : stays name = false)
    (here : d.DirAt (parent ++ [name]) place) : d.mkdir parent name = .error .alreadyExists := by
  obtain ⟨dir, above⟩ := dirAt_above (List.cons_ne_nil name []) here.resolves
  obtain ⟨clean, left, walked⟩ := resolve_eq_ok.1 here.resolves
  rw [hasNul_append, Bool.or_eq_false_iff] at clean
  rw [mkdir, clean.2, if_neg Bool.false_ne_true, dirAt_dot.2 above]
  dsimp only
  rw [if_pos]
  by_cases up : name = ".."
  · exact .inl up
  · right
    obtain ⟨other, there, plain⟩ := resolve_concat ⟨moves, up⟩ here.resolves
    rw [← above.unique there] at plain
    by_cases linked : ∃ target, d.look (dir ++ [name]) = some (.link target)
    · obtain ⟨target, link⟩ := linked
      rw [link]
      rfl
    · rw [← plain fun target link => linked ⟨target, link⟩, here.directory]
      rfl

/-- Nothing is made where the directory is. -/
theorem createUp_dirAt {d : Volume} {segments : List String} {place : Location}
    (moves : ∀ segment ∈ segments, stays segment = false) (here : d.DirAt segments.reverse place) :
    d.createUp segments = (d, .ok ()) := by
  cases segments with
  | nil => rfl
  | cons name above =>
      rw [List.reverse_cons] at here
      rw [createUp, mkdir_dirAt (moves name (.head _)) here]
      dsimp only
      rw [if_pos (isDir_iff.2 ⟨place, here⟩)]

/-- **How a directory comes to be there**, or fails to. -/
inductive Creates (d : Volume) (name : String) (above : List String) : Volume × Except IoError Unit → Prop where
  | made {made : Volume} (done : d.mkdir above.reverse name = .ok made) : Creates d name above (made, .ok ())
  | stuck {e : IoError} (missing : d.mkdir above.reverse name = .error .notFound)
      (failed : (d.createUp above).2 = .error e) : Creates d name above ((d.createUp above).1, .error e)
  | madeBelow {made : Volume} (missing : d.mkdir above.reverse name = .error .notFound)
      (parent : (d.createUp above).2 = .ok ()) (done : (d.createUp above).1.mkdir above.reverse name = .ok made) :
      Creates d name above (made, .ok ())
  | thereBelow {e : IoError} (missing : d.mkdir above.reverse name = .error .notFound)
      (parent : (d.createUp above).2 = .ok ())
      (failed : (d.createUp above).1.mkdir above.reverse name = .error e)
      (here : (d.createUp above).1.isDir (above.reverse ++ [name]) = true) :
      Creates d name above ((d.createUp above).1, .ok ())
  | failedBelow {e : IoError} (missing : d.mkdir above.reverse name = .error .notFound)
      (parent : (d.createUp above).2 = .ok ())
      (away : (d.createUp above).1.isDir (above.reverse ++ [name]) = false) :
      Creates d name above ((d.createUp above).1, .error e)
  | there {e : IoError} (failed : d.mkdir above.reverse name = .error e) (other : e ≠ .notFound)
      (here : d.isDir (above.reverse ++ [name]) = true) : Creates d name above (d, .ok ())
  | failed {e : IoError} (failed : d.mkdir above.reverse name = .error e) (other : e ≠ .notFound)
      (away : d.isDir (above.reverse ++ [name]) = false) : Creates d name above (d, .error e)

/-- **A directory is made, and first those above it.** -/
theorem createUp_creates (d : Volume) (name : String) (above : List String) :
    Creates d name above (d.createUp (name :: above)) := by
  rw [createUp]
  split
  · rename_i made done
    exact .made done
  · rename_i missing
    split
    · rename_i made e failed
      have result := Creates.stuck missing (congrArg Prod.snd failed)
      rw [failed] at result
      exact result
    · rename_i below parent
      have same : (d.createUp above).1 = below := congrArg Prod.fst parent
      split
      · rename_i made done
        exact .madeBelow missing (congrArg Prod.snd parent) (by rw [same]; exact done)
      · rename_i e failed
        split
        · rename_i here
          rw [← same] at failed here ⊢
          exact .thereBelow missing (congrArg Prod.snd parent) failed here
        · rename_i away
          rw [← same] at away ⊢
          exact .failedBelow missing (congrArg Prod.snd parent) (by simpa using away)
  · rename_i e other failed
    split
    · rename_i here
      exact .there failed other here
    · rename_i away
      exact .failed failed other (by simpa using away)

/-- **What `createUp` does to the disk.** -/
theorem createUp_expanded (d : Volume) (segments : List String) : Expanded d (d.createUp segments).1 := by
  induction segments with
  | nil => exact .refl d
  | cons name above ih =>
      cases result : d.createUp (name :: above) with
      | mk made outcome =>
          have creates := createUp_creates d name above
          rw [result] at creates
          cases creates with
          | made done =>
              obtain ⟨dir, there⟩ := mkdir_spec done
              exact there.expanded
          | madeBelow missing parent done =>
              obtain ⟨dir, there⟩ := mkdir_spec done
              exact ih.trans there.expanded
          | stuck | thereBelow | failedBelow => exact ih
          | there | failed => exact .refl d

/-- A directory is not made under the name `..`. -/
theorem isName_of_mkdir {d made : Volume} {parent : List String} {name : String} (moves : stays name = false)
    (done : d.mkdir parent name = .ok made) : IsName name := by
  refine ⟨moves, fun up => ?_⟩
  rw [mkdir] at done
  split at done
  · cases done
  · split at done
    · cases done
    · rw [if_pos (.inl up)] at done
      cases done

/-- **What `createUp` makes is there.** -/
theorem createUp_ok {d : Volume} {segments : List String} (moves : ∀ segment ∈ segments, stays segment = false)
    (ok : (d.createUp segments).2 = .ok ()) : ∃ place, (d.createUp segments).1.DirAt segments.reverse place := by
  cases segments with
  | nil => exact ⟨[], dirAt_nil d⟩
  | cons name above =>
      have creates := createUp_creates d name above
      rw [List.reverse_cons]
      cases result : d.createUp (name :: above) with
      | mk made outcome =>
          rw [result] at creates ok
          have name' := moves name (.head _)
          cases creates with
          | made done =>
              obtain ⟨dir, there⟩ := mkdir_spec done
              exact ⟨_, there.dirAt (isName_of_mkdir name' done)⟩
          | madeBelow missing parent done =>
              obtain ⟨dir, there⟩ := mkdir_spec done
              exact ⟨_, there.dirAt (isName_of_mkdir name' done)⟩
          | thereBelow missing parent failed here => exact isDir_iff.1 here
          | there failed other here => exact isDir_iff.1 here
          | stuck | failedBelow | failed => cases ok

/-- **What was made below a directory** that was there: behind the last directory of the way, which lacks the
next name, every directory is new and the last one is empty. -/
structure MadeBelow (d d' : Volume) (base names : List String) : Prop where
  made : ∃ (there missing : List String) (next : String) (dir : Location), names = there ++ next :: missing ∧
    d.DirAt (base ++ there) dir ∧ d.look (dir ++ [next]) = none ∧
    d'.DirAt (base ++ names) (dir ++ next :: missing) ∧
    ∀ other, d'.look (dir ++ next :: missing ++ [other]) = none

/-- **What `createUp` makes below a directory**, if the directory is not there. -/
theorem createUp_below {d : Volume} {base : List String} {place : Location} (here : d.DirAt base place)
    (baseMoves : ∀ segment ∈ base, stays segment = false) (names : List String) (areNames : ∀ name ∈ names, IsName name)
    (away : ∀ other, ¬ d.DirAt (base ++ names) other) (ok : (d.createUp (base ++ names).reverse).2 = .ok ()) :
    MadeBelow d (d.createUp (base ++ names).reverse).1 base names := by
  induction names using List.reverseRecOn with
  | nil =>
      -- The directory is there already.
      rw [List.append_nil] at away
      exact absurd here (away place)
  | append_singleton names name ih =>
      have isName : IsName name := areNames name (List.mem_append_right _ (.head _))
      have others : ∀ other ∈ names, IsName other := fun other member => areNames other (List.mem_append_left _ member)
      rw [← List.append_assoc, List.reverse_append] at ok ⊢
      change (d.createUp (name :: (base ++ names).reverse)).2 = _ at ok
      change MadeBelow d (d.createUp (name :: (base ++ names).reverse)).1 base (names ++ [name])
      rw [← List.append_assoc] at away
      have moves : ∀ segment ∈ (base ++ names).reverse, stays segment = false := by
        intro segment member
        rcases List.mem_append.1 (List.mem_reverse.1 member) with inBase | inNames
        · exact baseMoves segment inBase
        · exact (others segment inNames).1
      have creates := createUp_creates d name (base ++ names).reverse
      cases result : d.createUp (name :: (base ++ names).reverse) with
      | mk made outcome =>
          rw [result] at creates ok
          -- The last name is made in a directory that was there.
          have atOnce {made : Volume} (done : d.mkdir (base ++ names) name = .ok made) :
              MadeBelow d made base (names ++ [name]) := by
            obtain ⟨dir, there⟩ := mkdir_spec done
            refine ⟨names, [], name, dir, rfl, there.above, there.missing, ?_, there.empty⟩
            rw [← List.append_assoc]
            exact there.dirAt isName
          cases creates with
          | made done =>
              rw [List.reverse_reverse] at done
              exact atOnce done
          | madeBelow missing parent done =>
              rw [List.reverse_reverse] at missing done
              by_cases directory : ∃ other, d.DirAt (base ++ names) other
              -- The directory above was there, so the name would have been made at once.
              · obtain ⟨other, directory⟩ := directory
                rw [createUp_dirAt moves (by rw [List.reverse_reverse]; exact directory), missing] at done
                cases done
              · obtain ⟨there, absent, next, dir, split', above, lacks, new, -⟩ :=
                  (ih others (fun other at' => directory ⟨other, at'⟩) parent).made
                obtain ⟨dir', last⟩ := mkdir_spec done
                have same : dir' = dir ++ next :: absent := last.above.unique new
                refine ⟨there, absent ++ [name], next, dir, ?_, above, lacks, ?_, ?_⟩
                · rw [split', List.append_assoc, List.cons_append]
                · have at' := last.dirAt isName
                  rw [same, List.append_assoc, List.append_assoc] at at'
                  exact at'
                · intro other
                  have empty := last.empty other
                  rw [same, List.append_assoc dir] at empty
                  exact empty
          | thereBelow missing parent failed there =>
              rw [List.reverse_reverse] at there
              obtain ⟨other, at'⟩ := isDir_iff.1 there
              by_cases directory : ∃ other, d.DirAt (base ++ names) other
              · obtain ⟨above, directory⟩ := directory
                rw [createUp_dirAt moves (by rw [List.reverse_reverse]; exact directory)] at at'
                exact absurd at' (away other)
              · -- The name cannot be there yet: the directory was just made, and is empty.
                obtain ⟨-, absent, next, dir, -, -, -, new, empty⟩ :=
                  (ih others (fun other at' => directory ⟨other, at'⟩) parent).made
                obtain ⟨dir', last, plain⟩ := resolve_concat isName at'.resolves
                have nothing : (d.createUp (base ++ names).reverse).1.look (dir' ++ [name]) = none := by
                  rw [last.unique new]
                  exact empty name
                have here := at'.directory
                rw [plain fun target link => absurd (nothing.symm.trans link) (by rintro ⟨⟩), nothing] at here
                cases here
          | there failed other there =>
              -- The directory itself would be there, against the hypothesis.
              rw [List.reverse_reverse] at there
              obtain ⟨other, at'⟩ := isDir_iff.1 there
              exact absurd at' (away other)
          | stuck | failedBelow | failed => cases ok

/-! ## The calls -/

/-- A component moves. -/
theorem stays_of_mem_components {path : List String} {segment : String} (member : segment ∈ components path) :
    stays segment = false := by
  simpa using List.of_mem_filter member

/-- All the components move. -/
theorem moves_components (path : List String) : ∀ segment ∈ (components path).reverse, stays segment = false :=
  fun _ member => stays_of_mem_components (List.mem_reverse.1 member)

/-- A directory with all that is above it is made. -/
theorem createDirAll_expanded (d : Volume) (path : List String) : Expanded d (d.createDirAll path).1 :=
  d.createUp_expanded _

/-- **A directory that was made is there.** -/
theorem createDirAll_ok {d : Volume} {path : List String} (ok : (d.createDirAll path).2 = .ok ()) :
    ∃ place, (d.createDirAll path).1.DirAt path place := by
  obtain ⟨place, there⟩ := createUp_ok (moves_components path) ok
  rw [List.reverse_reverse] at there
  exact ⟨place, dirAt_components.1 there⟩

/-- A directory that is there is not made. -/
theorem createDirAll_dirAt {d : Volume} {path : List String} {place : Location} (here : d.DirAt path place) :
    d.createDirAll path = (d, .ok ()) :=
  createUp_dirAt (moves_components path) (by rw [List.reverse_reverse]; exact dirAt_components.2 here)

/-- The root of a volume is a directory. -/
theorem rooted (d : Volume) : Rooted d.look where
  root := rfl
  closed _ name there := look_above (List.cons_ne_nil name []) there

/-- **A file that was read.** -/
theorem readToString_spec (d : Volume) (path : List String) : (d.readToString path).1 = d ∨
    ∃ place, d.resolve path = .ok place ∧ d.look place = some .file ∧
      (d.readToString path).1 = { d with opened := d.opened ++ [place] } := by
  rw [readToString]
  split
  · exact .inl rfl
  · rename_i place resolves
    split
    · exact .inl rfl
    · exact .inl rfl
    · exact .inl rfl
    · rename_i bytes here
      refine .inr ⟨place, resolves, ?_, rfl⟩
      rw [look, Forest.look, here]
      rfl

/-- **A file that was written.** -/
structure Wrote (d d' : Volume) (path : List String) (place : Location) : Prop where
  resolves : d.resolve path = .ok place
  noDirectory : d.look place ≠ some .directory
  opened : d'.opened = d.opened ++ [place]
  grown : Grown d.look d'.look
  files : ∀ other, d'.tree.filesAt other ≤ d.tree.filesAt other + 1
  overwritten : d.look place ≠ none → ∀ other, d'.tree.filesAt other = d.tree.filesAt other

/-- A place that a path leads to is in a directory, unless it is a directory itself. -/
theorem above_of_resolve {d : Volume} {path : List String} {place : Location} (resolves : d.resolve path = .ok place)
    (leaf : d.look place ≠ some .directory) :
    ∃ dir name entries, place = dir ++ [name] ∧ d.tree.find dir = some (.directory entries) := by
  obtain ⟨-, left, walked⟩ := resolve_eq_ok.1 resolves
  have root : Landed d.look [] := .inl (by rw [d.rooted.root]; rintro ⟨⟩)
  rcases landed_of_walk d.rooted root walked with there | ⟨dir, name, same, directory⟩
  · rcases List.eq_nil_or_concat place with empty | ⟨dir, name, concat⟩
    · rw [empty] at leaf
      exact absurd d.rooted.root leaf
    · rw [List.concat_eq_append] at concat
      dsimp only at there
      rw [concat] at there
      obtain ⟨entries, here⟩ := entries_of_look (d.rooted.closed dir name there)
      exact ⟨dir, name, entries, concat, here⟩
  · obtain ⟨entries, here⟩ := entries_of_look directory
    exact ⟨dir, name, entries, same, here⟩

/-- What putting a file does, where there is a file or nothing. -/
theorem wrote_put {d : Volume} {path : List String} {place : Location} (resolves : d.resolve path = .ok place)
    (bytes : ByteArray) (plain : d.tree.find place = none ∨ ∃ old, d.tree.find place = some (.file old)) :
    Wrote d { tree := d.tree.put (.file bytes) place, opened := d.opened ++ [place] } path place := by
  -- There was nothing at the place, or a file.
  have kind : d.look place = none ∨ d.look place = some .file := by
    rw [look, Forest.look]
    rcases plain with nothing | ⟨old, file⟩
    · rw [nothing]
      exact .inl rfl
    · rw [file]
      exact .inr rfl
  have leaf : d.look place ≠ some .directory := by
    rcases kind with nothing | file
    · rw [nothing]
      rintro ⟨⟩
    · rw [file]
      rintro ⟨⟩
  obtain ⟨dir, name, entries, rfl, here⟩ := above_of_resolve resolves leaf
  have bare : (Node.file bytes).Bare := trivial
  have looks := Forest.look_put here leaf bare
  have count := Forest.filesAt_put here leaf bare
  refine ⟨resolves, leaf, rfl, ⟨?_, ?_⟩, fun other => ?_, fun there other => ?_⟩
  -- What was there stays, and what is there is a file where it was one.
  · intro other found at'
    change Forest.look _ other = _
    rw [looks]
    split
    · rename_i same
      rw [same] at at'
      rcases kind with nothing | file
      · rw [nothing] at at'
        cases at'
      · rw [file] at at'
        exact at'
    · exact at'
  · intro other target at'
    change Forest.look _ other = _ at at'
    rw [looks] at at'
    split at at'
    · cases at'
    · exact at'
  · have changed := count other
    change _ = _ + (if _ then 1 else 0) at changed
    change (d.tree.put (.file bytes) (dir ++ [name])).filesAt other ≤ d.tree.filesAt other + 1
    split at changed
    · omega
    · omega
  -- The file was there: its size changed, the number of files did not.
  · have changed := count other
    rcases plain with nothing | ⟨old, file⟩
    · rw [look, Forest.look, nothing] at there
      exact absurd rfl there
    · rw [file] at changed
      change _ + (if _ then 1 else 0) = _ + (if _ then 1 else 0) at changed
      exact Nat.add_right_cancel changed

/-- **What `write` does**: nothing, or it creates or overwrites the file that the path leads to. -/
theorem write_spec (d : Volume) (path : List String) (bytes : ByteArray) : (d.write path bytes).1 = d ∨
    ∃ place, Wrote d (d.write path bytes).1 path place := by
  rw [write]
  split
  · exact .inl rfl
  · rename_i place resolves
    split
    · exact .inl rfl
    · exact .inl rfl
    · rename_i old found
      exact .inr ⟨place, wrote_put resolves bytes (.inr ⟨old, found⟩)⟩
    · rename_i found
      exact .inr ⟨place, wrote_put resolves bytes (.inl found)⟩

end Volume

end Posix
