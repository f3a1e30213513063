import Feros.Agent.QuickjsEngine
/-! # The files of a script

A path of a script is checked by its segments, and its directory by where it leads, if it is there.  What is
not checked is the last segment, which may be a link, and a directory that is still missing, which may come to
be outside through a link above it. -/

namespace Feros.QuickjsEngine

open Posix

/-- The place is inside the sandbox, with all links resolved. -/
def Inside (d : Volume) (sandbox : List String) (place : Location) : Prop :=
  ∃ root, d.DirAt sandbox root ∧ root <+: place

/-- **Every file that was opened is inside the sandbox.** -/
def Confined (d : Volume) (sandbox : List String) : Prop := ∀ place ∈ d.opened, Inside d sandbox place

/-- The string passes the checks of its segments. -/
structure Accepted (path : String) : Prop where
  nonempty : path.isEmpty = false
  relative : isAbsolute path = false
  noParent : (segments path).contains ".." = false

/-- A link at the end of the path, in a directory of the sandbox, leads to no file outside. -/
def LinkStays (d : Volume) (sandbox path : List String) (opens : Location → Prop) : Prop :=
  ∀ front name dir target place, path = front ++ [name] → d.DirAt (sandbox ++ front) dir → Inside d sandbox dir →
    d.look (dir ++ [name]) = some (.link target) → d.resolve (sandbox ++ path) = .ok place → opens place →
    Inside d sandbox place

/-- The last directory on the path that is there is inside the sandbox, if the next one is missing. -/
def MadeStays (d : Volume) (sandbox path : List String) : Prop :=
  ∀ front name there next missing dir, path = front ++ [name] → components front = there ++ next :: missing →
    d.DirAt (sandbox ++ there) dir → d.look (dir ++ [next]) = none → hasNul path = false → Inside d sandbox dir

/-- A file in a directory that is there only now is inside the sandbox. -/
def FoundStays (d : Volume) (sandbox path : List String) (opens : Location → Prop) : Prop :=
  ∀ front name dir place, path = front ++ [name] → d.DirAt (sandbox ++ front) dir →
    d.resolve (sandbox ++ path) = .ok place → opens place → Inside d sandbox place

/-- **The links that a call comes through do not lead out of the sandbox.**  A file is written when the sandbox
has been made, and the directory of its path was checked only if it was there before. -/
def StaysInside (sandbox : List String) (disk : Volume) : ScriptCall → Prop
  | .fileRead path =>
    Accepted path → LinkStays disk sandbox (segments path) fun place => disk.look place = some .file
  | .fileWrite path content =>
    let made := (disk.createDirAll sandbox).1
    let opens := fun place => made.look place ≠ some .directory
    Accepted path → content.utf8ByteSize ≤ maxFileSize →
      ¬ (countFilesRecursive made sandbox ≥ maxSandboxFiles ∧ made.pathExists (sandbox ++ segments path) = false) →
      LinkStays made sandbox (segments path) opens ∧
      ∀ parent, parent? (sandbox ++ segments path) = some parent → disk.pathExists parent = false →
        MadeStays made sandbox (segments path) ∧ FoundStays made sandbox (segments path) opens
  | .fileExists _ => True

/-! ## Paths -/

/-- Even the empty path has a segment. -/
theorem segments_ne_nil (path : String) : segments path ≠ [] := by
  intro none
  exact List.splitOn_ne_nil _ _ (List.map_eq_nil_iff.1 none)

/-- The directory of a file. -/
theorem parent?_concat (path : List String) {name : String} (moves : stays name = false) :
    parent? (path ++ [name]) = some (components path) := by
  have last : components (path ++ [name]) = components path ++ [name] := by
    rw [components_append, components_cons [] moves]
    rfl
  rw [parent?, last, if_neg (List.append_ne_nil_of_right_ne_nil _ (List.cons_ne_nil _ _)), List.dropLast_concat]

/-- A place inside the sandbox stays there when the tree grows. -/
theorem Inside.grown {d d' : Volume} {sandbox : List String} {place : Location} (inside : Inside d sandbox place)
    (grown : Grown d.look d'.look) : Inside d' sandbox place := by
  obtain ⟨root, here, below⟩ := inside
  exact ⟨root, here.grown grown, below⟩

/-- What is below a place of the sandbox is inside it. -/
theorem Inside.append {d : Volume} {sandbox : List String} {place : Location} (inside : Inside d sandbox place)
    (more : Location) : Inside d sandbox (place ++ more) := by
  obtain ⟨root, here, below⟩ := inside
  exact ⟨root, here, below.trans (List.prefix_append place more)⟩

/-- **What the resolution of a path has checked.** -/
theorem resolve_checked {disk : Volume} {sandbox : List String} {path : String} {fullPath : List String}
    (resolved : resolveSandboxPath disk sandbox path = some fullPath) :
    Accepted path ∧ fullPath = sandbox ++ segments path ∧
      ∀ front name dir, segments path = front ++ [name] → stays name = false → disk.DirAt (sandbox ++ front) dir →
        Inside disk sandbox dir := by
  rw [resolveSandboxPath] at resolved
  split at resolved
  · cases resolved
  · rename_i nonempty
    split at resolved
    · cases resolved
    · rename_i relative
      split at resolved
      · cases resolved
      · rename_i noParent
        dsimp only at resolved
        -- Whatever is checked of the parent, the path is the same.
        have same : fullPath = sandbox ++ segments path := by
          split at resolved
          · cases resolved
            rfl
          · split at resolved
            · split at resolved
              · split at resolved
                · split at resolved
                  · cases resolved
                    rfl
                  · cases resolved
                · cases resolved
                  rfl
              · cases resolved
                rfl
            · cases resolved
              rfl
        refine ⟨⟨by simpa using nonempty, by simpa using relative, by simpa using noParent⟩, same, ?_⟩
        intro front name dir split' moves there
        have parent := Volume.dirAt_components.2 there
        rw [split', ← List.append_assoc, parent?_concat _ moves] at resolved
        obtain ⟨root, base⟩ := Volume.dirAt_prefix there
        dsimp only at resolved
        rw [if_pos parent.pathExists, parent.canonicalize, base.canonicalize] at resolved
        dsimp only at resolved
        split at resolved
        · rename_i below
          exact ⟨root, base, List.isPrefixOf_iff_prefix.1 below⟩
        · cases resolved

/-! ## Where a file is -/

/-- A path to a file ends with a name. -/
theorem name_of_file {d : Volume} {sandbox : List String} {path : String} {place : Location} (accepted : Accepted path)
    (resolves : d.resolve (sandbox ++ segments path) = .ok place) (leaf : d.look place ≠ some .directory) :
    ∃ front name, segments path = front ++ [name] ∧ IsName name := by
  rcases List.eq_nil_or_concat (segments path) with empty | ⟨front, name, concat⟩
  · exact absurd empty (segments_ne_nil path)
  · rw [List.concat_eq_append] at concat
    refine ⟨front, name, concat, ?_, fun up => ?_⟩
    · by_contra same
      rw [concat, ← List.append_assoc] at resolves
      exact leaf (Volume.directory_of_stays (by simpa using same) resolves)
    · have noParent := accepted.noParent
      rw [concat, up] at noParent
      simp at noParent

/-- **A file in a directory of the sandbox is in the sandbox**, if a link at the end of the path stays. -/
theorem inside_of_dir {d : Volume} {sandbox path front : List String} {name : String} {dir place : Location}
    {opens : Location → Prop} (link : LinkStays d sandbox path opens) (concat : path = front ++ [name])
    (isName : IsName name) (there : d.DirAt (sandbox ++ front) dir) (inside : Inside d sandbox dir)
    (resolves : d.resolve (sandbox ++ path) = .ok place) (opened : opens place) : Inside d sandbox place := by
  have last := resolves
  rw [concat, ← List.append_assoc] at last
  obtain ⟨dir', there', plain⟩ := Volume.resolve_concat isName last
  rw [← there.unique there'] at plain
  by_cases linked : ∃ target, d.look (dir ++ [name]) = some (.link target)
  · obtain ⟨target, here⟩ := linked
    exact link front name dir target place concat there inside here resolves opened
  · rw [plain fun target here => linked ⟨target, here⟩]
    exact inside.append [name]

/-- What is opened in a tree that grows is inside, if the new places are. -/
theorem Confined.grown {d d' : Volume} {sandbox : List String} (confined : Confined d sandbox)
    (grown : Grown d.look d'.look) (opened : ∀ place ∈ d'.opened, place ∈ d.opened ∨ Inside d' sandbox place) :
    Confined d' sandbox := by
  intro place member
  rcases opened place member with before | inside
  · exact (confined place before).grown grown
  · exact inside

/-- What a read does to the disk. -/
theorem fileRead_disk (disk : Volume) (sandbox : List String) (path : String) :
    (sandboxFileRead disk (some sandbox) path).1 = disk ∨
      resolveSandboxPath disk sandbox path = some (sandbox ++ segments path) ∧
        (sandboxFileRead disk (some sandbox) path).1 = (disk.readToString (sandbox ++ segments path)).1 := by
  rw [sandboxFileRead]
  split
  · exact .inl rfl
  · rename_i fullPath resolved
    obtain ⟨-, rfl, -⟩ := resolve_checked resolved
    refine .inr ⟨resolved, ?_⟩
    split
    · rename_i read
      rw [read]
    · rename_i read
      rw [read]

/-- **A file that is read is in the sandbox.** -/
theorem confined_read {sandbox : List String} {disk : Volume} {path : String} (confined : Confined disk sandbox)
    (stays : StaysInside sandbox disk (.fileRead path)) :
    Confined (sandboxFileRead disk (some sandbox) path).1 sandbox := by
  rcases fileRead_disk disk sandbox path with nothing | ⟨resolved, read⟩
  · rw [nothing]
    exact confined
  · rw [read]
    obtain ⟨accepted, -, checked⟩ := resolve_checked resolved
    rcases disk.readToString_spec (sandbox ++ segments path) with nothing | ⟨place, resolves, file, read⟩
    · rw [nothing]
      exact confined
    · rw [read]
      have leaf : disk.look place ≠ some .directory := by
        rw [file]
        rintro ⟨⟩
      obtain ⟨front, name, concat, isName⟩ := name_of_file accepted resolves leaf
      obtain ⟨dir, there⟩ : ∃ dir, disk.DirAt (sandbox ++ front) dir := by
        rw [concat, ← List.append_assoc] at resolves
        exact Volume.dirAt_above (List.cons_ne_nil name []) resolves
      have inside := inside_of_dir (stays accepted) concat isName there
        (checked front name dir concat isName.1 there) resolves file
      refine confined.grown (Grown.refl _) fun other member => ?_
      rcases List.mem_append.1 member with before | new
      · exact .inl before
      · rw [List.mem_singleton.1 new]
        exact .inr (inside.grown (Grown.refl _))

/-! ## Writing -/

/-- **What a write does to the disk**: nothing, or the sandbox is made, or the directory of the file as well, or
the file is written. -/
inductive Writes (disk : Volume) (sandbox : List String) (path content : String) : Volume → Prop where
  | refused : Writes disk sandbox path content disk
  | madeSandbox : Writes disk sandbox path content (disk.createDirAll sandbox).1
  | madeParent : Writes disk sandbox path content
      (createParent (disk.createDirAll sandbox).1 (sandbox ++ segments path)).1
  | wrote {d d' : Volume} (resolved : resolveSandboxPath disk sandbox path = some (sandbox ++ segments path))
      (small : content.utf8ByteSize ≤ maxFileSize) (made : disk.createDirAll sandbox = (d, .ok ()))
      (free : ¬ (countFilesRecursive d sandbox ≥ maxSandboxFiles ∧ d.pathExists (sandbox ++ segments path) = false))
      (parent : createParent d (sandbox ++ segments path) = (d', .ok ())) :
      Writes disk sandbox path content (d'.write (sandbox ++ segments path) content.toUTF8).1

/-- **A write is one of these.** -/
theorem fileWrite_writes (disk : Volume) (sandbox : List String) (path content : String) :
    Writes disk sandbox path content (sandboxFileWrite disk (some sandbox) path content).1 := by
  rw [sandboxFileWrite]
  split
  · exact .refused
  · rename_i small
    split
    · exact .refused
    · rename_i fullPath resolved
      obtain ⟨-, rfl, -⟩ := resolve_checked resolved
      split
      · rename_i made e failed
        have result : Writes disk sandbox path content (disk.createDirAll sandbox).1 := .madeSandbox
        rw [failed] at result
        exact result
      · rename_i made done
        split
        · have result : Writes disk sandbox path content (disk.createDirAll sandbox).1 := .madeSandbox
          rw [done] at result
          exact result
        · rename_i free
          split
          · rename_i below e failed
            have result : Writes disk sandbox path content
              (createParent (disk.createDirAll sandbox).1 (sandbox ++ segments path)).1 := .madeParent
            rw [done] at result
            dsimp only at result
            rw [failed] at result
            exact result
          · rename_i below parent
            have result := Writes.wrote resolved (Nat.le_of_not_lt small) done free parent
            split
            · rename_i written end'
              rw [end'] at result
              exact result
            · rename_i written e end'
              rw [end'] at result
              exact result

/-- The directory of a file is made with what is above it. -/
theorem createParent_expanded (d : Volume) (fullPath : List String) : Volume.Expanded d (createParent d fullPath).1 := by
  rw [createParent]
  split
  · exact .refl d
  · exact d.createDirAll_expanded _

/-- What was there before and is a directory now was a directory. -/
theorem dirAt_before {d d' : Volume} {path : List String} {dir : Location} (grown : Grown d.look d'.look)
    (there : d.pathExists path = true) (now : d'.DirAt path dir) : d.DirAt path dir := by
  rw [Volume.pathExists] at there
  split at there
  · rename_i place resolves
    have same := (Volume.resolve_grown grown resolves).symm.trans now.resolves
    cases same
    obtain ⟨kind, here⟩ := Option.isSome_iff_exists.1 there
    have kept := grown.kept _ _ here
    rw [now.directory] at kept
    cases kept
    exact ⟨resolves, here⟩
  · cases there

/-- A path of names is made of them. -/
theorem components_names {path : List String} (names : ∀ segment ∈ path, stays segment = false) :
    components path = path := by
  rw [components, List.filter_eq_self]
  intro segment member
  rw [names segment member]
  rfl

/-- **A file that is written is in the sandbox.** -/
theorem inside_of_write {sandbox : List String} {disk d d' d'' : Volume} {path content : String} {place : Location}
    (stays : StaysInside sandbox disk (.fileWrite path content))
    (resolved : resolveSandboxPath disk sandbox path = some (sandbox ++ segments path))
    (small : content.utf8ByteSize ≤ maxFileSize) (made : disk.createDirAll sandbox = (d, .ok ()))
    (free : ¬ (countFilesRecursive d sandbox ≥ maxSandboxFiles ∧ d.pathExists (sandbox ++ segments path) = false))
    (parent : createParent d (sandbox ++ segments path) = (d', .ok ()))
    (wrote : Volume.Wrote d' d'' (sandbox ++ segments path) place) : Inside d'' sandbox place := by
  -- Directories are made on the way, and none is taken away.
  have grown : Grown disk.look d.look := by
    have expanded := disk.createDirAll_expanded sandbox
    rw [made] at expanded
    exact expanded.grown
  have grown' : Grown d.look d'.look := by
    have expanded := createParent_expanded d (sandbox ++ segments path)
    rw [parent] at expanded
    exact expanded.grown
  obtain ⟨accepted, -, checked⟩ := resolve_checked resolved
  have guard := stays accepted small (by rw [made]; exact free)
  rw [made] at guard
  dsimp only at guard
  obtain ⟨links, unchecked⟩ := guard
  obtain ⟨front, name, concat, isName⟩ := name_of_file accepted wrote.resolves wrote.noDirectory
  have resolves := wrote.resolves
  rw [concat, ← List.append_assoc] at resolves
  obtain ⟨dir, there, plain⟩ := Volume.resolve_concat isName resolves
  have above : parent? (sandbox ++ segments path) = some (components (sandbox ++ front)) := by
    rw [concat, ← List.append_assoc]
    exact parent?_concat _ isName.1
  rw [createParent, above] at parent
  dsimp only at parent
  -- The directory of the file was there before, or it was made in one that was.
  have before (known : disk.pathExists (components (sandbox ++ front)) = true) : disk.DirAt (sandbox ++ front) dir :=
    Volume.dirAt_components.1 (dirAt_before (grown.trans grown') known (Volume.dirAt_components.2 there))
  refine Inside.grown ?_ wrote.grown
  by_cases found : ∃ dir', d.DirAt (sandbox ++ front) dir'
  · -- The directory is there, and nothing is made.
    obtain ⟨dir', here⟩ := found
    rw [Volume.createDirAll_dirAt (Volume.dirAt_components.2 here)] at parent
    cases parent
    by_cases known : disk.pathExists (components (sandbox ++ front)) = true
    · have inside := (checked front name dir concat isName.1 (before known)).grown grown
      exact inside_of_dir links concat isName there inside wrote.resolves wrote.noDirectory
    · exact (unchecked _ above (by simpa using known)).2 front name dir place concat there wrote.resolves
        wrote.noDirectory
  · -- The directory was made, in the last one that was there, and is empty.
    have names (segment : String) (member : segment ∈ components front) : IsName segment := by
      refine ⟨Volume.stays_of_mem_components member, fun up => ?_⟩
      have noParent := accepted.noParent
      rw [concat, ← up] at noParent
      have inPath : segment ∈ front ++ [name] := List.mem_append_left _ (List.mem_of_mem_filter member)
      simp [inPath] at noParent
    have split' : components (sandbox ++ front) = components sandbox ++ components front := components_append ..
    have missing : disk.pathExists (components (sandbox ++ front)) = false := by
      by_contra known
      exact found ⟨dir, (before (by simpa using known)).grown grown⟩
    obtain ⟨root, base⟩ := Volume.createDirAll_ok (congrArg Prod.snd made)
    rw [made] at base
    have again : components (components (sandbox ++ front)) = components sandbox ++ components front := by
      rw [components_names fun segment member => Volume.stays_of_mem_components member, split']
    rw [Volume.createDirAll, again] at parent
    obtain ⟨there', missing', next, dir', names', known, lacks, new, empty⟩ :=
      (Volume.createUp_below (Volume.dirAt_components.2 base) (fun _ member => Volume.stays_of_mem_components member)
        (components front) names (fun other at' => found ⟨other, Volume.dirAt_components.1 (by rw [split']; exact at')⟩)
        (by rw [parent])).made
    rw [parent] at new empty
    have stay : Inside d sandbox dir' := by
      refine (unchecked _ above missing).1 front name there' next missing' dir' concat names' ?_ lacks ?_
      · have same : components there' = there' := components_names fun segment member =>
          (names segment (by rw [names']; exact List.mem_append_left _ member)).1
        refine Volume.dirAt_components.1 ?_
        rw [components_append, same]
        exact known
      · have clean := (Volume.resolve_eq_ok.1 wrote.resolves).1
        rw [Volume.hasNul_append, Bool.or_eq_false_iff] at clean
        exact clean.2
    rw [← split'] at new
    have same : dir = dir' ++ next :: missing' := there.unique (Volume.dirAt_components.1 new)
    rw [plain, same, List.append_assoc]
    · exact (stay.grown grown').append _
    · intro target link
      rw [same, empty] at link
      cases link

/-- Where only directories are made, nothing is opened. -/
theorem Confined.expanded {d d' : Volume} {sandbox : List String} (confined : Confined d sandbox)
    (expanded : Volume.Expanded d d') : Confined d' sandbox :=
  confined.grown expanded.grown fun place member => .inl (by rw [← expanded.opened]; exact member)

/-- **A call keeps the files that are opened in the sandbox.** -/
theorem confined_step {sandbox : List String} {disk : Volume} (call : ScriptCall) (confined : Confined disk sandbox)
    (stays : StaysInside sandbox disk call) : Confined (step sandbox disk call) sandbox := by
  cases call with
  | fileRead path => exact confined_read confined stays
  | fileExists path => exact confined
  | fileWrite path content =>
      have sandboxMade := disk.createDirAll_expanded sandbox
      have parentMade (d : Volume) := createParent_expanded d (sandbox ++ segments path)
      have writes := fileWrite_writes disk sandbox path content
      change Confined (sandboxFileWrite disk (some sandbox) path content).1 sandbox
      generalize (sandboxFileWrite disk (some sandbox) path content).1 = result at writes ⊢
      cases writes with
      | refused => exact confined
      | madeSandbox => exact confined.expanded sandboxMade
      | madeParent => exact (confined.expanded sandboxMade).expanded (parentMade _)
      | @wrote d d' resolved small made free parent =>
          have parentMade := parentMade d
          rw [made] at sandboxMade
          rw [parent] at parentMade
          have before := (confined.expanded sandboxMade).expanded parentMade
          rcases d'.write_spec (sandbox ++ segments path) content.toUTF8 with nothing | ⟨place, wrote⟩
          · rw [nothing]
            exact before
          · refine before.grown wrote.grown fun other member => ?_
            rw [wrote.opened] at member
            rcases List.mem_append.1 member with old | new
            · exact .inl old
            · rw [List.mem_singleton.1 new]
              exact .inr (inside_of_write stays resolved small made free parent wrote)

/-! ## The number of files -/

/-- **The files below the sandbox**, from a starting disk: not more than there were, or than the limit; and as
long as there is no sandbox, no number of files has changed. -/
structure Counted (start : Volume) (sandbox : List String) (d : Volume) : Prop where
  bound : ∀ root, d.DirAt sandbox root → d.tree.filesAt root ≤ max (start.tree.filesAt root) maxSandboxFiles
  unchanged : (∀ root, ¬ d.DirAt sandbox root) → ∀ place, d.tree.filesAt place = start.tree.filesAt place

/-- Where only directories are made, the number of files is the same. -/
theorem Counted.expanded {start d d' : Volume} {sandbox : List String} (counted : Counted start sandbox d)
    (expanded : Volume.Expanded d d') : Counted start sandbox d' where
  bound root here := by
    rw [expanded.files]
    by_cases before : ∃ other, d.DirAt sandbox other
    · obtain ⟨other, there⟩ := before
      rw [here.unique (there.grown expanded.grown)]
      exact counted.bound other there
    · rw [counted.unchanged fun other there => before ⟨other, there⟩]
      exact Nat.le_max_left _ _
  unchanged away place := by
    rw [expanded.files]
    exact counted.unchanged (fun root there => away root (there.grown expanded.grown)) place

/-- **A call keeps the number of files within the limit.** -/
theorem counted_step {start : Volume} {sandbox : List String} {disk : Volume} (call : ScriptCall)
    (counted : Counted start sandbox disk) : Counted start sandbox (step sandbox disk call) := by
  cases call with
  | fileExists path => exact counted
  | fileRead path =>
      change Counted start sandbox (sandboxFileRead disk (some sandbox) path).1
      rcases fileRead_disk disk sandbox path with nothing | ⟨-, read⟩
      · rw [nothing]
        exact counted
      -- Reading a file counts as an access, and makes none.
      · rw [read]
        rcases disk.readToString_spec (sandbox ++ segments path) with nothing | ⟨place, -, -, read⟩
        · rw [nothing]
          exact counted
        · rw [read]
          exact ⟨fun root here => counted.bound root ⟨here.resolves, here.directory⟩,
            fun away => counted.unchanged fun root here => away root ⟨here.resolves, here.directory⟩⟩
  | fileWrite path content =>
      have sandboxMade := disk.createDirAll_expanded sandbox
      have parentMade (d : Volume) := createParent_expanded d (sandbox ++ segments path)
      have writes := fileWrite_writes disk sandbox path content
      change Counted start sandbox (sandboxFileWrite disk (some sandbox) path content).1
      generalize (sandboxFileWrite disk (some sandbox) path content).1 = result at writes ⊢
      cases writes with
      | refused => exact counted
      | madeSandbox => exact counted.expanded sandboxMade
      | madeParent => exact (counted.expanded sandboxMade).expanded (parentMade _)
      | @wrote d d' resolved small made free parent =>
          have parentMade := parentMade d
          rw [made] at sandboxMade
          rw [parent] at parentMade
          have before := (counted.expanded sandboxMade).expanded parentMade
          rcases d'.write_spec (sandbox ++ segments path) content.toUTF8 with nothing | ⟨place, wrote⟩
          · rw [nothing]
            exact before
          -- The sandbox is the directory that was made, or was there.
          · obtain ⟨root, base⟩ := Volume.createDirAll_ok (congrArg Prod.snd made)
            rw [made] at base
            have base' := base.grown parentMade.grown
            have here := base'.grown wrote.grown
            refine ⟨fun other there => ?_, fun away => absurd here (away root)⟩
            rw [there.unique here]
            have old := before.bound root base'
            by_cases full : d.pathExists (sandbox ++ segments path) = true
            · -- The file was there, and is overwritten.
              have existing : d'.look place ≠ none := by
                rw [Volume.pathExists] at full
                split at full
                · rename_i place' resolves
                  have same := (Volume.resolve_grown parentMade.grown resolves).symm.trans wrote.resolves
                  cases same
                  obtain ⟨kind, found⟩ := Option.isSome_iff_exists.1 full
                  rw [parentMade.grown.kept _ _ found]
                  rintro ⟨⟩
                · cases full
              rw [wrote.overwritten existing]
              exact old
            -- A new file: there was room for it when the files were counted.
            · have room : countFilesRecursive d sandbox < maxSandboxFiles := by
                by_contra limit
                exact free ⟨Nat.le_of_not_lt limit, by simpa using full⟩
              rw [countFilesRecursive, base.resolves] at room
              have more := wrote.files root
              rw [parentMade.files] at more
              exact Nat.le_trans (Nat.le_trans more room) (Nat.le_max_right _ _)

/-! ## Runs -/

/-- **The files of a script.**  In every run from a disk in which no file was opened, every file that is read,
created or overwritten is inside the sandbox, if the links that the calls come through do not lead out of it;
and the number of files below the sandbox does not rise above the limit, whatever is called. -/
theorem scripts_confined (sandbox : List String) (tree : Forest) (calls : List ScriptCall) :
    (Run.Along (step sandbox) (StaysInside sandbox) { tree := tree } calls →
      Confined (Run.run (step sandbox) { tree := tree } calls) sandbox) ∧
    ∀ root, (Run.run (step sandbox) { tree := tree } calls).canonicalize sandbox = .ok root →
      (Run.run (step sandbox) { tree := tree } calls).tree.filesAt root ≤
        max (tree.filesAt root) maxSandboxFiles := by
  constructor
  · intro stays
    have start : Confined { tree := tree } sandbox := by
      rintro _ ⟨⟩
    exact Run.invariant (fun d call (confined : Confined d sandbox) => confined_step call confined) start stays
  · intro root here
    have counted := Run.invariant_of_step (fun _ call counted => counted_step call counted)
      (show Counted { tree := tree } sandbox { tree := tree } from ⟨fun _ _ => Nat.le_max_left _ _, fun _ _ => rfl⟩) calls
    generalize Run.run (step sandbox) { tree := tree } calls = d at *
    by_cases directory : d.look root = some .directory
    · refine counted.bound root ⟨?_, directory⟩
      rw [Volume.canonicalize] at here
      split at here
      · rename_i place resolves
        split at here
        · cases here
          exact resolves
        · cases here
      · cases here
    · rw [Forest.filesAt_of_leaf directory]
      exact Nat.zero_le _

/-- A host whose directory for temporary files has a file and a link to it. -/
def draftTree : Forest := .directory "tmp" (.file "a" .empty (.link "b" ⟨false, ["a"]⟩ .nil)) .nil

/-- The link is read, a file is written to a directory that is not there, a path that leads up is refused, and
the file is read. -/
def draftCalls : List ScriptCall :=
  [.fileRead "b", .fileWrite "new/f" "", .fileRead "../b", .fileRead "new/f"]

/-- The segments of the path to the link. -/
theorem segments_b : segments "b" = ["b"] := by
  have characters : "b".toList = ['b'] := by simp
  rw [segments, characters]
  decide

/-- The segments of the path that is written. -/
theorem segments_new : segments "new/f" = ["new", "f"] := by
  have characters : "new/f".toList = ['n', 'e', 'w', '/', 'f'] := by simp
  rw [segments, characters]
  decide

/-- The segments of the path that leads up. -/
theorem segments_up : segments "../b" = ["..", "b"] := by
  have characters : "../b".toList = ['.', '.', '/', 'b'] := by simp
  rw [segments, characters]
  decide

/-- The tree with the file that was written. -/
def writtenTree : Forest :=
  .directory "tmp" (.file "a" .empty (.link "b" ⟨false, ["a"]⟩ (.directory "new" (.file "f" "".toUTF8 .nil) .nil))) .nil

/-- The disk when the link was read. -/
def afterRead : Volume := { tree := draftTree, opened := [["tmp", "a"]] }

/-- The disk when the file was written. -/
def afterWrite : Volume := { tree := writtenTree, opened := [["tmp", "a"], ["tmp", "new", "f"]] }

/-! The disk after each call. -/

/-- The link is followed to the file. -/
theorem step_read : step ["tmp"] { tree := draftTree } (.fileRead "b") = afterRead := by
  simp only [step, sandboxFileRead, resolveSandboxPath, segments_b]
  rfl

set_option maxRecDepth 2000 in
/-- The directory is made, and the file. -/
theorem step_write : step ["tmp"] afterRead (.fileWrite "new/f" "") = afterWrite := by
  simp only [step, sandboxFileWrite, resolveSandboxPath, segments_new]
  rfl

/-- The path that leads up is refused. -/
theorem step_up : step ["tmp"] afterWrite (.fileRead "../b") = afterWrite := by
  simp only [step, sandboxFileRead, resolveSandboxPath, segments_up]
  rfl

/-- The file that was written is read. -/
theorem step_again : step ["tmp"] afterWrite (.fileRead "new/f") =
    { afterWrite with opened := afterWrite.opened ++ [["tmp", "new", "f"]] } := by
  simp only [step, sandboxFileRead, resolveSandboxPath, segments_new]
  rfl

/-- The sandbox is a directory all along. -/
theorem tmp_dirAt {d : Volume} (tree : d.tree = draftTree ∨ d.tree = writtenTree) : d.DirAt ["tmp"] ["tmp"] := by
  obtain ⟨tree', opened⟩ := d
  rcases tree with same | same
  · cases same
    exact ⟨rfl, rfl⟩
  · cases same
    exact ⟨rfl, rfl⟩

/-- What is below the directory is inside the sandbox. -/
theorem inside_tmp {d : Volume} (tree : d.tree = draftTree ∨ d.tree = writtenTree) (more : Location) :
    Inside d ["tmp"] ("tmp" :: more) :=
  ⟨["tmp"], tmp_dirAt tree, List.prefix_append ["tmp"] more⟩

/-- The link at the end of the path leads to the file beside it. -/
theorem stays_read : StaysInside ["tmp"] { tree := draftTree } (.fileRead "b") := by
  rintro - front name dir target place split there - - resolves -
  rw [segments_b] at resolves
  obtain rfl : ["tmp", "a"] = place := Except.ok.inj resolves
  exact inside_tmp (.inl rfl) ["a"]

/-- The path that leads up is refused. -/
theorem segments_refused : ¬ Accepted "../b" := by
  intro accepted
  have noParent := accepted.noParent
  rw [segments_up] at noParent
  exact absurd noParent (by decide)

/-- The directory and the name of the file that is written. -/
theorem front_new {front : List String} {name : String} (split : ["new", "f"] = front ++ [name]) :
    front = ["new"] ∧ name = "f" := by
  obtain ⟨same, last⟩ := List.append_inj' (show ["new"] ++ ["f"] = front ++ [name] from split) rfl
  exact ⟨same.symm, (List.cons.inj last).1.symm⟩

/-- The directory of the file is not there, and the one above it is the sandbox. -/
theorem stays_write : StaysInside ["tmp"] afterRead (.fileWrite "new/f" "") := by
  have made : (afterRead.createDirAll ["tmp"]).1 = afterRead := rfl
  have missing (dir : Location) : ¬ afterRead.DirAt ["tmp", "new"] dir := by
    rintro ⟨resolves, directory⟩
    obtain rfl : ["tmp", "new"] = dir := Except.ok.inj resolves
    cases directory
  intro _ _ _
  rw [made, segments_new]
  refine ⟨?_, fun parent _ _ => ⟨?_, ?_⟩⟩
  · intro front name dir target place split there
    rw [(front_new split).1] at there
    exact absurd there (missing dir)
  · intro front name there next more dir split above here _ _
    rw [(front_new split).1] at above
    rcases there with - | ⟨first, rest⟩
    · rw [here.unique (tmp_dirAt (.inl rfl))]
      exact inside_tmp (.inl rfl) []
    · exact absurd (List.cons.inj above).2.symm (List.append_ne_nil_of_right_ne_nil _ (List.cons_ne_nil _ _))
  · intro front name dir place split there
    rw [(front_new split).1] at there
    exact absurd there (missing dir)

/-- What was written is no link. -/
theorem stays_again : StaysInside ["tmp"] afterWrite (.fileRead "new/f") := by
  intro _ front name dir target place split there _ link
  rw [segments_new] at split
  obtain ⟨rfl, rfl⟩ := front_new split
  rw [there.unique (show afterWrite.DirAt ["tmp", "new"] ["tmp", "new"] from ⟨rfl, rfl⟩)] at link
  cases link

set_option maxRecDepth 2000 in
/-- The file behind the link is read, and the new file written and read; all of this is in the sandbox. -/
theorem scripts_confined_draft : Confined (Run.run (step ["tmp"]) { tree := draftTree } draftCalls) ["tmp"] ∧
    (Run.run (step ["tmp"]) { tree := draftTree } draftCalls).opened =
      [["tmp", "a"], ["tmp", "new", "f"], ["tmp", "new", "f"]] := by
  refine ⟨(scripts_confined ["tmp"] draftTree draftCalls).1 ⟨stays_read, ?_⟩, ?_⟩
  · rw [step_read]
    refine ⟨stays_write, ?_⟩
    rw [step_write]
    refine ⟨fun accepted => absurd accepted segments_refused, ?_⟩
    rw [step_up]
    exact ⟨stays_again, trivial⟩
  · rw [draftCalls, Run.run_cons, step_read, Run.run_cons, step_write, Run.run_cons, step_up, Run.run_cons, step_again,
      Run.run_nil]
    rfl

/-! ## Links that lead out -/

/-- A host whose directory for temporary files has a link to another directory, and one to a file there. -/
def linkedTree : Forest :=
  .directory "tmp" (.link "out" ⟨true, ["etc"]⟩ (.link "pw" ⟨true, ["etc", "passwd"]⟩ .nil))
    (.directory "etc" (.file "passwd" .empty .nil) .nil)

/-- The segments of the path to the link. -/
theorem segments_pw : segments "pw" = ["pw"] := by
  have characters : "pw".toList = ['p', 'w'] := by simp
  rw [segments, characters]
  decide

/-- The segments of the path through the link. -/
theorem segments_out : segments "out/new/f" = ["out", "new", "f"] := by
  have characters : "out/new/f".toList = ['o', 'u', 't', '/', 'n', 'e', 'w', '/', 'f'] := by simp
  rw [segments, characters]
  decide

/-- A file elsewhere is not in the sandbox. -/
theorem not_confined {d : Volume} {place : Location} (opened : place ∈ d.opened) (sandbox : d.DirAt ["tmp"] ["tmp"])
    (outside : ¬ ["tmp"] <+: place) : ¬ Confined d ["tmp"] := by
  intro confined
  obtain ⟨root, here, below⟩ := confined place opened
  rw [here.unique sandbox] at below
  exact outside below

set_option maxRecDepth 2000 in
/-- **A script leaves the sandbox** by a link at the end of a path, and by a link above a missing directory. -/
theorem not_confined_of_links :
    ¬ Confined (Run.run (step ["tmp"]) { tree := linkedTree } [.fileRead "pw"]) ["tmp"] ∧
      ¬ Confined (Run.run (step ["tmp"]) { tree := linkedTree } [.fileWrite "out/new/f" ""]) ["tmp"] := by
  constructor
  · refine @not_confined _ ["etc", "passwd"] ?_ ⟨?_, ?_⟩ (by decide)
    · simp only [Run.run_cons, Run.run_nil, step, sandboxFileRead, resolveSandboxPath, segments_pw]
      decide
    · simp only [Run.run_cons, Run.run_nil, step, sandboxFileRead, resolveSandboxPath, segments_pw]
      rfl
    · simp only [Run.run_cons, Run.run_nil, step, sandboxFileRead, resolveSandboxPath, segments_pw]
      decide
  · refine @not_confined _ ["etc", "new", "f"] ?_ ⟨?_, ?_⟩ (by decide)
    · simp only [Run.run_cons, Run.run_nil, step, sandboxFileWrite, resolveSandboxPath, segments_out]
      decide
    · simp only [Run.run_cons, Run.run_nil, step, sandboxFileWrite, resolveSandboxPath, segments_out]
      rfl
    · simp only [Run.run_cons, Run.run_nil, step, sandboxFileWrite, resolveSandboxPath, segments_out]
      decide

end Feros.QuickjsEngine
