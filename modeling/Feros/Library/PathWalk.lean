import Mathlib.Data.List.Basic
/-! # Walking a path

Where a path leads in a tree of directories, files and symbolic links: links are followed wherever they stand
on the way, so many at most, and a walk only goes on from a directory.  The tree is given by what is found at
each place. -/

namespace Posix

/-- A place in the tree: the names on the way from the root. -/
abbrev Location := List String

/-- Where a symbolic link leads: a path, as the segments between its slashes. -/
structure Target where
  absolute : Bool
  segments : List String
  deriving DecidableEq, Repr

/-- What is found at a place. -/
inductive Kind where
  | directory
  | file
  | link (target : Target)
  deriving DecidableEq, Repr

/-- How a call of the system fails. -/
inductive IoError where
  | notFound
  | notADirectory
  | isADirectory
  | alreadyExists
  | filesystemLoop
  | invalidInput
  | invalidData
  deriving DecidableEq, Repr

namespace IoError

def message : IoError → String
  | notFound => "No such file or directory (os error 2)"
  | notADirectory => "Not a directory (os error 20)"
  | isADirectory => "Is a directory (os error 21)"
  | alreadyExists => "File exists (os error 17)"
  | filesystemLoop => "Too many levels of symbolic links (os error 40)"
  | invalidInput => "file name contained an unexpected NUL byte"
  | invalidData => "stream did not contain valid UTF-8"

end IoError

/-- A segment that stays where it is. -/
def stays (segment : String) : Bool := segment == "" || segment == "."

/-- A segment that is a name. -/
def IsName (segment : String) : Prop := stays segment = false ∧ segment ≠ ".."

section

variable (look : Location → Option Kind)

/-- A walk up to its first link; `left` more links may be followed, and `follow` goes on behind one. -/
def walkWith (left : ℕ) (follow : Location → List String → Except IoError (Location × ℕ)) :
    Location → List String → Except IoError (Location × ℕ)
  | current, [] => .ok (current, left)
  | current, segment :: rest =>
    match look current with
    | none => .error .notFound
    | some .directory =>
      if stays segment then walkWith left follow current rest
      else if segment = ".." then walkWith left follow current.dropLast rest
      else
        match look (current ++ [segment]) with
        | some (.link target) => follow (if target.absolute then [] else current) (target.segments ++ rest)
        | _ => walkWith left follow (current ++ [segment]) rest
    | some _ => .error .notADirectory

/-- **The walk along a path**, which gives the place it ends at and how many links are left; nothing need be
there. -/
def walk : ℕ → Location → List String → Except IoError (Location × ℕ)
  | 0 => walkWith look 0 fun _ _ => .error .filesystemLoop
  | left + 1 => walkWith look (left + 1) (walk left)

/-- The walk goes on behind a link. -/
def follow : ℕ → Location → List String → Except IoError (Location × ℕ)
  | 0 => fun _ _ => .error .filesystemLoop
  | left + 1 => walk look left

end

variable {look look' : Location → Option Kind}

/-- A walk follows its links. -/
theorem walk_eq (left : ℕ) : walk look left = walkWith look left (follow look left) := by
  cases left with
  | zero => rfl
  | succ left => rfl

/-- A path without segments stays where it is. -/
@[simp] theorem walk_nil (left : ℕ) (current : Location) : walk look left current [] = .ok (current, left) := by
  rw [walk_eq]
  rfl

/-- **One segment of a walk.** -/
theorem walk_cons (left : ℕ) (current : Location) (segment : String) (rest : List String) :
    walk look left current (segment :: rest) =
      match look current with
      | none => .error .notFound
      | some .directory =>
        if stays segment then walk look left current rest
        else if segment = ".." then walk look left current.dropLast rest
        else
          match look (current ++ [segment]) with
          | some (.link target) =>
            follow look left (if target.absolute then [] else current) (target.segments ++ rest)
          | _ => walk look left (current ++ [segment]) rest
      | some _ => .error .notADirectory := by
  rw [walk_eq]
  rfl

/-! ## The steps of a walk -/

/-- An empty segment and a dot stay in a directory. -/
theorem walk_cons_stays {left : ℕ} {current : Location} {segment : String} (rest : List String)
    (here : look current = some .directory) (same : stays segment = true) :
    walk look left current (segment :: rest) = walk look left current rest := by
  rw [walk_cons, here]
  exact if_pos same

/-- Two dots go up one level. -/
theorem walk_cons_up {left : ℕ} {current : Location} (rest : List String)
    (here : look current = some .directory) :
    walk look left current (".." :: rest) = walk look left current.dropLast rest := by
  rw [walk_cons, here]
  rfl

/-- A name that is no link goes down one level. -/
theorem walk_cons_name {left : ℕ} {current : Location} {segment : String} (rest : List String)
    (here : look current = some .directory) (name : IsName segment)
    (plain : ∀ target, look (current ++ [segment]) ≠ some (.link target)) :
    walk look left current (segment :: rest) = walk look left (current ++ [segment]) rest := by
  rw [walk_cons, here]
  dsimp only
  rw [if_neg (by rw [name.1]; exact Bool.false_ne_true), if_neg name.2]
  split
  · rename_i target there
    exact absurd there (plain target)
  · rfl

/-- **A link is walked from where it stands**, or from the root. -/
theorem walk_cons_link {left : ℕ} {current : Location} {segment : String} {target : Target} (rest : List String)
    (here : look current = some .directory) (name : IsName segment)
    (there : look (current ++ [segment]) = some (.link target)) :
    walk look left current (segment :: rest) =
      follow look left (if target.absolute then [] else current) (target.segments ++ rest) := by
  rw [walk_cons, here]
  dsimp only
  rw [if_neg (by rw [name.1]; exact Bool.false_ne_true), if_neg name.2, there]

/-- A walk only goes on from a directory. -/
theorem directory_of_walk {left : ℕ} {current : Location} {segment : String} {rest : List String}
    {result : Location × ℕ} (ok : walk look left current (segment :: rest) = .ok result) :
    look current = some .directory := by
  rw [walk_cons] at ok
  cases here : look current with
  | none =>
      rw [here] at ok
      cases ok
  | some kind =>
      cases kind with
      | directory => rfl
      | file | link target =>
          rw [here] at ok
          cases ok

/-- **The induction on walks**: a walk ends, or takes a segment, or is led on by a link with fewer links
left. -/
theorem walk_induction (look : Location → Option Kind) {motive : ℕ → Location → List String → Prop}
    (nil : ∀ left current, motive left current [])
    (away : ∀ left current segment rest, look current ≠ some .directory → motive left current (segment :: rest))
    (stay : ∀ left current segment rest, look current = some .directory → stays segment = true →
      motive left current rest → motive left current (segment :: rest))
    (up : ∀ left current rest, look current = some .directory → motive left current.dropLast rest →
      motive left current (".." :: rest))
    (name : ∀ left current segment rest, look current = some .directory → IsName segment →
      (∀ target, look (current ++ [segment]) ≠ some (.link target)) → motive left (current ++ [segment]) rest →
      motive left current (segment :: rest))
    (link : ∀ left current segment rest target, look current = some .directory → IsName segment →
      look (current ++ [segment]) = some (.link target) →
      (∀ fewer < left, ∀ base path, motive fewer base path) → motive left current (segment :: rest))
    (left : ℕ) (current : Location) (path : List String) : motive left current path := by
  induction left using Nat.strongRecOn generalizing current path with
  | _ left fewer =>
      induction path generalizing current with
      | nil => exact nil left current
      | cons segment rest ih =>
          by_cases here : look current = some .directory
          · by_cases same : stays segment = true
            · exact stay left current segment rest here same (ih current)
            · by_cases parent : segment = ".."
              · rw [parent]
                exact up left current rest here (ih _)
              · have isName : IsName segment := ⟨by simpa using same, parent⟩
                by_cases linked : ∃ target, look (current ++ [segment]) = some (.link target)
                · obtain ⟨target, there⟩ := linked
                  exact link left current segment rest target here isName there fewer
                · exact name left current segment rest here isName (fun target there => linked ⟨target, there⟩)
                    (ih _)
          · exact away left current segment rest here

/-- **A walk along one path after another.** -/
theorem walk_append (left : ℕ) (current : Location) (path more : List String) :
    walk look left current (path ++ more) =
      (walk look left current path).bind fun result => walk look result.2 result.1 more := by
  refine walk_induction look (motive := fun left current path => walk look left current (path ++ more) =
      (walk look left current path).bind fun result => walk look result.2 result.1 more) ?_ ?_ ?_ ?_ ?_ ?_
    left current path
  · intro left current
    rw [walk_nil]
    rfl
  · intro left current segment rest away
    rw [List.cons_append, walk_cons, walk_cons]
    cases here : look current with
    | none => rfl
    | some kind =>
        cases kind with
        | directory => exact absurd here away
        | file | link target => rfl
  · intro left current segment rest here same ih
    rw [List.cons_append, walk_cons_stays _ here same, walk_cons_stays _ here same, ih]
  · intro left current rest here ih
    rw [List.cons_append, walk_cons_up _ here, walk_cons_up _ here, ih]
  · intro left current segment rest here name plain ih
    rw [List.cons_append, walk_cons_name _ here name plain, walk_cons_name _ here name plain, ih]
  · intro left current segment rest target here name there fewer
    rw [List.cons_append, walk_cons_link _ here name there, walk_cons_link _ here name there]
    cases left with
    | zero => rfl
    | succ left =>
        rw [← List.append_assoc]
        exact fewer left (Nat.lt_succ_self left) _ _

/-- A walk leaves no more links than it began with. -/
theorem left_of_walk {left : ℕ} {current : Location} {path : List String} {result : Location × ℕ}
    (ok : walk look left current path = .ok result) : result.2 ≤ left := by
  revert result
  refine walk_induction look (motive := fun left current path =>
      ∀ {result}, walk look left current path = .ok result → result.2 ≤ left) ?_ ?_ ?_ ?_ ?_ ?_ left current path
  · intro left current result ok
    rw [walk_nil] at ok
    cases ok
    exact Nat.le_refl _
  · intro left current segment rest away result ok
    exact absurd (directory_of_walk ok) away
  · intro left current segment rest here same ih result ok
    rw [walk_cons_stays _ here same] at ok
    exact ih ok
  · intro left current rest here ih result ok
    rw [walk_cons_up _ here] at ok
    exact ih ok
  · intro left current segment rest here name plain ih result ok
    rw [walk_cons_name _ here name plain] at ok
    exact ih ok
  · intro left current segment rest target here name there fewer result ok
    rw [walk_cons_link _ here name there] at ok
    cases left with
    | zero => cases ok
    | succ left => exact Nat.le_succ_of_le (fewer left (Nat.lt_succ_self left) _ _ ok)

/-! ## Segments that stay -/

/-- The segments of a path that are names or `..`. -/
def components (path : List String) : List String := path.filter fun segment => !stays segment

/-- A segment that stays is no component. -/
theorem components_cons_stays {segment : String} (path : List String) (same : stays segment = true) :
    components (segment :: path) = components path :=
  List.filter_cons_of_neg (by rw [same]; exact Bool.false_ne_true)

/-- A segment that moves is the first component. -/
theorem components_cons {segment : String} (path : List String) (moves : stays segment = false) :
    components (segment :: path) = segment :: components path :=
  List.filter_cons_of_pos (by rw [moves]; rfl)

/-- The components of a longer path are those of its parts. -/
theorem components_append (path more : List String) :
    components (path ++ more) = components path ++ components more := by
  exact List.filter_append ..

/-- **To a directory it makes no difference whether the segments that stay are walked.** -/
theorem walk_components {left : ℕ} {current : Location} {path : List String} {result : Location × ℕ}
    (directory : look result.1 = some .directory) :
    walk look left current path = .ok result ↔ walk look left current (components path) = .ok result := by
  refine walk_induction look (motive := fun left current path =>
      walk look left current path = .ok result ↔ walk look left current (components path) = .ok result)
    ?_ ?_ ?_ ?_ ?_ ?_ left current path
  · intro left current
    rfl
  · intro left current segment rest away
    refine iff_of_false (fun ok => away (directory_of_walk ok)) fun ok => away ?_
    cases moves : components (segment :: rest) with
    | nil =>
        rw [moves, walk_nil] at ok
        cases ok
        exact directory
    | cons first others =>
        rw [moves] at ok
        exact directory_of_walk ok
  · intro left current segment rest here same ih
    rw [walk_cons_stays _ here same, components_cons_stays _ same]
    exact ih
  · intro left current rest here ih
    rw [walk_cons_up _ here, components_cons _ rfl, walk_cons_up _ here]
    exact ih
  · intro left current segment rest here name plain ih
    rw [walk_cons_name _ here name plain, components_cons _ name.1, walk_cons_name _ here name plain]
    exact ih
  · intro left current segment rest target here name there fewer
    rw [walk_cons_link _ here name there, components_cons _ name.1, walk_cons_link _ here name there]
    cases left with
    | zero => rfl
    | succ left =>
        rw [follow, walk_append, walk_append]
        cases behind : walk look left (if target.absolute then [] else current) target.segments with
        | error e => rfl
        | ok between => exact fewer between.2 (Nat.lt_succ_of_le (left_of_walk behind)) between.1 rest

/-! ## Trees that grow -/

/-- Everything is still there, and no link is new. -/
structure Grown (look look' : Location → Option Kind) : Prop where
  kept : ∀ place kind, look place = some kind → look' place = some kind
  links : ∀ place target, look' place = some (.link target) → look place = some (.link target)

/-- A tree has grown out of itself. -/
theorem Grown.refl (look : Location → Option Kind) : Grown look look := ⟨fun _ _ here => here, fun _ _ here => here⟩

/-- What has grown twice has grown. -/
theorem Grown.trans {look'' : Location → Option Kind} (first : Grown look look') (second : Grown look' look'') :
    Grown look look'' :=
  ⟨fun place kind here => second.kept place kind (first.kept place kind here),
    fun place target here => first.links place target (second.links place target here)⟩

/-- **A walk leads to the same place when the tree has grown.** -/
theorem walk_grown (grown : Grown look look') {left : ℕ} {current : Location} {path : List String}
    {result : Location × ℕ} (ok : walk look left current path = .ok result) :
    walk look' left current path = .ok result := by
  revert ok
  refine walk_induction look (motive := fun left current path =>
      walk look left current path = .ok result → walk look' left current path = .ok result)
    ?_ ?_ ?_ ?_ ?_ ?_ left current path
  · intro left current ok
    rw [walk_nil] at ok ⊢
    exact ok
  · intro left current segment rest away ok
    exact absurd (directory_of_walk ok) away
  · intro left current segment rest here same ih ok
    rw [walk_cons_stays _ here same] at ok
    rw [walk_cons_stays _ (grown.kept _ _ here) same]
    exact ih ok
  · intro left current rest here ih ok
    rw [walk_cons_up _ here] at ok
    rw [walk_cons_up _ (grown.kept _ _ here)]
    exact ih ok
  · intro left current segment rest here name plain ih ok
    rw [walk_cons_name _ here name plain] at ok
    rw [walk_cons_name _ (grown.kept _ _ here) name fun target there => plain target (grown.links _ _ there)]
    exact ih ok
  · intro left current segment rest target here name there fewer ok
    rw [walk_cons_link _ here name there] at ok
    rw [walk_cons_link _ (grown.kept _ _ here) name (grown.kept _ _ there)]
    cases left with
    | zero => cases ok
    | succ left => exact fewer left (Nat.lt_succ_self left) _ _ ok

/-! ## The last segment -/

/-- **A path that ends with a name** leads into a directory, and there to the name unless that is a link. -/
theorem walk_concat_name {left : ℕ} {path : List String} {name : String} (isName : IsName name)
    {result : Location × ℕ} (ok : walk look left [] (path ++ [name]) = .ok result) :
    ∃ dir fewer, walk look left [] path = .ok (dir, fewer) ∧ look dir = some .directory ∧
      ((∀ target, look (dir ++ [name]) ≠ some (.link target)) → result.1 = dir ++ [name]) := by
  rw [walk_append] at ok
  cases front : walk look left [] path with
  | error e =>
      rw [front] at ok
      cases ok
  | ok between =>
      rw [front] at ok
      have here : look between.1 = some .directory := directory_of_walk ok
      refine ⟨between.1, between.2, rfl, here, fun plain => ?_⟩
      have last : walk look between.2 between.1 [name] = .ok result := ok
      rw [walk_cons_name [] here isName plain, walk_nil] at last
      cases last
      rfl

/-- A path that ends with a segment that stays leads to a directory. -/
theorem walk_concat_stays {left : ℕ} {path : List String} {segment : String} (same : stays segment = true)
    {result : Location × ℕ} (ok : walk look left [] (path ++ [segment]) = .ok result) :
    look result.1 = some .directory := by
  rw [walk_append] at ok
  cases front : walk look left [] path with
  | error e =>
      rw [front] at ok
      cases ok
  | ok between =>
      rw [front] at ok
      have here : look between.1 = some .directory := directory_of_walk ok
      have last : walk look between.2 between.1 [segment] = .ok result := ok
      rw [walk_cons_stays [] here same, walk_nil] at last
      cases last
      exact here

/-! ## Where a walk ends -/

/-- There is a root, and everything else is in a directory. -/
structure Rooted (look : Location → Option Kind) : Prop where
  root : look [] = some .directory
  closed : ∀ place name, look (place ++ [name]) ≠ none → look place = some .directory

/-- Something is at the place, or could be created there. -/
def Landed (look : Location → Option Kind) (place : Location) : Prop :=
  look place ≠ none ∨ ∃ dir name, place = dir ++ [name] ∧ look dir = some .directory

/-- **A walk ends where something is or could be created.** -/
theorem landed_of_walk (rooted : Rooted look) {left : ℕ} {current : Location} {path : List String}
    {result : Location × ℕ} (landed : Landed look current) (ok : walk look left current path = .ok result) :
    Landed look result.1 := by
  have there {place : Location} (here : look place = some .directory) : Landed look place := by
    left
    rw [here]
    rintro ⟨⟩
  revert landed ok
  refine walk_induction look (motive := fun left current path => Landed look current →
      walk look left current path = .ok result → Landed look result.1) ?_ ?_ ?_ ?_ ?_ ?_ left current path
  · intro left current landed ok
    rw [walk_nil] at ok
    cases ok
    exact landed
  · intro left current segment rest away _ ok
    exact absurd (directory_of_walk ok) away
  · intro left current segment rest here same ih landed ok
    rw [walk_cons_stays _ here same] at ok
    exact ih landed ok
  · intro left current rest here ih _ ok
    rw [walk_cons_up _ here] at ok
    refine ih ?_ ok
    rcases List.eq_nil_or_concat current with empty | ⟨front, last, concat⟩
    · rw [empty]
      exact there rooted.root
    · rw [concat, List.concat_eq_append] at here
      rw [concat, List.concat_eq_append, List.dropLast_concat]
      exact there (rooted.closed front last (by rw [here]; rintro ⟨⟩))
  · intro left current segment rest here name plain ih _ ok
    rw [walk_cons_name _ here name plain] at ok
    exact ih (.inr ⟨current, segment, rfl, here⟩) ok
  · intro left current segment rest target here name link fewer _ ok
    rw [walk_cons_link _ here name link] at ok
    cases left with
    | zero => cases ok
    | succ left =>
        refine fewer left (Nat.lt_succ_self left) _ _ ?_ ok
        split
        · exact there rooted.root
        · exact there here

end Posix
