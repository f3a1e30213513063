import Feros.Agent.Tools
import Feros.Library.Run
/-! # Artifacts

An artifact that is read goes through the same classification as the output of a script: a JSON object with
an `error` becomes a failure, and one with a `result`, `data` or `message` is unwrapped.

`artifact_read_iff` says which contents come back as they were saved. -/

namespace Feros

open Run

/-! ## Saves -/

/-- A tool call, and whether its task ran into the time limit. -/
structure TaskCall where
  name : String
  arguments : String
  timedOut : Bool

namespace TaskCall

variable (library : ToolLibrary) (engine : Option ScriptEngine)

/-- What comes of the call, behind the artifact interceptor. -/
def execute (store : ArtifactStore) (call : TaskCall) : ToolExecution ArtifactStore :=
  spawnToolTask library engine (some (artifactInterceptor library)) call.name call.arguments call.timedOut store

/-- The store after the call. -/
def step (store : ArtifactStore) (call : TaskCall) : ArtifactStore := (call.execute library engine store).state

/-- **A save that is accepted**: the name and the content. -/
def accepted (call : TaskCall) : Option (String × String) :=
  if call.name = saveArtifactTool then
    match library.parse call.arguments with
    | .error _ => none
    | .ok v =>
      match ArtifactStore.nameArgument v, ArtifactStore.argument "content" v with
      | some name, some content => if content.utf8ByteSize ≤ maxArtifactBytes then some (name, content) else none
      | _, _ => none
  else none

/-- **The content that was saved last** under a name. -/
def lastSaved (name : String) (calls : List TaskCall) : Option String :=
  (calls.reverse.filterMap (accepted library)).lookup name

end TaskCall

/-! ## What a content is taken for -/

/-- **The text is delivered as it is**: it is no JSON object, or one that has no `error` but `null` or `false`,
and none of the members that are unwrapped. -/
def IsPlain (library : ToolLibrary) (content : String) : Prop :=
  ∀ members, library.parse (trim content) = .ok (.obj members) →
    (∀ err, (Json.obj members).get "error" = some err → err.isError = false) ∧
      ∀ key ∈ ["result", "data", "message"], (Json.obj members).get key = none

mutual

/-- The values that a value is made of, itself included. -/
def Json.values : Json → ℕ
  | .null | .bool _ | .num _ | .str _ => 1
  | .arr items => 1 + valuesOfItems items
  | .obj members => 1 + valuesOfMembers members

def Json.valuesOfItems : List Json → ℕ
  | [] => 0
  | v :: items => v.values + valuesOfItems items

def Json.valuesOfMembers : List (String × Json) → ℕ
  | [] => 0
  | (_, v) :: members => v.values + valuesOfMembers members

end

/-- **How JSON is read and rendered**: a member of a text is shorter, if it is a string, and what a member is
rendered as is made of as many values as it was, though a number may come back with another text. -/
structure ReadsJson (library : ToolLibrary) : Prop where
  shorter : ∀ {text : String} {v : Json}, library.parse text = .ok v → ∀ {key s : String}, v.get key = some (.str s) →
    s.length < text.length
  sameSize : ∀ {text : String} {v : Json}, library.parse text = .ok v → ∀ {key : String} {w : Json}, v.get key = some w →
    ∀ {again : Json}, library.parse (trim (library.render w)) = .ok again → again.values = w.values

/-! ## The store -/

namespace ArtifactStore

/-- **A lookup after an insertion.** -/
theorem lookup_insert (name content key : String) (store : ArtifactStore) :
    (store.insert name content).lookup key = if key = name then some content else store.lookup key := by
  unfold insert
  by_cases here : key = name
  · rw [if_pos here, here, List.lookup_cons_self]
  · have other : (key == name) = false := beq_false_of_ne here
    rw [if_neg here, List.lookup_cons, other]
    dsimp only
    induction store with
    | nil => rfl
    | cons entry store ih =>
        obtain ⟨k, c⟩ := entry
        by_cases same : k = name
        · have next : (key == k) = false := beq_false_of_ne (same ▸ here)
          rw [List.filter_cons_of_neg (by simpa using same), ih, List.lookup_cons, next]
        · rw [List.filter_cons_of_pos (by simpa using same), List.lookup_cons, List.lookup_cons, ih]

end ArtifactStore

namespace TaskCall

variable {library : ToolLibrary} {engine : Option ScriptEngine}

/-- The state of the interceptor is what it leaves before the tool is run. -/
theorem spawnToolTask_state {σ : Type} (interceptor : Option (ToolInterceptor σ)) (name args : String)
    (timedOut : Bool) (state : σ) : (spawnToolTask library engine interceptor name args timedOut state).state =
      (toolRoute engine interceptor name args state).2 := by
  unfold spawnToolTask
  rcases toolRoute engine interceptor name args state with ⟨canned | known | -, after⟩
  · rfl
  · rfl
  · rfl

/-- A call that goes through the hook leaves the state the hook leaves. -/
theorem toolRoute_state {σ : Type} (hook : ToolInterceptor σ) (name args : String) (state : σ) :
    (toolRoute engine (some hook) name args state).2 = (hook.beforeToolCall name args state).2 := by
  unfold toolRoute
  dsimp only
  split
  · rfl
  · split
    · rfl
    · rfl

/-- A save that is accepted enters the store, and no other call changes it. -/
theorem step_eq (store : ArtifactStore) (call : TaskCall) : call.step library engine store =
    match call.accepted library with
    | some (name, content) => store.insert name content
    | none => store := by
  unfold step execute
  rw [spawnToolTask_state, toolRoute_state]
  unfold artifactInterceptor accepted
  dsimp only
  by_cases saves : call.name = saveArtifactTool
  · rw [if_pos saves, if_pos saves]
    unfold ArtifactStore.handleSave
    cases library.parse call.arguments with
    | error e => rfl
    | ok v =>
        dsimp only
        cases ArtifactStore.nameArgument v with
        | none => rfl
        | some name =>
            cases ArtifactStore.argument "content" v with
            | none => rfl
            | some content =>
                dsimp only
                by_cases fits : content.utf8ByteSize ≤ maxArtifactBytes
                · rw [if_neg (not_lt.2 fits), if_pos fits]
                · rw [if_pos (not_le.1 fits), if_neg fits]
  · rw [if_neg saves, if_neg saves]
    split
    · rfl
    · split
      · rfl
      · rfl

/-- The last call that saved is the newest one that was accepted. -/
theorem lastSaved_concat (name : String) (calls : List TaskCall) (call : TaskCall) :
    lastSaved library name (calls ++ [call]) =
      match call.accepted library with
      | some (saved, content) => if name = saved then some content else lastSaved library name calls
      | none => lastSaved library name calls := by
  unfold lastSaved
  rw [List.reverse_append, List.reverse_singleton, List.singleton_append, List.filterMap_cons]
  cases call.accepted library with
  | none => rfl
  | some entry =>
      obtain ⟨saved, content⟩ := entry
      dsimp only
      rw [List.lookup_cons]
      by_cases same : name = saved
      · rw [if_pos same, same, beq_self_eq_true]
      · rw [if_neg same, beq_false_of_ne same]

/-- **The store holds what was saved last.** -/
theorem lookup_run (calls : List TaskCall) (name : String) :
    (run (fun store call => TaskCall.step library engine store call) ([] : ArtifactStore) calls).lookup name =
      lastSaved library name calls := by
  induction calls using List.reverseRecOn with
  | nil => rfl
  | append_singleton calls call ih =>
      rw [run_append, run_cons, run_nil, step_eq, lastSaved_concat]
      cases call.accepted library with
      | none => exact ih
      | some entry =>
          obtain ⟨saved, content⟩ := entry
          dsimp only
          rw [ArtifactStore.lookup_insert, ih]

end TaskCall

/-! ## What comes back -/

section Delivered

variable {library : ToolLibrary}

/-- A trimmed text is no longer than the text. -/
theorem length_trim_le (text : String) : (trim text).length ≤ text.length := by
  unfold trim
  rw [String.length_ofList, ← String.length_toList]
  exact ((List.rdropWhile_prefix _ _).length_le).trans (List.dropWhile_suffix _).length_le

/-- The values of a member are among those of the object. -/
theorem Json.values_le_of_mem {members : List (String × Json)} {key : String} {v : Json} (member : (key, v) ∈ members) :
    v.values ≤ valuesOfMembers members := by
  induction members with
  | nil => cases member
  | cons first members ih =>
      obtain ⟨other, w⟩ := first
      rw [valuesOfMembers]
      rcases List.mem_cons.1 member with same | later
      · cases same
        exact Nat.le_add_right _ _
      · exact (ih later).trans (Nat.le_add_left _ _)

/-- The value of a member is part of the object. -/
theorem Json.values_lt_of_get {v w : Json} {key : String} (member : v.get key = some w) : w.values < v.values := by
  unfold Json.get at member
  split at member
  · rename_i members
    obtain ⟨front, back, split, -⟩ := List.lookup_eq_some_iff.1 member
    have held : (key, w) ∈ members := by
      rw [split]
      exact List.mem_append_right front List.mem_cons_self
    have part := values_le_of_mem held
    rw [values]
    omega
  · cases member

/-- What a member is unwrapped to. -/
def memberText (library : ToolLibrary) : Json → String
  | .str s => s
  | v => library.render v

/-- The text of a member is not the text of the object. -/
theorem member_ne (json : ReadsJson library) {content : String} {v w : Json} {key : String}
    (read : library.parse (trim content) = .ok v) (member : v.get key = some w) :
    memberText library w ≠ content := by
  intro same
  have rendered : library.render w ≠ content := by
    intro same
    have size := json.sameSize read member (by rw [same, read])
    have part := Json.values_lt_of_get member
    omega
  cases w with
  | str s =>
      have shorter := json.shorter read member
      have trimmed := length_trim_le content
      rw [show s = content from same] at shorter
      omega
  | null | bool b | num t | arr items | obj members => exact rendered same

/-- **What is classified as it was**: plain contents. -/
theorem classified_iff (json : ReadsJson library) (content : String) :
    ToolOutcome.classifyScriptResult library content = ⟨true, content⟩ ↔ IsPlain library content := by
  unfold ToolOutcome.classifyScriptResult IsPlain
  dsimp only
  cases read : library.parse (trim content) with
  | error e => exact iff_of_true rfl nofun
  | ok v =>
      cases v with
      | obj members =>
          dsimp only
          constructor
          · intro plain members' same
            cases same
            cases error : ((Json.obj members).get "error").filter Json.isError with
            | some err =>
                rw [error] at plain
                exact absurd (congrArg ToolOutcome.success plain) Bool.false_ne_true
            | none =>
                rw [error] at plain
                cases unwrapped : (((Json.obj members).get "result").or ((Json.obj members).get "data")).or
                    ((Json.obj members).get "message") with
                | some val =>
                    rw [unwrapped] at plain
                    obtain ⟨key, member⟩ : ∃ key, (Json.obj members).get key = some val := by
                      rcases Option.or_eq_some_iff.1 unwrapped with first | ⟨-, third⟩
                      · rcases Option.or_eq_some_iff.1 first with first | ⟨-, second⟩
                        · exact ⟨"result", first⟩
                        · exact ⟨"data", second⟩
                      · exact ⟨"message", third⟩
                    exact absurd (congrArg ToolOutcome.result plain) (member_ne json read member)
                | none =>
                    obtain ⟨front, message⟩ := Option.or_eq_none_iff.1 unwrapped
                    obtain ⟨result, data⟩ := Option.or_eq_none_iff.1 front
                    refine ⟨fun err known => ?_, fun key asked => ?_⟩
                    · rw [known] at error
                      exact eq_false_of_ne_true (Option.filter_eq_none_iff.1 error err rfl)
                    · simp only [List.mem_cons, List.not_mem_nil, or_false] at asked
                      rcases asked with rfl | rfl | rfl
                      · exact result
                      · exact data
                      · exact message
          · intro plain
            obtain ⟨errors, unwraps⟩ := plain members rfl
            have error : ((Json.obj members).get "error").filter Json.isError = none := by
              refine Option.filter_eq_none_iff.2 fun err known => ?_
              rw [errors err known]
              exact Bool.false_ne_true
            rw [error, unwraps "result" (by decide), unwraps "data" (by decide), unwraps "message" (by decide)]
            rfl
      | null | bool b | num t | str t | arr items => exact iff_of_true rfl nofun

/-- **Artifacts that come back.**  After any calls of tools, an artifact that was saved is read, byte for byte and
as a success, exactly if its content is plain; and if the task does not run into the time limit. -/
theorem artifact_read_iff (json : ReadsJson library) (engine : Option ScriptEngine) (calls : List TaskCall)
    {call : TaskCall} {v : Json} {name content : String} (reads : call.name = readArtifactTool)
    (parsed : library.parse call.arguments = .ok v) (named : ArtifactStore.nameArgument v = some name)
    (saved : TaskCall.lastSaved library name calls = some content) :
    (call.execute library engine
      (run (fun store call => TaskCall.step library engine store call) [] calls)).outcome = ⟨true, content⟩ ↔
      call.timedOut = false ∧ IsPlain library content := by
  have held : (run (fun store call => TaskCall.step library engine store call) [] calls).lookup name = some content :=
    (TaskCall.lookup_run calls name).trans saved
  generalize run (fun store call => TaskCall.step library engine store call) [] calls = store at held ⊢
  have stubbed : toolRoute engine (some (artifactInterceptor library)) call.name call.arguments store =
      (.stub content, store) := by
    have read : store.handleRead library call.arguments = content := by
      unfold ArtifactStore.handleRead
      rw [parsed]
      dsimp only
      rw [named]
      dsimp only
      rw [held]
    unfold toolRoute artifactInterceptor
    rw [reads]
    dsimp only
    rw [if_neg (by decide), if_pos rfl, read]
  unfold TaskCall.execute spawnToolTask
  rw [stubbed]
  dsimp only
  cases call.timedOut with
  | true => exact iff_of_false nofun nofun
  | false => exact (classified_iff json content).trans (and_iff_right rfl).symm

end Delivered

/-! ## A note, and a JSON object -/

namespace Notes

/-- Arguments that save a note, arguments that save JSON, and arguments that read what was saved. -/
def saveNote : String := "\x7b\"name\":\"caller.md\",\"content\":\"Name: Alice\"\x7d"

def saveJson : String := "\x7b\"name\":\"caller.md\",\"content\":\"\x7b\\\"result\\\": 42\x7d\"\x7d"

def readNote : String := "\x7b\"name\":\"caller.md\"\x7d"

/-- The JSON that is saved. -/
def fortyTwo : String := "\x7b\"result\": 42\x7d"

/-- Some texts, and the values they are. -/
def texts : List (String × Json) :=
  [(saveNote, .obj [("name", .str "caller.md"), ("content", .str "Name: Alice")]),
    (saveJson, .obj [("name", .str "caller.md"), ("content", .str fortyTwo)]),
    (readNote, .obj [("name", .str "caller.md")]), (fortyTwo, .obj [("result", .num "42")]), ("42", .num "42")]

/-- A library that knows these texts. -/
def library : ToolLibrary where
  parse text := match texts.lookup text with
    | some v => .ok v
    | none => .error "expected value"
  render
    | .num text => text
    | _ => ""
  eval _ _ := .ok ""

/-- A text that parses is one of the notes. -/
theorem parse_cases {text : String} {v : Json} (parsed : library.parse text = .ok v) : (text, v) ∈ texts := by
  unfold library at parsed
  dsimp only at parsed
  split at parsed
  · rename_i w found
    cases parsed
    obtain ⟨front, back, split, -⟩ := List.lookup_eq_some_iff.1 found
    rw [split]
    exact List.mem_append_right front List.mem_cons_self
  · cases parsed

/-- A member that is found is there. -/
theorem get_cases {members : List (String × Json)} {key : String} {w : Json}
    (member : (Json.obj members).get key = some w) : (key, w) ∈ members := by
  obtain ⟨front, back, split, -⟩ := List.lookup_eq_some_iff.1 member
  rw [split]
  exact List.mem_append_right front List.mem_cons_self

/-- A member of one of these texts is a string that is shorter, or 42. -/
theorem member_cases {text : String} {v w : Json} {key : String} (parsed : library.parse text = .ok v)
    (member : v.get key = some w) : (∃ s, w = .str s ∧ s.length < text.length) ∨ w = .num "42" := by
  have known := parse_cases parsed
  simp only [texts, List.mem_cons, Prod.mk.injEq, List.not_mem_nil, or_false] at known
  rcases known with ⟨rfl, rfl⟩ | ⟨rfl, rfl⟩ | ⟨rfl, rfl⟩ | ⟨rfl, rfl⟩ | ⟨rfl, rfl⟩
  · rcases List.mem_cons.1 (get_cases member) with is | second
    · cases is
      exact .inl ⟨_, rfl, by decide +kernel⟩
    · cases List.mem_singleton.1 second
      exact .inl ⟨_, rfl, by decide +kernel⟩
  · rcases List.mem_cons.1 (get_cases member) with is | second
    · cases is
      exact .inl ⟨_, rfl, by decide +kernel⟩
    · cases List.mem_singleton.1 second
      exact .inl ⟨_, rfl, by decide +kernel⟩
  · cases List.mem_singleton.1 (get_cases member)
    exact .inl ⟨_, rfl, by decide +kernel⟩
  · cases List.mem_singleton.1 (get_cases member)
    exact .inr rfl
  · cases member

/-- A note parses. -/
theorem parse_eq {text : String} {v : Json} (found : texts.lookup text = some v) : library.parse text = .ok v := by
  unfold library
  dsimp only
  rw [found]

/-- The notes are a library that reads JSON. -/
theorem readsJson : ReadsJson library where
  shorter parsed key s member := by
    rcases member_cases parsed member with ⟨t, is, shorter⟩ | number
    · cases is
      exact shorter
    · cases number
  sameSize parsed key w member again rendered := by
    rcases member_cases parsed member with ⟨t, is, -⟩ | number
    · -- What a string is rendered as is none of the texts.
      rw [is] at rendered
      have known := parse_cases rendered
      have unknown : trim (library.render (.str t)) ∉ texts.map Prod.fst := by
        rw [show library.render (.str t) = "" from rfl]
        decide +kernel
      exact absurd (List.mem_map_of_mem known) unknown
    · have read : library.parse (trim (library.render (.num "42"))) = .ok (.num "42") := by
        rw [show trim (library.render (.num "42")) = "42" by decide +kernel]
        exact parse_eq rfl
      rw [number, read] at rendered
      cases rendered
      rw [number]

/-- A call of a tool, in time. -/
def quickly (name arguments : String) : TaskCall := ⟨name, arguments, false⟩

/-- A note comes back as it was saved. -/
theorem artifact_read_note :
    ((quickly readArtifactTool readNote).execute library none
      (run (fun store call => TaskCall.step library none store call) []
        [quickly saveArtifactTool saveJson, quickly saveArtifactTool saveNote])).outcome = ⟨true, "Name: Alice"⟩ := by
  have named : ArtifactStore.nameArgument (.obj [("name", .str "caller.md")]) = some "caller.md" := by decide +kernel
  have saved : TaskCall.lastSaved library "caller.md" [quickly saveArtifactTool saveJson,
      quickly saveArtifactTool saveNote] = some "Name: Alice" := by decide +kernel
  refine (artifact_read_iff readsJson none _ rfl (parse_eq rfl) named saved).2 ⟨rfl, ?_⟩
  intro members parsed
  have known := parse_cases parsed
  have unknown : trim "Name: Alice" ∉ texts.map Prod.fst := by decide +kernel
  exact absurd (List.mem_map_of_mem known) unknown

/-- **An artifact that comes back changed**: a JSON object is unwrapped. -/
theorem artifact_unwrapped :
    TaskCall.lastSaved library "caller.md" [quickly saveArtifactTool saveJson] = some fortyTwo ∧
      fortyTwo.utf8ByteSize ≤ maxArtifactBytes ∧
      ((quickly readArtifactTool readNote).execute library none
        (run (fun store call => TaskCall.step library none store call) []
          [quickly saveArtifactTool saveJson])).outcome = ⟨true, "42"⟩ ∧ fortyTwo ≠ "42" := by
  decide +kernel

end Notes

end Feros
