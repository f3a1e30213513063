import Feros.Builder.FileStore
import Feros.Library.Run
/-! # The file store answers from what was added last

A ledger notes what was added last under each pair of ids, and whether an add of a text failed since.  What
the store has on disk and in its cache follows the ledger, and so do its answers, as long as nothing is
loaded from disk that is not what was added. -/

namespace Feros

open PyStr
open FileStore (evictAgent)

/-! ## Calls -/

/-- **A call on the store**, at a time. -/
inductive FileOp where
  | addTextFile (now : ℚ) (agentId fileId filename text : PyStr)
  | addBinaryFile (now : ℚ) (agentId fileId filename : PyStr) (data : List UInt8) (mimeType : Option PyStr)
  | removeFile (agentId fileId : PyStr)
  | removeAgentFiles (agentId : PyStr)
  | evictExpired (now : ℚ)
  /-- The process is restarted. -/
  | restart
  | readText (now : ℚ) (agentId fileId : PyStr) (maxLines : ℤ)
  | readTextRange (now : ℚ) (agentId fileId : PyStr) (startLine endLine : ℤ)
  | searchText (now : ℚ) (agentId fileId query : PyStr) (caseInsensitive : Bool) (maxHits contextLines : ℤ)
  | readRaw (now : ℚ) (agentId fileId : PyStr)
  | getFileType (now : ℚ) (agentId fileId : PyStr)

/-- What a call answers. -/
inductive FileAnswer where
  | read (result : Option ReadResult)
  | found (result : Option SearchResult)
  | raw (result : Option RawReadResult)
  | fileType (result : Option FileType)
  /-- The call reads nothing. -/
  | done
  deriving DecidableEq

namespace FileOp

/-- What a call reads: when, and under which ids. -/
def target : FileOp → Option (ℚ × PyStr × PyStr)
  | readText now agentId fileId _ => some (now, agentId, fileId)
  | readTextRange now agentId fileId _ _ => some (now, agentId, fileId)
  | searchText now agentId fileId _ _ _ _ => some (now, agentId, fileId)
  | readRaw now agentId fileId => some (now, agentId, fileId)
  | getFileType now agentId fileId => some (now, agentId, fileId)
  | _ => none

/-- The call looks for a file without a check of the ids. -/
def unchecked : FileOp → Bool
  | getFileType _ _ _ => true
  | _ => false

/-- What a call answers from an entry. -/
def answerFrom (ignoreCase : CodePoint → CodePoint → Bool) (entry : Option CacheEntry) : FileOp → FileAnswer
  | readText _ _ fileId maxLines =>
    .read (entry.bind fun entry => entry.text?.map fun text => text.readFirst fileId maxLines)
  | readTextRange _ _ fileId startLine endLine =>
    .read (entry.bind fun entry => entry.text?.map fun text => text.readRange fileId startLine endLine)
  | searchText _ _ fileId query caseInsensitive maxHits contextLines =>
    .found (entry.bind fun entry => entry.text?.map fun text =>
      text.search (if caseInsensitive then ignoreCase else (· == ·)) fileId query maxHits contextLines)
  | readRaw _ _ fileId => .raw (entry.bind fun entry => entry.binary?.map fun binary => binary.raw fileId)
  | getFileType _ _ _ => .fileType (entry.map CacheEntry.fileType)
  | _ => .done

end FileOp

section Calls

variable (elsewhere : Disk → PyStr → PyStr → FileDir) (ignoreCase : CodePoint → CodePoint → Bool)

/-- **A call**: the store after it, and what it returns or raises. -/
def FileStore.call (s : FileStore) : FileOp → FileStore × Except FileError FileAnswer
  | .addTextFile now agentId fileId filename text =>
    let (s, result) := s.addTextFile now agentId fileId filename text
    (s, result.map fun _ => .done)
  | .addBinaryFile now agentId fileId filename data mimeType =>
    let (s, result) := s.addBinaryFile now agentId fileId filename data mimeType
    (s, result.map fun _ => .done)
  | .removeFile agentId fileId => ((s.removeFile agentId fileId).1, .ok .done)
  | .removeAgentFiles agentId => ((s.removeAgentFiles agentId).1, .ok .done)
  | .evictExpired now => (s.evictExpired now, .ok .done)
  | .restart => (s.restart, .ok .done)
  | .readText now agentId fileId maxLines =>
    let (s, result) := s.readText elsewhere now agentId fileId maxLines
    (s, .ok (.read result))
  | .readTextRange now agentId fileId startLine endLine =>
    let (s, result) := s.readTextRange elsewhere now agentId fileId startLine endLine
    (s, .ok (.read result))
  | .searchText now agentId fileId query caseInsensitive maxHits contextLines =>
    let (s, result) :=
      s.searchText elsewhere ignoreCase now agentId fileId query caseInsensitive maxHits contextLines
    (s, .ok (.found result))
  | .readRaw now agentId fileId =>
    let (s, result) := s.readRaw elsewhere now agentId fileId
    (s, .ok (.raw result))
  | .getFileType now agentId fileId =>
    let (s, result) := s.getFileType elsewhere now agentId fileId
    (s, .ok (.fileType result))

end Calls

/-! ## The ledger -/

/-- **What was added.** -/
inductive Content where
  | text (filename body : PyStr)
  | binary (filename : PyStr) (data : List UInt8) (mimeType : PyStr)

namespace Content

/-- The entry of what was added. -/
def entry (fileId : PyStr) (now : ℚ) : Content → CacheEntry
  | text filename body => .text { fileId, filename, lines := splitLines body, lastAccessed := now }
  | binary filename data mimeType => .binary { fileId, filename, data, mimeType, lastAccessed := now }

/-- The metadata of what was added. -/
def fileMeta (fileId : PyStr) : Content → FileMeta
  | text filename body =>
    { fileId, filename, fileType := .text, totalLines := (splitLines body).length
      mimeType := detectMimeType filename .text }
  | binary filename _ mimeType => { fileId, filename, fileType := .image, totalLines := 0, mimeType }

/-- **What was added can be loaded again**: JSON keeps its name and its type, and no add of a text has failed
since, or the text has no lines. -/
def Survives (failed : Bool) : Content → Prop
  | text filename body => rejoin filename = filename ∧ (failed = true → splitLines body = [])
  | binary filename _ mimeType => rejoin filename = filename ∧ rejoin mimeType = mimeType

/-- What was added is in its directory; a text is gone if an add failed since. -/
structure StoredIn (content : Content) (failed : Bool) (fileId : PyStr) (dir : FileDir) : Prop where
  metaJson : dir.metaJson = some (content.fileMeta fileId)
  contentTxt : ∀ filename body, content = .text filename body →
    ∃ written, encode body = some written ∧ dir.contentTxt = some (if failed then "" else written)
  contentBin : ∀ filename data mimeType, content = .binary filename data mimeType → dir.contentBin = some data

/-- An entry that is looked at is one of now. -/
theorem touch_entry (content : Content) (fileId : PyStr) (before now : ℚ) :
    (content.entry fileId before).touch now = content.entry fileId now := by
  cases content with
  | text filename body => rfl
  | binary filename data mimeType => rfl

/-- **What survives is loaded as it was added.** -/
theorem StoredIn.load {content : Content} {failed : Bool} {fileId : PyStr} {dir : FileDir}
    (stored : content.StoredIn failed fileId dir) (survives : content.Survives failed) (now : ℚ) :
    dir.load fileId now = some (content.entry fileId now) := by
  unfold FileDir.load
  rw [stored.metaJson]
  cases content with
  | text filename body =>
      obtain ⟨name, empty⟩ := survives
      obtain ⟨written, encoded, held⟩ := stored.contentTxt filename body rfl
      have lines : splitLines (universalNewlines (ofString (if failed then "" else written))) = splitLines body := by
        rw [splitLines_universalNewlines]
        cases failed with
        | false =>
            rw [if_neg Bool.false_ne_true, ofString_of_encode encoded]
        | true =>
            rw [if_pos rfl, empty rfl]
            rfl
      dsimp only [Option.map_some, FileMeta.reread, fileMeta]
      rw [held, name, Option.map_some, lines]
      rfl
  | binary filename data mimeType =>
      obtain ⟨name, mime⟩ := survives
      dsimp only [Option.map_some, FileMeta.reread, fileMeta]
      rw [stored.contentBin filename data mimeType rfl, name, mime]
      rfl

end Content

/-- **The ledger**: what was added last under two ids and not removed since, and whether an add of a text
under them failed since. -/
structure Ledger where
  content : PyStr → PyStr → Option Content
  failed : PyStr → PyStr → Bool

namespace Ledger

/-- Nothing has been added. -/
def empty : Ledger := { content := fun _ _ => none, failed := fun _ _ => false }

/-- A file is added. -/
def add (m : Ledger) (agentId fileId : PyStr) (content : Content) : Ledger :=
  { content := fun a f => if agentId = a ∧ fileId = f then some content else m.content a f
    failed := fun a f => if agentId = a ∧ fileId = f then false else m.failed a f }

/-- An add of a text fails. -/
def fail (m : Ledger) (agentId fileId : PyStr) : Ledger :=
  { m with failed := fun a f => if agentId = a ∧ fileId = f then true else m.failed a f }

/-- A file is removed. -/
def remove (m : Ledger) (agentId fileId : PyStr) : Ledger :=
  { m with content := fun a f => if agentId = a ∧ fileId = f then none else m.content a f }

/-- The files of an agent are removed. -/
def removeAgent (m : Ledger) (agentId : PyStr) : Ledger :=
  { m with content := fun a f => if agentId = a then none else m.content a f }

/-- The ledger after a call that has returned, or raised. -/
def see (m : Ledger) (op : FileOp) (raised : Bool) : Ledger :=
  match op with
  | .addTextFile _ agentId fileId filename text =>
    if raised then m.fail agentId fileId else m.add agentId fileId (.text filename text)
  | .addBinaryFile _ agentId fileId filename data mimeType =>
    if raised then m else m.add agentId fileId (.binary filename data (FileStore.resolveMime mimeType filename))
  | .removeFile agentId fileId => m.remove agentId fileId
  | .removeAgentFiles agentId => m.removeAgent agentId
  | _ => m

/-- **What the ledger answers.** -/
def answer (ignoreCase : CodePoint → CodePoint → Bool) (m : Ledger) (op : FileOp) : FileAnswer :=
  op.answerFrom ignoreCase (op.target.bind fun (now, agentId, fileId) =>
    (m.content agentId fileId).map fun content => content.entry fileId now)

end Ledger

/-! ## Runs -/

section Runs

variable (elsewhere : Disk → PyStr → PyStr → FileDir) (ignoreCase : CodePoint → CodePoint → Bool)

/-- The store and the ledger after a call. -/
def filed (state : FileStore × Ledger) (op : FileOp) : FileStore × Ledger :=
  let (s, result) := state.1.call elsewhere ignoreCase op
  (s, state.2.see op result.toOption.isNone)

/-- **The store answers as the ledger does.** -/
def AnswersFromLast (state : FileStore × Ledger) (op : FileOp) : Prop :=
  op.target.isSome → (state.1.call elsewhere ignoreCase op).2 = .ok (state.2.answer ignoreCase op)

/-- **The call loads nothing else than what was added**: under safe ids what is not in the cache survives, and
unsafe ids lead to no file. -/
def LoadsIntact (state : FileStore × Ledger) (op : FileOp) : Prop :=
  ∀ now agentId fileId, op.target = some (now, agentId, fileId) →
    if safeIds agentId fileId then
      Dict.find state.1.cache agentId fileId = none →
        ∀ content ∈ state.2.content agentId fileId, content.Survives (state.2.failed agentId fileId)
    else op.unchecked = true → (elsewhere state.1.disk agentId fileId).load fileId now = none

/-- What is kept under two ids. -/
structure KeptAt (agentId fileId : PyStr) (cached : Option CacheEntry) (dir : FileDir) (content : Option Content)
    (failed : Bool) : Prop where
  safe : safeIds agentId fileId = false → cached = none ∧ content = none
  cached : ∀ entry ∈ cached, ∃ c ∈ content, entry = c.entry fileId entry.lastAccessed
  stored : ∀ c ∈ content, c.StoredIn failed fileId dir
  absent : content = none → dir.metaJson = none

/-- **The store follows the ledger.** -/
def Kept (state : FileStore × Ledger) : Prop :=
  ∀ agentId fileId, KeptAt agentId fileId (Dict.find state.1.cache agentId fileId)
    ((Dict.find state.1.disk agentId fileId).getD {}) (state.2.content agentId fileId)
    (state.2.failed agentId fileId)

end Runs

/-! ## What the operations write -/

section Operations

variable {s : FileStore} {m : Ledger} {agentId fileId : PyStr}

/-- What is cached when an entry was put. -/
theorem find_cacheEntry (entry : CacheEntry) (a f : PyStr) :
    Dict.find (s.cacheEntry agentId fileId entry).cache a f =
      if agentId = a ∧ fileId = f then some entry else Dict.find s.cache a f :=
  Dict.find_put _ _ _ _ _ _

/-- What is on the disk when a directory was written. -/
theorem dir_writeDir (write : FileDir → FileDir) (a f : PyStr) :
    (Dict.find (s.writeDir agentId fileId write).disk a f).getD {} =
      if agentId = a ∧ fileId = f then write ((Dict.find s.disk agentId fileId).getD {})
      else (Dict.find s.disk a f).getD {} := by
  unfold FileStore.writeDir
  dsimp only
  rw [Dict.find_put]
  split
  · rfl
  · rfl

/-- Evicting leaves an entry as it is, or removes it. -/
theorem find_evictAgent (ttl : ℤ) (now : ℚ) (cache : Dict PyStr (Dict PyStr CacheEntry)) (k a f : PyStr) :
    Dict.find (evictAgent ttl now cache k) a f = Dict.find cache a f ∨
      Dict.find (evictAgent ttl now cache k) a f = none := by
  unfold FileStore.evictAgent
  cases held : cache.get? k with
  | none => exact .inl rfl
  | some agentCache =>
      dsimp only
      split
      · rw [Dict.find_erase]
        by_cases here : k = a
        · exact .inr (if_pos here)
        · exact .inl (if_neg here)
      · rw [Dict.find_set]
        by_cases here : k = a
        · rw [if_pos here, ← here]
          unfold Dict.find
          rw [held]
          exact Dict.get?_foldl_erase _ agentCache f
        · exact .inl (if_neg here)

/-- What has expired is gone, and the rest is kept. -/
theorem find_evictExpired (now : ℚ) (a f : PyStr) :
    Dict.find (s.evictExpired now).cache a f = Dict.find s.cache a f ∨
      Dict.find (s.evictExpired now).cache a f = none := by
  unfold FileStore.evictExpired
  dsimp only
  generalize s.cache.keys = agents
  generalize s.cache = cache
  induction agents generalizing cache with
  | nil => exact .inl rfl
  | cons k agents ih =>
      rw [List.foldl_cons]
      rcases ih (evictAgent s.ttl now cache k) with kept | gone
      · rw [kept]
        exact find_evictAgent s.ttl now cache k a f
      · exact .inr gone

/-! ## What is kept -/

/-- A new store keeps nothing. -/
theorem kept_empty (ttl : ℤ) : Kept (FileStore.new ttl, Ledger.empty) := by
  intro a f
  refine ⟨fun _ => ⟨rfl, rfl⟩, ?_, ?_, fun _ => rfl⟩
  · intro entry held
    cases held
  · intro c held
    cases held

/-- The cache may lose entries. -/
theorem KeptAt.uncached {a f : PyStr} {cached cached' : Option CacheEntry} {dir : FileDir} {content : Option Content}
    {failed : Bool} (kept : KeptAt a f cached dir content failed) (lost : cached' = cached ∨ cached' = none) :
    KeptAt a f cached' dir content failed := by
  rcases lost with rfl | rfl
  · exact kept
  · refine ⟨fun unsafeIds => ⟨rfl, (kept.safe unsafeIds).2⟩, ?_, kept.stored, kept.absent⟩
    intro entry held
    cases held

/-- Nothing is kept of a file that is removed. -/
theorem keptAt_removed (a f : PyStr) (failed : Bool) : KeptAt a f none {} none failed := by
  refine ⟨fun _ => ⟨rfl, rfl⟩, ?_, ?_, fun _ => rfl⟩
  · intro entry held
    cases held
  · intro c held
    cases held

/-- A file is added. -/
theorem kept_add (kept : Kept (s, m)) (safe : safeIds agentId fileId = true) (content : Content) (now : ℚ)
    (write : FileDir → FileDir) (stored : ∀ dir, content.StoredIn false fileId (write dir)) :
    Kept ((s.writeDir agentId fileId write).cacheEntry agentId fileId (content.entry fileId now),
      m.add agentId fileId content) := by
  intro a f
  dsimp only [Ledger.add]
  rw [find_cacheEntry]
  have dir : (Dict.find ((s.writeDir agentId fileId write).cacheEntry agentId fileId
      (content.entry fileId now)).disk a f).getD {} = _ := dir_writeDir write a f
  rw [dir]
  by_cases here : agentId = a ∧ fileId = f
  · simp only [if_pos here]
    obtain ⟨rfl, rfl⟩ := here
    refine ⟨fun unsafeIds => ?_, ?_, ?_, ?_⟩
    · rw [safe] at unsafeIds
      cases unsafeIds
    · intro entry held
      cases held
      refine ⟨content, rfl, ?_⟩
      cases content with
      | text filename body => rfl
      | binary filename data mimeType => rfl
    · intro c held
      cases held
      exact stored _
    · intro absent
      cases absent
  · simp only [if_neg here]
    exact kept a f

/-- An add of a text fails, and the file is empty. -/
theorem kept_fail (kept : Kept (s, m)) (agentId fileId : PyStr) :
    Kept (s.writeDir agentId fileId fun dir => { dir with contentTxt := some "" }, m.fail agentId fileId) := by
  intro a f
  dsimp only [Ledger.fail]
  rw [dir_writeDir]
  have before := kept a f
  by_cases here : agentId = a ∧ fileId = f
  · simp only [if_pos here]
    obtain ⟨rfl, rfl⟩ := here
    refine ⟨before.safe, before.cached, ?_, before.absent⟩
    intro c held
    have stored := before.stored c held
    refine ⟨stored.metaJson, ?_, stored.contentBin⟩
    intro filename body same
    obtain ⟨written, encoded, -⟩ := stored.contentTxt filename body same
    exact ⟨written, encoded, rfl⟩
  · simp only [if_neg here]
    exact before

/-- An add under unsafe ids touches no file. -/
theorem kept_refused (kept : Kept (s, m)) (refused : safeIds agentId fileId = false) :
    Kept (s, m.fail agentId fileId) := by
  intro a f
  have before := kept a f
  refine ⟨before.safe, before.cached, ?_, before.absent⟩
  intro c held
  dsimp only [Ledger.fail] at held ⊢
  by_cases here : agentId = a ∧ fileId = f
  · obtain ⟨rfl, rfl⟩ := here
    have none : m.content agentId fileId = none := (before.safe refused).2
    rw [none] at held
    cases held
  · rw [if_neg here]
    exact before.stored c held

/-- A file is removed. -/
theorem kept_removeFile (kept : Kept (s, m)) (agentId fileId : PyStr) :
    Kept ((s.removeFile agentId fileId).1, m.remove agentId fileId) := by
  unfold FileStore.removeFile
  cases safe : safeIds agentId fileId with
  | false =>
      intro a f
      have before := kept a f
      -- An id that is not safe removes nothing.
      have same : (m.remove agentId fileId).content a f = m.content a f := by
        unfold Ledger.remove
        dsimp only
        split
        next here =>
          rw [← here.1, ← here.2]
          exact ((kept agentId fileId).safe safe).2.symm
        next => rfl
      dsimp only
      rw [same]
      exact before
  | true =>
      intro a f
      have before := kept a f
      dsimp only [Ledger.remove]
      rw [if_neg (by decide)]
      dsimp only
      rw [Dict.find_drop]
      by_cases here : agentId = a ∧ fileId = f
      · rw [if_pos here, if_pos here]
        obtain ⟨rfl, rfl⟩ := here
        convert keptAt_removed agentId fileId (m.failed agentId fileId) using 1
        -- Neither the file nor its entry in the cache is left.
        · split
          next absent => exact Option.isNone_iff_eq_none.1 absent
          next held =>
            split
            · rw [Dict.find_erase, if_pos rfl]
            · rw [Dict.find_set, if_pos rfl, Dict.get?_erase, if_pos rfl]
        · rfl
      · rw [if_neg here, if_neg here]
        refine before.uncached ?_
        split
        -- The cache of another file is kept, or the whole agent is dropped from the cache.
        · exact .inl rfl
        · split
          · rw [Dict.find_erase]
            split
            · exact .inr rfl
            · exact .inl rfl
          · left
            rw [Dict.find_set]
            split
            next same =>
              rw [Dict.get?_erase, if_neg fun both => here ⟨same, both⟩, ← same]
              unfold Dict.find
              cases s.cache.get? agentId with
              | none => rfl
              | some agentCache => rfl
            next => rfl

/-- The files of an agent are removed. -/
theorem kept_removeAgentFiles (kept : Kept (s, m)) (agentId : PyStr) :
    Kept ((s.removeAgentFiles agentId).1, m.removeAgent agentId) := by
  unfold FileStore.removeAgentFiles
  cases safe : safeId agentId with
  | false =>
      intro a f
      have before := kept a f
      have same : (m.removeAgent agentId).content a f = m.content a f := by
        unfold Ledger.removeAgent
        dsimp only
        split
        next here =>
          rw [← here]
          refine ((kept agentId f).safe ?_).2.symm
          rw [safeIds, safe, Bool.false_and]
        next => rfl
      dsimp only
      rw [same]
      exact before
  | true =>
      intro a f
      dsimp only [Ledger.removeAgent]
      rw [if_neg (by decide)]
      dsimp only
      rw [Dict.find_erase, Dict.find_erase]
      by_cases here : agentId = a
      · rw [if_pos here, if_pos here, if_pos here]
        exact keptAt_removed a f _
      · rw [if_neg here, if_neg here, if_neg here]
        exact kept a f

/-! ## What is read -/

section Reads

variable (elsewhere : Disk → PyStr → PyStr → FileDir) (ignoreCase : CodePoint → CodePoint → Bool) {now : ℚ}

/-- The cache takes an entry of what was added. -/
theorem kept_cacheEntry (kept : Kept (s, m)) (safe : safeIds agentId fileId = true) {content : Content}
    (held : m.content agentId fileId = some content) (now : ℚ) :
    Kept (s.cacheEntry agentId fileId (content.entry fileId now), m) := by
  intro a f
  have before := kept a f
  rw [find_cacheEntry]
  by_cases here : agentId = a ∧ fileId = f
  · rw [if_pos here]
    obtain ⟨rfl, rfl⟩ := here
    refine ⟨fun unsafeIds => ?_, ?_, before.stored, before.absent⟩
    · rw [safe] at unsafeIds
      cases unsafeIds
    · intro entry same
      cases same
      refine ⟨content, held, ?_⟩
      cases content with
      | text filename body => rfl
      | binary filename data mimeType => rfl
  · rw [if_neg here]
    exact before

/-- What `getCached` must not find. -/
def FindsIntact (state : FileStore × Ledger) (now : ℚ) (agentId fileId : PyStr) : Prop :=
  if safeIds agentId fileId then
    Dict.find state.1.cache agentId fileId = none →
      ∀ content ∈ state.2.content agentId fileId, content.Survives (state.2.failed agentId fileId)
  else (elsewhere state.1.disk agentId fileId).load fileId now = none

/-- **`getCached` finds what was added last.** -/
theorem getCached_spec (kept : Kept (s, m)) (intact : FindsIntact elsewhere (s, m) now agentId fileId) :
    (s.getCached elsewhere now agentId fileId).2 =
        (m.content agentId fileId).map (fun content => content.entry fileId now) ∧
      Kept ((s.getCached elsewhere now agentId fileId).1, m) := by
  have here := kept agentId fileId
  unfold FindsIntact at intact
  unfold FileStore.getCached FileStore.fileDir
  cases safe : safeIds agentId fileId with
  | false =>
      obtain ⟨cached, content⟩ := here.safe safe
      dsimp only at cached content
      rw [safe, if_neg Bool.false_ne_true] at intact
      rw [cached, if_neg Bool.false_ne_true, content]
      dsimp only at intact ⊢
      rw [intact]
      exact ⟨rfl, kept⟩
  | true =>
      rw [safe, if_pos rfl] at intact
      cases cached : Dict.find s.cache agentId fileId with
      | some entry =>
          obtain ⟨content, held, same⟩ := here.cached entry cached
          dsimp only at held ⊢
          rw [Option.mem_def] at held
          rw [held, same, Content.touch_entry]
          exact ⟨rfl, kept_cacheEntry kept safe held now⟩
      | none =>
          rw [if_pos rfl]
          dsimp only
          cases held : m.content agentId fileId with
          | none =>
              have nothing : ((Dict.find s.disk agentId fileId).getD {}).load fileId now = none := by
                unfold FileDir.load
                rw [here.absent held]
                rfl
              rw [nothing]
              exact ⟨rfl, kept⟩
          | some content =>
              rw [(here.stored content held).load (intact cached content held) now]
              exact ⟨rfl, kept_cacheEntry kept safe held now⟩

/-- **A reader of checked ids answers from what was added last.** -/
theorem reading_spec {α : Type} (kept : Kept (s, m)) (read : CacheEntry → Option α)
    (intact : safeIds agentId fileId = true → FindsIntact elsewhere (s, m) now agentId fileId) :
    (s.reading elsewhere now agentId fileId read).2 =
        ((m.content agentId fileId).map fun content => content.entry fileId now).bind read ∧
      Kept ((s.reading elsewhere now agentId fileId read).1, m) := by
  unfold FileStore.reading
  cases safe : safeIds agentId fileId with
  | false =>
      have none : m.content agentId fileId = none := ((kept agentId fileId).safe safe).2
      rw [none]
      exact ⟨rfl, kept⟩
  | true =>
      obtain ⟨found, after⟩ := getCached_spec elsewhere kept (intact safe)
      dsimp only [Bool.not_true, Bool.false_eq_true, if_false]
      rw [found]
      exact ⟨rfl, after⟩

end Reads

/-! ## Every call -/

section Calls

variable (elsewhere : Disk → PyStr → PyStr → FileDir) (ignoreCase : CodePoint → CodePoint → Bool)

/-- **A text is added.** -/
theorem kept_addTextFile (kept : Kept (s, m)) (now : ℚ) (agentId fileId filename text : PyStr) :
    Kept (filed elsewhere ignoreCase (s, m) (.addTextFile now agentId fileId filename text)) := by
  unfold filed FileStore.call
  dsimp only
  unfold FileStore.addTextFile FileStore.writeTextToDisk
  cases safe : safeIds agentId fileId with
  | false => exact kept_refused kept safe
  | true =>
      cases encoded : encode text with
      | none => exact kept_fail kept agentId fileId
      | some written =>
          refine kept_add kept safe (.text filename text) now _ fun dir => ⟨rfl, ?_, ?_⟩
          · intro name body same
            cases same
            exact ⟨written, encoded, rfl⟩
          · intro name data mimeType same
            cases same

/-- **A binary file is added.** -/
theorem kept_addBinaryFile (kept : Kept (s, m)) (now : ℚ) (agentId fileId filename : PyStr) (data : List UInt8)
    (mimeType : Option PyStr) :
    Kept (filed elsewhere ignoreCase (s, m) (.addBinaryFile now agentId fileId filename data mimeType)) := by
  unfold filed FileStore.call
  dsimp only
  unfold FileStore.addBinaryFile
  cases safe : safeIds agentId fileId with
  | false => exact kept
  | true =>
      refine kept_add kept safe (.binary filename data (FileStore.resolveMime mimeType filename)) now _
        fun dir => ⟨rfl, ?_, ?_⟩
      · intro name body same
        cases same
      · intro name data' mimeType' same
        cases same
        rfl

variable {elsewhere} {state : FileStore × Ledger} {op : FileOp}

/-- A guarded read finds nothing but what was added. -/
theorem LoadsIntact.finds (intact : LoadsIntact elsewhere state op) {now : ℚ} {agentId fileId : PyStr}
    (target : op.target = some (now, agentId, fileId))
    (looks : op.unchecked = true ∨ safeIds agentId fileId = true) :
    FindsIntact elsewhere state now agentId fileId := by
  have here := intact now agentId fileId target
  unfold FindsIntact
  cases safe : safeIds agentId fileId with
  | true =>
      rw [safe, if_pos rfl] at here
      rw [if_pos rfl]
      exact here
  | false =>
      rw [safe, if_neg Bool.false_ne_true] at here
      rw [if_neg Bool.false_ne_true]
      rcases looks with unchecked | safe'
      · exact here unchecked
      · rw [safe] at safe'
        cases safe'

/-- **One call** answers from the ledger, and the store follows it. -/
theorem filed_spec (kept : Kept state) (intact : LoadsIntact elsewhere state op) :
    AnswersFromLast elsewhere ignoreCase state op ∧ Kept (filed elsewhere ignoreCase state op) := by
  obtain ⟨s, m⟩ := state
  cases op with
  | addTextFile now agentId fileId filename text =>
      exact ⟨fun reads => absurd reads Bool.false_ne_true,
        kept_addTextFile elsewhere ignoreCase kept now agentId fileId filename text⟩
  | addBinaryFile now agentId fileId filename data mimeType =>
      exact ⟨fun reads => absurd reads Bool.false_ne_true,
        kept_addBinaryFile elsewhere ignoreCase kept now agentId fileId filename data mimeType⟩
  | removeFile agentId fileId =>
      exact ⟨fun reads => absurd reads Bool.false_ne_true, kept_removeFile kept agentId fileId⟩
  | removeAgentFiles agentId =>
      exact ⟨fun reads => absurd reads Bool.false_ne_true, kept_removeAgentFiles kept agentId⟩
  | evictExpired now =>
      refine ⟨fun reads => absurd reads Bool.false_ne_true, fun a f => ?_⟩
      exact (kept a f).uncached (find_evictExpired now a f)
  | restart =>
      exact ⟨fun reads => absurd reads Bool.false_ne_true, fun a f => (kept a f).uncached (.inr rfl)⟩
  | readText now agentId fileId maxLines =>
      obtain ⟨result, after⟩ := reading_spec elsewhere kept _ fun safe => intact.finds rfl (.inr safe)
      exact ⟨fun _ => congrArg (fun result => Except.ok (FileAnswer.read result)) result, after⟩
  | readTextRange now agentId fileId startLine endLine =>
      obtain ⟨result, after⟩ := reading_spec elsewhere kept _ fun safe => intact.finds rfl (.inr safe)
      exact ⟨fun _ => congrArg (fun result => Except.ok (FileAnswer.read result)) result, after⟩
  | searchText now agentId fileId query caseInsensitive maxHits contextLines =>
      obtain ⟨result, after⟩ := reading_spec elsewhere kept _ fun safe => intact.finds rfl (.inr safe)
      exact ⟨fun _ => congrArg (fun result => Except.ok (FileAnswer.found result)) result, after⟩
  | readRaw now agentId fileId =>
      obtain ⟨result, after⟩ := reading_spec elsewhere kept _ fun safe => intact.finds rfl (.inr safe)
      exact ⟨fun _ => congrArg (fun result => Except.ok (FileAnswer.raw result)) result, after⟩
  | getFileType now agentId fileId =>
      obtain ⟨found, after⟩ := getCached_spec elsewhere kept (intact.finds rfl (.inl rfl))
      exact ⟨fun _ => congrArg (fun entry : Option CacheEntry =>
        Except.ok (FileAnswer.fileType (entry.map CacheEntry.fileType))) found, after⟩

/-! ## The guarantee -/

/-- **Every read answers from what was added last**, in a run whose reads load nothing else. -/
theorem answers_from_last (ttl : ℤ) (ops : List FileOp)
    (intact : Run.Along (filed elsewhere ignoreCase) (LoadsIntact elsewhere) (FileStore.new ttl, Ledger.empty) ops) :
    Run.Along (filed elsewhere ignoreCase) (AnswersFromLast elsewhere ignoreCase)
      (FileStore.new ttl, Ledger.empty) ops := by
  have kept := kept_empty ttl
  generalize (FileStore.new ttl, Ledger.empty) = state at kept intact ⊢
  induction ops generalizing state with
  | nil => exact trivial
  | cons op ops ih =>
      obtain ⟨answers, after⟩ := filed_spec ignoreCase kept intact.1
      exact ⟨answers, ih _ after intact.2⟩

end Calls

end Operations

instance (elsewhere : Disk → PyStr → PyStr → FileDir) (ignoreCase : CodePoint → CodePoint → Bool)
    (state : FileStore × Ledger) (op : FileOp) : Decidable (AnswersFromLast elsewhere ignoreCase state op) :=
  inferInstanceAs (Decidable (_ → _))

/-- No path leads elsewhere. -/
def nowhere : Disk → PyStr → PyStr → FileDir := fun _ _ _ => {}

/-- Notes are added, the process is restarted, and the notes are read. -/
def keptNotes : List FileOp :=
  [.addTextFile 0 (ofString "agent") (ofString "notes.md") (ofString "notes.md") (ofString "Keep\r\nthis."),
    .restart, .readText 1 (ofString "agent") (ofString "notes.md") 800]

/-- Notes are added, new ones cannot be encoded, the process is restarted, and the notes are read. -/
def lostNotes : List FileOp :=
  [.addTextFile 0 (ofString "agent") (ofString "notes.md") (ofString "notes.md") (ofString "Keep this."),
    .addTextFile 1 (ofString "agent") (ofString "notes.md") (ofString "notes.md") [0xD83D], .restart,
    .readText 2 (ofString "agent") (ofString "notes.md") 800]

/-- Every call for the notes is answered from the last one that was added. -/
theorem answers_keptNotes : Run.Along (filed nowhere (· == ·)) (AnswersFromLast nowhere (· == ·))
    (FileStore.new 1800, Ledger.empty) keptNotes := by
  apply answers_from_last (· == ·) 1800 keptNotes
  refine ⟨?_, ?_, ?_, trivial⟩
  · intro now agentId fileId target
    cases target
  · intro now agentId fileId target
    cases target
  · intro now agentId fileId target
    cases target
    rw [if_pos (by decide +kernel)]
    intro _ content held
    cases held
    exact ⟨by decide +kernel, by decide +kernel⟩

/-- **A failed add empties the file**: notes are lost when they are loaded again. -/
theorem not_always_from_last : ¬ ∀ (elsewhere : Disk → PyStr → PyStr → FileDir)
    (ignoreCase : CodePoint → CodePoint → Bool) (ttl : ℤ) (ops : List FileOp),
    Run.Along (filed elsewhere ignoreCase) (AnswersFromLast elsewhere ignoreCase)
      (FileStore.new ttl, Ledger.empty) ops := by
  intro always
  exact absurd (always nowhere (· == ·) 1800 lostNotes) (by decide +kernel)

end Feros
