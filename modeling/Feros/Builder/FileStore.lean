import Feros.Builder.PyStr
/-! # The file store of the agent builder

Files of an agent lie on disk, in a directory each, and in a cache for some time after they are used.

* **`addTextFile`** and **`addBinaryFile`** write the content, then the metadata, then the cache entry.
* **`getCached`** takes an entry from the cache, or loads it from disk.
* **`readText`**, **`readTextRange`**, **`searchText`**, **`readRaw`** and **`getFileType`** answer from the
  entry.

Time is that of the monotonic clock, and comes with each call. -/

namespace Feros

open PyStr

/-- Type of a stored file. -/
inductive FileType where
  /-- Line-based navigation. -/
  | text
  /-- A binary blob. -/
  | image
  deriving DecidableEq, Repr

/-- **On-disk metadata for a stored file**, without the time it was created. -/
structure FileMeta where
  fileId : PyStr
  filename : PyStr
  fileType : FileType
  totalLines : ℕ
  mimeType : PyStr
  deriving DecidableEq, Repr

/-- What an operation raises. -/
inductive FileError where
  | valueError (text : String)
  | unicodeEncodeError
  deriving DecidableEq, Repr

/-! ## Ids and MIME types -/

/-- The characters that an id may have. -/
def isSafeChar (c : CodePoint) : Bool :=
  let ch := Char.ofNat c.val
  ch.isAlphanum || ch == '_' || ch == '.' || ch == '-'

/-- **The id is safe for use in a path**; the pattern lets a line feed at the end pass. -/
def safeId (value : PyStr) : Bool :=
  let body := if value.getLast? = some newline then value.dropLast else value
  body != [] && body.all isSafeChar && value != ofString "." && value != ofString ".."

/-- `str.lower`, as far as the extensions below go. -/
def lowerAscii (text : PyStr) : PyStr :=
  text.map fun c => if 0x41 ≤ c.val ∧ c.val ≤ 0x5A then c + 0x20 else c

/-- The last part of a path. -/
def pathName (filename : PyStr) : PyStr :=
  let parts := (filename.splitOn (0x2F : CodePoint)).filter fun part => part != [] && part != ofString "."
  parts.getLast?.getD []

/-- `Path(filename).suffix`: from the last dot on, which is neither the first nor the last character. -/
def suffix (filename : PyStr) : PyStr :=
  let name := pathName filename
  let extension := (name.reverse.takeWhile (· != (0x2E : CodePoint))).reverse
  if extension ≠ [] ∧ extension.length + 1 < name.length then 0x2E :: extension else []

/-- The MIME types of the known extensions. -/
def extToMime : Dict PyStr PyStr :=
  [(".txt", "text/plain"), (".md", "text/markdown"), (".pdf", "text/plain"), (".docx", "text/plain"),
    (".png", "image/png"), (".jpg", "image/jpeg"), (".jpeg", "image/jpeg"), (".gif", "image/gif"),
    (".webp", "image/webp"), (".svg", "image/svg+xml")].map fun entry => (ofString entry.1, ofString entry.2)

/-- Detect the MIME type from the extension and the type of the file. -/
def detectMimeType (filename : PyStr) (fileType : FileType) : PyStr :=
  match extToMime.get? (lowerAscii (suffix filename)) with
  | some mime => mime
  | none =>
    match fileType with
    | .image => ofString "application/octet-stream"
    | .text => ofString "text/plain"

/-! ## Cache entries -/

/-- A text file in memory. -/
structure TextCacheEntry where
  fileId : PyStr
  filename : PyStr
  lines : List PyStr
  lastAccessed : ℚ
  deriving DecidableEq

/-- The number of lines. -/
def TextCacheEntry.totalLines (entry : TextCacheEntry) : ℕ := entry.lines.length

/-- A binary file in memory. -/
structure BinaryCacheEntry where
  fileId : PyStr
  filename : PyStr
  data : List UInt8
  mimeType : PyStr
  lastAccessed : ℚ
  deriving DecidableEq

/-- **A cache entry.** -/
inductive CacheEntry where
  | text (entry : TextCacheEntry)
  | binary (entry : BinaryCacheEntry)
  deriving DecidableEq

namespace CacheEntry

/-- When the entry was used last. -/
def lastAccessed : CacheEntry → ℚ
  | text entry => entry.lastAccessed
  | binary entry => entry.lastAccessed

/-- The entry is used now. -/
def touch (now : ℚ) : CacheEntry → CacheEntry
  | text entry => text { entry with lastAccessed := now }
  | binary entry => binary { entry with lastAccessed := now }

/-- The entry, if it is of a text file. -/
def text? : CacheEntry → Option TextCacheEntry
  | text entry => some entry
  | binary _ => none

/-- The entry, if it is of a binary file. -/
def binary? : CacheEntry → Option BinaryCacheEntry
  | text _ => none
  | binary entry => some entry

/-- The type of the file. -/
def fileType : CacheEntry → FileType
  | text _ => .text
  | binary _ => .image

end CacheEntry

/-! ## Answers from an entry -/

/-- Result of reading a text file. -/
structure ReadResult where
  fileId : PyStr
  filename : PyStr
  totalLines : ℕ
  startLine : ℤ
  endLine : ℤ
  content : PyStr
  deriving DecidableEq

/-- A line that matches, with the lines around it. -/
structure SearchHit where
  lineNumber : ℕ
  lineContent : PyStr
  contextBefore : List PyStr
  contextAfter : List PyStr
  deriving DecidableEq

/-- Result of searching a text file. -/
structure SearchResult where
  fileId : PyStr
  filename : PyStr
  totalLines : ℕ
  query : PyStr
  hits : List SearchHit
  totalHits : ℕ
  deriving DecidableEq

/-- Result of reading a binary file. -/
structure RawReadResult where
  fileId : PyStr
  filename : PyStr
  mimeType : PyStr
  sizeBytes : ℕ
  base64Data : String
  deriving DecidableEq

/-- The most lines that are read at once. -/
def maxReadLines : ℕ := 800

/-- `"\n".join`. -/
def joinLines (lines : List PyStr) : PyStr := [newline].intercalate lines

/-- `lines[:stop]`; from the end if the bound is negative. -/
def linesTo (lines : List PyStr) (stop : ℤ) : List PyStr :=
  lines.take (if 0 ≤ stop then stop else lines.length + stop).toNat

/-- The query is at the front of the line, up to the case rule. -/
def matchesHere (same : CodePoint → CodePoint → Bool) : PyStr → PyStr → Bool
  | [], _ => true
  | _ :: _, [] => false
  | q :: query, c :: line => same q c && matchesHere same query line

/-- `re.compile(re.escape(query)).search(line)`. -/
def matchesIn (same : CodePoint → CodePoint → Bool) (query : PyStr) : PyStr → Bool
  | [] => matchesHere same query []
  | c :: line => matchesHere same query (c :: line) || matchesIn same query line

namespace TextCacheEntry

/-- The first lines. -/
def readFirst (entry : TextCacheEntry) (fileId : PyStr) (maxLines : ℤ) : ReadResult :=
  let stop := min maxLines entry.totalLines
  { fileId, filename := entry.filename, totalLines := entry.totalLines, startLine := 1, endLine := stop
    content := joinLines (linesTo entry.lines stop) }

/-- **A range of lines**, numbered from 1, at most `maxReadLines` of them. -/
def readRange (entry : TextCacheEntry) (fileId : PyStr) (startLine endLine : ℤ) : ReadResult :=
  let start := max 1 startLine
  let stop := min endLine entry.totalLines
  if start > stop then
    { fileId, filename := entry.filename, totalLines := entry.totalLines, startLine := start, endLine := stop
      content := [] }
  else
    let stop := if stop - start + 1 > maxReadLines then start + maxReadLines - 1 else stop
    { fileId, filename := entry.filename, totalLines := entry.totalLines, startLine := start, endLine := stop
      content := joinLines ((linesTo entry.lines stop).drop (start - 1).toNat) }

/-- A line of the context, with its number; the index is counted from 0. -/
def contextLine (entry : TextCacheEntry) (index : ℤ) : PyStr :=
  ofString s!"L{index + 1}: " ++ entry.lines.getD index.toNat []

/-- The hit at a line, with its context. -/
def hitAt (entry : TextCacheEntry) (contextLines : ℤ) (i : ℕ) (line : PyStr) : SearchHit :=
  let ctxStart := max 0 (i - contextLines)
  let ctxEnd := min (entry.lines.length : ℤ) (i + contextLines + 1)
  { lineNumber := i + 1
    lineContent := line
    contextBefore := (List.range (i - ctxStart).toNat).map fun (j : ℕ) => entry.contextLine (ctxStart + j)
    contextAfter := (List.range (ctxEnd - i - 1).toNat).map fun (j : ℕ) => entry.contextLine (i + j + 1) }

/-- The loop over the lines: the hits, and how many there are. -/
def scan (entry : TextCacheEntry) (same : CodePoint → CodePoint → Bool) (query : PyStr) (maxHits contextLines : ℤ)
    (found : List SearchHit × ℕ) (numbered : PyStr × ℕ) : List SearchHit × ℕ :=
  let (line, i) := numbered
  if matchesIn same query line then
    if (found.1.length : ℤ) < maxHits then (found.1 ++ [entry.hitAt contextLines i line], found.2 + 1)
    else (found.1, found.2 + 1)
  else found

/-- **The lines that match**, with their context. -/
def search (entry : TextCacheEntry) (same : CodePoint → CodePoint → Bool) (fileId query : PyStr)
    (maxHits contextLines : ℤ) : SearchResult :=
  let found :=
    if isBlank query then ([], 0)
    else entry.lines.zipIdx.foldl (entry.scan same query maxHits contextLines) ([], 0)
  { fileId, filename := entry.filename, totalLines := entry.totalLines, query, hits := found.1
    totalHits := found.2 }

end TextCacheEntry

/-- A digit of Base64. -/
def base64Digit (value : ℕ) : Char :=
  "ABCDEFGHIJKLMNOPQRSTUVWXYZabcdefghijklmnopqrstuvwxyz0123456789+/".toList.getD value '='

/-- `base64.b64encode`. -/
def b64encode : List UInt8 → List Char
  | [] => []
  | [a] => [base64Digit (a.toNat / 4), base64Digit (a.toNat % 4 * 16), '=', '=']
  | [a, b] =>
    [base64Digit (a.toNat / 4), base64Digit (a.toNat % 4 * 16 + b.toNat / 16),
      base64Digit (b.toNat % 16 * 4), '=']
  | a :: b :: c :: rest =>
    base64Digit (a.toNat / 4) :: base64Digit (a.toNat % 4 * 16 + b.toNat / 16) ::
      base64Digit (b.toNat % 16 * 4 + c.toNat / 64) :: base64Digit (c.toNat % 64) :: b64encode rest

/-- The bytes, encoded. -/
def BinaryCacheEntry.raw (entry : BinaryCacheEntry) (fileId : PyStr) : RawReadResult :=
  { fileId, filename := entry.filename, mimeType := entry.mimeType, sizeBytes := entry.data.length
    base64Data := String.ofList (b64encode entry.data) }

/-! ## The store -/

/-- **The directory of a file on disk.** -/
structure FileDir where
  /-- `content.txt`, which is UTF-8. -/
  contentTxt : Option String := none
  /-- `content.bin`. -/
  contentBin : Option (List UInt8) := none
  /-- `meta.json`, as it was written. -/
  metaJson : Option FileMeta := none

/-- The directories on disk, by agent and file. -/
abbrev Disk := Dict PyStr (Dict PyStr FileDir)

/-- **The file store**: its cache, and its files on disk. -/
structure FileStore where
  ttl : ℤ
  cache : Dict PyStr (Dict PyStr CacheEntry)
  disk : Disk

/-- Metadata after its way through JSON. -/
def FileMeta.reread (fileMeta : FileMeta) : FileMeta :=
  { fileMeta with
    fileId := rejoin fileMeta.fileId
    filename := rejoin fileMeta.filename
    mimeType := rejoin fileMeta.mimeType }

/-- Load the entry of a directory: its metadata, and the content that these ask for. -/
def FileDir.load (dir : FileDir) (fileId : PyStr) (now : ℚ) : Option CacheEntry :=
  match dir.metaJson.map FileMeta.reread with
  | none => none
  | some fileMeta =>
    match fileMeta.fileType with
    | .text => dir.contentTxt.map fun content => .text
        { fileId, filename := fileMeta.filename, lines := splitLines (universalNewlines (ofString content))
          lastAccessed := now }
    | .image => dir.contentBin.map fun data => .binary
        { fileId, filename := fileMeta.filename, data, mimeType := fileMeta.mimeType, lastAccessed := now }

/-- Both ids are safe. -/
def safeIds (agentId fileId : PyStr) : Bool := safeId agentId && safeId fileId

namespace FileStore

/-- A new store over an empty directory. -/
def new (ttl : ℤ) : FileStore := { ttl, cache := [], disk := [] }

/-- Put an entry into the cache. -/
def cacheEntry (s : FileStore) (agentId fileId : PyStr) (entry : CacheEntry) : FileStore :=
  { s with cache := Dict.put s.cache agentId fileId entry }

/-- Write to the directory of a file; it is made if it is not there. -/
def writeDir (s : FileStore) (agentId fileId : PyStr) (write : FileDir → FileDir) : FileStore :=
  { s with disk := Dict.put s.disk agentId fileId (write ((Dict.find s.disk agentId fileId).getD {})) }

/-- Write text content and metadata to disk.  The file is open, and empty, when the text is encoded. -/
def writeTextToDisk (s : FileStore) (agentId fileId filename text : PyStr) :
    FileStore × Except FileError FileMeta :=
  match encode text with
  | none =>
    (s.writeDir agentId fileId fun dir => { dir with contentTxt := some "" }, .error .unicodeEncodeError)
  | some content =>
    let fileMeta : FileMeta :=
      { fileId, filename, fileType := .text, totalLines := (splitLines text).length
        mimeType := detectMimeType filename .text }
    (s.writeDir agentId fileId fun dir => { dir with contentTxt := some content, metaJson := some fileMeta },
      .ok fileMeta)

/-- Write binary content and metadata to disk. -/
def writeBinaryToDisk (s : FileStore) (agentId fileId filename : PyStr) (data : List UInt8) (mimeType : PyStr) :
    FileStore × FileMeta :=
  let fileMeta : FileMeta := { fileId, filename, fileType := .image, totalLines := 0, mimeType }
  (s.writeDir agentId fileId fun dir => { dir with contentBin := some data, metaJson := some fileMeta }, fileMeta)

/-- **Save extracted text to disk and cache it.** -/
def addTextFile (s : FileStore) (now : ℚ) (agentId fileId filename text : PyStr) :
    FileStore × Except FileError FileMeta :=
  if !safeIds agentId fileId then (s, .error (.valueError "Invalid agent_id or file_id"))
  else
    match s.writeTextToDisk agentId fileId filename text with
    | (s, .error e) => (s, .error e)
    | (s, .ok fileMeta) =>
      (s.cacheEntry agentId fileId (.text { fileId, filename, lines := splitLines text, lastAccessed := now }),
        .ok fileMeta)

/-- `mime_type or _detect_mime_type(filename, FileType.IMAGE)`. -/
def resolveMime (mimeType : Option PyStr) (filename : PyStr) : PyStr :=
  match mimeType with
  | some (c :: mime) => c :: mime
  | _ => detectMimeType filename .image

/-- **Save a binary file to disk and cache it.** -/
def addBinaryFile (s : FileStore) (now : ℚ) (agentId fileId filename : PyStr) (data : List UInt8)
    (mimeType : Option PyStr) : FileStore × Except FileError FileMeta :=
  if !safeIds agentId fileId then (s, .error (.valueError "Invalid agent_id or file_id"))
  else
    let resolvedMime := resolveMime mimeType filename
    let (s, fileMeta) := s.writeBinaryToDisk agentId fileId filename data resolvedMime
    (s.cacheEntry agentId fileId
      (.binary { fileId, filename, data, mimeType := resolvedMime, lastAccessed := now }), .ok fileMeta)

/-- The agents with files in the cache, one after the other: the expired entries go, and agents without any. -/
def evictAgent (ttl : ℤ) (now : ℚ) (cache : Dict PyStr (Dict PyStr CacheEntry)) (agentId : PyStr) :
    Dict PyStr (Dict PyStr CacheEntry) :=
  match cache.get? agentId with
  | none => cache
  | some agentCache =>
    let expired := Dict.keys (agentCache.filter fun held => now - held.2.lastAccessed > ttl)
    let agentCache := expired.foldl Dict.erase agentCache
    if agentCache.isEmpty then cache.erase agentId else cache.set agentId agentCache

/-- **Evict expired entries from the cache.** -/
def evictExpired (s : FileStore) (now : ℚ) : FileStore :=
  { s with cache := s.cache.keys.foldl (evictAgent s.ttl now) s.cache }

/-- The process is restarted: the cache is gone. -/
def restart (s : FileStore) : FileStore := { s with cache := [] }

/-- **Remove all files of an agent**, from the cache and from disk; how many there were. -/
def removeAgentFiles (s : FileStore) (agentId : PyStr) : FileStore × ℕ :=
  if !safeId agentId then (s, 0)
  else
    ({ s with cache := s.cache.erase agentId, disk := s.disk.erase agentId },
      max ((s.cache.get? agentId).getD []).length ((s.disk.get? agentId).getD []).length)

/-- **Remove a file**, from the cache and from disk; whether there was one. -/
def removeFile (s : FileStore) (agentId fileId : PyStr) : FileStore × Bool :=
  if !safeIds agentId fileId then (s, false)
  else
    let agentCache := ((s.cache.get? agentId).getD []).erase fileId
    let cache :=
      if (Dict.find s.cache agentId fileId).isNone then s.cache
      else if agentCache.isEmpty then s.cache.erase agentId else s.cache.set agentId agentCache
    ({ s with cache, disk := Dict.drop s.disk agentId fileId },
      (Dict.find s.cache agentId fileId).isSome || (Dict.find s.disk agentId fileId).isSome)

section Reading

-- the directory at a path whose parts are no safe ids, as the operating system finds it
variable (elsewhere : Disk → PyStr → PyStr → FileDir)

/-- The directory of a file; safe ids are the names of directories. -/
def fileDir (s : FileStore) (agentId fileId : PyStr) : FileDir :=
  if safeIds agentId fileId then (Dict.find s.disk agentId fileId).getD {} else elsewhere s.disk agentId fileId

/-- **Get a file from the cache, loading it from disk if needed.** -/
def getCached (s : FileStore) (now : ℚ) (agentId fileId : PyStr) : FileStore × Option CacheEntry :=
  match Dict.find s.cache agentId fileId with
  | some entry => (s.cacheEntry agentId fileId (entry.touch now), some (entry.touch now))
  | none =>
    match (s.fileDir elsewhere agentId fileId).load fileId now with
    | none => (s, none)
    | some entry => (s.cacheEntry agentId fileId entry, some entry)

/-- Get the type of a stored file. -/
def getFileType (s : FileStore) (now : ℚ) (agentId fileId : PyStr) : FileStore × Option FileType :=
  let (s, entry) := s.getCached elsewhere now agentId fileId
  (s, entry.map CacheEntry.fileType)

/-- What is read from the entry of a file with safe ids. -/
def reading {α : Type} (s : FileStore) (now : ℚ) (agentId fileId : PyStr) (read : CacheEntry → Option α) :
    FileStore × Option α :=
  if !safeIds agentId fileId then (s, none)
  else
    let (s, entry) := s.getCached elsewhere now agentId fileId
    (s, entry.bind read)

/-- Read the first lines of a text file. -/
def readText (s : FileStore) (now : ℚ) (agentId fileId : PyStr) (maxLines : ℤ) : FileStore × Option ReadResult :=
  s.reading elsewhere now agentId fileId fun entry => entry.text?.map fun text => text.readFirst fileId maxLines

/-- Read a line range of a text file. -/
def readTextRange (s : FileStore) (now : ℚ) (agentId fileId : PyStr) (startLine endLine : ℤ) :
    FileStore × Option ReadResult :=
  s.reading elsewhere now agentId fileId fun entry =>
    entry.text?.map fun text => text.readRange fileId startLine endLine

/-- Search a text file; `ignoreCase` is the relation of two characters for `re.IGNORECASE`. -/
def searchText (ignoreCase : CodePoint → CodePoint → Bool) (s : FileStore) (now : ℚ)
    (agentId fileId query : PyStr) (caseInsensitive : Bool) (maxHits contextLines : ℤ) :
    FileStore × Option SearchResult :=
  s.reading elsewhere now agentId fileId fun entry => entry.text?.map fun text =>
    text.search (if caseInsensitive then ignoreCase else (· == ·)) fileId query maxHits contextLines

/-- Read a binary file. -/
def readRaw (s : FileStore) (now : ℚ) (agentId fileId : PyStr) : FileStore × Option RawReadResult :=
  s.reading elsewhere now agentId fileId fun entry => entry.binary?.map fun binary => binary.raw fileId

end Reading

end FileStore

end Feros
