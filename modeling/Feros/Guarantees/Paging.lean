import Feros.Builder.FileStore
import Mathlib.Data.List.Infix
/-! # Paging and searching a stored text

Pages that are read one behind the other give the lines of a text, each once and in order; and a search
numbers the lines as a reader does. -/

namespace Feros

open PyStr

/-! ## Ranges of an entry -/

section Entry

variable (entry : TextCacheEntry) (fileId : PyStr)

/-- A range from a line on, to one that does not come before it. -/
theorem readRange_page {last : ℕ} {endLine : ℤ} (inside : last < entry.lines.length) (ahead : last + 1 ≤ endLine) :
    ∃ next : ℕ, last < next ∧ next ≤ entry.lines.length ∧
      entry.readRange fileId (last + 1) endLine =
        { fileId, filename := entry.filename, totalLines := entry.lines.length, startLine := last + 1
          endLine := next, content := joinLines ((entry.lines.take next).drop last) } := by
  have start : max 1 ((last : ℤ) + 1) = last + 1 := by omega
  have page : ∀ stop : ℤ, last < stop → stop ≤ entry.lines.length →
      (linesTo entry.lines stop).drop ((last : ℤ) + 1 - 1).toNat = (entry.lines.take stop.toNat).drop last := by
    intro stop above _
    unfold linesTo
    rw [if_pos (by omega), show ((last : ℤ) + 1 - 1).toNat = last by omega]
  unfold TextCacheEntry.readRange TextCacheEntry.totalLines
  dsimp only
  rw [start, if_neg (by omega)]
  by_cases capped : min endLine (entry.lines.length : ℤ) - (last + 1) + 1 > maxReadLines
  · rw [if_pos capped]
    dsimp only [maxReadLines] at capped ⊢
    refine ⟨last + 800, by omega, by omega, ?_⟩
    rw [page _ (by omega) (by omega), show (last : ℤ) + 1 + (800 : ℕ) - 1 = (last + 800 : ℕ) by omega,
      Int.toNat_natCast]
  · rw [if_neg capped]
    refine ⟨(min endLine (entry.lines.length : ℤ)).toNat, by omega, by omega, ?_⟩
    rw [page _ (by omega) (by omega), Int.toNat_of_nonneg (by omega)]

/-- A single line. -/
theorem readRange_line {k : ℕ} (inside : k < entry.lines.length) :
    entry.readRange fileId (k + 1) (k + 1) =
      { fileId, filename := entry.filename, totalLines := entry.lines.length, startLine := k + 1
        endLine := k + 1, content := entry.lines[k] } := by
  unfold TextCacheEntry.readRange TextCacheEntry.totalLines
  have start : max 1 ((k : ℤ) + 1) = k + 1 := by omega
  have stop : min ((k : ℤ) + 1) entry.lines.length = k + 1 := by omega
  dsimp only
  rw [start, stop, if_neg (by omega), if_neg (by unfold maxReadLines; omega)]
  unfold linesTo
  rw [if_pos (by omega), show ((k : ℤ) + 1 - 1).toNat = k by omega, show ((k : ℤ) + 1).toNat = k + 1 by omega,
    List.take_add_one, List.getElem?_eq_getElem inside, Option.toList_some, List.drop_append,
    List.drop_take, Nat.sub_self, List.take_zero, List.length_take, Nat.min_eq_left (Nat.le_of_lt inside),
    Nat.sub_self, List.drop_zero, List.nil_append]
  unfold joinLines
  rw [List.intercalate_singleton]

end Entry

/-! ## Searching an entry -/

/-- **The line contains the query**, up to a rule for characters. -/
def ContainsUnder (same : CodePoint → CodePoint → Bool) (query line : PyStr) : Prop :=
  ∃ part, part <:+: line ∧ List.Forall₂ (fun q c => same q c = true) query part

/-- A query matches at the front of a line where a part of the line is the same. -/
theorem matchesHere_iff {same : CodePoint → CodePoint → Bool} {query line : PyStr} :
    matchesHere same query line = true ↔
      ∃ part, part <+: line ∧ List.Forall₂ (fun q c => same q c = true) query part := by
  induction query generalizing line with
  | nil =>
      unfold matchesHere
      exact iff_of_true rfl ⟨[], List.nil_prefix, .nil⟩
  | cons q query ih =>
      cases line with
      | nil =>
          unfold matchesHere
          refine iff_of_false Bool.false_ne_true ?_
          rintro ⟨part, front, alike⟩
          rw [List.prefix_nil.1 front] at alike
          cases alike
      | cons c line =>
          unfold matchesHere
          rw [Bool.and_eq_true, ih]
          constructor
          · rintro ⟨here, part, front, alike⟩
            exact ⟨c :: part, List.cons_prefix_cons.2 ⟨rfl, front⟩, .cons here alike⟩
          · rintro ⟨part, front, alike⟩
            cases alike with
            | cons here alike =>
                obtain ⟨rfl, behind⟩ := List.cons_prefix_cons.1 front
                exact ⟨here, _, behind, alike⟩

/-- **The loop over a line finds the query where it is.** -/
theorem matchesIn_iff {same : CodePoint → CodePoint → Bool} {query line : PyStr} :
    matchesIn same query line = true ↔ ContainsUnder same query line := by
  unfold ContainsUnder
  induction line with
  | nil =>
      unfold matchesIn
      rw [matchesHere_iff]
      simp only [List.prefix_nil, List.infix_nil]
  | cons c line ih =>
      unfold matchesIn
      rw [Bool.or_eq_true, matchesHere_iff, ih]
      simp only [List.infix_cons_iff, or_and_right, exists_or]

instance (same : CodePoint → CodePoint → Bool) (query line : PyStr) :
    Decidable (ContainsUnder same query line) :=
  decidable_of_iff _ matchesIn_iff

section Scan

variable (entry : TextCacheEntry) (same : CodePoint → CodePoint → Bool) (query : PyStr) (maxHits contextLines : ℤ)

/-- The lines that contain the query, with their numbers. -/
def matching (numbered : List (PyStr × ℕ)) : List (PyStr × ℕ) :=
  numbered.filter fun n => ContainsUnder same query n.1

/-- **The loop over the lines** takes the first hits, and counts all. -/
theorem foldl_scan (numbered : List (PyStr × ℕ)) (found : List SearchHit × ℕ) :
    numbered.foldl (entry.scan same query maxHits contextLines) found =
      (found.1 ++ ((matching same query numbered).take (maxHits - found.1.length).toNat).map
          (fun n => entry.hitAt contextLines n.2 n.1),
        found.2 + (matching same query numbered).length) := by
  induction numbered generalizing found with
  | nil => simp [matching]
  | cons n numbered ih =>
      obtain ⟨line, i⟩ := n
      rw [List.foldl_cons, ih]
      unfold matching TextCacheEntry.scan
      dsimp only
      by_cases contains : ContainsUnder same query line
      · rw [if_pos (matchesIn_iff.2 contains), List.filter_cons_of_pos (by simpa using contains)]
        by_cases room : (found.1.length : ℤ) < maxHits
        · have more : (maxHits - found.1.length).toNat = (maxHits - (found.1.length + 1 : ℕ)).toNat + 1 := by
            omega
          rw [if_pos room, more, List.take_succ_cons, List.map_cons, List.length_append, List.length_singleton,
            List.append_assoc, List.singleton_append, List.length_cons, Nat.add_right_comm, Nat.add_assoc]
        · have full : (maxHits - found.1.length).toNat = 0 := by
            omega
          rw [if_neg room, full, List.take_zero, List.take_zero, List.length_cons, Nat.add_right_comm,
            Nat.add_assoc]
      · rw [if_neg fun found => contains (matchesIn_iff.1 found), List.filter_cons_of_neg (by simpa using contains)]

end Scan

/-! ## A stored text -/

section Store

variable (elsewhere : Disk → PyStr → PyStr → FileDir)

/-- **The store has a text**, with these lines. -/
def Stored (s : FileStore) (agentId fileId filename : PyStr) (lines : List PyStr) : Prop :=
  safeIds agentId fileId = true ∧ ∀ now, (s.getCached elsewhere now agentId fileId).2 =
    some (.text { fileId, filename, lines, lastAccessed := now })

/-- Read page by page, each from the line behind the one before, until the last line is reported; the calls
are the times and the requested ends. -/
def pages (agentId fileId : PyStr) : FileStore → ℤ → List (ℚ × ℤ) → List ReadResult
  | _, _, [] => []
  | s, last, (now, endLine) :: calls =>
    match s.readTextRange elsewhere now agentId fileId (last + 1) endLine with
    | (_, none) => []
    | (s, some page) =>
      page :: if page.endLine = page.totalLines then [] else pages agentId fileId s page.endLine calls

/-- **A reader finds this line under this number**, at any time. -/
def LineAt (s : FileStore) (agentId fileId : PyStr) (number : ℤ) (line : PyStr) : Prop :=
  ∀ now, ∃ page, (s.readTextRange elsewhere now agentId fileId number number).2 = some page ∧
    page.startLine = number ∧ page.endLine = number ∧ page.content = line

variable {elsewhere} {s : FileStore} {agentId fileId filename : PyStr} {lines : List PyStr}

/-- What was just added is stored. -/
theorem stored_addTextFile {now : ℚ} {text : PyStr}
    (added : (s.addTextFile now agentId fileId filename text).2.isOk = true) :
    Stored elsewhere (s.addTextFile now agentId fileId filename text).1 agentId fileId filename (splitLines text) := by
  unfold FileStore.addTextFile FileStore.writeTextToDisk at added ⊢
  cases safe : safeIds agentId fileId with
  | false =>
      rw [safe] at added
      cases added
  | true =>
      cases encoded : encode text with
      | none =>
          rw [safe, encoded] at added
          cases added
      | some written =>
          refine ⟨safe, fun later => ?_⟩
          unfold FileStore.getCached
          have held := Dict.find_put s.cache agentId fileId
            (.text { fileId, filename, lines := splitLines text, lastAccessed := now }) agentId fileId
          rw [if_pos ⟨rfl, rfl⟩] at held
          dsimp only [Bool.not_true, Bool.false_eq_true, if_false, FileStore.cacheEntry, FileStore.writeDir]
          rw [if_neg (by decide)]
          dsimp only
          rw [held]
          rfl

/-- A stored text is stored after it is read. -/
theorem Stored.getCached (stored : Stored elsewhere s agentId fileId filename lines) (now : ℚ) :
    Stored elsewhere (s.getCached elsewhere now agentId fileId).1 agentId fileId filename lines := by
  refine ⟨stored.1, fun later => ?_⟩
  have found := stored.2 now
  unfold FileStore.getCached at found ⊢
  have again : ∀ entry, Dict.find (s.cacheEntry agentId fileId entry).cache agentId fileId = some entry := by
    intro entry
    exact (Dict.find_put s.cache agentId fileId entry agentId fileId).trans (if_pos ⟨rfl, rfl⟩)
  cases cached : Dict.find s.cache agentId fileId with
  | some entry =>
      rw [cached] at found
      dsimp only at found ⊢
      rw [again, Option.some.inj found]
      rfl
  | none =>
      rw [cached] at found
      dsimp only at found ⊢
      cases loaded : (s.fileDir elsewhere agentId fileId).load fileId now with
      | none =>
          rw [loaded] at found
          cases found
      | some entry =>
          rw [loaded] at found
          dsimp only at found ⊢
          rw [again, Option.some.inj found]
          rfl

/-- A read of a stored text reads its lines. -/
theorem Stored.reading {α : Type} (stored : Stored elsewhere s agentId fileId filename lines) (now : ℚ)
    (read : CacheEntry → Option α) : s.reading elsewhere now agentId fileId read =
      ((s.getCached elsewhere now agentId fileId).1,
        read (.text { fileId, filename, lines, lastAccessed := now })) := by
  unfold FileStore.reading
  rw [stored.1, if_neg (by decide)]
  dsimp only
  rw [stored.2 now]
  rfl

/-- **A range of a stored text is a range of its lines.** -/
theorem Stored.readTextRange (stored : Stored elsewhere s agentId fileId filename lines) (now : ℚ)
    (startLine endLine : ℤ) : s.readTextRange elsewhere now agentId fileId startLine endLine =
      ((s.getCached elsewhere now agentId fileId).1,
        some (TextCacheEntry.readRange { fileId, filename, lines, lastAccessed := now } fileId startLine endLine)) :=
  stored.reading now _

/-- A line is found under its number. -/
theorem Stored.lineAt (stored : Stored elsewhere s agentId fileId filename lines) {k : ℕ} (inside : k < lines.length) :
    LineAt elsewhere s agentId fileId (k + 1) lines[k] := by
  intro now
  rw [stored.readTextRange, readRange_line { fileId, filename, lines, lastAccessed := now } fileId inside]
  exact ⟨_, rfl, rfl, rfl, rfl⟩

/-! ## Pages -/

/-- The line that the pages reach. -/
def reached (last : ℤ) (read : List ReadResult) : ℤ := read.foldl (fun _ page => page.endLine) last

/-- **The pages give the lines behind a line**, each once and in order, and the calls do not end before the text
unless they are too few. -/
structure Paged (lines : List PyStr) (last : ℕ) (calls : List (ℚ × ℤ)) (read : List ReadResult) : Prop where
  progress : ((last : ℤ) :: read.map ReadResult.endLine).IsChain (· < ·)
  whole : read.flatMap (fun page => page.content.splitOn newline) =
    (lines.take (reached last read).toNat).drop last
  ends : lines.length ≤ last + calls.length → reached last read = lines.length

/-- Pages that make progress reach no line before the one they start behind. -/
theorem le_reached {last : ℤ} {read : List ReadResult}
    (progress : (last :: read.map ReadResult.endLine).IsChain (· < ·)) : last ≤ reached last read := by
  induction read generalizing last with
  | nil => exact le_rfl
  | cons page read ih =>
      rw [List.map_cons] at progress
      obtain ⟨less, rest⟩ := List.isChain_cons_cons.1 progress
      exact (le_of_lt less).trans (ih rest)

/-- A list between two indices, and behind the second one. -/
theorem drop_take_append_drop {α : Type} {i j : ℕ} (before : i ≤ j) (xs : List α) :
    (xs.take j).drop i ++ xs.drop j = xs.drop i := by
  conv_rhs => rw [← List.take_append_drop j xs]
  rw [List.drop_append]
  by_cases long : j ≤ xs.length
  · rw [List.length_take, Nat.min_eq_left long, Nat.sub_eq_zero_of_le before, List.drop_zero]
  · rw [List.drop_eq_nil_of_le (Nat.le_of_not_le long), List.drop_nil]

/-- A page, taken apart again. -/
theorem splitOn_joinLines {ls : List PyStr} (some : ls ≠ []) (clean : ∀ l ∈ ls, newline ∉ l) :
    (joinLines ls).splitOn newline = ls :=
  List.splitOn_intercalate newline clean some

/-- **The pages of a stored text are pages of its lines**, as long as every call goes ahead. -/
theorem paged_pages (clean : ∀ l ∈ lines, newline ∉ l) (calls : List (ℚ × ℤ)) {last : ℕ}
    (inside : last < lines.length) (stored : Stored elsewhere s agentId fileId filename lines)
    (ahead : ∀ p ∈ calls.zip (pages elsewhere agentId fileId s last calls), p.2.startLine ≤ p.1.2) :
    Paged lines last calls (pages elsewhere agentId fileId s last calls) := by
  induction calls generalizing s last with
  | nil =>
      constructor
      · exact List.IsChain.singleton _
      · have none : (lines.take last).drop last = [] := by
          rw [List.drop_eq_nil_iff, List.length_take]
          omega
        exact none.symm
      · intro few
        rw [List.length_nil] at few
        omega
  | cons call calls ih =>
      obtain ⟨now, endLine⟩ := call
      unfold pages at ahead ⊢
      rw [stored.readTextRange] at ahead ⊢
      dsimp only at ahead ⊢
      have first := ahead _ (by rw [List.zip_cons_cons]; exact List.mem_cons_self)
      -- A page starts behind the last line that was read.
      have starts : ∀ entry : TextCacheEntry, (entry.readRange fileId (last + 1) endLine).startLine = last + 1 := by
        intro entry
        unfold TextCacheEntry.readRange
        dsimp only
        split
        · show max 1 ((last : ℤ) + 1) = last + 1
          omega
        · show max 1 ((last : ℤ) + 1) = last + 1
          omega
      dsimp only at first
      rw [starts] at first
      obtain ⟨next, above, within, page⟩ :=
        readRange_page { fileId, filename, lines, lastAccessed := now } fileId inside first
      rw [page] at ahead ⊢
      dsimp only at above within ahead ⊢
      have forward : (last : ℤ) < next := Int.ofNat_lt.2 above
      -- A page is split into the lines it was joined from.
      have split : (joinLines ((lines.take next).drop last)).splitOn newline = (lines.take next).drop last := by
        apply splitOn_joinLines
        · intro none
          rw [List.drop_eq_nil_iff, List.length_take] at none
          omega
        · intro l held
          exact clean l (List.mem_of_mem_take (List.mem_of_mem_drop held))
      by_cases final : (next : ℤ) = lines.length
      -- This was the last page.
      · rw [if_pos final]
        constructor
        · rw [List.map_cons, List.map_nil]
          exact List.isChain_cons_cons.2 ⟨forward, List.IsChain.singleton _⟩
        · rw [List.flatMap_cons, List.flatMap_nil, List.append_nil, split]
          rfl
        · intro _
          exact final
      -- The other pages start where this one ends.
      · rw [if_neg final] at ahead ⊢
        have before : next < lines.length := by omega
        have rest := ih before (stored.getCached now) fun p held => ahead p (by
          rw [List.zip_cons_cons]
          exact List.mem_cons_of_mem _ held)
        constructor
        · rw [List.map_cons]
          exact List.isChain_cons_cons.2 ⟨forward, rest.progress⟩
        · rw [List.flatMap_cons, split, rest.whole]
          have beyond := le_reached rest.progress
          show _ = (lines.take (reached next _).toNat).drop last
          generalize reached next (pages elsewhere agentId fileId
            (s.getCached elsewhere now agentId fileId).1 next calls) = stop at beyond ⊢
          -- The lines up to here are the first ones of all the lines that were read.
          have here : lines.take next = (lines.take stop.toNat).take next := by
            rw [List.take_take, Nat.min_eq_left (by omega)]
          rw [here]
          exact drop_take_append_drop (Nat.le_of_lt above) _
        · intro few
          rw [List.length_cons] at few
          exact rest.ends (by omega)

/-! ## Hits -/

/-- A line of the context is a line under its number. -/
theorem Stored.contextLine (stored : Stored elsewhere s agentId fileId filename lines) (now : ℚ) {index : ℤ}
    (start : 0 ≤ index) (inside : index < lines.length) : ∃ number line,
      TextCacheEntry.contextLine { fileId, filename, lines, lastAccessed := now } index =
        ofString s!"L{number}: " ++ line ∧ LineAt elsewhere s agentId fileId number line := by
  obtain ⟨k, rfl⟩ := Int.eq_ofNat_of_zero_le start
  have within : k < lines.length := Int.ofNat_lt.1 inside
  refine ⟨(k : ℤ) + 1, lines[k], ?_, stored.lineAt within⟩
  unfold TextCacheEntry.contextLine
  rw [Int.toNat_natCast, List.getD_eq_getElem?_getD, List.getElem?_eq_getElem within]
  rfl

/-- **A hit shows lines under their numbers.** -/
theorem Stored.hitAt (stored : Stored elsewhere s agentId fileId filename lines) (now : ℚ) (contextLines : ℤ)
    {n : PyStr × ℕ} (held : n ∈ lines.zipIdx) {hit : SearchHit}
    (here : hit = TextCacheEntry.hitAt { fileId, filename, lines, lastAccessed := now } contextLines n.2 n.1) :
    LineAt elsewhere s agentId fileId hit.lineNumber hit.lineContent ∧
      ∀ context ∈ hit.contextBefore ++ hit.contextAfter, ∃ number line,
        context = ofString s!"L{number}: " ++ line ∧ LineAt elsewhere s agentId fileId number line := by
  obtain ⟨inside, line⟩ := List.mem_zipIdx' held
  subst here
  constructor
  · have found := stored.lineAt inside
    rw [← line] at found
    exact found
  · intro context member
    rcases List.mem_append.1 member with before | after
    · obtain ⟨j, range, rfl⟩ := List.mem_map.1 before
      have bound := List.mem_range.1 range
      exact stored.contextLine now (by omega) (by omega)
    · obtain ⟨j, range, rfl⟩ := List.mem_map.1 after
      have bound := List.mem_range.1 range
      dsimp only at bound
      exact stored.contextLine now (by omega) (by omega)

/-- **A search** counts the lines that contain the query, and shows the first ones. -/
structure Searched (elsewhere : Disk → PyStr → PyStr → FileDir) (s : FileStore) (agentId fileId : PyStr)
    (lines : List PyStr) (same : CodePoint → CodePoint → Bool) (query : PyStr) (maxHits : ℤ)
    (result : SearchResult) : Prop where
  totalHits : result.totalHits = (matching same query lines.zipIdx).length
  hits : result.hits.map (fun hit => (hit.lineContent, hit.lineNumber)) =
    ((matching same query lines.zipIdx).take maxHits.toNat).map fun n => (n.1, n.2 + 1)
  shown : ∀ hit ∈ result.hits, LineAt elsewhere s agentId fileId hit.lineNumber hit.lineContent ∧
    ∀ context ∈ hit.contextBefore ++ hit.contextAfter, ∃ number line,
      context = ofString s!"L{number}: " ++ line ∧ LineAt elsewhere s agentId fileId number line

/-- A search of a stored text searches its lines. -/
theorem searched_searchText (stored : Stored elsewhere s agentId fileId filename lines)
    (ignoreCase : CodePoint → CodePoint → Bool) (now : ℚ) {query : PyStr} (asked : isBlank query = false)
    (caseInsensitive : Bool) (maxHits contextLines : ℤ) : ∃ result,
      (s.searchText elsewhere ignoreCase now agentId fileId query caseInsensitive maxHits contextLines).2 =
        some result ∧
      Searched elsewhere s agentId fileId lines (if caseInsensitive then ignoreCase else (· == ·)) query maxHits
        result := by
  unfold FileStore.searchText
  rw [stored.reading]
  refine ⟨_, rfl, ?_⟩
  generalize (if caseInsensitive then ignoreCase else fun a b => a == b) = same
  unfold TextCacheEntry.search
  dsimp only
  rw [asked, if_neg Bool.false_ne_true, foldl_scan]
  dsimp only
  rw [List.nil_append, List.length_nil, show maxHits - ((0 : ℕ) : ℤ) = maxHits by omega, Nat.zero_add]
  constructor
  · rfl
  · rw [List.map_map]
    rfl
  · intro hit held
    obtain ⟨n, member, here⟩ := List.mem_map.1 held
    have numbered := (List.mem_filter.1 (List.mem_of_mem_take member)).1
    exact stored.hitAt now contextLines numbered here.symm

/-! ## The guarantee -/

/-- **A stored text can be paged through and searched.**  Pages whose requested end does not come before their
start go on to the end of the text and give every line once and in order; a text without lines is one empty
page.  A search counts the lines with the query, and numbers what it shows as a reader does. -/
theorem text_navigated {text : PyStr}
    (stored : Stored elsewhere s agentId fileId filename (splitLines text))
    (ignoreCase : CodePoint → CodePoint → Bool) :
    (∀ calls : List (ℚ × ℤ),
      (∀ p ∈ calls.zip (pages elsewhere agentId fileId s 0 calls), p.2.startLine ≤ p.1.2) →
        (splitLines text ≠ [] → Paged (splitLines text) 0 calls (pages elsewhere agentId fileId s 0 calls)) ∧
        (splitLines text = [] → ∀ page ∈ pages elsewhere agentId fileId s 0 calls,
          page.content = [] ∧ page.endLine = 0)) ∧
    ∀ (now : ℚ) (query : PyStr) (caseInsensitive : Bool) (maxHits contextLines : ℤ), isBlank query = false →
      ∃ result,
        (s.searchText elsewhere ignoreCase now agentId fileId query caseInsensitive maxHits contextLines).2 =
          some result ∧
        Searched elsewhere s agentId fileId (splitLines text)
          (if caseInsensitive then ignoreCase else (· == ·)) query maxHits result := by
  constructor
  · intro calls ahead
    constructor
    · intro some
      exact paged_pages newline_not_mem_splitLines calls (List.length_pos_iff.2 some) stored ahead
    -- An empty text has one empty page, whatever is asked for.
    · intro none page held
      rcases calls with - | ⟨⟨now, endLine⟩, calls⟩
      · cases held
      · unfold pages at held ahead
        rw [stored.readTextRange, none] at held ahead
        dsimp only at held ahead
        have first := ahead _ (by rw [List.zip_cons_cons]; exact List.mem_cons_self)
        have empty : TextCacheEntry.readRange { fileId, filename, lines := [], lastAccessed := now } fileId (0 + 1)
            endLine = { fileId, filename, totalLines := 0, startLine := 1, endLine := 0, content := [] } := by
          have least : 1 ≤ endLine := by
            refine le_trans ?_ first
            unfold TextCacheEntry.readRange
            dsimp only
            split
            · exact le_max_left _ _
            · exact le_max_left _ _
          have stop : min endLine (([] : List PyStr).length : ℤ) = 0 := by
            rw [List.length_nil]
            omega
          unfold TextCacheEntry.readRange TextCacheEntry.totalLines
          dsimp only
          rw [stop]
          rfl
        rw [empty] at held
        dsimp only at held
        rw [if_pos (show (0 : ℤ) = ((0 : ℕ) : ℤ) from rfl), List.mem_singleton] at held
        rw [held]
        exact ⟨rfl, rfl⟩
  · intro now query caseInsensitive maxHits contextLines asked
    exact searched_searchText stored ignoreCase now asked caseInsensitive maxHits contextLines

end Store

/-- A store in which a text was just added as notes. -/
def withNotes (text : PyStr) : FileStore :=
  ((FileStore.new 1800).addTextFile 0 (ofString "agent") (ofString "notes.md") (ofString "notes.md") text).1

/-- A text that was stored is there. -/
theorem stored_withNotes (text : PyStr) (encodes : (encode text).isSome = true) : Stored (fun _ _ _ => {})
    (withNotes text) (ofString "agent") (ofString "notes.md") (ofString "notes.md") (splitLines text) := by
  apply stored_addTextFile
  obtain ⟨written, encoded⟩ := Option.isSome_iff_exists.1 encodes
  have safe : safeIds (ofString "agent") (ofString "notes.md") = true := by decide +kernel
  unfold FileStore.addTextFile FileStore.writeTextToDisk
  rw [safe, encoded]
  rfl

/-- **A requested end before the start leads back**, and the page of a text without lines, taken apart, is an
empty line. -/
theorem not_always_navigated :
    (¬ ∀ (elsewhere : Disk → PyStr → PyStr → FileDir) (s : FileStore) (agentId fileId filename text : PyStr)
        (calls : List (ℚ × ℤ)), Stored elsewhere s agentId fileId filename (splitLines text) →
        (0 :: (pages elsewhere agentId fileId s 0 calls).map ReadResult.endLine).IsChain (· < ·)) ∧
      ¬ ∀ (elsewhere : Disk → PyStr → PyStr → FileDir) (s : FileStore) (agentId fileId filename text : PyStr)
        (calls : List (ℚ × ℤ)), Stored elsewhere s agentId fileId filename (splitLines text) →
        (∀ p ∈ calls.zip (pages elsewhere agentId fileId s 0 calls), p.2.startLine ≤ p.1.2) →
          (pages elsewhere agentId fileId s 0 calls).flatMap (fun page => page.content.splitOn newline) =
            (splitLines text).take (reached 0 (pages elsewhere agentId fileId s 0 calls)).toNat := by
  constructor
  · intro always
    have stored := stored_withNotes (ofString "one\ntwo\n") (by decide +kernel)
    exact absurd (always _ _ _ _ _ _ [(1, 1), (2, 0), (3, 2)] stored) (by decide +kernel)
  · intro always
    have stored := stored_withNotes [] (by decide +kernel)
    exact absurd (always _ _ _ _ _ _ [(1, 1)] stored (by decide +kernel)) (by decide +kernel)

/-- Two lines, one page each. -/
theorem text_navigated_twoLines :
    Paged (splitLines (ofString "one\ntwo\n")) 0 [(1, 1), (2, 5)] (pages (fun _ _ _ => {}) (ofString "agent")
      (ofString "notes.md") (withNotes (ofString "one\ntwo\n")) 0 [(1, 1), (2, 5)]) :=
  ((text_navigated (stored_withNotes _ (by decide +kernel)) (· == ·)).1 [(1, 1), (2, 5)] (by decide +kernel)).1
    (by decide +kernel)

end Feros
