import Authorship.Proofs.History.Authors
import Authorship.Proofs.History.Record
import Authorship.Proofs.History.Registry

namespace Authorship

def Change.lineCount? (files : Registry File) (change : Change) : Option Log.LineCount :=
  (files.get? change.file).map fun file => ⟨change.adds, change.deletes, file.path⟩

namespace Log

open Authorship.Calendar

def Record.summary? : Record → Option Summary
  | .summary said => some said
  | .lineCount _ => none

def Record.lineCount? : Record → Option LineCount
  | .summary _ => none
  | .lineCount count => some count

def summaries (records : List Record) : List Summary :=
  records.filterMap Record.summary?

def lineCounts (records : List Record) : List LineCount :=
  records.filterMap Record.lineCount?

def nearest? (records : List Record) : Option Summary :=
  (summaries records).getLast?

/-- The line counts whose nearest summary before them has the given hash. -/
def countsOf (hash : String) (records : List Record) : List LineCount :=
  records.zipIdx.filterMap fun (record, i) =>
    if (nearest? (records.take i)).any (·.hash == hash) then record.lineCount? else none

/-- What a history has of the records of a log. -/
structure Meaning (aliases : Aliases) (records : List Record) (history : History) : Prop where
  /-- The commits are the hashes in the order of their first summaries. -/
  hashes : history.commits.keys = ((summaries records).map Summary.hash).eraseDups
  latest : ∀ commit ∈ history.commits.items, ∃ before summary after,
    records = before ++ .summary summary :: after ∧
      (∀ later ∈ summaries after, later.hash ≠ summary.hash) ∧
      commit.hash = summary.hash ∧
      commit.author.bind history.authors.get? = some ⟨aliases.resolve summary.email⟩ ∧
      commit.timestamp = some summary.timestamp ∧ commit.summary = summary.subject
  /-- The changes of a commit are the line counts that belong to its hash, in their order. -/
  changes : ∀ commit ∈ history.commits.items,
    commit.changes.map (Change.lineCount? history.files) = (countsOf commit.hash records).map some
  /-- The files are the paths in the order of their first line counts. -/
  paths : history.files.keys = ((lineCounts records).map LineCount.path).eraseDups
  /-- The authors are the canonical names of all summaries. -/
  names : history.authors.keys =
    ((summaries records).map fun summary => aliases.resolve summary.email).eraseDups
  /-- No line count is lost, and none counts twice. -/
  total : ((history.commits.items.flatMap Commit.changes).map
    (Change.lineCount? history.files)).Perm ((lineCounts records).map some)

theorem summaries_append (before after : List Record) :
    summaries (before ++ after) = summaries before ++ summaries after :=
  List.filterMap_append

theorem lineCounts_append (before after : List Record) :
    lineCounts (before ++ after) = lineCounts before ++ lineCounts after :=
  List.filterMap_append

theorem nearest?_concat_summary (records : List Record) (summary : Summary) :
    nearest? (records ++ [.summary summary]) = some summary := by
  simp [nearest?, summaries, Record.summary?]

theorem nearest?_concat_lineCount (records : List Record) (count : LineCount) :
    nearest? (records ++ [.lineCount count]) = nearest? records := by
  simp [nearest?, summaries, Record.summary?]

theorem countsOf_concat (hash : String) (records : List Record) (record : Record) :
    countsOf hash (records ++ [record]) = countsOf hash records ++
      if (nearest? records).any (·.hash == hash) then record.lineCount?.toList else [] := by
  unfold countsOf
  rw [List.zipIdx_append, List.filterMap_append]
  congr 1
  · apply List.filterMap_congr
    rintro ⟨other, i⟩ hi
    have hlt := (List.mem_zipIdx hi).2.1
    have ht : (records ++ [record]).take i = records.take i :=
      List.take_append_of_le_length (by omega)
    simp only [ht]
  · simp only [List.zipIdx_cons, List.zipIdx_nil, List.filterMap_cons, List.filterMap_nil,
      Nat.zero_add, List.take_left]
    split <;> rename_i h
    · split at h <;> simp_all
    · split at h <;> simp_all

theorem countsOf_concat_summary (hash : String) (records : List Record) (summary : Summary) :
    countsOf hash (records ++ [.summary summary]) = countsOf hash records := by
  rw [countsOf_concat]
  simp [Record.lineCount?]

theorem countsOf_eq_nil {hash : String} {records : List Record}
    (h : ∀ summary ∈ summaries records, summary.hash ≠ hash) : countsOf hash records = [] := by
  induction records using List.reverseRecOn with
  | nil => rfl
  | append_singleton records record ih =>
    rw [summaries_append] at h
    rw [countsOf_concat, ih fun summary hs => h summary (List.mem_append_left _ hs)]
    have hn : (nearest? records).any (·.hash == hash) = false := by
      cases hs : nearest? records with
      | none => rfl
      | some summary =>
        have hm := h summary (List.mem_append_left _ (List.mem_of_getLast? hs))
        simpa using hm
    simp [hn]

theorem lineCount?_request {files : Registry File} {change : Change} {count : LineCount}
    (path : String) (h : change.lineCount? files = some count) :
    change.lineCount? (files.request path).2 = some count := by
  obtain ⟨file, hg, rfl⟩ := Option.map_eq_some_iff.mp h
  exact Option.map_eq_some_iff.mpr ⟨file, Registry.get?_request_of_get? path hg, rfl⟩

theorem lineCount?_new (files : Registry File) (count : LineCount) :
    (Change.mk (files.request count.path).1 count.adds count.deletes).lineCount?
      (files.request count.path).2 = some count := by
  obtain ⟨file, hg, hp⟩ := files.get?_request count.path
  refine Option.map_eq_some_iff.mpr ⟨file, hg, ?_⟩
  cases count
  cases hp
  rfl

/-- Where the reading of a log stands after its first records: the commit at hand is that of the
last summary. -/
structure Reached (aliases : Aliases) (records : List Record) (progress : Progress) : Prop where
  meaning : Meaning aliases records progress.history
  current : (progress.current = none ∧ nearest? records = none) ∨
    ∃ handle commit summary, progress.current = some handle ∧
      progress.history.commits.get? handle = some commit ∧
      nearest? records = some summary ∧ commit.hash = summary.hash

theorem reached_start (aliases : Aliases) : Reached aliases [] .start :=
  ⟨⟨rfl, by simp [Progress.start, History.empty, Registry.empty],
    by simp [Progress.start, History.empty, Registry.empty], rfl, rfl, .nil⟩, .inl ⟨rfl, rfl⟩⟩

theorem flatMap_modify {α β : Type} {change : α → α} {f : α → List β} (list : List α) (i : Nat)
    (h : ∀ a, f (change a) = f a) : (list.modify i change).flatMap f = list.flatMap f := by
  by_cases hi : i < list.length
  · rw [List.modify_eq_take_cons_drop hi]
    conv_rhs => rw [← List.take_append_drop i list, List.drop_eq_getElem_cons hi]
    simp only [List.flatMap_append, List.flatMap_cons, h]
  · rw [List.modify_eq_self (Nat.le_of_not_lt hi)]

theorem perm_flatMap_modify {α β : Type} {change : α → α} {f : α → List β} {list : List α}
    {i : Nat} (hi : i < list.length) (b : β) (h : ∀ a, f (change a) = f a ++ [b]) :
    ((list.modify i change).flatMap f).Perm (list.flatMap f ++ [b]) := by
  rw [List.modify_eq_take_cons_drop hi]
  conv_rhs => rw [← List.take_append_drop i list, List.drop_eq_getElem_cons hi]
  simp only [List.flatMap_append, List.flatMap_cons, h, List.append_assoc]
  exact .append_left _ (.append_left _ List.perm_append_comm)

namespace Progress

/-- The commit of a summary, as it is after the summary. -/
def revised (author : Handle Author) (summary : Summary) (commit : Commit) : Commit :=
  { commit with
    author := some author
    summary := summary.subject
    timestamp := some summary.timestamp }

@[simp]
theorem key_revised (author : Handle Author) (summary : Summary) (commit : Commit) :
    Entity.key (revised author summary commit) = Entity.key commit :=
  rfl

@[simp]
theorem changes_revised (author : Handle Author) (summary : Summary) (commit : Commit) :
    (revised author summary commit).changes = commit.changes :=
  rfl

theorem applySummary_eq (progress : Progress) (aliases : Aliases) (summary : Summary) :
    progress.applySummary aliases summary =
      let commits := progress.history.commits.request summary.hash
      let authors := progress.history.authors.request (aliases.resolve summary.email)
      ⟨⟨progress.history.files, authors.2, commits.2.modify commits.1 (revised authors.1 summary)⟩,
        some commits.1⟩ := by
  simp only [applySummary, History.requestCommit, History.setAuthor, History.requestAuthor,
    History.setSummary, History.setTimestamp, History.modifyCommit, Registry.modify_modify]
  rfl

/-- A commit with one more change. -/
def extended (file : Handle File) (count : LineCount) (commit : Commit) : Commit :=
  { commit with changes := commit.changes ++ [⟨file, count.adds, count.deletes⟩] }

@[simp]
theorem key_extended (file : Handle File) (count : LineCount) (commit : Commit) :
    Entity.key (extended file count commit) = Entity.key commit :=
  rfl

theorem applyLineCount_eq (progress : Progress) (handle : Handle Commit) (count : LineCount) :
    progress.applyLineCount handle count =
      let files := progress.history.files.request count.path
      ⟨⟨files.2, progress.history.authors,
        progress.history.commits.modify handle (extended files.1 count)⟩, progress.current⟩ :=
  rfl

theorem commit_cases {commits : Registry Commit} {hash : String} {author : Handle Author}
    {summary : Summary} {handle : Handle Commit} {commit : Commit} (hn : commits.keys.Nodup)
    (h : ((commits.request hash).2.modify (commits.request hash).1
      (revised author summary)).get? handle = some commit) :
    (∃ entry, (commits.get? handle = some entry ∨ (hash ∉ commits.keys ∧ entry.changes = [])) ∧
      entry.hash = hash ∧ commit = revised author summary entry) ∨
    (commits.get? handle = some commit ∧ commit.hash ≠ hash) := by
  rcases Registry.get?_modify_cases h with ⟨rfl, entry, hg, rfl⟩ | ⟨he, h⟩
  · obtain ⟨known, hk, hkey⟩ := commits.get?_request hash
    rw [hg] at hk
    cases hk
    refine .inl ⟨entry, ?_, hkey, rfl⟩
    rcases Registry.get?_request_cases hg with hold | ⟨hm, -, rfl⟩
    · exact .inl hold
    · exact .inr ⟨hm, rfl⟩
  · rcases Registry.get?_request_cases h with hold | ⟨-, hnew, -⟩
    · refine .inr ⟨hold, fun hk => he ?_⟩
      obtain ⟨entry, hg, hk'⟩ := commits.get?_request hash
      exact Registry.eq_of_key_eq (Registry.nodup_keys_request hash hn) h hg (hk.trans hk'.symm)
    · exact absurd hnew he

theorem extended_cases {commits : Registry Commit} {handle other : Handle Commit}
    {file : Handle File} {count : LineCount} {current commit : Commit} (hn : commits.keys.Nodup)
    (hc : commits.get? handle = some current)
    (h : (commits.modify handle (extended file count)).get? other = some commit) :
    commit = extended file count current ∨
      (commits.get? other = some commit ∧ commit.hash ≠ current.hash) := by
  rcases Registry.get?_modify_cases h with ⟨rfl, entry, hg, rfl⟩ | ⟨he, h⟩
  · rw [hc] at hg
    cases hg
    exact .inl rfl
  · exact .inr ⟨h, fun hk => he (Registry.eq_of_key_eq hn h hc hk)⟩

theorem flatMap_changes_revised (commits : Registry Commit) (hash : String)
    (author : Handle Author) (summary : Summary) :
    ((commits.request hash).2.modify (commits.request hash).1
      (revised author summary)).items.flatMap Commit.changes =
        commits.items.flatMap Commit.changes := by
  rw [Registry.modify, flatMap_modify _ _ (changes_revised author summary)]
  rcases commits.request_cases hash with ⟨_, _, hr, _, _⟩ | ⟨_, hr⟩
  · rw [hr]
  · rw [hr, List.flatMap_append]
    exact List.append_nil _

end Progress

namespace Reached

variable {aliases : Aliases} {records : List Record} {progress : Progress}

theorem nodup_commits (h : Reached aliases records progress) :
    progress.history.commits.keys.Nodup := by
  rw [h.meaning.hashes]
  exact nodup_eraseDups _

/-- A summary keeps the meaning. -/
theorem summary (h : Reached aliases records progress) (said : Summary) :
    Reached aliases (records ++ [.summary said]) (progress.applySummary aliases said) := by
  rw [Progress.applySummary_eq]
  have hs : summaries (records ++ [.summary said]) = summaries records ++ [said] :=
    summaries_append records _
  have hl : lineCounts (records ++ [.summary said]) = lineCounts records := by
    rw [lineCounts_append]
    exact List.append_nil _
  refine ⟨⟨?_, ?_, ?_, ?_, ?_, ?_⟩, ?_⟩
  · dsimp only
    rw [Registry.keys_modify _ _ (Progress.key_revised _ said), hs, List.map_append]
    exact Registry.keys_request_eraseDups _ h.meaning.hashes
  · intro commit hm
    obtain ⟨handle, hg⟩ := Registry.mem_items_iff.mp hm
    rcases Progress.commit_cases h.nodup_commits hg with ⟨entry, -, hk, rfl⟩ | ⟨hg, hk⟩
    · obtain ⟨author, ha, hn⟩ :=
        progress.history.authors.get?_request (aliases.resolve said.email)
      refine ⟨records, said, [], rfl, by simp [summaries], hk, ?_, rfl, rfl⟩
      rw [show author = ⟨aliases.resolve said.email⟩ from congrArg Author.mk hn] at ha
      exact ha
    · obtain ⟨before, last, after, rfl, hlast, hhash, hauthor, htime, hsubject⟩ :=
        h.meaning.latest commit (Registry.mem_items_iff.mpr ⟨handle, hg⟩)
      refine ⟨before, last, after ++ [.summary said], by simp, ?_, hhash, ?_, htime, hsubject⟩
      · intro later hm
        rw [summaries_append] at hm
        rcases List.mem_append.mp hm with hm | hm
        · exact hlast later hm
        · rw [List.mem_singleton.mp hm, ← hhash]
          exact hk.symm
      · obtain ⟨author, ha, hg⟩ := Option.bind_eq_some_iff.mp hauthor
        rw [ha]
        exact Registry.get?_request_of_get? _ hg
  · intro commit hm
    rw [countsOf_concat_summary]
    obtain ⟨handle, hg⟩ := Registry.mem_items_iff.mp hm
    rcases Progress.commit_cases h.nodup_commits hg with ⟨entry, hentry, hk, rfl⟩ | ⟨hg, -⟩
    · rcases hentry with hg | ⟨hnew, hnone⟩
      · exact h.meaning.changes entry (Registry.mem_items_iff.mpr ⟨handle, hg⟩)
      · have hc : countsOf entry.hash records = [] := by
          apply countsOf_eq_nil
          intro other ho he
          rw [h.meaning.hashes, List.mem_eraseDups] at hnew
          exact hnew (List.mem_map.mpr ⟨other, ho, he.trans hk⟩)
        simp only [Progress.revised, hnone, hc, List.map_nil]
    · exact h.meaning.changes commit (Registry.mem_items_iff.mpr ⟨handle, hg⟩)
  · rw [hl]
    exact h.meaning.paths
  · rw [hs, List.map_append]
    exact Registry.keys_request_eraseDups _ h.meaning.names
  · rw [hl, Progress.flatMap_changes_revised]
    exact h.meaning.total
  · obtain ⟨entry, hg, hk⟩ := progress.history.commits.get?_request said.hash
    exact .inr ⟨_, _, said, rfl, (Registry.get?_modify_self _ _ _).trans (congrArg _ hg),
      nearest?_concat_summary _ _, hk⟩

theorem map_eq_of_map_some {α β : Type} {f g : α → Option β} {list : List α} {values : List β}
    (h : (list.map f).Perm (values.map some)) (hg : ∀ a b, f a = some b → g a = some b) :
    list.map g = list.map f := by
  apply List.map_congr_left
  intro a ha
  obtain ⟨b, -, hb⟩ := List.mem_map.mp (h.mem_iff.mp (List.mem_map_of_mem ha))
  rw [← hb, hg a b hb.symm]

/-- A line count keeps the meaning, if there is a commit for it. -/
theorem lineCount {handle : Handle Commit} (h : Reached aliases records progress)
    (hc : progress.current = some handle) (count : LineCount) :
    Reached aliases (records ++ [.lineCount count]) (progress.applyLineCount handle count) := by
  obtain ⟨hn, -⟩ | ⟨handle', current, said, hc', hg, hs, hk⟩ := h.current
  · rw [hc] at hn
    cases hn
  obtain rfl : handle' = handle := Option.some.inj (hc'.symm.trans hc)
  have hsum : summaries (records ++ [.lineCount count]) = summaries records := by
    rw [summaries_append]
    exact List.append_nil _
  have hlines : lineCounts (records ++ [.lineCount count]) = lineCounts records ++ [count] :=
    lineCounts_append records _
  have hown (hash : String) : countsOf hash (records ++ [.lineCount count]) =
      countsOf hash records ++ if said.hash = hash then [count] else [] := by
    rw [countsOf_concat, hs]
    simp [Record.lineCount?]
  rw [Progress.applyLineCount_eq]
  dsimp only
  have hold {change : Change} {other : LineCount}
      (ho : change.lineCount? progress.history.files = some other) :
      change.lineCount? (progress.history.files.request count.path).2 = some other :=
    lineCount?_request count.path ho
  have hnew := lineCount?_new progress.history.files count
  refine ⟨⟨?_, ?_, ?_, ?_, ?_, ?_⟩, ?_⟩
  · dsimp only
    rw [Registry.keys_modify _ _ (Progress.key_extended _ count), hsum]
    exact h.meaning.hashes
  · intro commit hm
    obtain ⟨other, hg'⟩ := Registry.mem_items_iff.mp hm
    have hafter : summaries [.lineCount count] = [] := rfl
    rcases Progress.extended_cases h.nodup_commits hg hg' with rfl | ⟨hg', -⟩
    · obtain ⟨before, last, after, he, hlast, hrest⟩ :=
        h.meaning.latest current (Registry.mem_items_iff.mpr ⟨_, hg⟩)
      refine ⟨before, last, after ++ [.lineCount count], by rw [he]; simp, ?_, hrest⟩
      rwa [summaries_append, hafter, List.append_nil]
    · obtain ⟨before, last, after, he, hlast, hrest⟩ :=
        h.meaning.latest commit (Registry.mem_items_iff.mpr ⟨_, hg'⟩)
      refine ⟨before, last, after ++ [.lineCount count], by rw [he]; simp, ?_, hrest⟩
      rwa [summaries_append, hafter, List.append_nil]
  · intro commit hm
    obtain ⟨other, hg'⟩ := Registry.mem_items_iff.mp hm
    have hkeep {commit : Commit} (hm : commit ∈ progress.history.commits.items) :
        commit.changes.map
          (Change.lineCount? (progress.history.files.request count.path).2) =
            (countsOf commit.hash records).map some := by
      have hc := h.meaning.changes commit hm
      rw [← hc]
      exact map_eq_of_map_some (.of_eq hc) fun _ _ => hold
    rcases Progress.extended_cases h.nodup_commits hg hg' with rfl | ⟨hg', hne⟩
    · have hc := hkeep (Registry.mem_items_iff.mpr ⟨_, hg⟩)
      simp only [Progress.extended, List.map_append, List.map_cons, List.map_nil, hown, hc, hnew,
        hk, if_pos]
    · rw [hown, if_neg fun he => hne (he.symm.trans hk.symm), List.append_nil]
      exact hkeep (Registry.mem_items_iff.mpr ⟨_, hg'⟩)
  · rw [hlines, List.map_append]
    exact Registry.keys_request_eraseDups _ h.meaning.paths
  · rw [hsum]
    exact h.meaning.names
  · have hperm := perm_flatMap_modify (List.getElem?_eq_some_iff.mp hg).1
      (Change.mk (progress.history.files.request count.path).1 count.adds count.deletes)
      fun commit => (rfl : (Progress.extended _ count commit).changes = _)
    have hmap := map_eq_of_map_some h.meaning.total
      (g := Change.lineCount? (progress.history.files.request count.path).2) fun _ _ => hold
    rw [hlines, List.map_append]
    refine (hperm.map _).trans ?_
    rw [List.map_append, hmap, List.map_cons, hnew]
    exact h.meaning.total.append_right _
  · exact .inr ⟨handle', _, said, hc, (Registry.get?_modify_self _ _ _).trans (congrArg _ hg),
      (nearest?_concat_lineCount _ _).trans hs, hk⟩

theorem record {next : Progress} {record : Record} (h : Reached aliases records progress)
    (hr : progress.applyRecord aliases record = some next) :
    Reached aliases (records ++ [record]) next := by
  cases record with
  | summary said =>
    cases hr
    exact h.summary said
  | lineCount count =>
    obtain ⟨handle, hc, rfl⟩ := Option.map_eq_some_iff.mp hr
    exact h.lineCount hc count

theorem run {final : Progress} {more : List Record} (h : Reached aliases records progress)
    (hf : more.foldlM (fun progress record => progress.applyRecord aliases record) progress =
      some final) : Reached aliases (records ++ more) final := by
  induction more generalizing records progress with
  | nil =>
    cases hf
    rwa [List.append_nil]
  | cons record more ih =>
    rw [List.foldlM_cons] at hf
    obtain ⟨next, hr, hf⟩ := Option.bind_eq_some_iff.mp hf
    have hall := ih (h.record hr) hf
    rwa [List.append_assoc] at hall

end Reached

theorem meaning_of_read {dates : DateReader} {aliases : Aliases} {lines : List String}
    {history : History} (h : read dates aliases lines = .ok history) :
    ∃ records, List.Forall₂ (Says dates) (recordLines lines) records ∧
      Meaning aliases records history := by
  unfold read at h
  cases hr : readFrom dates aliases .start 1 lines with
  | error fault =>
    rw [hr] at h
    cases h
  | ok final =>
    rw [hr] at h
    cases h
    obtain ⟨records, hall, hf⟩ := says_of_readFrom hr
    exact ⟨records, hall, ((reached_start aliases).run hf).meaning⟩

/-- A log that is read tells records, one for each line that is not blank, and its history has the
meaning of these records. -/
theorem exists_meaning {dates : DateReader} {aliases : Aliases} {lines : List String}
    {history : History} (h : read dates aliases lines = .ok history) :
    ∃ records, List.Forall₂ (Says dates) (recordLines lines) records ∧
      Meaning aliases records history ∧
      (history.authorsByName.map (·.2.name)).Perm
        ((summaries records).map fun summary => aliases.resolve summary.email).eraseDups ∧
      (history.commits.items.flatMap Commit.changes).length = (lineCounts records).length := by
  obtain ⟨records, hall, hm⟩ := meaning_of_read h
  have hn := (History.map_name_authorsByName history).trans (.of_eq hm.names)
  refine ⟨records, hall, hm, hn, ?_⟩
  simpa using hm.total.length_eq

/-- A log in which the records of two commits stand among each other. -/
def interleavedLines : List String :=
  ["\x00a@x\x002025-01-01\x00H1\x00first\r\n", "1\t2\ta.py", " \t ",
    "\x00 b@x \x002025-01-02\x00H2\x00second\x00rest", "-\t3\tb.py",
    "\x00c@x\x002025-01-03T10:00:00+02:00\x00 H1\x00again", "4\tx\ta.py\tb"]

theorem exists_meaning_interleavedLines :
    ∃ history,
      read sampleDates (Aliases.empty.set "b@x" "Bob") interleavedLines = .ok history ∧
      ∃ records, List.Forall₂ (Says sampleDates) (recordLines interleavedLines) records ∧
        Meaning (Aliases.empty.set "b@x" "Bob") records history ∧
        (history.authorsByName.map (·.2.name)).Perm
          ((summaries records).map fun summary =>
            (Aliases.empty.set "b@x" "Bob").resolve summary.email).eraseDups ∧
        (history.commits.items.flatMap Commit.changes).length = (lineCounts records).length := by
  have hok : (read sampleDates (Aliases.empty.set "b@x" "Bob") interleavedLines).isOk = true := by
    decide +kernel
  cases h : read sampleDates (Aliases.empty.set "b@x" "Bob") interleavedLines with
  | ok history => exact ⟨history, rfl, exists_meaning h⟩
  | error fault =>
    rw [h] at hok
    cases hok

end Log

end Authorship
