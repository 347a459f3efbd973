import Authorship.Proofs.History.Entries
import Authorship.Proofs.Number.Integer
import Authorship.Proofs.Text.Line
import Authorship.Proofs.Text.Utf8
import Authorship.Repository.Dump

namespace Authorship.Log

open Authorship.Calendar Authorship.Text Authorship.Number

/-- What is printed for a number of lines; a file that has no lines has a dash. -/
inductive Tally
  | dash
  | decimal (digits : List Char) (h : IsDecimal digits)

namespace Tally

def text : Tally → List Char
  | .dash => ['-']
  | .decimal digits _ => digits

def count : Tally → Int
  | .dash => 0
  | .decimal digits _ => ofDigits digits

theorem counts (tally : Tally) : Counts tally.text tally.count := by
  cases tally with
  | dash =>
    have hdash : readInteger ['-'] = .error .notInteger := by decide +kernel
    exact .other hdash
  | decimal digits h => exact .integer h.readInteger

theorem text_ne_nil (tally : Tally) : tally.text ≠ [] := by
  cases tally with
  | dash => exact List.cons_ne_nil _ _
  | decimal digits h => exact h.ne_nil

theorem printable (tally : Tally) : ∀ c ∈ tally.text, 32 < c.toNat ∧ c.toNat < 127 := by
  cases tally with
  | dash =>
    intro c hc
    rw [List.mem_singleton.mp hc]
    decide
  | decimal digits h => exact h.printable

theorem not_mem_text (tally : Tally) {c : Char} (hc : c.toNat ≤ 32) : c ∉ tally.text := by
  intro hm
  have hlow := (tally.printable c hm).1
  omega

end Tally

structure PrintedCount where
  adds : Tally
  deletes : Tally
  path : String
  oneLine : IsOneLine path.toList

namespace PrintedCount

def line (count : PrintedCount) : List Char :=
  count.adds.text ++ '\t' :: (count.deletes.text ++ '\t' :: count.path.toList)

def said (count : PrintedCount) : LineCount :=
  ⟨count.adds.count, count.deletes.count, count.path⟩

theorem exists_line_eq (count : PrintedCount) :
    ∃ c rest, count.line = c :: rest ∧ 32 < c.toNat ∧ c.toNat < 127 := by
  cases ht : count.adds.text with
  | nil => exact absurd ht count.adds.text_ne_nil
  | cons c rest =>
    refine ⟨c, rest ++ '\t' :: (count.deletes.text ++ '\t' :: count.path.toList), ?_, ?_⟩
    · rw [line, ht, List.cons_append]
    · exact count.adds.printable c (ht ▸ List.mem_cons_self)

theorem isOneLine_line (count : PrintedCount) : IsOneLine count.line := by
  have hnot {c : Char} (hc : c.toNat ≤ 32) (ht : c ≠ '\t') (hp : c ∉ count.path.toList) :
      c ∉ count.line := by
    intro hm
    simp only [line, List.mem_append, List.mem_cons, ht, hp, false_or, or_false] at hm
    rcases hm with hm | hm
    · exact count.adds.not_mem_text hc hm
    · exact count.deletes.not_mem_text hc hm
  exact ⟨hnot (by decide) (by decide) count.oneLine.lineFeed,
    hnot (by decide) (by decide) count.oneLine.carriageReturn⟩

theorem says_line (dates : DateReader) (count : PrintedCount) :
    Says dates count.line (.lineCount count.said) := by
  have hsays : Says dates count.line
      (.lineCount ⟨count.adds.count, count.deletes.count, String.ofList count.path.toList⟩) := by
    apply Says.lineCount
    · obtain ⟨c, rest, hl, hlow, -⟩ := count.exists_line_eq
      rw [line] at hl
      rw [hl, List.head?_cons]
      intro hc
      cases hc
      exact absurd hlow (by decide)
    · exact count.adds.not_mem_text (by decide)
    · exact count.deletes.not_mem_text (by decide)
    · exact count.adds.counts
    · exact count.deletes.counts
  rwa [String.ofList_toList] at hsays

end PrintedCount

structure PrintedField where
  text : String
  trimmed : trim text.toList = text.toList
  noNul : '\x00' ∉ text.toList
  oneLine : IsOneLine text.toList

theorem PrintedField.field_text (printed : PrintedField) :
    field printed.text.toList = printed.text := by
  rw [field, printed.trimmed, String.ofList_toList]

/-- A commit as it is printed, with a date that is accepted. -/
structure PrintedCommit (dates : DateReader) where
  email : PrintedField
  date : PrintedField
  hash : PrintedField
  subject : PrintedField
  counts : List PrintedCount
  timestamp : Timestamp
  dated : dates date.text = .ok timestamp

namespace PrintedCommit

variable {dates : DateReader}

/-- Prints a form: a placeholder stands for what it names, and what is none for itself. -/
def print (commit : PrintedCommit dates) : List Char → List Char
  | [] => []
  | '%' :: 'x' :: '0' :: '0' :: form => '\x00' :: commit.print form
  | '%' :: 'a' :: 'e' :: form => commit.email.text.toList ++ commit.print form
  | '%' :: 'a' :: 'd' :: form => commit.date.text.toList ++ commit.print form
  | '%' :: 'H' :: form => commit.hash.text.toList ++ commit.print form
  | '%' :: 's' :: form => commit.subject.text.toList ++ commit.print form
  | c :: form => c :: commit.print form

def summaryLine (commit : PrintedCommit dates) : List Char :=
  commit.print Repository.summaryForm.toList

def lines (commit : PrintedCommit dates) : List (List Char) :=
  commit.summaryLine :: commit.counts.map PrintedCount.line

def summary (commit : PrintedCommit dates) : Summary :=
  ⟨commit.email.text, commit.timestamp, commit.hash.text, commit.subject.text⟩

def records (commit : PrintedCommit dates) : List Record :=
  .summary commit.summary :: commit.counts.map fun count => .lineCount count.said

theorem summaryLine_eq (commit : PrintedCommit dates) :
    commit.summaryLine = '\x00' :: (commit.email.text.toList ++ '\x00' ::
      (commit.date.text.toList ++ '\x00' :: (commit.hash.text.toList ++ '\x00' ::
        (commit.subject.text.toList ++ [])))) :=
  rfl

theorem isOneLine_summaryLine (commit : PrintedCommit dates) : IsOneLine commit.summaryLine := by
  have hnot {c : Char} (h0 : c ≠ '\x00')
      (h : ∀ printed : PrintedField, c ∉ printed.text.toList) : c ∉ commit.summaryLine := by
    intro hm
    simp [summaryLine_eq, h0, h] at hm
  exact ⟨hnot (by decide) fun printed => printed.oneLine.lineFeed,
    hnot (by decide) fun printed => printed.oneLine.carriageReturn⟩

theorem says_summaryLine (commit : PrintedCommit dates) :
    Says dates commit.summaryLine (.summary commit.summary) := by
  have hdated : dates (field commit.date.text.toList) = .ok commit.timestamp := by
    rw [commit.date.field_text, commit.dated]
  have hsays := Says.summary commit.email.noNul commit.date.noNul commit.hash.noNul
    commit.subject.noNul (.inl rfl) hdated
  rw [commit.email.field_text, commit.hash.field_text, commit.subject.field_text] at hsays
  exact hsays

theorem isOneLine_of_mem_lines {commit : PrintedCommit dates} {line : List Char}
    (h : line ∈ commit.lines) : IsOneLine line := by
  rcases List.mem_cons.mp h with rfl | h
  · exact commit.isOneLine_summaryLine
  · obtain ⟨count, -, rfl⟩ := List.mem_map.mp h
    exact count.isOneLine_line

theorem any_not_isBlank_of_mem_lines {commit : PrintedCommit dates} {line : List Char}
    (h : line ∈ commit.lines) : (line.any fun c => !isBlank c) = true := by
  rcases List.mem_cons.mp h with rfl | h
  · rw [summaryLine_eq]
    rfl
  · obtain ⟨count, -, rfl⟩ := List.mem_map.mp h
    obtain ⟨c, rest, hl, hlow, hhigh⟩ := count.exists_line_eq
    rw [hl, List.any_cons, isBlank_of_printable hlow hhigh]
    rfl

theorem says_lines (commit : PrintedCommit dates) :
    List.Forall₂ (Says dates) commit.lines commit.records := by
  apply List.Forall₂.cons commit.says_summaryLine
  induction commit.counts with
  | nil => exact .nil
  | cons count counts ih => exact .cons (count.says_line dates) ih

end PrintedCommit

/-- The lines of commits, with an empty line between each two of them. -/
def dumpLines {dates : DateReader} (commits : List (PrintedCommit dates)) : List (List Char) :=
  [[]].intercalate (commits.map PrintedCommit.lines)

def dump {dates : DateReader} (commits : List (PrintedCommit dates)) : List UInt8 :=
  Utf8.encode (joinLines (dumpLines commits))

theorem intercalate_cons_cons {α : Type} (sep first second : List α) (rest : List (List α)) :
    sep.intercalate (first :: second :: rest) = first ++ (sep ++ sep.intercalate (second :: rest)) := by
  rw [List.intercalate_cons_of_ne_nil (List.cons_ne_nil second rest), List.append_assoc]

theorem mem_intercalate {α : Type} {sep : List α} {lists : List (List α)} {a : α}
    (h : a ∈ sep.intercalate lists) : a ∈ sep ∨ ∃ list ∈ lists, a ∈ list := by
  induction lists with
  | nil => simp at h
  | cons first rest ih =>
    cases rest with
    | nil =>
      rw [List.intercalate_singleton] at h
      exact .inr ⟨first, List.mem_singleton_self first, h⟩
    | cons second rest =>
      rw [intercalate_cons_cons, List.mem_append, List.mem_append] at h
      rcases h with h | h | h
      · exact .inr ⟨first, List.mem_cons_self, h⟩
      · exact .inl h
      · rcases ih h with h | ⟨list, hl, h⟩
        · exact .inl h
        · exact .inr ⟨list, List.mem_cons_of_mem first hl, h⟩

theorem filter_intercalate {α : Type} {p : α → Bool} {sep : List α} {lists : List (List α)}
    (hsep : ∀ a ∈ sep, p a = false) (hlists : ∀ list ∈ lists, ∀ a ∈ list, p a = true) :
    (sep.intercalate lists).filter p = lists.flatten := by
  have hnone : sep.filter p = [] := by
    rw [List.filter_eq_nil_iff]
    intro a ha
    rw [hsep a ha]
    exact Bool.false_ne_true
  induction lists with
  | nil => rfl
  | cons first rest ih =>
    have hfirst : first.filter p = first :=
      List.filter_eq_self.mpr (hlists first List.mem_cons_self)
    have hrest := ih fun list hl => hlists list (List.mem_cons_of_mem first hl)
    cases rest with
    | nil => rw [List.intercalate_singleton, hfirst, List.flatten_singleton]
    | cons second rest =>
      rw [intercalate_cons_cons, List.filter_append, List.filter_append, hfirst, hnone, hrest,
        List.nil_append]
      rfl

variable {dates : DateReader}

theorem isOneLine_of_mem_dumpLines {commits : List (PrintedCommit dates)} {line : List Char}
    (h : line ∈ dumpLines commits) : IsOneLine line := by
  rcases mem_intercalate h with h | ⟨lines, hl, h⟩
  · rw [List.mem_singleton.mp h]
    exact ⟨List.not_mem_nil, List.not_mem_nil⟩
  · obtain ⟨commit, -, rfl⟩ := List.mem_map.mp hl
    exact PrintedCommit.isOneLine_of_mem_lines h

theorem withoutNewline_of_isOneLine {line : List Char} (h : IsOneLine line) :
    withoutNewline (String.ofList line) = line := by
  rw [withoutNewline, String.toList_ofList]
  apply dropEnd_of_forall_false
  intro c hc
  rw [Bool.or_eq_false_iff, beq_eq_false_iff_ne, beq_eq_false_iff_ne]
  constructor
  · rintro rfl
    exact h.carriageReturn hc
  · rintro rfl
    exact h.lineFeed hc

theorem recordLines_fileLines_dump (commits : List (PrintedCommit dates)) :
    recordLines (fileLines (dump commits)) = commits.flatMap PrintedCommit.lines := by
  have hlines : ∀ line ∈ dumpLines commits, IsOneLine line := fun _ => isOneLine_of_mem_dumpLines
  have hmap : ((dumpLines commits).map String.ofList).map withoutNewline =
      (dumpLines commits).map id := by
    rw [List.map_map]
    exact List.map_congr_left fun line hl => withoutNewline_of_isOneLine (hlines line hl)
  rw [fileLines, dump, Utf8.decodeReplacing_encode, linesOf_unifyNewlines_joinLines hlines,
    recordLines, hmap, List.map_id, dumpLines, filter_intercalate]
  · rw [List.flatMap_def]
  · intro line hl
    rw [List.mem_singleton.mp hl]
    rfl
  · intro lines hl line hm
    obtain ⟨commit, -, rfl⟩ := List.mem_map.mp hl
    exact PrintedCommit.any_not_isBlank_of_mem_lines hm

theorem says_dump (commits : List (PrintedCommit dates)) :
    List.Forall₂ (Says dates) (recordLines (fileLines (dump commits)))
      (commits.flatMap PrintedCommit.records) := by
  rw [recordLines_fileLines_dump]
  induction commits with
  | nil => exact .nil
  | cons commit commits ih =>
    rw [List.flatMap_cons, List.flatMap_cons]
    exact List.rel_append commit.says_lines ih

def PrintedCommit.entry (commit : PrintedCommit dates) : Entry :=
  ⟨commit.summary, commit.counts.map PrintedCount.said⟩

theorem flatMap_records (commits : List (PrintedCommit dates)) :
    commits.flatMap PrintedCommit.records =
      (commits.map PrintedCommit.entry).flatMap Entry.records := by
  rw [List.flatMap_map]
  apply List.flatMap_congr
  intro commit _
  rw [PrintedCommit.records, PrintedCommit.entry, Entry.records, List.map_map]
  rfl

theorem countsOf_records (hash : String) (commits : List (PrintedCommit dates)) :
    countsOf hash (commits.flatMap PrintedCommit.records) =
      commits.flatMap fun commit =>
        if commit.hash.text = hash then commit.counts.map PrintedCount.said else [] := by
  rw [flatMap_records, countsOf_entries, List.flatMap_map]
  rfl

theorem summaries_records (commits : List (PrintedCommit dates)) :
    summaries (commits.flatMap PrintedCommit.records) = commits.map PrintedCommit.summary := by
  rw [flatMap_records, summaries_entries, List.map_map]
  rfl

theorem lineCounts_records (commits : List (PrintedCommit dates)) :
    lineCounts (commits.flatMap PrintedCommit.records) =
      commits.flatMap fun commit => commit.counts.map PrintedCount.said := by
  rw [flatMap_records, lineCounts_entries, List.flatMap_map]
  rfl

theorem map_eq_map_of_key {α β γ : Type} {f : α → γ} {g : β → γ} {k : α → String} {l : β → String}
    {first : List α} {second : List β} (hk : first.map k = second.map l)
    (hn : (second.map l).Nodup) (h : ∀ a ∈ first, ∃ b ∈ second, k a = l b ∧ f a = g b) :
    first.map f = second.map g := by
  induction first generalizing second with
  | nil =>
    rw [List.map_nil, eq_comm, List.map_eq_nil_iff] at hk
    rw [hk, List.map_nil, List.map_nil]
  | cons a first ih =>
    cases second with
    | nil => cases hk
    | cons b second =>
      obtain ⟨hab, htail⟩ := List.cons.inj hk
      obtain ⟨hb, hrest⟩ := List.nodup_cons.mp hn
      have hfirst : f a = g b := by
        obtain ⟨c, hc, hkey, hf⟩ := h a List.mem_cons_self
        rcases List.mem_cons.mp hc with rfl | hc
        · exact hf
        · refine absurd ?_ hb
          rw [← hab, hkey]
          exact List.mem_map_of_mem hc
      have hothers : ∀ c ∈ first, ∃ d ∈ second, k c = l d ∧ f c = g d := by
        intro c hc
        obtain ⟨d, hd, hkey, hf⟩ := h c (List.mem_cons_of_mem a hc)
        rcases List.mem_cons.mp hd with rfl | hd
        · refine absurd ?_ hb
          rw [← hkey, ← htail]
          exact List.mem_map_of_mem hc
        · exact ⟨d, hd, hkey, hf⟩
      rw [List.map_cons, List.map_cons, hfirst, ih htail hrest hothers]

/-- What a commit of a history tells, with the author and the paths that its handles stand for. -/
structure Told where
  hash : String
  author : Option String
  timestamp : Option Timestamp
  subject : String
  changes : List (Option LineCount)
deriving DecidableEq

def told (history : History) (commit : Commit) : Told :=
  ⟨commit.hash, history.authorName? commit, commit.timestamp, commit.summary,
    commit.changes.map (Change.lineCount? history.files)⟩

def PrintedCommit.told (commit : PrintedCommit dates) : Told :=
  ⟨commit.hash.text, some commit.email.text, some commit.timestamp, commit.subject.text,
    commit.counts.map fun count => some count.said⟩

theorem map_told_of_meaning {commits : List (PrintedCommit dates)} {history : History}
    (hn : (commits.map fun commit => commit.hash.text).Nodup)
    (hm : Meaning .empty (commits.flatMap PrintedCommit.records) history) :
    history.commits.items.map (told history) = commits.map PrintedCommit.told := by
  have hhashes : (summaries (commits.flatMap PrintedCommit.records)).map Summary.hash =
      commits.map fun commit => commit.hash.text := by
    rw [summaries_records, List.map_map]
    rfl
  have hkeys : history.commits.items.map Commit.hash =
      commits.map fun commit => commit.hash.text := by
    rw [← eraseDups_of_nodup hn, ← hhashes]
    exact hm.hashes
  apply map_eq_map_of_key hkeys hn
  intro commit hc
  obtain ⟨before, summary, after, hsplit, -, hhash, hauthor, htime, hsubject⟩ :=
    hm.latest commit hc
  have hsummary : summary ∈ summaries (commits.flatMap PrintedCommit.records) := by
    rw [hsplit, summaries_append]
    exact List.mem_append_right _ List.mem_cons_self
  rw [summaries_records] at hsummary
  obtain ⟨printed, hp, rfl⟩ := List.mem_map.mp hsummary
  have hchanges := hm.changes commit hc
  rw [hhash, countsOf_records] at hchanges
  have hown := flatMap_of_nodup (fun commit => commit.counts.map PrintedCount.said) hn hp
  have hcounts := hchanges.trans (congrArg (List.map some) hown)
  rw [List.map_map] at hcounts
  have hname : history.authorName? commit = some printed.email.text := by
    rw [History.authorName?, hauthor]
    rfl
  refine ⟨printed, hp, hhash, ?_⟩
  rw [told, PrintedCommit.told, hhash, hname, htime, hsubject, hcounts]
  rfl

/-- What is dumped is read back: the commits with their authors, dates, subjects and changes, in
their order. -/
theorem exists_readContent_dump (commits : List (PrintedCommit dates))
    (hn : (commits.map fun commit => commit.hash.text).Nodup) :
    ∃ history, readContent dates .empty (dump commits) = .ok history ∧
      history.commits.items.map (told history) = commits.map PrintedCommit.told ∧
      history.authors.keys = (commits.map fun commit => commit.email.text).eraseDups ∧
      history.files.keys =
        (commits.flatMap fun commit => commit.counts.map PrintedCount.path).eraseDups := by
  obtain ⟨final, hf⟩ := exists_progress .empty (commits.map PrintedCommit.entry)
  rw [← flatMap_records] at hf
  have hread := readFrom_eq_ok 1 (says_dump commits) hf
  have hm : Meaning .empty (commits.flatMap PrintedCommit.records) final.history :=
    ((reached_start .empty).run hf).meaning
  refine ⟨final.history, ?_, map_told_of_meaning hn hm, ?_, ?_⟩
  · rw [readContent, read, hread]
    rfl
  · rw [hm.names, summaries_records, List.map_map]
    rfl
  · rw [hm.paths, lineCounts_records, List.map_flatMap]
    simp only [List.map_map]
    rfl

def printedDate : PrintedField :=
  ⟨"2025-01-01T00:00:00+00:00", by decide, by decide, by decide, by decide⟩

def printedCommits : List (PrintedCommit Log.sampleDates) :=
  [⟨⟨"a@x", by decide, by decide, by decide, by decide⟩, printedDate,
      ⟨"h1", by decide, by decide, by decide, by decide⟩,
      ⟨"fix  a", by decide, by decide, by decide, by decide⟩,
      [⟨.dash, .dash, "logo.png", by decide, by decide⟩,
        ⟨.decimal ['1', '0'] (by decide),
          .decimal ['2'] (by decide), "p.py", by decide, by decide⟩],
      ⟨⟨⟨2025, 1, 1⟩, 0, 0, 0, 0⟩, some .universal⟩, by decide +kernel⟩,
    ⟨⟨"b@x", by decide, by decide, by decide, by decide⟩, printedDate,
      ⟨"h2", by decide, by decide, by decide, by decide⟩,
      ⟨"", by decide, by decide, by decide, by decide⟩, [],
      ⟨⟨⟨2025, 1, 1⟩, 0, 0, 0, 0⟩, some .universal⟩, by decide +kernel⟩]

theorem exists_readContent_dump_printedCommits :
    (printedCommits.map fun commit => commit.hash.text).Nodup ∧
    ∃ history, readContent Log.sampleDates .empty (dump printedCommits) = .ok history ∧
      history.commits.items.map (told history) = printedCommits.map PrintedCommit.told ∧
      history.authors.keys = (printedCommits.map fun commit => commit.email.text).eraseDups ∧
      history.files.keys =
        (printedCommits.flatMap fun commit => commit.counts.map PrintedCount.path).eraseDups := by
  have hn : (printedCommits.map fun commit => commit.hash.text).Nodup := by decide
  exact ⟨hn, exists_readContent_dump printedCommits hn⟩

/-- A carriage return in a subject ends the line of the summary, and what stands after it is no
line count. -/
example :
    let content := "\x00a@x\x002025-01-01T00:00:00+00:00\x00h1\x00fix a\rb\n1\t2\tp.py\n"
    (readContent Log.sampleDates .empty (Utf8.encode content.toList)).isOk = false := by
  decide +kernel

end Authorship.Log
