import Authorship.DateText.Resolution
import Authorship.History.Log
import Authorship.Proofs.Text.Piece
import Mathlib.Data.List.Forall2

namespace Authorship.Log

open Authorship.Calendar Authorship.Text Authorship.Number

/-- The lines that say something: those that are not blank, without the newlines at their ends. -/
def recordLines (lines : List String) : List (List Char) :=
  (lines.map withoutNewline).filter (·.any fun c => !isBlank c)

inductive Record
  | summary (summary : Summary)
  | lineCount (count : LineCount)
deriving Repr, DecidableEq

/-- The reader of the dates of fixed logs, which tell them in full. -/
def sampleDates : DateReader :=
  DateText.reader ⟨2026, 10, 19⟩

inductive Counts (text : List Char) : Int → Prop
  | integer {n : Int} (h : readInteger text = .ok n) : Counts text n
  | other {fault : IntegerFault} (h : readInteger text = .error fault) : Counts text 0

/-- What a line says. A summary starts with NUL; NULs separate its fields, and a fifth NUL and all
that follows it say nothing. In any other line a tab follows each of the two counts, and the rest
of the line is the path. -/
inductive Says (dates : DateReader) : List Char → Record → Prop
  | summary {email date hash subject rest : List Char} {timestamp : Timestamp}
      (he : '\x00' ∉ email) (hd : '\x00' ∉ date) (hh : '\x00' ∉ hash) (hs : '\x00' ∉ subject)
      (hr : rest = [] ∨ ∃ more, rest = '\x00' :: more)
      (ht : dates (field date) = .ok timestamp) :
      Says dates
        ('\x00' :: (email ++ '\x00' :: (date ++ '\x00' :: (hash ++ '\x00' :: (subject ++ rest)))))
        (.summary ⟨field email, timestamp, field hash, field subject⟩)
  | lineCount {adds deletes path : List Char} {m n : Int}
      (hk : (adds ++ '\t' :: (deletes ++ '\t' :: path)).head? ≠ some '\x00')
      (ha : '\t' ∉ adds) (hd : '\t' ∉ deletes) (hm : Counts adds m) (hn : Counts deletes n) :
      Says dates (adds ++ '\t' :: (deletes ++ '\t' :: path))
        (.lineCount ⟨m, n, String.ofList path⟩)

theorem counts_readCount (text : List Char) : Counts text (readCount text) := by
  unfold readCount
  cases h : readInteger text with
  | ok n => exact .integer h
  | error fault => exact .other h

theorem says_summary {dates : DateReader} {line : List Char} {summary : Summary}
    (hk : RecordKind.ofLine line = .summary) (h : Summary.ofLine? dates line = .ok summary) :
    Says dates line (.summary summary) := by
  unfold Summary.ofLine? at h
  split at h
  · rename_i unused email date hash subject more hf
    split at h
    · rename_i timestamp ht
      cases h
      obtain ⟨_, rfl, hu, hf⟩ := splitOnP_eq_cons_cons hf
      obtain ⟨_, rfl, he, hf⟩ := splitOnP_eq_cons_cons hf
      obtain ⟨_, rfl, hd, hf⟩ := splitOnP_eq_cons_cons hf
      obtain ⟨_, rfl, hh, hf⟩ := splitOnP_eq_cons_cons hf
      obtain ⟨hs, rest, rfl, hr⟩ := eq_append_of_splitOnP hf
      have hn : unused = [] := by
        cases unused with
        | nil => rfl
        | cons c unused =>
          have hc : c = '\x00' := by simpa [RecordKind.ofLine] using hk
          simp [hc] at hu
      subst hn
      exact .summary he hd hh hs hr ht
    · cases h
  · cases h

theorem says_lineCount {dates : DateReader} {line : List Char} {count : LineCount}
    (hk : RecordKind.ofLine line = .lineCount) (h : LineCount.ofLine? line = .ok count) :
    Says dates line (.lineCount count) := by
  have hh : line.head? ≠ some '\x00' := by
    intro hh
    simp [RecordKind.ofLine, hh] at hk
  unfold LineCount.ofLine? at h
  by_cases ha : '\t' ∈ line
  · obtain ⟨adds, after, rfl, hadds, hc⟩ := cutAtFirst_succ 1 ha
    rw [hc] at h
    by_cases hd : '\t' ∈ after
    · obtain ⟨deletes, path, rfl, hdeletes, hc⟩ := cutAtFirst_succ 0 hd
      rw [hc] at h
      cases h
      exact .lineCount hh hadds hdeletes (counts_readCount adds) (counts_readCount deletes)
    · rw [cutAtFirst_of_not_mem 1 hd] at h
      cases h
  · rw [cutAtFirst_of_not_mem 2 ha] at h
    cases h

namespace Progress

/-- What a record does to the history so far; a line count without a commit is refused. -/
def applyRecord (progress : Progress) (aliases : Aliases) : Record → Option Progress
  | .summary summary => some (progress.applySummary aliases summary)
  | .lineCount count => progress.current.map (progress.applyLineCount · count)

end Progress

/-- Reading a line does what the line says. -/
theorem says_of_readLine {progress next : Progress} {dates : DateReader} {aliases : Aliases}
    {line : List Char} (h : progress.readLine dates aliases line = .ok next) :
    ∃ record, Says dates line record ∧ progress.applyRecord aliases record = some next := by
  unfold Progress.readLine at h
  cases hk : RecordKind.ofLine line with
  | summary =>
    rw [hk] at h
    cases hs : Summary.ofLine? dates line with
    | error fault =>
      rw [hs] at h
      cases h
    | ok summary =>
      rw [hs] at h
      cases h
      exact ⟨.summary summary, says_summary hk hs, rfl⟩
  | lineCount =>
    rw [hk] at h
    cases hc : progress.current with
    | none =>
      rw [hc] at h
      cases h
    | some commit =>
      rw [hc] at h
      cases hs : LineCount.ofLine? line with
      | error fault =>
        simp only [hs] at h
        cases h
      | ok count =>
        simp only [hs] at h
        cases h
        refine ⟨.lineCount count, says_lineCount hk hs, ?_⟩
        simp only [Progress.applyRecord, hc, Option.map_some]

theorem recordLines_cons (line : String) (lines : List String) :
    recordLines (line :: lines) =
      if (trim (withoutNewline line)).isEmpty then recordLines lines
      else withoutNewline line :: recordLines lines := by
  simp only [recordLines, List.map_cons, List.filter_cons]
  have hb : ((withoutNewline line).any fun c => !isBlank c) =
      !(trim (withoutNewline line)).isEmpty := by
    rw [Bool.eq_iff_iff]
    simp [trim_eq_nil_iff]
  rw [hb]
  cases (trim (withoutNewline line)).isEmpty <;> rfl

theorem says_of_readFrom {dates : DateReader} {aliases : Aliases} {progress final : Progress}
    {number : Nat} {lines : List String}
    (h : readFrom dates aliases progress number lines = .ok final) :
    ∃ records, List.Forall₂ (Says dates) (recordLines lines) records ∧
      records.foldlM (fun progress record => progress.applyRecord aliases record) progress =
        some final := by
  induction lines generalizing progress number with
  | nil =>
    cases h
    exact ⟨[], .nil, rfl⟩
  | cons line lines ih =>
    rw [recordLines_cons]
    unfold readFrom at h
    simp only at h
    split at h
    · rename_i hb
      rw [if_pos hb]
      exact ih h
    · rename_i hb
      rw [if_neg hb]
      cases hl : progress.readLine dates aliases (withoutNewline line) with
      | error fault =>
        rw [hl] at h
        cases h
      | ok next =>
        rw [hl] at h
        obtain ⟨record, hs, hr⟩ := says_of_readLine hl
        obtain ⟨records, hall, hf⟩ := ih h
        refine ⟨record :: records, .cons hs hall, ?_⟩
        rw [List.foldlM_cons, hr]
        exact hf

theorem readCount_of_counts {text : List Char} {n : Int} (h : Counts text n) :
    readCount text = n := by
  unfold readCount
  cases h with
  | integer h => rw [h]
  | other h => rw [h]

theorem ofLine?_of_summary {dates : DateReader} {email date hash subject rest : List Char}
    {timestamp : Timestamp} (he : '\x00' ∉ email) (hd : '\x00' ∉ date) (hh : '\x00' ∉ hash)
    (hs : '\x00' ∉ subject) (hr : rest = [] ∨ ∃ more, rest = '\x00' :: more)
    (ht : dates (field date) = .ok timestamp) :
    Summary.ofLine? dates
        ('\x00' :: (email ++ '\x00' :: (date ++ '\x00' :: (hash ++ '\x00' :: (subject ++ rest))))) =
      .ok ⟨field email, timestamp, field hash, field subject⟩ := by
  have hlast : ∃ more, (subject ++ rest).splitOnP (· == '\x00') = subject :: more := by
    rcases hr with rfl | ⟨more, rfl⟩
    · rw [List.append_nil]
      exact ⟨[], splitOnP_of_not_mem hs⟩
    · exact ⟨_, splitOnP_append_cons_of_not_mem more hs⟩
  obtain ⟨more, hlast⟩ := hlast
  have hfirst (text : List Char) :
      ('\x00' :: text).splitOnP (· == '\x00') = [] :: text.splitOnP (· == '\x00') :=
    splitOnP_append_cons_of_not_mem text List.not_mem_nil
  unfold Summary.ofLine?
  rw [hfirst, splitOnP_append_cons_of_not_mem _ he, splitOnP_append_cons_of_not_mem _ hd,
    splitOnP_append_cons_of_not_mem _ hh, hlast]
  simp only [ht]

theorem ofLine?_of_lineCount {adds deletes path : List Char} {m n : Int} (ha : '\t' ∉ adds)
    (hd : '\t' ∉ deletes) (hm : Counts adds m) (hn : Counts deletes n) :
    LineCount.ofLine? (adds ++ '\t' :: (deletes ++ '\t' :: path)) =
      .ok ⟨m, n, String.ofList path⟩ := by
  obtain rfl := readCount_of_counts hm
  obtain rfl := readCount_of_counts hn
  unfold LineCount.ofLine?
  rw [cutAtFirst_append_cons 1 _ ha, cutAtFirst_append_cons 0 _ hd]
  rfl

theorem readLine_eq_ok {progress next : Progress} {dates : DateReader} {aliases : Aliases}
    {line : List Char} {record : Record} (h : Says dates line record)
    (hr : progress.applyRecord aliases record = some next) :
    progress.readLine dates aliases line = .ok next := by
  unfold Progress.readLine
  cases h with
  | summary he hd hh hs hrest ht =>
    cases hr
    rw [ofLine?_of_summary he hd hh hs hrest ht]
    rfl
  | lineCount hk ha hd hm hn =>
    obtain ⟨commit, hc, rfl⟩ := Option.map_eq_some_iff.mp hr
    rw [RecordKind.ofLine, if_neg fun h => hk (beq_iff_eq.mp h), hc,
      ofLine?_of_lineCount ha hd hm hn]
    rfl

/-- A log whose lines say records is read, if the records can be done one after the other. -/
theorem readFrom_eq_ok {dates : DateReader} {aliases : Aliases} {progress final : Progress}
    {lines : List String} {records : List Record} (number : Nat)
    (hs : List.Forall₂ (Says dates) (recordLines lines) records)
    (hf : records.foldlM (fun progress record => progress.applyRecord aliases record) progress =
      some final) :
    readFrom dates aliases progress number lines = .ok final := by
  induction lines generalizing progress number records with
  | nil =>
    cases hs
    cases hf
    rfl
  | cons line lines ih =>
    rw [recordLines_cons] at hs
    unfold readFrom
    dsimp only
    split at hs
    · rename_i hb
      rw [if_pos hb]
      exact ih (number + 1) hs hf
    · rename_i hb
      rw [if_neg hb]
      cases hs with
      | cons hline hrest =>
        rw [List.foldlM_cons] at hf
        obtain ⟨next, hr, hf⟩ := Option.bind_eq_some_iff.mp hf
        rw [readLine_eq_ok hline hr]
        exact ih (number + 1) hrest hf

end Authorship.Log
