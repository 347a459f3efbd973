import Authorship.Proofs.History.Meaning
import Mathlib.Data.Multiset.MapFold

namespace Authorship

open Authorship.Calendar

/-- When a commit was made and what it counted, in any order. -/
structure Account where
  timestamp : Option Timestamp
  counts : Multiset Log.LineCount

namespace History

def lineCountOf (history : History) (change : Change) : Log.LineCount :=
  ⟨change.adds, change.deletes, history.pathOf change⟩

def account (history : History) (commit : Commit) : Account :=
  ⟨commit.timestamp, ↑(commit.changes.map history.lineCountOf)⟩

/-- The accounts of the commits of an author. -/
def accountsOf (history : History) (name : String) : List Account :=
  (history.commits.items.filter fun commit => history.authorName? commit == some name).map
    history.account

end History

namespace Log

/-- The last summary of a hash. -/
def lastOf? (records : List Record) (hash : String) : Option Summary :=
  (summaries records).reverse.find? (·.hash == hash)

def accountOf (records : List Record) (hash : String) : Account :=
  ⟨(lastOf? records hash).map Summary.timestamp, ↑(countsOf hash records)⟩

def hashesOf (records : List Record) : List String :=
  ((summaries records).map Summary.hash).eraseDups

theorem lastOf?_eq_some {before after : List Record} {summary : Summary}
    (h : ∀ later ∈ summaries after, later.hash ≠ summary.hash) :
    lastOf? (before ++ .summary summary :: after) summary.hash = some summary := by
  have hsplit : summaries (before ++ .summary summary :: after) =
      summaries before ++ summary :: summaries after := by
    rw [summaries_append]
    rfl
  have hnone : (summaries after).reverse.find? (·.hash == summary.hash) = none := by
    rw [List.find?_eq_none]
    intro later hl
    simpa using h later (List.mem_reverse.mp hl)
  rw [lastOf?, hsplit, List.reverse_append, List.reverse_cons, List.append_assoc,
    List.find?_append, hnone, Option.none_or, List.singleton_append]
  exact List.find?_cons_of_pos (beq_self_eq_true _)

namespace Meaning

variable {aliases : Aliases} {records : List Record} {history : History}

theorem exists_lastOf? (h : Meaning aliases records history) {commit : Commit}
    (hm : commit ∈ history.commits.items) :
    ∃ summary, lastOf? records commit.hash = some summary ∧
      history.authorName? commit = some (aliases.resolve summary.email) ∧
      commit.timestamp = some summary.timestamp ∧ commit.summary = summary.subject := by
  obtain ⟨before, summary, after, rfl, hlast, hhash, hauthor, htime, hsubject⟩ :=
    h.latest commit hm
  refine ⟨summary, ?_, ?_, htime, hsubject⟩
  · rw [hhash]
    exact lastOf?_eq_some hlast
  · rw [History.authorName?, hauthor]
    rfl

theorem account_eq (h : Meaning aliases records history) {commit : Commit}
    (hm : commit ∈ history.commits.items) :
    history.account commit = accountOf records commit.hash := by
  obtain ⟨summary, hlast, -, htime, -⟩ := h.exists_lastOf? hm
  have hcounts : commit.changes.map history.lineCountOf = countsOf commit.hash records := by
    have hmap : (commit.changes.map history.lineCountOf).map some =
        commit.changes.map (Change.lineCount? history.files) := by
      rw [List.map_map]
      apply List.map_congr_left
      intro change hc
      have hcount := List.mem_map_of_mem (f := Change.lineCount? history.files) hc
      rw [h.changes commit hm] at hcount
      obtain ⟨count, -, he⟩ := List.mem_map.mp hcount
      obtain ⟨file, hg, rfl⟩ := Option.map_eq_some_iff.mp he.symm
      rw [← he, Function.comp_apply, History.lineCountOf, History.pathOf, hg]
      rfl
    exact List.map_injective_iff.mpr (Option.some_injective _)
      (hmap.trans (h.changes commit hm))
  rw [History.account, accountOf, hlast, htime, hcounts]
  rfl

theorem accountsOf_eq (h : Meaning aliases records history) (name : String) :
    history.accountsOf name = ((hashesOf records).filter fun hash =>
      (lastOf? records hash).any (aliases.resolve ·.email == name)).map (accountOf records) := by
  rw [hashesOf, ← h.hashes, Registry.keys, List.filter_map, List.map_map, History.accountsOf]
  have hfilter : (history.commits.items.filter fun commit =>
      history.authorName? commit == some name) = history.commits.items.filter
        ((fun hash => (lastOf? records hash).any (aliases.resolve ·.email == name)) ∘
          Entity.key) := by
    apply List.filter_congr
    intro commit hm
    obtain ⟨summary, hlast, hname, -⟩ := h.exists_lastOf? hm
    rw [Function.comp_apply, hname, show Entity.key commit = commit.hash from rfl, hlast]
    rfl
  rw [← hfilter]
  apply List.map_congr_left
  intro commit hm
  exact h.account_eq (List.mem_of_mem_filter hm)

end Meaning

theorem exists_applyRecords_of_some {aliases : Aliases} (others : Aliases)
    {records : List Record} {progress final start : Progress}
    (h : records.foldlM (fun progress record => progress.applyRecord aliases record) progress =
      some final) (hc : progress.current.isSome = start.current.isSome) :
    ∃ other, records.foldlM (fun progress record => progress.applyRecord others record) start =
      some other := by
  -- Only a line count can be refused, and only while there is no commit.
  induction records generalizing progress start with
  | nil => exact ⟨start, rfl⟩
  | cons record records ih =>
    rw [List.foldlM_cons] at h
    obtain ⟨next, hr, h⟩ := Option.bind_eq_some_iff.mp h
    obtain ⟨next', hr', hn⟩ : ∃ next', start.applyRecord others record = some next' ∧
        next.current.isSome = next'.current.isSome := by
      cases record with
      | summary summary =>
        cases hr
        exact ⟨_, rfl, rfl⟩
      | lineCount count =>
        obtain ⟨handle, hcurrent, rfl⟩ := Option.map_eq_some_iff.mp hr
        rw [hcurrent, eq_comm, Option.isSome_some, Option.isSome_iff_exists] at hc
        obtain ⟨handle', hcurrent'⟩ := hc
        refine ⟨start.applyLineCount handle' count, ?_, ?_⟩
        · rw [Progress.applyRecord, hcurrent']
          rfl
        · change progress.current.isSome = start.current.isSome
          rw [hcurrent, hcurrent']
          rfl
    obtain ⟨other, ho⟩ := ih h hn
    exact ⟨other, by rw [List.foldlM_cons, hr']; exact ho⟩

theorem exists_meaning_of_aliases {dates : DateReader} {aliases : Aliases} {lines : List String}
    {history : History} (h : read dates aliases lines = .ok history) :
    ∃ records, List.Forall₂ (Says dates) (recordLines lines) records ∧
      ∀ others, ∃ other, read dates others lines = .ok other ∧ Meaning others records other := by
  unfold read at h
  cases hr : readFrom dates aliases .start 1 lines with
  | error fault =>
    rw [hr] at h
    cases h
  | ok final =>
    obtain ⟨records, hall, hf⟩ := says_of_readFrom hr
    refine ⟨records, hall, fun others => ?_⟩
    obtain ⟨other, ho⟩ := exists_applyRecords_of_some others hf rfl
    refine ⟨other.history, ?_, ((reached_start others).run ho).meaning⟩
    rw [read, readFrom_eq_ok 1 hall ho]
    rfl

end Log

end Authorship
