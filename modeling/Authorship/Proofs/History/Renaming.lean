import Authorship.Proofs.Files.Tree
import Authorship.Proofs.History.Accounts
import Authorship.Proofs.History.Build
import Authorship.Proofs.History.Refusal

namespace Authorship

namespace Aliases

/-- The aliases that registrations make, each of a canonical name with its raw identities. -/
def ofRegistrations (registrations : List (String × List String)) : Aliases :=
  registrations.foldl (fun aliases registration => aliases.register registration.1 registration.2)
    .empty

/-- The canonical name of the last registration that an identity is in; one that is in none keeps its
name. -/
def lastRegistered (registrations : List (String × List String)) (raw : String) : String :=
  ((registrations.reverse.find? (·.2.contains raw)).map Prod.fst).getD raw

theorem resolve_set (aliases : Aliases) (raw canonical other : String) :
    (aliases.set raw canonical).resolve other =
      if other = raw then canonical else aliases.resolve other := by
  unfold resolve canonical? set
  by_cases h : other = raw
  · rw [if_pos h, h, List.lookup_cons_self]
    rfl
  · have hne : (other == raw) = false := beq_eq_false_iff_ne.mpr h
    rw [if_neg h, List.lookup_cons, hne]
    exact congrArg (Option.getD · other) (lookup_filter_of_ne aliases.entries h)

theorem resolve_register (aliases : Aliases) (canonical : String) (raws : List String)
    (other : String) :
    (aliases.register canonical raws).resolve other =
      if other ∈ raws then canonical else aliases.resolve other := by
  unfold register
  induction raws generalizing aliases with
  | nil => simp
  | cons raw raws ih =>
    rw [List.foldl_cons, ih, resolve_set]
    by_cases h : other ∈ raws <;> by_cases h' : other = raw <;> simp [h, h']

theorem resolve_ofRegistrations (registrations : List (String × List String)) (raw : String) :
    (ofRegistrations registrations).resolve raw = lastRegistered registrations raw := by
  induction registrations using List.reverseRecOn with
  | nil => rfl
  | append_singleton registrations registration ih =>
    rw [ofRegistrations, List.foldl_append, List.foldl_cons, List.foldl_nil, resolve_register]
    rw [lastRegistered, List.reverse_append, List.reverse_singleton, List.singleton_append]
    by_cases h : raw ∈ registration.2
    · rw [if_pos h, List.find?_cons_of_pos (by simpa using h)]
      rfl
    · rw [if_neg h, List.find?_cons_of_neg (by simpa using h)]
      exact ih

end Aliases

structure SameButAuthor (image : String → String) (plain renamed : History)
    (commit other : Commit) : Prop where
  hash : other.hash = commit.hash
  timestamp : other.timestamp = commit.timestamp
  summary : other.summary = commit.summary
  changes : other.changes = commit.changes
  author : ∃ name, plain.authorName? commit = some name ∧
    renamed.authorName? other = some (image name)

structure History.Renamed (image : String → String) (plain renamed : History) : Prop where
  files : renamed.files = plain.files
  commits : List.Forall₂ (SameButAuthor image plain renamed) plain.commits.items
    renamed.commits.items
  authors : renamed.authors.keys = (plain.authors.keys.map image).eraseDups

namespace Log

open Authorship.Calendar

theorem files_eq_of_keys_eq {first second : Registry File} (h : first.keys = second.keys) :
    first = second := by
  have hitems : first.items = second.items :=
    List.map_injective_iff.mpr (fun _ _ => congrArg File.mk) h
  cases first
  cases second
  exact congrArg Registry.mk hitems

theorem eq_of_lineCount?_eq {files : Registry File} (hn : files.keys.Nodup) {first second : Change}
    {count : LineCount} (hf : first.lineCount? files = some count)
    (hs : second.lineCount? files = some count) : first = second := by
  obtain ⟨file, hg, rfl⟩ := Option.map_eq_some_iff.mp hf
  obtain ⟨other, hg', he⟩ := Option.map_eq_some_iff.mp hs
  obtain ⟨hadds, hdeletes, hpath⟩ := LineCount.mk.inj he
  have hfile : first.file = second.file := Registry.eq_of_key_eq hn hg hg' hpath.symm
  cases first
  cases second
  rw [Change.mk.injEq]
  exact ⟨hfile, hadds.symm, hdeletes.symm⟩

theorem changes_eq {files : Registry File} (hn : files.keys.Nodup) {first second : List Change}
    {counts : List LineCount} (hf : first.map (Change.lineCount? files) = counts.map some)
    (hs : second.map (Change.lineCount? files) = counts.map some) : first = second := by
  induction counts generalizing first second with
  | nil => rw [List.map_eq_nil_iff.mp hf, List.map_eq_nil_iff.mp hs]
  | cons count counts ih =>
    rw [List.map_cons, List.map_eq_cons_iff] at hf hs
    obtain ⟨change, first, rfl, hc, hf⟩ := hf
    obtain ⟨change', second, rfl, hc', hs⟩ := hs
    rw [eq_of_lineCount?_eq hn hc hc', ih hf hs]

theorem forall₂_of_map_eq {α : Type} {R : α → α → Prop} {key : α → String} {first second : List α}
    (hk : first.map key = second.map key)
    (h : ∀ a ∈ first, ∀ b ∈ second, key a = key b → R a b) : List.Forall₂ R first second := by
  induction first generalizing second with
  | nil =>
    rw [List.map_nil, eq_comm, List.map_eq_nil_iff] at hk
    rw [hk]
    exact .nil
  | cons a first ih =>
    rw [List.map_cons, eq_comm, List.map_eq_cons_iff] at hk
    obtain ⟨b, second, rfl, hab, hrest⟩ := hk
    refine .cons (h a List.mem_cons_self b List.mem_cons_self hab.symm) (ih hrest.symm ?_)
    intro c hc d hd
    exact h c (List.mem_cons_of_mem a hc) d (List.mem_cons_of_mem b hd)

namespace Meaning

variable {aliases : Aliases} {records : List Record} {plain aliased : History}

theorem sameButAuthor (hp : Meaning .empty records plain) (hr : Meaning aliases records aliased)
    (hfiles : aliased.files = plain.files) {commit other : Commit}
    (hc : commit ∈ plain.commits.items) (ho : other ∈ aliased.commits.items)
    (hhash : commit.hash = other.hash) :
    SameButAuthor aliases.resolve plain aliased commit other := by
  obtain ⟨summary, hlast, hname, htime, hsubject⟩ := hp.exists_lastOf? hc
  obtain ⟨summary', hlast', hname', htime', hsubject'⟩ := hr.exists_lastOf? ho
  rw [← hhash, hlast] at hlast'
  cases hlast'
  have hchanges := hr.changes other ho
  rw [hfiles, ← hhash] at hchanges
  have hsame := changes_eq hp.wellFormed.files hchanges (hp.changes commit hc)
  exact ⟨hhash.symm, htime'.trans htime.symm, hsubject'.trans hsubject.symm, hsame,
    ⟨_, hname, hname'⟩⟩

/-- The records of a log mean the same with aliases, but for the names of the authors. -/
theorem renamed (hp : Meaning .empty records plain) (hr : Meaning aliases records aliased) :
    plain.Renamed aliases.resolve aliased := by
  have hfiles : aliased.files = plain.files := files_eq_of_keys_eq (hr.paths.trans hp.paths.symm)
  refine ⟨hfiles, ?_, ?_⟩
  · exact forall₂_of_map_eq (hp.hashes.trans hr.hashes.symm)
      fun commit hc other ho => hp.sameButAuthor hr hfiles hc ho
  · rw [hp.names, hr.names, eraseDups_map_eraseDups, List.map_map]
    rfl

end Meaning

/-- Reading a log with aliases is reading it without them and renaming the authors, each by the last
registration of its name. -/
theorem read_renamed (dates : DateReader) (lines : List String)
    (registrations : List (String × List String)) :
    (∀ fault, read dates (.ofRegistrations registrations) lines = .error fault ↔
      read dates .empty lines = .error fault) ∧
    ∀ plain, read dates .empty lines = .ok plain →
      ∃ renamed, read dates (.ofRegistrations registrations) lines = .ok renamed ∧
        plain.Renamed (Aliases.lastRegistered registrations) renamed := by
  constructor
  · intro fault
    exact read_eq_error_iff.trans read_eq_error_iff.symm
  · intro plain hread
    obtain ⟨records, -, hall⟩ := exists_meaning_of_aliases hread
    obtain ⟨other, hother, hplain⟩ := hall .empty
    obtain ⟨renamed, hrenamed, hmeaning⟩ := hall (.ofRegistrations registrations)
    cases hread.symm.trans hother
    have himage : (Aliases.ofRegistrations registrations).resolve =
        Aliases.lastRegistered registrations :=
      funext (Aliases.resolve_ofRegistrations registrations)
    exact ⟨renamed, hrenamed, himage ▸ hplain.renamed hmeaning⟩

def chainedRegistrations : List (String × List String) :=
  [("Bob", ["b@x", "c@x"]), ("Ann", ["c@x", "a@x"]), ("Robert", ["Bob"])]

theorem read_renamed_interleavedLines :
    ∃ plain renamed, read sampleDates .empty interleavedLines = .ok plain ∧
      read sampleDates (.ofRegistrations chainedRegistrations) interleavedLines = .ok renamed ∧
      plain.Renamed (Aliases.lastRegistered chainedRegistrations) renamed ∧
      Aliases.lastRegistered chainedRegistrations "b@x" = "Bob" ∧
      Aliases.lastRegistered chainedRegistrations "c@x" = "Ann" := by
  have hok : (read sampleDates .empty interleavedLines).isOk = true := by
    decide +kernel
  cases h : read sampleDates .empty interleavedLines with
  | ok plain =>
    obtain ⟨renamed, hread, hsame⟩ :=
      (read_renamed sampleDates interleavedLines chainedRegistrations).2 plain h
    exact ⟨plain, renamed, rfl, hread, hsame, by decide, by decide⟩
  | error fault =>
    rw [h] at hok
    cases hok

end Log

end Authorship
