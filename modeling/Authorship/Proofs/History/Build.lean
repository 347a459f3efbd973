import Authorship.Proofs.History.Meaning

namespace Authorship

open Authorship.Calendar

namespace History

inductive Operation
  | requestFile (path : String)
  | requestAuthor (name : String)
  | requestCommit (hash : String)
  | addChange (commit : Handle Commit) (path : String) (adds deletes : Int)
  | setAuthor (commit : Handle Commit) (name : Option String)
  | setTimestamp (commit : Handle Commit) (timestamp : Option Timestamp)
  | setSummary (commit : Handle Commit) (summary : String)

def apply (history : History) : Operation → History
  | .requestFile path => (history.requestFile path).2
  | .requestAuthor name => (history.requestAuthor name).2
  | .requestCommit hash => (history.requestCommit hash).2
  | .addChange commit path adds deletes => history.addChange commit path adds deletes
  | .setAuthor commit (some name) => history.setAuthor commit name
  | .setAuthor commit none => history.modifyCommit commit fun entry => { entry with author := none }
  | .setTimestamp commit (some timestamp) => history.setTimestamp commit timestamp
  | .setTimestamp commit none =>
    history.modifyCommit commit fun entry => { entry with timestamp := none }
  | .setSummary commit summary => history.setSummary commit summary

def build (operations : List Operation) : History :=
  operations.foldl apply .empty

/-- A key stands for one entity, and the files and authors of commits are registered. -/
structure WellFormed (history : History) : Prop where
  files : history.files.keys.Nodup
  authors : history.authors.keys.Nodup
  commits : history.commits.keys.Nodup
  changed : ∀ commit ∈ history.commits.items, ∀ change ∈ commit.changes,
    ∃ file, history.files.get? change.file = some file
  written : ∀ commit ∈ history.commits.items, ∀ handle, commit.author = some handle →
    ∃ author, history.authors.get? handle = some author

theorem wellFormed_empty : empty.WellFormed := by
  constructor <;> simp [empty, Registry.empty, Registry.keys]

namespace WellFormed

variable {history : History}

theorem exists_author (h : history.WellFormed) {commit : Commit}
    (hm : commit ∈ history.commits.items) {handle : Handle Author}
    (ha : commit.author = some handle) :
    ∃ author, history.authors.get? handle = some author ∧
      history.authorName? commit = some author.name := by
  obtain ⟨author, hg⟩ := h.written commit hm handle ha
  exact ⟨author, hg, by rw [authorName?, ha, Option.bind_some, hg, Option.map_some]⟩

theorem requestFile (h : history.WellFormed) (path : String) :
    (history.requestFile path).2.WellFormed := by
  refine ⟨Registry.nodup_keys_request path h.files, h.authors, h.commits, ?_, h.written⟩
  intro commit hm change hc
  obtain ⟨file, hg⟩ := h.changed commit hm change hc
  exact ⟨file, Registry.get?_request_of_get? path hg⟩

theorem requestAuthor (h : history.WellFormed) (name : String) :
    (history.requestAuthor name).2.WellFormed := by
  refine ⟨h.files, Registry.nodup_keys_request name h.authors, h.commits, h.changed, ?_⟩
  intro commit hm handle ha
  obtain ⟨author, hg⟩ := h.written commit hm handle ha
  exact ⟨author, Registry.get?_request_of_get? name hg⟩

theorem requestCommit (h : history.WellFormed) (hash : String) :
    (history.requestCommit hash).2.WellFormed := by
  have hold (commit : Commit) (hm : commit ∈ (history.commits.request hash).2.items) :
      commit ∈ history.commits.items ∨ (commit.changes = [] ∧ commit.author = none) := by
    obtain ⟨handle, hg⟩ := Registry.mem_items_iff.mp hm
    rcases Registry.get?_request_cases hg with hg | ⟨-, -, rfl⟩
    · exact .inl (Registry.mem_items_iff.mpr ⟨handle, hg⟩)
    · exact .inr ⟨rfl, rfl⟩
  refine ⟨h.files, h.authors, Registry.nodup_keys_request hash h.commits, ?_, ?_⟩
  · intro commit hm change hc
    rcases hold commit hm with hm | ⟨hnone, -⟩
    · exact h.changed commit hm change hc
    · rw [hnone] at hc
      cases hc
  · intro commit hm handle ha
    rcases hold commit hm with hm | ⟨-, hnone⟩
    · exact h.written commit hm handle ha
    · rw [hnone] at ha
      cases ha

theorem modifyCommit (h : history.WellFormed) (handle : Handle Commit) {change : Commit → Commit}
    (hk : ∀ commit, (change commit).hash = commit.hash)
    (hf : ∀ commit, ∀ added ∈ (change commit).changes, added ∈ commit.changes ∨
      ∃ file, history.files.get? added.file = some file)
    (ha : ∀ commit author, (change commit).author = some author → commit.author = some author ∨
      ∃ known, history.authors.get? author = some known) :
    (history.modifyCommit handle change).WellFormed := by
  have hold (commit : Commit) (hm : commit ∈ (history.commits.modify handle change).items) :
      ∃ entry ∈ history.commits.items, commit = entry ∨ commit = change entry := by
    obtain ⟨other, hg⟩ := Registry.mem_items_iff.mp hm
    rcases Registry.get?_modify_cases hg with ⟨-, entry, he, rfl⟩ | ⟨-, hg⟩
    · exact ⟨entry, Registry.mem_items_iff.mpr ⟨handle, he⟩, .inr rfl⟩
    · exact ⟨commit, Registry.mem_items_iff.mpr ⟨other, hg⟩, .inl rfl⟩
  refine ⟨h.files, h.authors, ?_, ?_, ?_⟩
  · have hkeys : (history.commits.modify handle change).keys = history.commits.keys :=
      Registry.keys_modify _ _ hk
    exact hkeys ▸ h.commits
  · intro commit hm added hc
    obtain ⟨entry, he, rfl | rfl⟩ := hold commit hm
    · exact h.changed commit he added hc
    · rcases hf entry added hc with hc | hknown
      · exact h.changed entry he added hc
      · exact hknown
  · intro commit hm author hc
    obtain ⟨entry, he, rfl | rfl⟩ := hold commit hm
    · exact h.written commit he author hc
    · rcases ha entry author hc with hc | hknown
      · exact h.written entry he author hc
      · exact hknown

theorem addChange (h : history.WellFormed) (commit : Handle Commit) (path : String)
    (adds deletes : Int) : (history.addChange commit path adds deletes).WellFormed := by
  refine (h.requestFile path).modifyCommit commit (fun _ => rfl) ?_ fun _ _ => .inl
  intro entry added hm
  rcases List.mem_append.mp hm with hm | hm
  · exact .inl hm
  · obtain ⟨file, hg, -⟩ := history.files.get?_request path
    rw [List.mem_singleton.mp hm]
    exact .inr ⟨file, hg⟩

theorem setAuthor (h : history.WellFormed) (commit : Handle Commit) (name : String) :
    (history.setAuthor commit name).WellFormed := by
  refine (h.requestAuthor name).modifyCommit commit (fun _ => rfl) (fun _ _ => .inl) ?_
  intro entry author ha
  obtain ⟨known, hg, -⟩ := history.authors.get?_request name
  cases ha
  exact .inr ⟨known, hg⟩

/-- Every operation keeps a history well-formed. -/
theorem apply (h : history.WellFormed) (operation : Operation) :
    (history.apply operation).WellFormed := by
  cases operation with
  | requestFile path => exact h.requestFile path
  | requestAuthor name => exact h.requestAuthor name
  | requestCommit hash => exact h.requestCommit hash
  | addChange commit path adds deletes => exact h.addChange commit path adds deletes
  | setAuthor commit name =>
    cases name with
    | some name => exact h.setAuthor commit name
    | none =>
      refine h.modifyCommit commit (fun _ => rfl) (fun _ _ => .inl) fun entry author ha => ?_
      cases ha
  | setTimestamp commit timestamp =>
    cases timestamp <;>
      exact h.modifyCommit commit (fun _ => rfl) (fun _ _ => .inl) (fun _ _ => .inl)
  | setSummary commit summary =>
    exact h.modifyCommit commit (fun _ => rfl) (fun _ _ => .inl) (fun _ _ => .inl)

theorem foldl (h : history.WellFormed) (operations : List Operation) :
    (operations.foldl History.apply history).WellFormed := by
  induction operations generalizing history with
  | nil => exact h
  | cons operation operations ih => exact ih (h.apply operation)

end WellFormed

theorem wellFormed_build (operations : List Operation) : (build operations).WellFormed :=
  wellFormed_empty.foldl operations

end History

namespace Log

theorem Meaning.wellFormed {aliases : Aliases} {records : List Record} {history : History}
    (h : Meaning aliases records history) : history.WellFormed := by
  refine ⟨?_, ?_, ?_, ?_, ?_⟩
  · exact h.paths ▸ nodup_eraseDups _
  · exact h.names ▸ nodup_eraseDups _
  · exact h.hashes ▸ nodup_eraseDups _
  · intro commit hm change hc
    have hmap := List.mem_map_of_mem (f := Change.lineCount? history.files) hc
    rw [h.changes commit hm] at hmap
    obtain ⟨count, -, he⟩ := List.mem_map.mp hmap
    obtain ⟨file, hg, -⟩ := Option.map_eq_some_iff.mp he.symm
    exact ⟨file, hg⟩
  · intro commit hm handle ha
    obtain ⟨before, summary, after, -, -, -, hauthor, -⟩ := h.latest commit hm
    rw [ha] at hauthor
    exact ⟨_, hauthor⟩

theorem wellFormed_of_read {dates : DateReader} {aliases : Aliases} {lines : List String}
    {history : History} (h : read dates aliases lines = .ok history) : history.WellFormed := by
  obtain ⟨records, -, hm⟩ := meaning_of_read h
  exact hm.wellFormed

end Log

theorem History.wellFormed_of_built_or_read {history : History}
    (h : (∃ operations, history = build operations) ∨
      ∃ dates aliases lines, Log.read dates aliases lines = .ok history) :
    history.WellFormed := by
  rcases h with ⟨operations, rfl⟩ | ⟨dates, aliases, lines, h⟩
  · exact wellFormed_build operations
  · exact Log.wellFormed_of_read h

end Authorship
