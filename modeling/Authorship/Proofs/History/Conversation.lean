import Authorship.Proofs.History.Build

namespace Authorship

namespace Registry

variable {α : Type} [Entity α]

theorem find?_key {registry : Registry α} {handle : Handle α} {entity : α}
    (hn : registry.keys.Nodup) (hg : registry.get? handle = some entity) :
    registry.find? (Entity.key entity) = some handle := by
  cases hf : registry.find? (Entity.key entity) with
  | none => exact absurd (mem_keys_of_get? hg) (find?_eq_none_iff.mp hf)
  | some other =>
    obtain ⟨known, hk, hkey⟩ := get?_of_find? hf
    rw [eq_of_key_eq hn hk hg hkey]

structure Answered (registry : Registry α) (asked : List (String × Handle α)) : Prop where
  keys : registry.keys = (asked.map Prod.fst).eraseDups
  own : ∀ key handle, (key, handle) ∈ asked →
    ∃ entity, registry.get? handle = some entity ∧ Entity.key entity = key

namespace Answered

variable {registry : Registry α} {asked : List (String × Handle α)} {key other : String}
  {handle found : Handle α}

theorem empty : (Registry.empty : Registry α).Answered [] :=
  ⟨rfl, fun _ _ hm => by cases hm⟩

theorem request [LawfulEntity α] (h : registry.Answered asked) (key : String) :
    (registry.request key).2.Answered (asked ++ [(key, (registry.request key).1)]) := by
  constructor
  · rw [List.map_append]
    exact keys_request_eraseDups key h.keys
  · intro other handle hm
    rcases List.mem_append.mp hm with hm | hm
    · obtain ⟨entity, hg, hk⟩ := h.own other handle hm
      exact ⟨entity, get?_request_of_get? key hg, hk⟩
    · cases List.mem_singleton.mp hm
      exact registry.get?_request key

theorem modify (h : registry.Answered asked) (place : Handle α) {change : α → α}
    (hk : ∀ entity, Entity.key (change entity) = Entity.key entity) :
    (registry.modify place change).Answered asked := by
  constructor
  · rw [keys_modify registry place hk]
    exact h.keys
  · intro key handle hm
    obtain ⟨entity, hg, rfl⟩ := h.own key handle hm
    by_cases he : place = handle
    · subst he
      refine ⟨change entity, ?_, hk entity⟩
      rw [get?_modify_self, hg, Option.map_some]
    · exact ⟨entity, by rw [get?_modify_of_ne _ _ he, hg], rfl⟩

theorem nodup (h : registry.Answered asked) : registry.keys.Nodup :=
  h.keys ▸ nodup_eraseDups _

theorem handle_eq_iff (h : registry.Answered asked) (hm : (key, handle) ∈ asked)
    (ho : (other, found) ∈ asked) : handle = found ↔ key = other := by
  obtain ⟨entity, hg, rfl⟩ := h.own key handle hm
  obtain ⟨entity', hg', rfl⟩ := h.own other found ho
  constructor
  · rintro rfl
    rw [Option.some.inj (hg.symm.trans hg')]
  · exact eq_of_key_eq h.nodup hg hg'

theorem find?_eq (h : registry.Answered asked) (hm : (key, handle) ∈ asked) :
    registry.find? key = some handle := by
  obtain ⟨entity, hg, rfl⟩ := h.own key handle hm
  exact find?_key h.nodup hg

theorem find?_eq_none_iff (h : registry.Answered asked) :
    registry.find? key = none ↔ ∀ handle, (key, handle) ∉ asked := by
  rw [Registry.find?_eq_none_iff, h.keys, List.mem_eraseDups, List.mem_map]
  constructor
  · intro hnone handle hm
    exact hnone ⟨_, hm, rfl⟩
  · rintro hnone ⟨⟨_, handle⟩, hm, rfl⟩
    exact hnone handle hm

theorem mem_of_find? (h : registry.Answered asked) (hf : registry.find? key = some handle) :
    (key, handle) ∈ asked := by
  have hsome : ¬ ∀ other, (key, other) ∉ asked := by
    rw [← h.find?_eq_none_iff, hf]
    exact Option.some_ne_none handle
  obtain ⟨other, hm⟩ := not_forall_not.mp hsome
  rwa [← Option.some.inj ((h.find?_eq hm).symm.trans hf)]

end Answered

end Registry

namespace History

inductive Exchange
  | getFile (path : String) (file : Handle File)
  | getAuthor (name : String) (author : Handle Author)
  | getCommit (hash : String) (commit : Handle Commit)
  | findAuthor (name : String) (found : Option (Handle Author))
  | findCommit (hash : String) (found : Option (Handle Commit))
  | addChange (commit : Handle Commit) (change : Change)
  | setAuthor (commit : Handle Commit) (author : Option (Handle Author))
  | setTimestamp (commit : Handle Commit) (timestamp : Option Calendar.Timestamp)
  | setSummary (commit : Handle Commit) (summary : String)

namespace Exchange

def file? : Exchange → Option (String × Handle File)
  | .getFile path file => some (path, file)
  | _ => none

def author? : Exchange → Option (String × Handle Author)
  | .getAuthor name author => some (name, author)
  | _ => none

def commit? : Exchange → Option (String × Handle Commit)
  | .getCommit hash commit => some (hash, commit)
  | _ => none

theorem author?_eq_some_iff {exchange : Exchange} {name : String} {author : Handle Author} :
    exchange.author? = some (name, author) ↔ exchange = .getAuthor name author := by
  cases exchange <;> simp [author?]

theorem commit?_eq_some_iff {exchange : Exchange} {hash : String} {commit : Handle Commit} :
    exchange.commit? = some (hash, commit) ↔ exchange = .getCommit hash commit := by
  cases exchange <;> simp [commit?]

end Exchange

/-- What a history answers after some exchanges, and what becomes of it. Files and authors that are
put into commits were handed out before. -/
inductive Step (exchanges : List Exchange) (history : History) : Exchange → History → Prop
  | getFile (path : String) :
    Step exchanges history (.getFile path (history.requestFile path).1)
      (history.requestFile path).2
  | getAuthor (name : String) :
    Step exchanges history (.getAuthor name (history.requestAuthor name).1)
      (history.requestAuthor name).2
  | getCommit (hash : String) :
    Step exchanges history (.getCommit hash (history.requestCommit hash).1)
      (history.requestCommit hash).2
  | findAuthor (name : String) :
    Step exchanges history (.findAuthor name (history.authors.find? name)) history
  | findCommit (hash : String) :
    Step exchanges history (.findCommit hash (history.commits.find? hash)) history
  | addChange (commit : Handle Commit) (change : Change)
    (hf : ∃ path, .getFile path change.file ∈ exchanges) :
    Step exchanges history (.addChange commit change)
      (history.modifyCommit commit fun entry => { entry with changes := entry.changes ++ [change] })
  | setAuthor (commit : Handle Commit) (author : Option (Handle Author))
    (ha : ∀ handle, author = some handle →
      ∃ name, .getAuthor name handle ∈ exchanges ∨ .findAuthor name (some handle) ∈ exchanges) :
    Step exchanges history (.setAuthor commit author)
      (history.modifyCommit commit fun entry => { entry with author := author })
  | setTimestamp (commit : Handle Commit) (timestamp : Option Calendar.Timestamp) :
    Step exchanges history (.setTimestamp commit timestamp)
      (history.modifyCommit commit fun entry => { entry with timestamp := timestamp })
  | setSummary (commit : Handle Commit) (summary : String) :
    Step exchanges history (.setSummary commit summary) (history.setSummary commit summary)

/-- Exchanges with a history that was empty before them, and the history after them. -/
inductive Conversation : List Exchange → History → Prop
  | empty : Conversation [] .empty
  | concat {exchanges : List Exchange} {exchange : Exchange} {history after : History}
    (h : Conversation exchanges history) (hs : Step exchanges history exchange after) :
    Conversation (exchanges ++ [exchange]) after

variable {exchanges : List Exchange} {history after : History} {exchange : Exchange}

section Registries

variable {α : Type} [Entity α] {registry : Registry α}
  {ask? : Exchange → Option (String × Handle α)}

theorem answered_of_ask [LawfulEntity α] {key : String}
    (h : registry.Answered (exchanges.filterMap ask?))
    (ha : ask? exchange = some (key, (registry.request key).1)) :
    (registry.request key).2.Answered ((exchanges ++ [exchange]).filterMap ask?) := by
  rw [List.filterMap_append, List.filterMap_cons_some ha]
  exact h.request key

theorem answered_of_pass (h : registry.Answered (exchanges.filterMap ask?))
    (ha : ask? exchange = none) :
    registry.Answered ((exchanges ++ [exchange]).filterMap ask?) := by
  rw [List.filterMap_append, List.filterMap_cons_none ha, List.filterMap_nil, List.append_nil]
  exact h

end Registries

/-- All registries have answered, and what was found had been asked for. -/
structure Answering (exchanges : List Exchange) (history : History) : Prop where
  wellFormed : history.WellFormed
  files : history.files.Answered (exchanges.filterMap Exchange.file?)
  authors : history.authors.Answered (exchanges.filterMap Exchange.author?)
  commits : history.commits.Answered (exchanges.filterMap Exchange.commit?)
  found : ∀ name author, .findAuthor name (some author) ∈ exchanges →
    (name, author) ∈ exchanges.filterMap Exchange.author?

theorem Answering.empty : Answering [] .empty :=
  ⟨wellFormed_empty, .empty, .empty, .empty, fun _ _ hm => by cases hm⟩

theorem Answering.found_concat (h : Answering exchanges history)
    (hlast : ∀ name author, exchange = .findAuthor name (some author) →
      history.authors.find? name = some author) (name : String) (author : Handle Author)
    (hm : .findAuthor name (some author) ∈ exchanges ++ [exchange]) :
    (name, author) ∈ (exchanges ++ [exchange]).filterMap Exchange.author? := by
  rw [List.filterMap_append]
  apply List.mem_append_left
  rcases List.mem_append.mp hm with hm | hm
  · exact h.found name author hm
  · exact h.authors.mem_of_find? (hlast name author (List.mem_singleton.mp hm).symm)

theorem Answering.modifyCommit (h : Answering exchanges history) (commit : Handle Commit)
    {change : Commit → Commit} (hw : (history.modifyCommit commit change).WellFormed)
    (hk : ∀ entry, (change entry).hash = entry.hash)
    (hnone : exchange.file? = none ∧ exchange.author? = none ∧ exchange.commit? = none)
    (hfound : ∀ name author, exchange ≠ .findAuthor name (some author)) :
    Answering (exchanges ++ [exchange]) (history.modifyCommit commit change) := by
  obtain ⟨hfile, hauthor, hcommit⟩ := hnone
  exact ⟨hw, answered_of_pass h.files hfile, answered_of_pass h.authors hauthor,
    answered_of_pass (h.commits.modify commit hk) hcommit,
    h.found_concat fun name author he => absurd he (hfound name author)⟩

/-- Every step keeps the answers. -/
theorem Answering.step (h : Answering exchanges history)
    (hs : Step exchanges history exchange after) : Answering (exchanges ++ [exchange]) after := by
  cases hs with
  | getFile path =>
    exact ⟨h.wellFormed.requestFile path, answered_of_ask h.files rfl,
      answered_of_pass h.authors rfl, answered_of_pass h.commits rfl,
      h.found_concat fun _ _ => Exchange.noConfusion⟩
  | getAuthor name =>
    exact ⟨h.wellFormed.requestAuthor name, answered_of_pass h.files rfl,
      answered_of_ask h.authors rfl, answered_of_pass h.commits rfl,
      h.found_concat fun _ _ => Exchange.noConfusion⟩
  | getCommit hash =>
    exact ⟨h.wellFormed.requestCommit hash, answered_of_pass h.files rfl,
      answered_of_pass h.authors rfl, answered_of_ask h.commits rfl,
      h.found_concat fun _ _ => Exchange.noConfusion⟩
  | findAuthor name =>
    refine ⟨h.wellFormed, answered_of_pass h.files rfl, answered_of_pass h.authors rfl,
      answered_of_pass h.commits rfl, h.found_concat fun other author he => ?_⟩
    obtain ⟨rfl, hfound⟩ := Exchange.findAuthor.inj he
    exact hfound
  | findCommit hash =>
    exact ⟨h.wellFormed, answered_of_pass h.files rfl, answered_of_pass h.authors rfl,
      answered_of_pass h.commits rfl, h.found_concat fun _ _ => Exchange.noConfusion⟩
  | addChange commit change hf =>
    refine h.modifyCommit commit ?_ (fun _ => rfl) ⟨rfl, rfl, rfl⟩ fun _ _ => Exchange.noConfusion
    refine h.wellFormed.modifyCommit commit (fun _ => rfl) (fun entry added hm => ?_)
      fun _ _ => .inl
    rcases List.mem_append.mp hm with hm | hm
    · exact .inl hm
    · obtain ⟨path, hf⟩ := hf
      obtain ⟨file, hg, -⟩ := h.files.own path change.file (List.mem_filterMap.mpr ⟨_, hf, rfl⟩)
      rw [List.mem_singleton.mp hm]
      exact .inr ⟨file, hg⟩
  | setAuthor commit author ha =>
    refine h.modifyCommit commit ?_ (fun _ => rfl) ⟨rfl, rfl, rfl⟩ fun _ _ => Exchange.noConfusion
    refine h.wellFormed.modifyCommit commit (fun _ => rfl) (fun _ _ => .inl)
      fun entry handle he => ?_
    obtain ⟨name, ha⟩ := ha handle he
    have hasked : (name, handle) ∈ exchanges.filterMap Exchange.author? := by
      rcases ha with ha | ha
      · exact List.mem_filterMap.mpr ⟨_, ha, rfl⟩
      · exact h.found name handle ha
    obtain ⟨known, hg, -⟩ := h.authors.own name handle hasked
    exact .inr ⟨known, hg⟩
  | setTimestamp commit timestamp =>
    refine h.modifyCommit commit ?_ (fun _ => rfl) ⟨rfl, rfl, rfl⟩ fun _ _ => Exchange.noConfusion
    exact h.wellFormed.modifyCommit commit (fun _ => rfl) (fun _ _ => .inl) fun _ _ => .inl
  | setSummary commit summary =>
    refine h.modifyCommit commit ?_ (fun _ => rfl) ⟨rfl, rfl, rfl⟩ fun _ _ => Exchange.noConfusion
    exact h.wellFormed.modifyCommit commit (fun _ => rfl) (fun _ _ => .inl) fun _ _ => .inl

/-- In every conversation the registries have answered. -/
theorem Conversation.answering (h : Conversation exchanges history) :
    Answering exchanges history := by
  induction h with
  | empty => exact .empty
  | concat _ hs ih => exact ih.step hs

theorem Conversation.exists_step (h : Conversation exchanges history) {before later : List Exchange}
    (he : exchanges = before ++ exchange :: later) :
    ∃ earlier next, Conversation before earlier ∧ Step before earlier exchange next := by
  induction h generalizing later with
  | empty => cases before <;> cases he
  | @concat exchanges last history after h hs ih =>
    rcases List.eq_nil_or_concat later with rfl | ⟨rest, other, rfl⟩
    · obtain ⟨rfl, hlast⟩ := List.append_inj' he rfl
      cases hlast
      exact ⟨history, after, h, hs⟩
    · rw [List.concat_eq_append, ← List.cons_append, ← List.append_assoc] at he
      exact ih (List.append_inj' he rfl).1

end History

end Authorship
