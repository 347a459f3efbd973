import Authorship.Proofs.Activity.Totals
import Authorship.Proofs.History.Conversation

namespace Authorship

/-- What a registry handed out: one entity for each key, which is the same just when the key is. -/
structure Registry.Identifies {α : Type} [Entity α] (registry : Registry α)
    (asked : List (String × Handle α)) : Prop where
  /-- The entities are those of the keys that were asked for, in the order of the first requests. -/
  keys : registry.keys = (asked.map Prod.fst).eraseDups
  own : ∀ key handle, (key, handle) ∈ asked →
    ∃ entity, registry.get? handle = some entity ∧ Entity.key entity = key
  same : ∀ key handle other found, (key, handle) ∈ asked → (other, found) ∈ asked →
    (handle = found ↔ key = other)

theorem Registry.Answered.identifies {α : Type} [Entity α] {registry : Registry α}
    {asked : List (String × Handle α)} (h : registry.Answered asked) : registry.Identifies asked :=
  ⟨h.keys, h.own, fun _ _ _ _ => h.handle_eq_iff⟩

namespace History

open Authorship.Activity

structure Identified (exchanges : List Exchange) (history : History) : Prop where
  files : history.files.Identifies (exchanges.filterMap Exchange.file?)
  authors : history.authors.Identifies (exchanges.filterMap Exchange.author?)
  commits : history.commits.Identifies (exchanges.filterMap Exchange.commit?)
  /-- An author is found just when the name was asked for before, and is the one that is handed out
  for it. -/
  foundAuthor : ∀ before name found later, exchanges = before ++ .findAuthor name found :: later →
    (found = none ↔ ∀ author, .getAuthor name author ∉ before) ∧
    ∀ author other, found = some author → .getAuthor name other ∈ exchanges → other = author
  foundCommit : ∀ before hash found later, exchanges = before ++ .findCommit hash found :: later →
    (found = none ↔ ∀ commit, .getCommit hash commit ∉ before) ∧
    ∀ commit other, found = some commit → .getCommit hash other ∈ exchanges → other = commit
  changed : ∀ commit ∈ history.commits.items, ∀ change ∈ commit.changes,
    history.files.get? change.file = some ⟨history.pathOf change⟩ ∧
      history.files.find? (history.pathOf change) = some change.file
  written : ∀ commit ∈ history.commits.items, ∀ author, commit.author = some author →
    ∃ name, history.authorName? commit = some name ∧
      history.authors.get? author = some ⟨name⟩ ∧ history.authors.find? name = some author
  ascending : (history.authorsByName.map (·.2.name)).Pairwise (· < ·) ∧
    (history.authorsByName.map (·.2.name)).Perm history.authors.keys

/-- Files and authors that commits refer to are compared as their paths and names are, and so they
are in filters and totals. -/
structure ComparesKeys (history : History) : Prop where
  file : ∀ commit ∈ history.commits.items, ∀ other ∈ history.commits.items,
    ∀ change ∈ commit.changes, ∀ change' ∈ other.changes,
      (change.file = change'.file ↔ history.pathOf change = history.pathOf change')
  author : ∀ commit ∈ history.commits.items, ∀ other ∈ history.commits.items,
    (commit.author = other.author ↔ history.authorName? commit = history.authorName? other)
  admits : ∀ selection : Selection, ∀ commit ∈ history.commits.items, ∀ change ∈ commit.changes,
    (selection.admitsChange history change = true ↔ selection.Counted (history.pathOf change))
  mine : ∀ handle author, history.authors.get? handle = some author →
    ∀ commit, commit ∈ commitsOf history handle ↔
      commit ∈ history.commits.items ∧ history.authorName? commit = some author.name
  distinct : ∀ commits : List Commit, (∀ commit ∈ commits, commit ∈ history.commits.items) →
    ∀ changes : List Change, (∀ change ∈ changes, ∃ commit ∈ commits, change ∈ commit.changes) →
      (changes.map Change.file).eraseDups.length = (changes.map history.pathOf).eraseDups.length

variable {exchanges : List Exchange} {history : History}

theorem WellFormed.file_eq_iff (h : history.WellFormed) {commit other : Commit}
    (hm : commit ∈ history.commits.items) (ho : other ∈ history.commits.items)
    {change change' : Change} (hc : change ∈ commit.changes) (hc' : change' ∈ other.changes) :
    change.file = change'.file ↔ history.pathOf change = history.pathOf change' := by
  constructor
  · intro he
    rw [pathOf, pathOf, he]
  · exact Registry.eq_of_key_eq h.files (h.exists_path hm hc) (h.exists_path ho hc')

theorem WellFormed.author_eq_iff (h : history.WellFormed) {commit other : Commit}
    (hm : commit ∈ history.commits.items) (ho : other ∈ history.commits.items) :
    commit.author = other.author ↔ history.authorName? commit = history.authorName? other := by
  constructor
  · intro he
    rw [authorName?, authorName?, he]
  · intro he
    -- Only a commit without an author has no name.
    have hnone {entry : Commit} (ha : entry.author = none) : history.authorName? entry = none := by
      rw [authorName?, ha, Option.bind_none, Option.map_none]
    cases ha : commit.author with
    | none =>
      rw [hnone ha] at he
      cases hb : other.author with
      | none => rfl
      | some handle =>
        obtain ⟨author, -, hname⟩ := h.exists_author ho hb
        cases he.trans hname
    | some handle =>
      obtain ⟨author, hg, hname⟩ := h.exists_author hm ha
      cases hb : other.author with
      | none => cases hname.symm.trans (he.trans (hnone hb))
      | some handle' =>
        obtain ⟨author', hg', hname'⟩ := h.exists_author ho hb
        have hsame : author.name = author'.name :=
          Option.some.inj (hname.symm.trans (he.trans hname'))
        rw [Registry.eq_of_key_eq h.authors hg hg' hsame]

theorem WellFormed.comparesKeys (h : history.WellFormed) : history.ComparesKeys := by
  refine ⟨fun commit hm other ho change hc change' hc' => h.file_eq_iff hm ho hc hc',
    fun commit hm other ho => h.author_eq_iff hm ho,
    fun selection commit hm change hc => admitsChange_iff h hm hc,
    fun handle author hg commit => mem_commitsOf h hg, fun commits hs changes hin => ?_⟩
  rw [length_eraseDups, length_eraseDups]
  apply card_paths h
  intro change hc
  obtain ⟨commit, hm, hc⟩ := hin change hc
  exact h.exists_path (hs commit hm) hc

theorem found_of_answered {α : Type} [Entity α] {earlier registry : Registry α}
    {ask? : Exchange → Option (String × Handle α)} {before : List Exchange}
    (hb : earlier.Answered (before.filterMap ask?))
    (h : registry.Answered (exchanges.filterMap ask?)) (hs : before ⊆ exchanges) (key : String) :
    (earlier.find? key = none ↔ ∀ handle, (key, handle) ∉ before.filterMap ask?) ∧
      ∀ handle other, earlier.find? key = some handle →
        (key, other) ∈ exchanges.filterMap ask? → other = handle := by
  refine ⟨hb.find?_eq_none_iff, fun handle other hf ho => ?_⟩
  obtain ⟨exchange, hm, ha⟩ := List.mem_filterMap.mp (hb.mem_of_find? hf)
  exact (h.handle_eq_iff ho (List.mem_filterMap.mpr ⟨exchange, hs hm, ha⟩)).mpr rfl

/-- In every conversation identity is the key: for a key the same is handed out however often it is
asked for, and is found once it was asked for; all that commits refer to is handed out by the key
that it has. -/
theorem identified_of_conversation (h : Conversation exchanges history) :
    history.Identified exchanges ∧ history.ComparesKeys := by
  have ha := h.answering
  have hw := ha.wellFormed
  refine ⟨⟨ha.files.identifies, ha.authors.identifies, ha.commits.identifies, ?_, ?_, ?_, ?_, ?_⟩,
    hw.comparesKeys⟩
  · rintro before name found later rfl
    obtain ⟨earlier, next, hb, hs⟩ := h.exists_step rfl
    cases hs
    obtain ⟨hnone, hsame⟩ :=
      found_of_answered hb.answering.authors ha.authors (List.subset_append_left _ _) name
    simp only [List.mem_filterMap, Exchange.author?_eq_some_iff, exists_eq_right] at hnone hsame
    exact ⟨hnone, hsame⟩
  · rintro before hash found later rfl
    obtain ⟨earlier, next, hb, hs⟩ := h.exists_step rfl
    cases hs
    obtain ⟨hnone, hsame⟩ :=
      found_of_answered hb.answering.commits ha.commits (List.subset_append_left _ _) hash
    simp only [List.mem_filterMap, Exchange.commit?_eq_some_iff, exists_eq_right] at hnone hsame
    exact ⟨hnone, hsame⟩
  · intro commit hm change hc
    have hg := hw.exists_path hm hc
    exact ⟨hg, Registry.find?_key hw.files hg⟩
  · intro commit hm author hauthor
    obtain ⟨known, hg, hname⟩ := hw.exists_author hm hauthor
    exact ⟨known.name, hname, hg, Registry.find?_key hw.authors hg⟩
  · exact ⟨pairwise_authorsByName hw.authors, map_name_authorsByName history⟩

/-- An author is looked for in vain, then asked for, found and put into a commit. -/
def smallTalk : List Exchange :=
  [.findAuthor "a@x" none, .getCommit "h1" ⟨0⟩, .getAuthor "b@x" ⟨0⟩, .getAuthor "a@x" ⟨1⟩,
    .getFile "p.py" ⟨0⟩, .addChange ⟨0⟩ ⟨⟨0⟩, 1, 2⟩, .getFile "p.py" ⟨0⟩,
    .findAuthor "a@x" (some ⟨1⟩), .setAuthor ⟨0⟩ (some ⟨1⟩), .findCommit "h2" none]

theorem identified_of_conversation_smallTalk :
    ∃ history, Conversation smallTalk history ∧ history.Identified smallTalk ∧
      history.ComparesKeys := by
  have hasked : Conversation _ _ := Conversation.empty.concat (.findAuthor "a@x")
    |>.concat (.getCommit "h1") |>.concat (.getAuthor "b@x") |>.concat (.getAuthor "a@x")
    |>.concat (.getFile "p.py")
  have hchanged := hasked.concat (.addChange ⟨0⟩ ⟨⟨0⟩, 1, 2⟩
    ⟨"p.py", List.mem_append_right _ (.head _)⟩)
  have hfound := hchanged.concat (.getFile "p.py") |>.concat (.findAuthor "a@x")
  have hwritten := hfound.concat (.setAuthor ⟨0⟩ (some ⟨1⟩) fun
    | _, rfl => ⟨"a@x", .inr (List.mem_append_right _ (.head _))⟩)
  have h : Conversation smallTalk _ := hwritten.concat (.findCommit "h2")
  exact ⟨_, h, identified_of_conversation h⟩

end History

end Authorship
