import Authorship.Proofs.Activity.Completion

namespace Authorship

open Authorship.Activity

def History.unmoved (history : History) (commit : Commit) : Commit :=
  { commit with changes := commit.changes.filter (!history.isMove ·) }

def History.withoutMoves (history : History) : History :=
  { history with commits := ⟨history.commits.items.map history.unmoved⟩ }

namespace Activity

open Authorship.Calendar Authorship.Number

def validFiles (selection : Selection) (history : History) : List File :=
  history.files.items.filter selection.admits

def admittedChanges (selection : Selection) (history : History) (commits : List Commit) :
    List Change :=
  (commits.flatMap Commit.changes).filter (selection.admitsChange history)

variable {selection : Selection} {history : History}

theorem ofCommits_eq (selection : Selection) (history : History) (commits : List Commit) :
    Totals.ofCommits selection history commits =
      { files := ((admittedChanges selection history commits).map Change.file).eraseDups.length
        commits := commits.length
        adds := ((admittedChanges selection history commits).map Change.adds).sum
        deletes := ((admittedChanges selection history commits).map Change.deletes).sum } := by
  rw [admittedChanges, List.filter_flatMap]
  rfl

theorem any_admitted_of_qualifies {commit : Commit}
    (h : selection.qualifies history commit = .ok true) :
    commit.changes.any (selection.admitsChange history) = true := by
  unfold Selection.qualifies at h
  split at h
  · cases h
  · split at h
    · assumption
    · cases h

theorem any_admitted_of_qualifying {commits rest : List Commit}
    (h : selection.qualifying history commits = .ok rest) {commit : Commit} (hm : commit ∈ rest) :
    commit.changes.any (selection.admitsChange history) = true := by
  cases hs : selection.skip with
  | none =>
    obtain ⟨picked, -, h⟩ := exists_of_bind_ok h
    obtain ⟨sorted, -, h⟩ := exists_of_bind_ok h
    rw [hs] at h
    cases h
  | some skip =>
    rw [qualifying_eq_chooseCommits history commits hs] at h
    obtain ⟨-, -, rfl⟩ := chooseCommits_eq_ok_iff.mp h
    exact any_admitted_of_qualifies (taken_iff.mp (List.mem_filter.mp (mem_of_mem_chosen hm)).2)

theorem admittedChanges_ne_nil {commits rest : List Commit}
    (h : selection.qualifying history commits = .ok rest) (hne : rest ≠ []) :
    admittedChanges selection history rest ≠ [] := by
  obtain ⟨commit, others, rfl⟩ := List.exists_cons_of_ne_nil hne
  have hany := any_admitted_of_qualifying h List.mem_cons_self
  obtain ⟨change, hc, ha⟩ := List.any_eq_true.mp hany
  apply List.ne_nil_of_mem
  exact List.mem_filter.mpr ⟨List.mem_flatMap.mpr ⟨commit, List.mem_cons_self, hc⟩, ha⟩

theorem countP_range {α : Type} (list : List α) (p : α → Bool) :
    (List.range list.length).countP (fun i => list[i]?.any p) = list.countP p := by
  have hsome : (List.range list.length).map (fun i => list[i]?) = list.map some := by
    apply List.ext_getElem?
    intro i
    by_cases hi : i < list.length
    · simp [hi]
    · simp [hi]
  have hcount := congrArg (List.countP (Option.any p)) hsome
  rw [List.countP_map, List.countP_map] at hcount
  exact hcount

theorem length_files_le_valid (selection : Selection) (history : History) (commits : List Commit) :
    ((admittedChanges selection history commits).map Change.file).eraseDups.length ≤
      (validFiles selection history).length := by
  have hsub : ((admittedChanges selection history commits).map Change.file).eraseDups ⊆
      history.files.handles.filter fun handle =>
        (history.files.get? handle).any selection.admits := by
    intro handle hm
    obtain ⟨change, hc, rfl⟩ := List.mem_map.mp (List.mem_eraseDups.mp hm)
    have ha : (history.files.get? change.file).any selection.admits = true :=
      (List.mem_filter.mp hc).2
    obtain ⟨file, hg, -⟩ := (Option.any_eq_true _ _).mp ha
    have hlt := (List.getElem?_eq_some_iff.mp hg).1
    refine List.mem_filter.mpr ⟨?_, ha⟩
    exact List.mem_map.mpr ⟨change.file.place, List.mem_range.mpr hlt, rfl⟩
  have hlength := ((nodup_eraseDups _).subperm hsub).length_le
  rw [← List.countP_eq_length_filter, Registry.handles, List.countP_map] at hlength
  rw [validFiles, ← List.countP_eq_length_filter]
  exact hlength.trans (countP_range history.files.items selection.admits).le

theorem length_files_le_changes (selection : Selection) (history : History)
    (commits : List Commit) :
    ((admittedChanges selection history commits).map Change.file).eraseDups.length ≤
      (admittedChanges selection history commits).length := by
  rw [length_eraseDups, ← List.length_map (f := Change.file)]
  exact List.toFinset_card_le _

section Moves

theorem not_isMove_and_admitsChange (selection : Selection) (history : History) (change : Change) :
    (!history.isMove change && selection.admitsChange history change) =
      selection.admitsChange history change := by
  rw [History.isMove, Selection.admitsChange]
  cases history.files.get? change.file with
  | none => rfl
  | some file =>
    rw [Option.any_some, Option.any_some, Selection.admits, ← Bool.and_assoc, Bool.and_self]

theorem filter_unmoved (selection : Selection) (history : History) (commit : Commit) :
    (history.unmoved commit).changes.filter (selection.admitsChange history) =
      commit.changes.filter (selection.admitsChange history) := by
  rw [History.unmoved, List.filter_filter]
  apply List.filter_congr
  intro change _
  rw [Bool.and_comm, not_isMove_and_admitsChange]

theorem any_unmoved (selection : Selection) (history : History) (commit : Commit) :
    (history.unmoved commit).changes.any (selection.admitsChange history) =
      commit.changes.any (selection.admitsChange history) := by
  rw [History.unmoved, List.any_filter]
  simp only [not_isMove_and_admitsChange]

theorem qualifies_unmoved (selection : Selection) (history : History) (commit : Commit) :
    selection.qualifies history.withoutMoves (history.unmoved commit) =
      selection.qualifies history commit := by
  have hfiles : selection.admitsChange history.withoutMoves = selection.admitsChange history := rfl
  rw [Selection.qualifies, Selection.qualifies, hfiles, any_unmoved]
  rfl

theorem withoutMoves_withoutMoves (history : History) :
    history.withoutMoves.withoutMoves = history.withoutMoves := by
  have hcommit (commit : Commit) :
      history.withoutMoves.unmoved (history.unmoved commit) = history.unmoved commit := by
    have hchanges : (history.unmoved commit).changes.filter (!history.isMove ·) =
        (history.unmoved commit).changes := by
      rw [History.unmoved, List.filter_filter]
      simp only [Bool.and_self]
    exact congrArg (fun changes => { commit with changes }) hchanges
  have hcommits : history.withoutMoves.commits.items.map history.withoutMoves.unmoved =
      history.withoutMoves.commits.items := by
    rw [History.withoutMoves, List.map_map]
    exact List.map_congr_left fun commit _ => hcommit commit
  exact congrArg (fun items => { history with commits := ⟨items⟩ }) hcommits

theorem bind_eq_map {ε α β γ δ : Type} {x : Except ε α} {y : Except ε γ} {f : α → γ}
    {step : α → Except ε β} {step' : γ → Except ε δ} {g : β → δ} (hy : y = x.map f)
    (hstep : ∀ a, step' (f a) = (step a).map g) : y >>= step' = (x >>= step).map g := by
  subst hy
  cases x with
  | error e => rfl
  | ok a => exact hstep a

theorem sift_map {α β : Type} {judge : α → Except Fault Bool} {judge' : β → Except Fault Bool}
    {f : α → β} (h : ∀ a, judge' (f a) = judge a) (list : List α) :
    sift judge' (list.map f) = (sift judge list).map (List.map f) := by
  induction list with
  | nil => rfl
  | cons a rest ih =>
    rw [List.map_cons, sift, sift, h]
    cases judge a with
    | error fault => rfl
    | ok counts =>
      change (sift judge' (rest.map f) >>= _) = (sift judge rest >>= _).map _
      apply bind_eq_map ih
      intro picked
      cases counts <;> rfl

theorem sortCommits_unmoved (history : History) (commits : List Commit) :
    sortCommits (commits.map history.unmoved) =
      (sortCommits commits).map (List.map history.unmoved) := by
  have hsortable : isSortable (commits.map history.unmoved) = isSortable commits := by
    rw [isSortable, isSortable, List.filterMap_map]
    rfl
  have hsorted : sortedBy commitInstant (commits.map history.unmoved) =
      (sortedBy commitInstant commits).map history.unmoved :=
    (map_sortedBy fun _ _ => rfl).symm
  rw [sortCommits, sortCommits, hsortable]
  split
  · exact congrArg Except.ok hsorted
  · rfl

theorem qualifying_unmoved (selection : Selection) (history : History) (commits : List Commit) :
    selection.qualifying history.withoutMoves (commits.map history.unmoved) =
      (selection.qualifying history commits).map (List.map history.unmoved) := by
  rw [Selection.qualifying, Selection.qualifying, pick_eq_sift, pick_eq_sift]
  apply bind_eq_map (sift_map (qualifies_unmoved selection history) commits)
  intro picked
  apply bind_eq_map (sortCommits_unmoved history picked)
  intro sorted
  cases selection.skip with
  | none => rfl
  | some skip => exact congrArg Except.ok List.map_drop.symm

theorem ofCommits_unmoved (selection : Selection) (history : History) (commits : List Commit) :
    Totals.ofCommits selection history.withoutMoves (commits.map history.unmoved) =
      Totals.ofCommits selection history commits := by
  have hfiles : selection.admitsChange history.withoutMoves = selection.admitsChange history := rfl
  rw [Totals.ofCommits, Totals.ofCommits, hfiles, List.flatMap_map, List.length_map]
  simp only [filter_unmoved]

theorem totalsOf_withoutMoves (selection : Selection) (history : History)
    (handle : Handle Author) :
    totalsOf selection history.withoutMoves handle = totalsOf selection history handle := by
  have hown : commitsOf history.withoutMoves handle =
      (commitsOf history handle).map history.unmoved := by
    rw [commitsOf, commitsOf, History.withoutMoves, List.filter_map]
    rfl
  rw [totalsOf, totalsOf, hown, qualifying_unmoved]
  cases selection.qualifying history (commitsOf history handle) with
  | error fault => rfl
  | ok rest => exact congrArg Except.ok (ofCommits_unmoved selection history rest)

theorem AuthorChart.crunchTimes_withoutMoves (selection : Selection) (history : History)
    (times : Nat) (chart : AuthorChart) :
    chart.crunchTimes selection history.withoutMoves times =
      chart.crunchTimes selection history times := by
  have hcount : AuthorChart.countFor selection history.withoutMoves =
      AuthorChart.countFor selection history := by
    funext chart pair
    rw [AuthorChart.countFor, AuthorChart.countFor, totalsOf_withoutMoves]
  induction times generalizing chart with
  | zero => rfl
  | succ times ih =>
    simp only [AuthorChart.crunchTimes, AuthorChart.crunch, hcount, ih]

theorem isMove_of_mem_admittedChanges {commits : List Commit} {change : Change}
    (h : change ∈ admittedChanges selection history commits) : history.isMove change = false := by
  have ha := (List.mem_filter.mp h).2
  rw [← not_isMove_and_admitsChange, Bool.and_eq_true, Bool.not_eq_true'] at ha
  exact ha.1

end Moves

/-- A total that is at most a number of things, as it is and as it is shown. -/
def AtMost (total : Int) (shown : Binary64) (bound : Nat) : Prop :=
  total ≤ bound ∧ ∀ number, Binary64.ofInt? bound = some number → shown.le number = true

/-- How the five values that are shown of commits that count fit together, and the totals of which
they are as near as numbers can be. -/
structure Consistent (selection : Selection) (history : History) (commits : List Commit)
    (total : Stat → Int) (shown : Stat → Binary64) : Prop where
  shows : ∀ stat, Binary64.ofInt? (total stat) = some (shown stat)
  commits_iff_files : (Binary64.finite 1).le (shown .commits) = true ↔
    (Binary64.finite 1).le (shown .filesChanged) = true
  zero : shown .commits = .finite 0 → ∀ stat, shown stat = .finite 0
  files_le_valid : AtMost (total .filesChanged) (shown .filesChanged)
    (validFiles selection history).length
  files_le_changes : AtMost (total .filesChanged) (shown .filesChanged)
    (admittedChanges selection history commits).length
  lines : total .linesChanged = total .linesAdded + total .linesDeleted
  unmoved : ∀ change ∈ admittedChanges selection history commits, history.isMove change = false

theorem atMost_of_le {total : Int} {shown : Binary64} {bound : Nat}
    (h : Binary64.ofInt? total = some shown) (hle : total ≤ bound) : AtMost total shown bound :=
  ⟨hle, fun _ hb => Binary64.le_of_ofInt? hle h hb⟩

theorem one_le_commits_iff {commits rest : List Commit}
    (h : selection.qualifying history commits = .ok rest) :
    1 ≤ (Totals.ofCommits selection history rest).value .commits ↔
      1 ≤ (Totals.ofCommits selection history rest).value .filesChanged := by
  rw [ofCommits_eq]
  change 1 ≤ (rest.length : Int) ↔ 1 ≤ (List.length _ : Int)
  rw [Nat.one_le_cast, Nat.one_le_cast, Nat.one_le_iff_ne_zero, Nat.one_le_iff_ne_zero, Ne,
    Ne, List.length_eq_zero_iff, length_eraseDups, Finset.card_eq_zero, List.toFinset_eq_empty_iff,
    List.map_eq_nil_iff]
  constructor
  · exact admittedChanges_ne_nil h
  · rintro hne rfl
    exact hne rfl

theorem value_ofCommits_nil (selection : Selection) (history : History) (stat : Stat) :
    (Totals.ofCommits selection history []).value stat = 0 := by
  cases stat <;> rfl

theorem consistent_of_qualifying {commits rest : List Commit} {shown : Stat → Binary64}
    (h : selection.qualifying history commits = .ok rest)
    (hs : ∀ stat,
      Binary64.ofInt? ((Totals.ofCommits selection history rest).value stat) = some (shown stat)) :
    Consistent selection history rest (Totals.ofCommits selection history rest).value shown where
  shows := hs
  commits_iff_files := by
    rw [Binary64.one_le_iff_of_ofInt? (hs .commits),
      Binary64.one_le_iff_of_ofInt? (hs .filesChanged), one_le_commits_iff h]
  zero := by
    intro hzero stat
    have hnone : ¬ 1 ≤ (Totals.ofCommits selection history rest).value .commits := by
      rw [← Binary64.one_le_iff_of_ofInt? (hs .commits), hzero]
      decide
    have hnil : rest = [] := by
      change ¬ 1 ≤ (rest.length : Int) at hnone
      exact List.length_eq_zero_iff.mp (by omega)
    have hstat := hs stat
    rw [hnil, value_ofCommits_nil] at hstat
    exact (Option.some.inj hstat).symm
  files_le_valid := by
    apply atMost_of_le (hs .filesChanged)
    rw [ofCommits_eq]
    exact Int.ofNat_le.mpr (length_files_le_valid selection history rest)
  files_le_changes := by
    apply atMost_of_le (hs .filesChanged)
    rw [ofCommits_eq]
    exact Int.ofNat_le.mpr (length_files_le_changes selection history rest)
  lines := rfl
  unmoved _ := isMove_of_mem_admittedChanges

namespace AuthorChart

theorem ofAuthors_withoutMoves (history : History) :
    ofAuthors history.withoutMoves = ofAuthors history :=
  rfl

/-- The five series fit together for each author, and what happened to moved files does not show:
the same history with other changes of moved files has the same chart. -/
theorem consistent_of_crunchTimes {times : Nat} {chart : AuthorChart}
    (h : (ofAuthors history).crunchTimes selection history (times + 1) = .ok chart) :
    (∀ handle author, history.authors.get? handle = some author →
      ∃ (place : Nat) (commits : List Commit) (shown : Stat → Binary64),
        chart.authors[place]? = some (handle, author) ∧
        selection.qualifying history (commitsOf history handle) = .ok commits ∧
        (∀ stat, (chart.series stat).values[place]? = some (shown stat)) ∧
        Consistent selection history commits (Totals.ofCommits selection history commits).value
          shown) ∧
    ∀ other, other.withoutMoves = history.withoutMoves →
      (ofAuthors other).crunchTimes selection other (times + 1) = .ok chart := by
  obtain ⟨hfilled, hauthors⟩ := filled_of_crunchTimes (.inr rfl) h
  constructor
  · intro handle author hg
    obtain ⟨place, hat⟩ := List.mem_iff_getElem?.mp (History.mem_authorsByName.mpr hg)
    have hat' : chart.authors[place]? = some (handle, author) := by
      rw [hauthors]
      exact hat
    have hlt : place < (ofAuthors history).authors.length := (List.getElem?_eq_some_iff.mp hat).1
    obtain ⟨totals, ht, hvalues⟩ := hfilled.values place handle author hlt hat'
    obtain ⟨commits, hq, rfl⟩ := exists_of_totalsOf ht
    choose shown hrounded hshown using hvalues
    exact ⟨place, commits, shown, hat', hq, hshown,
      consistent_of_qualifying hq fun stat => ofInt?_of_rounded (hrounded stat)⟩
  · intro other hother
    rw [← ofAuthors_withoutMoves other, ← crunchTimes_withoutMoves, hother,
      crunchTimes_withoutMoves, ofAuthors_withoutMoves]
    exact h

/-- A commit that moved a file beside changing another, and one that only moved a file. -/
def movedHistory : History :=
  .build [.requestCommit "1", .setAuthor ⟨0⟩ "a@x", .addChange ⟨0⟩ "src/a.py" 3 1,
    .addChange ⟨0⟩ "src/{b => c}.py" 2 2,
    .setTimestamp ⟨0⟩ (some ⟨⟨⟨2025, 1, 1⟩, 12, 0, 0, 0⟩, none⟩),
    .requestCommit "2", .setAuthor ⟨1⟩ "b@x", .addChange ⟨1⟩ "old.py => new.py" 5 0,
    .setTimestamp ⟨1⟩ (some ⟨⟨⟨2025, 1, 2⟩, 12, 0, 0, 0⟩, none⟩)]

theorem consistent_of_crunchTimes_movedHistory :
    ∃ (chart : AuthorChart) (place : Nat) (commits : List Commit) (shown : Stat → Binary64),
      (ofAuthors movedHistory).crunchTimes plainSelection movedHistory (0 + 1) = .ok chart ∧
      chart.authors[place]? = some (⟨1⟩, ⟨"b@x"⟩) ∧
      (∀ stat, (chart.series stat).values[place]? = some (shown stat)) ∧
      Consistent plainSelection movedHistory commits
        (Totals.ofCommits plainSelection movedHistory commits).value shown ∧
      (ofAuthors movedHistory.withoutMoves).crunchTimes plainSelection movedHistory.withoutMoves
        (0 + 1) = .ok chart := by
  have hplain : movedHistory.authors.handles.all (isPlain plainSelection movedHistory) = true := by
    decide +kernel
  have htell : ∀ pair ∈ (ofAuthors movedHistory).authors,
      CanTell plainSelection movedHistory pair.1 :=
    exists_ofHistory_iff_canTell.mp (exists_ofHistory_of_isPlain hplain)
  obtain ⟨chart, hc⟩ := exists_crunchTimes (0 + 1) htell
  obtain ⟨hauthors, hother⟩ := consistent_of_crunchTimes hc
  obtain ⟨place, commits, shown, hat, -, hshown, hconsistent⟩ :=
    hauthors ⟨1⟩ ⟨"b@x"⟩ (by decide +kernel)
  exact ⟨chart, place, commits, shown, hc, hat, hshown, hconsistent,
    hother _ (withoutMoves_withoutMoves movedHistory)⟩

end AuthorChart

end Activity

end Authorship
