import Authorship.Activity.AuthorChart
import Authorship.Proofs.Activity.Qualifying
import Mathlib

namespace Authorship.Activity

def countedChanges (selection : Selection) (history : History) (commits : List Commit) :
    List Change :=
  (commits.flatMap Commit.changes).filter fun change => selection.Counted (history.pathOf change)

/-- What a statistic says about commits that count. -/
def Stat.meaning (selection : Selection) (history : History) (commits : List Commit) : Stat → Int
  | .filesChanged => ((countedChanges selection history commits).map history.pathOf).toFinset.card
  | .commits => commits.length
  | .linesChanged => ((countedChanges selection history commits).map Change.adds).sum +
      ((countedChanges selection history commits).map Change.deletes).sum
  | .linesAdded => ((countedChanges selection history commits).map Change.adds).sum
  | .linesDeleted => ((countedChanges selection history commits).map Change.deletes).sum

variable {selection : Selection} {history : History}

theorem flatMap_admitted {commits : List Commit} (hw : history.WellFormed)
    (hs : ∀ commit ∈ commits, commit ∈ history.commits.items) :
    (commits.flatMap fun commit => commit.changes.filter (selection.admitsChange history)) =
      countedChanges selection history commits := by
  rw [countedChanges, List.filter_flatMap]
  apply List.flatMap_congr
  intro commit hm
  apply List.filter_congr
  intro change hc
  rw [Bool.eq_iff_iff, admitsChange_iff hw (hs commit hm) hc, decide_eq_true_iff]

theorem length_eraseDups {α : Type} [DecidableEq α] (list : List α) :
    list.eraseDups.length = list.toFinset.card := by
  rw [← List.toFinset_card_of_nodup (nodup_eraseDups list)]
  congr 1
  ext a
  simp only [List.mem_toFinset, List.mem_eraseDups]

theorem card_paths {changes : List Change} (hw : history.WellFormed)
    (hc : ∀ change ∈ changes,
      history.files.get? change.file = some ⟨history.pathOf change⟩) :
    (changes.map Change.file).toFinset.card = (changes.map history.pathOf).toFinset.card := by
  have himage : (changes.map history.pathOf).toFinset =
      (changes.map Change.file).toFinset.image
        fun handle => ((history.files.get? handle).map File.path).getD "" := by
    ext path
    simp [History.pathOf]
  rw [himage, Finset.card_image_of_injOn]
  intro a ha b hb he
  obtain ⟨first, hf, rfl⟩ := List.mem_map.mp (List.mem_toFinset.mp ha)
  obtain ⟨second, hs, rfl⟩ := List.mem_map.mp (List.mem_toFinset.mp hb)
  exact Registry.eq_of_key_eq hw.files (hc first hf) (hc second hs) he

theorem value_ofCommits {commits : List Commit} (hw : history.WellFormed)
    (hs : ∀ commit ∈ commits, commit ∈ history.commits.items) (stat : Stat) :
    (Totals.ofCommits selection history commits).value stat =
      stat.meaning selection history commits := by
  have hchanges : (commits.flatMap fun commit =>
      commit.changes.filter (selection.admitsChange history)) =
        countedChanges selection history commits := flatMap_admitted hw hs
  have hpaths (change : Change) (hm : change ∈ countedChanges selection history commits) :
      history.files.get? change.file = some ⟨history.pathOf change⟩ := by
    obtain ⟨commit, hc, hm⟩ := List.mem_flatMap.mp (List.mem_of_mem_filter hm)
    exact hw.exists_path (hs commit hc) hm
  cases stat with
  | filesChanged =>
    simp only [Totals.value, Totals.ofCommits, Stat.meaning, hchanges, length_eraseDups,
      card_paths hw hpaths]
  | commits => rfl
  | linesChanged => simp only [Totals.value, Totals.ofCommits, Stat.meaning, hchanges, List.sum]
  | linesAdded => simp only [Totals.value, Totals.ofCommits, Stat.meaning, hchanges, List.sum]
  | linesDeleted => simp only [Totals.value, Totals.ofCommits, Stat.meaning, hchanges, List.sum]

/-- The commits that count for an author: those of the name that the selection takes. -/
def CountsFor (selection : Selection) (history : History) (name : String) (commit : Commit) :
    Prop :=
  history.authorName? commit = some name ∧ selection.Takes history commit

theorem mem_commitsOf {handle : Handle Author} {author : Author} (hw : history.WellFormed)
    (hg : history.authors.get? handle = some author) {commit : Commit} :
    commit ∈ commitsOf history handle ↔
      commit ∈ history.commits.items ∧ history.authorName? commit = some author.name := by
  rw [commitsOf, List.mem_filter, beq_iff_eq]
  refine and_congr_right fun _ => ?_
  constructor
  · intro hc
    rw [History.authorName?, hc, Option.bind_some, hg, Option.map_some]
  · intro hn
    obtain ⟨other, hb, hk⟩ := Option.map_eq_some_iff.mp hn
    obtain ⟨known, hc, hg'⟩ := Option.bind_eq_some_iff.mp hb
    rw [hc, Registry.eq_of_key_eq hw.authors hg' hg hk]

theorem exists_of_totalsOf {handle : Handle Author} {totals : Totals}
    (h : totalsOf selection history handle = .ok totals) :
    ∃ rest, selection.qualifying history (commitsOf history handle) = .ok rest ∧
      Totals.ofCommits selection history rest = totals := by
  rw [totalsOf] at h
  cases hq : selection.qualifying history (commitsOf history handle) with
  | error fault =>
    rw [hq] at h
    cases h
  | ok rest =>
    rw [hq] at h
    cases h
    exact ⟨rest, rfl, rfl⟩

/-- The totals of an author are those of the commits that count, less the oldest. -/
theorem totalsOf_meaning {handle : Handle Author} {author : Author} {totals : Totals}
    (hw : history.WellFormed) (hg : history.authors.get? handle = some author)
    (h : totalsOf selection history handle = .ok totals) :
    ∃ skip ranked, selection.skip = some skip ∧
      Ranked history (CountsFor selection history author.name) ranked ∧
      ∀ stat, totals.value stat = stat.meaning selection history (ranked.drop skip.toNat) := by
  obtain ⟨rest, hq, rfl⟩ := exists_of_totalsOf h
  obtain ⟨skip, ranked, hskip, hr, rfl⟩ :=
    ranked_of_qualifying hw (List.filter_sublist (l := history.commits.items)) hq
  refine ⟨skip, ranked, hskip, ⟨fun commit => ?_, hr.order⟩, fun stat => ?_⟩
  · rw [hr.mem_iff, CountsFor]
    constructor
    · rintro ⟨hi, hc, ht⟩
      exact ⟨hi, ((mem_commitsOf hw hg).mp hc).2, ht⟩
    · rintro ⟨hi, hn, ht⟩
      exact ⟨hi, (mem_commitsOf hw hg).mpr ⟨hi, hn⟩, ht⟩
  · apply value_ofCommits hw
    intro commit hm
    exact ((hr.mem_iff commit).mp (List.mem_of_mem_drop hm)).1

end Authorship.Activity
