import Authorship.Proofs.Activity.Merging

namespace Authorship

/-- The commits that have an author. -/
def History.authored (history : History) : List Commit :=
  history.commits.items.filter (·.author.isSome)

theorem Log.authored_of_read {dates : Calendar.DateReader} {aliases : Aliases} {lines : List String}
    {history : History} (h : read dates aliases lines = .ok history) :
    history.authored = history.commits.items := by
  obtain ⟨records, -, hmeaning⟩ := meaning_of_read h
  rw [History.authored, List.filter_eq_self]
  intro commit hm
  obtain ⟨before, summary, after, -, -, -, hauthor, -⟩ := hmeaning.latest commit hm
  cases ha : commit.author with
  | some handle => rfl
  | none =>
    rw [ha] at hauthor
    cases hauthor

theorem History.WellFormed.exists_name {history : History} (h : history.WellFormed)
    {commit : Commit} (hm : commit ∈ history.authored) :
    ∃ name ∈ history.authors.keys, history.authorName? commit = some name := by
  obtain ⟨hm, hsome⟩ := List.mem_filter.mp hm
  obtain ⟨handle, ha⟩ := Option.isSome_iff_exists.mp hsome
  obtain ⟨author, hg, hname⟩ := h.exists_author hm ha
  exact ⟨author.name, Registry.mem_keys_of_get? hg, hname⟩

namespace Activity

open Authorship.Number

variable {selection : Selection} {history : History}

/-- The commits of all authors that count, none passed over. -/
structure Picked (selection : Selection) (history : History) (picked : List Commit) : Prop where
  pick : selection.pick history history.authored = .ok picked
  mem_iff : ∀ commit, commit ∈ picked ↔
    commit ∈ history.authored ∧ selection.Takes history commit
  /-- They are put in order by their times, if all these can be compared. -/
  perm : ∀ sorted, { selection with skip := some 0 }.qualifying history history.authored =
    .ok sorted → sorted.Perm picked

theorem picked_of_qualifies (hw : history.WellFormed)
    (hq : ∀ commit ∈ history.authored, ∃ counts, selection.qualifies history commit = .ok counts) :
    Picked selection history (history.authored.filter (taken (selection.qualifies history))) := by
  have hpick : selection.pick history history.authored =
      .ok (history.authored.filter (taken (selection.qualifies history))) := by
    rw [pick_eq_sift]
    exact sift_eq_ok_iff.mpr ⟨hq, rfl⟩
  refine ⟨hpick, fun commit => ?_, fun sorted hs => ?_⟩
  · rw [List.mem_filter]
    refine and_congr_right fun hm => ?_
    obtain ⟨counts, hcounts⟩ := hq commit hm
    rw [taken_of_eq_ok hcounts]
    exact takes_of_qualifies hw (List.mem_of_mem_filter hm) hcounts
  · rw [qualifying_eq_chooseCommits _ _ rfl] at hs
    obtain ⟨-, -, rfl⟩ := chooseCommits_eq_ok_iff.mp hs
    rw [chosen_eq_of_nonpos _ le_rfl]
    exact sortedBy_perm _ _

theorem accountsOf_perm (hw : history.WellFormed) {names : List String}
    (hn : names.Perm history.authors.keys) :
    (names.flatMap history.accountsOf).Perm (history.authored.map history.account) := by
  have hnodup : names.Nodup := hn.nodup_iff.mpr hw.authors
  have hauthored : history.authored = history.commits.items.filter
      fun commit => (history.authorName? commit).any (· ∈ names) := by
    apply List.filter_congr
    intro commit hm
    cases ha : commit.author with
    | none => rw [History.authorName?, ha]; rfl
    | some handle =>
      have hsome : commit.author.isSome = true := by rw [ha]; rfl
      obtain ⟨name, hname, hauthor⟩ := hw.exists_name (List.mem_filter.mpr ⟨hm, hsome⟩)
      rw [hauthor, Option.any_some, decide_eq_true (hn.mem_iff.mpr hname)]
      rfl
  rw [hauthored]
  have hparts := (perm_flatMap_filter hnodup history.authorName? history.commits.items).map
    history.account
  rw [List.map_flatMap] at hparts
  exact hparts

theorem countedOf_perm (hw : history.WellFormed) {names : List String}
    (hn : names.Perm history.authors.keys) :
    (names.flatMap (countedOf selection history)).Perm
      ((history.authored.filter (taken (selection.qualifies history))).map history.account) := by
  have hperm := (accountsOf_perm hw hn).filter (taken selection.judge)
  rw [List.filter_flatMap, List.filter_map] at hperm
  have hsame : history.authored.filter (taken selection.judge ∘ history.account) =
      history.authored.filter (taken (selection.qualifies history)) := by
    apply List.filter_congr
    intro commit hm
    rw [Function.comp_apply, taken, taken, qualifies_eq_judge hw (List.mem_of_mem_filter hm)]
  rw [hsame] at hperm
  exact hperm

theorem sum_value_ofAccounts (hw : history.WellFormed) {names : List String}
    (hn : names.Perm history.authors.keys) {stat : Stat} (hs : stat ≠ .filesChanged) :
    (names.map fun name =>
      (Totals.ofAccounts selection (countedOf selection history name)).value stat).sum =
      stat.meaning selection history
        (history.authored.filter (taken (selection.qualifies history))) := by
  have hitems : ∀ commit ∈ history.authored.filter (taken (selection.qualifies history)),
      commit ∈ history.commits.items :=
    fun commit hm => List.mem_of_mem_filter (List.mem_of_mem_filter hm)
  rw [← value_ofAccounts_flatMap _ _ hs, ofAccounts_perm (countedOf_perm hw hn),
    ← ofCommits_eq_ofAccounts hw hitems, value_ofCommits hw hitems]

/-- Passing over a number of commits takes them off, as far as there are any. -/
theorem AuthorChart.Says.commits_eq {chart : AuthorChart} {name : String} {totals : Totals}
    {skip : Int} (h : chart.Says { selection with skip := some skip } history name totals)
    (hw : history.WellFormed)
    (hc : AuthorChart.ofHistory { selection with skip := some skip } history = .ok chart)
    (hskip : 0 ≤ skip) :
    totals.value .commits =
      max 0 ((countedOf selection history name).length - skip) := by
  obtain ⟨place, handle, author, hat, rfl, ht, -⟩ := h
  obtain ⟨-, hauthors⟩ := AuthorChart.filled_of_crunch (.inr rfl) hc
  rw [hauthors] at hat
  have hg := History.mem_authorsByName.mp (List.mem_of_getElem? hat)
  obtain ⟨-, -, rfl⟩ := (totalsOf_eq_ok_iff_tells hw hg rfl).mp ht
  have hlength : (chosen selection.judge accountInstant skip
      (history.accountsOf author.name)).length =
        (countedOf selection history author.name).length - skip.toNat := by
    rw [chosen, List.length_drop, (sortedBy_perm _ _).length_eq]
    rfl
  change ((chosen selection.judge accountInstant skip
    (history.accountsOf author.name)).length : Int) = _
  rw [hlength]
  omega

section Told

variable {skip : Int} {chart : AuthorChart}

/-- A chart says of each author what the accounts that count under the name come to, and each
account under it can be judged. -/
theorem says_ofAccounts (hw : history.WellFormed)
    (hc : AuthorChart.ofHistory selection history = .ok chart) (hs : selection.skip = some skip)
    (hskip : skip ≤ 0) {name : String} (hn : name ∈ history.authors.keys) :
    chart.Says selection history name
        (Totals.ofAccounts selection (countedOf selection history name)) ∧
      ∀ account ∈ history.accountsOf name, ∃ counts, selection.judge account = .ok counts := by
  obtain ⟨totals, ht⟩ := exists_said hc hn
  obtain ⟨rfl, hjudged⟩ := ht.eq_ofAccounts hw hc hs hskip
  exact ⟨ht, hjudged⟩

/-- Where a chart is told, every commit that has an author can be judged. -/
theorem exists_qualifies_of_ofHistory (hw : history.WellFormed)
    (hc : AuthorChart.ofHistory selection history = .ok chart) (hs : selection.skip = some skip)
    (hskip : skip ≤ 0) {commit : Commit} (hm : commit ∈ history.authored) :
    ∃ counts, selection.qualifies history commit = .ok counts := by
  obtain ⟨name, hname, hauthor⟩ := hw.exists_name hm
  have hitem : commit ∈ history.commits.items := List.mem_of_mem_filter hm
  rw [qualifies_eq_judge hw hitem]
  exact (says_ofAccounts hw hc hs hskip hname).2 _
    (List.mem_map_of_mem (List.mem_filter.mpr ⟨hitem, beq_iff_eq.mpr hauthor⟩))

end Told

/-- No commit and no line is lost or counted twice: with no commit passed over, the commits and the
lines of the authors of a chart add up to those of all commits that have an author and count. An
author of whom commits are passed over has as many commits less, as long as there are any. -/
theorem exists_sums_of_ofHistory {skip : Int} {chart : AuthorChart}
    (hr : (∃ operations, history = History.build operations) ∨
      ∃ dates aliases lines, Log.read dates aliases lines = .ok history)
    (hs : selection.skip = some skip) (hskip : skip ≤ 0)
    (hc : AuthorChart.ofHistory selection history = .ok chart) :
    ∃ (told : String → Totals) (picked : List Commit), Picked selection history picked ∧
      (∀ name ∈ history.authors.keys, chart.Says selection history name (told name)) ∧
      (∀ stat, stat ≠ .filesChanged →
        (chart.authors.map fun pair => (told pair.2.name).value stat).sum =
          stat.meaning selection history picked) ∧
      ((∃ dates aliases lines, Log.read dates aliases lines = .ok history) →
        history.authored = history.commits.items) ∧
      ∀ (passed : Int) (fewer : AuthorChart), 0 ≤ passed →
        AuthorChart.ofHistory { selection with skip := some passed } history = .ok fewer →
        ∀ name ∈ history.authors.keys, ∃ totals,
          fewer.Says { selection with skip := some passed } history name totals ∧
          totals.value .commits = max 0 ((told name).value .commits - passed) := by
  have hw := History.wellFormed_of_built_or_read hr
  refine ⟨fun name => Totals.ofAccounts selection (countedOf selection history name), _,
    picked_of_qualifies hw fun _ => exists_qualifies_of_ofHistory hw hc hs hskip,
    fun name hn => (says_ofAccounts hw hc hs hskip hn).1, fun stat hstat => ?_, ?_, ?_⟩
  · obtain ⟨-, hauthors⟩ := AuthorChart.filled_of_crunch (.inr rfl) hc
    have hnames : (chart.authors.map (·.2.name)).Perm history.authors.keys := by
      rw [hauthors]
      exact History.map_name_authorsByName history
    rw [← sum_value_ofAccounts hw hnames hstat, List.map_map]
    rfl
  · rintro ⟨dates, aliases, lines, hread⟩
    exact Log.authored_of_read hread
  · intro passed fewer hpassed hfewer name hn
    obtain ⟨totals, ht⟩ := exists_said hfewer hn
    exact ⟨totals, ht, ht.commits_eq hw hfewer hpassed⟩

theorem exists_sums_of_ofHistory_threeIdentityLines :
    ∃ (history : History) (chart fewer : AuthorChart) (told : String → Totals)
        (picked : List Commit) (totals : Totals),
      Log.read Log.sampleDates .empty threeIdentityLines = .ok history ∧
      AuthorChart.ofHistory plainSelection history = .ok chart ∧
      AuthorChart.ofHistory { plainSelection with skip := some 1 } history = .ok fewer ∧
      Picked plainSelection history picked ∧
      (chart.authors.map fun pair => (told pair.2.name).value .linesAdded).sum =
        Stat.meaning plainSelection history picked .linesAdded ∧
      history.authored = history.commits.items ∧
      fewer.Says { plainSelection with skip := some 1 } history "b@x" totals ∧
      totals.value .commits = max 0 ((told "b@x").value .commits - 1) := by
  have hcheck : (Log.read Log.sampleDates .empty threeIdentityLines).toOption.any fun history =>
      history.authors.handles.all (AuthorChart.isPlain plainSelection history) &&
        history.authors.handles.all
          (AuthorChart.isPlain { plainSelection with skip := some 1 } history) &&
        decide ("b@x" ∈ history.authors.keys) := by
    decide +kernel
  obtain ⟨history, hread, hcheck⟩ := exists_ok_of_any hcheck
  rw [Bool.and_eq_true, Bool.and_eq_true] at hcheck
  obtain ⟨⟨hplain, hplain'⟩, hkey⟩ := hcheck
  obtain ⟨chart, hc⟩ := AuthorChart.exists_ofHistory_of_isPlain hplain
  obtain ⟨fewer, hf⟩ := AuthorChart.exists_ofHistory_of_isPlain hplain'
  obtain ⟨told, picked, hpicked, -, hsums, hauthored, hpassed⟩ :=
    exists_sums_of_ofHistory (.inr ⟨_, _, _, hread⟩) rfl le_rfl hc
  obtain ⟨totals, hsaid, hcommits⟩ :=
    hpassed 1 fewer (by decide) hf "b@x" (of_decide_eq_true hkey)
  exact ⟨history, chart, fewer, told, picked, totals, hread, hc, hf, hpicked,
    hsums .linesAdded (by decide), hauthored ⟨_, _, _, hread⟩, hsaid, hcommits⟩

end Activity

end Authorship
