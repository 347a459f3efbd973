import Authorship.Proofs.Activity.Choosing
import Authorship.Proofs.History.Accounts

namespace Authorship.Activity

open Authorship.Calendar Authorship.Number

def Selection.judge (selection : Selection) (account : Account) : Except Fault Bool :=
  match account.timestamp with
  | none => .ok false
  | some timestamp =>
    if 0 < account.counts.countP (selection.Counted ·.path) then selection.windowHolds timestamp
    else .ok false

def accountInstant (account : Account) : Int :=
  (account.timestamp.map Timestamp.instant).getD 0

/-- The line counts in accounts that are about paths that count. -/
def countsIn (selection : Selection) (accounts : List Account) : Multiset Log.LineCount :=
  (accounts.map Account.counts).sum.filter (selection.Counted ·.path)

def Totals.ofAccounts (selection : Selection) (accounts : List Account) : Totals where
  files := ((countsIn selection accounts).map Log.LineCount.path).toFinset.card
  commits := accounts.length
  adds := ((countsIn selection accounts).map Log.LineCount.adds).sum
  deletes := ((countsIn selection accounts).map Log.LineCount.deletes).sum

variable {selection : Selection} {history : History}

theorem qualifies_eq_judge (hw : history.WellFormed) {commit : Commit}
    (hm : commit ∈ history.commits.items) :
    selection.qualifies history commit = selection.judge (history.account commit) := by
  rw [Selection.qualifies, Selection.judge, History.account]
  have hany : commit.changes.any (selection.admitsChange history) = true ↔
      0 < Multiset.countP (selection.Counted ·.path)
        (↑(commit.changes.map history.lineCountOf) : Multiset Log.LineCount) := by
    rw [List.any_eq_true, Multiset.countP_pos]
    constructor
    · rintro ⟨change, hc, ha⟩
      exact ⟨_, List.mem_map_of_mem hc, (admitsChange_iff hw hm hc).mp ha⟩
    · rintro ⟨count, hcount, hcounted⟩
      obtain ⟨change, hc, rfl⟩ := List.mem_map.mp hcount
      exact ⟨change, hc, (admitsChange_iff hw hm hc).mpr hcounted⟩
  cases commit.timestamp with
  | none => rfl
  | some timestamp => exact if_congr hany rfl rfl

theorem countsIn_map_account (commits : List Commit) :
    countsIn selection (commits.map history.account) =
      ↑((countedChanges selection history commits).map history.lineCountOf) := by
  have hsum : ((commits.map history.account).map Account.counts).sum =
      (↑((commits.flatMap Commit.changes).map history.lineCountOf) :
        Multiset Log.LineCount) := by
    induction commits with
    | nil => rfl
    | cons commit commits ih =>
      rw [List.map_cons, List.map_cons, List.sum_cons, ih, List.flatMap_cons, List.map_append]
      rfl
  rw [countsIn, hsum, Multiset.filter_coe, countedChanges, List.filter_map]
  rfl

theorem ofCommits_eq_ofAccounts {commits : List Commit} (hw : history.WellFormed)
    (hs : ∀ commit ∈ commits, commit ∈ history.commits.items) :
    Totals.ofCommits selection history commits =
      Totals.ofAccounts selection (commits.map history.account) := by
  rw [Totals.ofAccounts, countsIn_map_account, List.length_map]
  simp only [Multiset.map_coe, List.map_map]
  have hvalue (stat : Stat) : (Totals.ofCommits selection history commits).value stat =
      stat.meaning selection history commits := value_ofCommits hw hs stat
  have hfiles := hvalue .filesChanged
  have hadds := hvalue .linesAdded
  have hdeletes := hvalue .linesDeleted
  simp only [Totals.value, Stat.meaning, Nat.cast_inj] at hfiles hadds hdeletes
  rw [Totals.ofCommits] at *
  simp only at hfiles hadds hdeletes
  rw [hfiles, hadds, hdeletes]
  rfl

/-- What accounts tell: the totals of those that count, less the oldest. -/
structure Tells (selection : Selection) (skip : Int) (accounts : List Account)
    (totals : Totals) : Prop where
  judged : ∀ account ∈ accounts, ∃ counts, selection.judge account = .ok counts
  comparable : Comparable ((accounts.filter (taken selection.judge)).filterMap Account.timestamp)
  told : totals =
    Totals.ofAccounts selection (chosen selection.judge accountInstant skip accounts)

theorem commitsOf_map_account {handle : Handle Author} {author : Author} (hw : history.WellFormed)
    (hg : history.authors.get? handle = some author) :
    (commitsOf history handle).map history.account = history.accountsOf author.name := by
  have hsame : commitsOf history handle = history.commits.items.filter
      fun commit => history.authorName? commit == some author.name := by
    rw [commitsOf]
    apply List.filter_congr
    intro commit hm
    have hiff : commit ∈ commitsOf history handle ↔ commit ∈ history.commits.items ∧
        history.authorName? commit = some author.name := mem_commitsOf hw hg
    rw [commitsOf, List.mem_filter] at hiff
    rw [Bool.eq_iff_iff, beq_iff_eq (b := some author.name)]
    simpa [hm] using hiff
  rw [hsame, History.accountsOf]

theorem totalsOf_eq_ok_iff_tells {handle : Handle Author} {author : Author} {skip : Int}
    {totals : Totals} (hw : history.WellFormed)
    (hg : history.authors.get? handle = some author) (hs : selection.skip = some skip) :
    totalsOf selection history handle = .ok totals ↔
      Tells selection skip (history.accountsOf author.name) totals := by
  have hitems : ∀ commit ∈ commitsOf history handle, commit ∈ history.commits.items :=
    fun commit => List.mem_of_mem_filter
  have hjudge (commit : Commit) (hm : commit ∈ commitsOf history handle) :
      selection.judge (history.account commit) = selection.qualifies history commit :=
    (qualifies_eq_judge hw (hitems commit hm)).symm
  -- Accounts are judged and put in order as their commits are.
  have hchosen : (chosen (selection.qualifies history) commitInstant skip
      (commitsOf history handle)).map history.account = chosen selection.judge accountInstant skip
        ((commitsOf history handle).map history.account) :=
    map_chosen skip hjudge fun _ => rfl
  rw [totalsOf_eq_ok_iff hs, ← commitsOf_map_account hw hg]
  have hin : ∀ commit ∈ chosen (selection.qualifies history) commitInstant skip
      (commitsOf history handle), commit ∈ history.commits.items :=
    fun commit hm => hitems commit (List.mem_of_mem_filter (mem_of_mem_chosen hm))
  rw [ofCommits_eq_ofAccounts hw hin, hchosen]
  have htimes : (((commitsOf history handle).map history.account).filter
      (taken selection.judge)).filterMap Account.timestamp =
        ((commitsOf history handle).filter (taken (selection.qualifies history))).filterMap
          Commit.timestamp := by
    rw [List.filter_map, List.filterMap_map]
    congr 1
    apply List.filter_congr
    intro commit hm
    rw [Function.comp_apply, taken, taken, hjudge commit hm]
  constructor
  · rintro ⟨hall, hc, ht⟩
    refine ⟨List.forall_mem_map.mpr fun commit hm => ?_, htimes ▸ hc, ht⟩
    rw [hjudge commit hm]
    exact hall commit hm
  · rintro ⟨hall, hc, ht⟩
    refine ⟨fun commit hm => ?_, htimes ▸ hc, ht⟩
    rw [← hjudge commit hm]
    exact hall _ (List.mem_map_of_mem hm)

theorem ofAccounts_perm {accounts others : List Account} (h : accounts.Perm others) :
    Totals.ofAccounts selection accounts = Totals.ofAccounts selection others := by
  have hcounts : countsIn selection accounts = countsIn selection others := by
    rw [countsIn, countsIn, (h.map Account.counts).sum_eq]
  rw [Totals.ofAccounts, Totals.ofAccounts, hcounts, h.length_eq]

theorem Tells.perm {skip : Int} {accounts others : List Account} {totals : Totals}
    (h : Tells selection skip accounts totals) (hp : accounts.Perm others)
    (hs : skip ≤ 0 ∨ ((accounts.filter (taken selection.judge)).map accountInstant).Nodup) :
    Tells selection skip others totals := by
  have htaken := hp.filter (taken selection.judge)
  refine ⟨fun account hm => h.judged account (hp.mem_iff.mpr hm), ?_, ?_⟩
  · exact h.comparable.of_subset (htaken.filterMap Account.timestamp).symm.subset
  · rw [h.told, ofAccounts_perm (chosen_perm hp hs)]

end Authorship.Activity
