import Authorship.Proofs.Activity.Completion
import Authorship.Proofs.Activity.Telling
import Authorship.Proofs.History.Blocks

namespace Authorship.Activity

open Authorship.Calendar Authorship.Number

theorem eq_map_lookup {κ α : Type} [BEq κ] [LawfulBEq κ] {list : List (κ × α)} {get : κ → α}
    (hn : (list.map Prod.fst).Nodup)
    (h : ∀ key ∈ list.map Prod.fst, list.lookup key = some (get key)) :
    list = (list.map Prod.fst).map fun key => (key, get key) := by
  induction list with
  | nil => rfl
  | cons pair list ih =>
    obtain ⟨key, a⟩ := pair
    rw [List.map_cons, List.nodup_cons] at hn
    have hfirst := h key List.mem_cons_self
    rw [List.lookup_cons, beq_self_eq_true] at hfirst
    have hrest : list = (list.map Prod.fst).map fun key => (key, get key) := by
      apply ih hn.2
      intro other ho
      have hother := h other (List.mem_cons_of_mem key ho)
      have hne : (other == key) = false := by
        rw [beq_eq_false_iff_ne]
        rintro rfl
        exact hn.1 ho
      rwa [List.lookup_cons, hne] at hother
    rw [List.map_cons, List.map_cons, ← hrest, Option.some.inj hfirst]

namespace AuthorChart

theorem Open.opened_eq {chart : AuthorChart} (h : chart.Open) :
    chart.opened = Stat.all.map fun stat => (stat, chart.series stat) := by
  rw [← h.keys]
  apply eq_map_lookup
  · rw [h.keys]
    decide
  · intro stat _
    obtain ⟨series, hf, -⟩ := h.series stat
    rw [series_of_find? hf]
    exact hf

theorem Filled.opened_eq {selection : Selection} {history other : History}
    {chart otherChart : AuthorChart} {count : Nat} (h : Filled selection history count chart)
    (h' : Filled selection other count otherChart) (hc : chart.authors.length = count)
    (hc' : otherChart.authors.length = count)
    (hsame : ∀ (place : Nat) (pair pair' : Handle Author × Author) (totals : Totals),
      chart.authors[place]? = some pair → otherChart.authors[place]? = some pair' →
      totalsOf selection history pair.1 = .ok totals →
      totalsOf selection other pair'.1 = .ok totals) :
    otherChart.opened = chart.opened := by
  rw [h.isOpen.opened_eq, h'.isOpen.opened_eq]
  apply List.map_congr_left
  intro stat _
  obtain ⟨series, hf, hlabel, hlength⟩ := h.isOpen.series stat
  obtain ⟨series', hf', hlabel', hlength'⟩ := h'.isOpen.series stat
  have hvalues : series'.values = series.values := by
    apply List.ext_getElem?
    intro place
    by_cases hlt : place < count
    · obtain ⟨⟨handle, author⟩, hat⟩ : ∃ pair, chart.authors[place]? = some pair :=
        ⟨_, List.getElem?_eq_getElem (hc ▸ hlt)⟩
      obtain ⟨⟨handle', author'⟩, hat'⟩ : ∃ pair, otherChart.authors[place]? = some pair :=
        ⟨_, List.getElem?_eq_getElem (hc' ▸ hlt)⟩
      obtain ⟨totals, ht, hvalue⟩ := h.values place handle author hlt hat
      obtain ⟨totals', ht', hvalue'⟩ := h'.values place handle' author' hlt hat'
      obtain ⟨value, hv, hplace⟩ := hvalue stat
      obtain ⟨value', hv', hplace'⟩ := hvalue' stat
      rw [hsame place _ _ totals hat hat' ht] at ht'
      cases ht'
      rw [hv] at hv'
      cases hv'
      rw [series_of_find? hf] at hplace
      rw [series_of_find? hf'] at hplace'
      rw [hplace, hplace']
    · rw [List.getElem?_eq_none (by omega), List.getElem?_eq_none (by omega)]
  rw [series_of_find? hf, series_of_find? hf']
  obtain ⟨label, values⟩ := series
  obtain ⟨label', values'⟩ := series'
  rw [show label' = stat.label from hlabel', show label = stat.label from hlabel,
    show values' = values from hvalues]

end AuthorChart

variable {selection : Selection} {history other : History}

/-- No two commits that count for one author were made at one instant. -/
def Untied (selection : Selection) (history : History) : Prop :=
  ∀ name, ∀ a ∈ history.commits.items, ∀ b ∈ history.commits.items,
    CountsFor selection history name a → CountsFor selection history name b →
    commitInstant a = commitInstant b → a = b

theorem Untied.nodup_instants (h : Untied selection history) (hw : history.WellFormed)
    (name : String) :
    (((history.accountsOf name).filter (taken selection.judge)).map accountInstant).Nodup := by
  rw [History.accountsOf, List.filter_map, List.map_map]
  apply List.Nodup.map_on
  · intro a ha b hb hab
    have hcounts {commit : Commit} (hc : commit ∈ (history.commits.items.filter fun commit =>
        history.authorName? commit == some name).filter
          (taken selection.judge ∘ history.account)) :
        commit ∈ history.commits.items ∧ CountsFor selection history name commit := by
      obtain ⟨hc, htaken⟩ := List.mem_filter.mp hc
      obtain ⟨hm, hname⟩ := List.mem_filter.mp hc
      rw [Function.comp_apply, taken_iff, ← qualifies_eq_judge hw hm] at htaken
      exact ⟨hm, beq_iff_eq.mp hname, (takes_of_qualifies hw hm htaken).mp rfl⟩
    obtain ⟨hma, hca⟩ := hcounts ha
    obtain ⟨hmb, hcb⟩ := hcounts hb
    exact h name a hma b hmb hca hcb hab
  · exact (hw.nodup_items.filter _).filter _

/-- Two histories tell of the same authors, and of each the same in some order. -/
structure Alike (history other : History) : Prop where
  wellFormed : history.WellFormed
  otherWellFormed : other.WellFormed
  names : history.authors.keys.Perm other.authors.keys
  accounts : ∀ name, (history.accountsOf name).Perm (other.accountsOf name)

namespace Alike

theorem map_snd_authorsByName (h : Alike history other) :
    history.authorsByName.map (·.2) = other.authorsByName.map (·.2) := by
  have hnames : history.authorsByName.map (·.2.name) = other.authorsByName.map (·.2.name) := by
    have hperm := (History.map_name_authorsByName history).trans
      (h.names.trans (History.map_name_authorsByName other).symm)
    refine hperm.eq_of_pairwise
      (fun a b _ _ (hab : a < b) (hba : b < a) => absurd hba (lt_asymm hab)) ?_ ?_
    · exact History.pairwise_authorsByName h.wellFormed.authors
    · exact History.pairwise_authorsByName h.otherWellFormed.authors
  have hmk (history : History) : history.authorsByName.map (·.2) =
      (history.authorsByName.map (·.2.name)).map Author.mk := by
    rw [List.map_map]
    rfl
  rw [hmk, hmk, hnames]

theorem totalsOf_eq_ok (h : Alike history other) {skip : Int} {handle handle' : Handle Author}
    {author : Author} {totals : Totals} (hs : selection.skip = some skip)
    (hties : skip ≤ 0 ∨ Untied selection history)
    (hm : (handle, author) ∈ history.authorsByName) (hm' : (handle', author) ∈ other.authorsByName)
    (ht : totalsOf selection history handle = .ok totals) :
    totalsOf selection other handle' = .ok totals := by
  rw [totalsOf_eq_ok_iff_tells h.wellFormed (History.mem_authorsByName.mp hm) hs] at ht
  rw [totalsOf_eq_ok_iff_tells h.otherWellFormed (History.mem_authorsByName.mp hm') hs]
  apply ht.perm (h.accounts author.name)
  exact hties.imp_right fun hu => hu.nodup_instants h.wellFormed author.name

theorem canTell (h : Alike history other) {skip : Int} (hs : selection.skip = some skip)
    (hties : skip ≤ 0 ∨ Untied selection history)
    (ht : ∀ pair ∈ history.authorsByName, AuthorChart.CanTell selection history pair.1) :
    ∀ pair ∈ other.authorsByName, AuthorChart.CanTell selection other pair.1 := by
  rintro ⟨handle', author⟩ hm'
  have hauthor : author ∈ history.authorsByName.map (·.2) := by
    rw [h.map_snd_authorsByName]
    exact List.mem_map_of_mem hm'
  obtain ⟨⟨handle, same⟩, hm, he⟩ := List.mem_map.mp hauthor
  obtain rfl : same = author := he
  obtain ⟨totals, htotals, hv⟩ := ht _ hm
  exact ⟨totals, h.totalsOf_eq_ok hs hties hm hm' htotals, hv⟩

theorem exists_ofHistory (h : Alike history other) {skip : Int} {chart : AuthorChart}
    (hs : selection.skip = some skip) (hties : skip ≤ 0 ∨ Untied selection history)
    (hc : AuthorChart.ofHistory selection history = .ok chart) :
    ∃ otherChart, AuthorChart.ofHistory selection other = .ok otherChart ∧
      otherChart.labels = chart.labels ∧ otherChart.opened = chart.opened := by
  have htell := AuthorChart.exists_ofHistory_iff_canTell.mp ⟨chart, hc⟩
  obtain ⟨otherChart, hc'⟩ :=
    AuthorChart.exists_ofHistory_iff_canTell.mpr (h.canTell hs hties htell)
  obtain ⟨hfilled, hsame⟩ := AuthorChart.filled_of_crunch (.inr rfl) hc
  obtain ⟨hfilled', hsame'⟩ := AuthorChart.filled_of_crunch (.inr rfl) hc'
  have hchart : otherChart.authors.map (·.2) = chart.authors.map (·.2) := by
    rw [hsame, hsame']
    exact h.map_snd_authorsByName.symm
  have hlength : otherChart.authors.length = chart.authors.length := by
    simpa using congrArg List.length hchart
  refine ⟨otherChart, hc', ?_, ?_⟩
  · have hlabels (chart : AuthorChart) :
        chart.labels = (chart.authors.map (·.2)).map Author.shortName := by
      rw [List.map_map]
      rfl
    rw [hlabels, hlabels, hchart]
  · rw [← hsame] at hfilled
    rw [← hsame', hlength] at hfilled'
    refine hfilled.opened_eq hfilled' rfl hlength ?_
    rintro place ⟨handle, author⟩ ⟨handle', author'⟩ totals hat hat' ht
    obtain rfl : author' = author := by
      have hplace := congrArg (·[place]?) hchart
      simpa [hat, hat'] using hplace
    rw [hsame] at hat
    rw [hsame'] at hat'
    exact h.totalsOf_eq_ok hs hties (List.mem_of_getElem? hat) (List.mem_of_getElem? hat') ht

end Alike

/-- The chart of a log is that of the log in another order. -/
theorem exists_ofHistory_rearranged {dates : DateReader} {aliases : Aliases}
    {lines otherLines : List String} {blocks others : List Log.Block} {chart : AuthorChart}
    {skip : Int} (hread : Log.read dates aliases lines = .ok history)
    (hl : Log.recordLines lines = blocks.flatMap Log.Block.lines)
    (ho : Log.recordLines otherLines = others.flatMap Log.Block.lines)
    (hp : ∀ block ∈ blocks, block.IsProper) (hn : (blocks.map Log.Block.hash?).Nodup)
    (hr : Log.Rearranged blocks others)
    (hc : AuthorChart.ofHistory selection history = .ok chart)
    (hs : selection.skip = some skip) (hties : skip ≤ 0 ∨ Untied selection history) :
    ∃ otherHistory otherChart, Log.read dates aliases otherLines = .ok otherHistory ∧
      AuthorChart.ofHistory selection otherHistory = .ok otherChart ∧
      otherChart.labels = chart.labels ∧ otherChart.opened = chart.opened := by
  obtain ⟨other, hread', hnames, haccounts⟩ :=
    Log.exists_read_rearranged hread hl ho hp hn hr
  have halike : Alike history other :=
    ⟨Log.wellFormed_of_read hread, Log.wellFormed_of_read hread', hnames, haccounts⟩
  obtain ⟨otherChart, hchart⟩ := halike.exists_ofHistory hs hties hc
  exact ⟨other, otherChart, hread', hchart⟩

def forwardBlocks : List Log.Block :=
  [⟨"\x00a@x\x002025-01-01T10:00:00+02:00\x00h1\x00first".toList,
      ["1\t2\tp.py".toList, "3\t-\tq.py".toList]⟩,
    ⟨"\x00b@x\x002025-01-02\x00 h2 \x00second".toList, []⟩,
    ⟨"\x00a@x\x002025-01-03\x00h3\x00third".toList, ["5\t5\tp.py".toList]⟩]

def backwardBlocks : List Log.Block :=
  [⟨"\x00b@x\x002025-01-02\x00 h2 \x00second".toList, []⟩,
    ⟨"\x00a@x\x002025-01-01T10:00:00+02:00\x00h1\x00first".toList,
      ["3\t-\tq.py".toList, "1\t2\tp.py".toList]⟩,
    ⟨"\x00a@x\x002025-01-03\x00h3\x00third".toList, ["5\t5\tp.py".toList]⟩]

def linesOfBlocks (blocks : List Log.Block) : List String :=
  (blocks.flatMap Log.Block.lines).map fun line => String.ofList (line ++ ['\n'])

def skippingSelection : Selection :=
  { plainSelection with skip := some 1 }

theorem exists_ofHistory_rearranged_forwardBlocks :
    ∃ history chart otherHistory otherChart,
      Log.read Log.sampleDates .empty (linesOfBlocks forwardBlocks) = .ok history ∧
      AuthorChart.ofHistory skippingSelection history = .ok chart ∧
      Log.read Log.sampleDates .empty (linesOfBlocks backwardBlocks) = .ok otherHistory ∧
      AuthorChart.ofHistory skippingSelection otherHistory = .ok otherChart ∧
      otherChart.labels = chart.labels ∧ otherChart.opened = chart.opened := by
  have hcheck : (Log.read Log.sampleDates .empty (linesOfBlocks forwardBlocks)).toOption.any
      (fun history =>
        history.authors.handles.all (AuthorChart.isPlain skippingSelection history) &&
          decide (history.commits.items.map commitInstant).Nodup) = true := by
    decide +kernel
  obtain ⟨history, hread, hfound⟩ := exists_ok_of_any hcheck
  obtain ⟨hplain, hinstants⟩ := Bool.and_eq_true_iff.mp hfound
  obtain ⟨chart, hc⟩ := AuthorChart.exists_ofHistory_of_isPlain hplain
  have huntied : Untied skippingSelection history := by
    intro name a ha b hb _ _ hab
    exact List.inj_on_of_nodup_map (of_decide_eq_true hinstants) ha hb hab
  have hproper : ∀ block ∈ forwardBlocks, block.IsProper := by
    have hkinds : ∀ block ∈ forwardBlocks, Log.RecordKind.ofLine block.summary = .summary ∧
        ∀ line ∈ block.counts, Log.RecordKind.ofLine line = .lineCount := by
      decide +kernel
    intro block hb
    exact ⟨(hkinds block hb).1, (hkinds block hb).2⟩
  have hmoved : Log.Rearranged forwardBlocks backwardBlocks :=
    ⟨_, .swap _ _ _, .cons ⟨rfl, .refl _⟩ (.cons ⟨rfl, .swap _ _ _⟩ (.cons ⟨rfl, .refl _⟩ .nil))⟩
  have hbackward : Log.recordLines (linesOfBlocks backwardBlocks) =
      backwardBlocks.flatMap Log.Block.lines := by
    decide +kernel
  obtain ⟨otherHistory, otherChart, hread', hc', hlabels, hopened⟩ :=
    exists_ofHistory_rearranged hread (by decide +kernel) hbackward hproper (by decide +kernel)
      hmoved hc rfl (.inr huntied)
  exact ⟨history, chart, otherHistory, otherChart, hread, hc, hread', hc', hlabels, hopened⟩

end Authorship.Activity
