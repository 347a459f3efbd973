import Authorship.Proofs.Activity.AuthorChart
import Authorship.Proofs.Activity.Ranking
import Authorship.Proofs.Text.Line

namespace Authorship.Activity

open Authorship.Number Authorship.Text

theorem exists_mapM {ε α β : Type} {f : α → Except ε β} {R : α → β → Prop}
    {list : List α} (h : ∀ a ∈ list, ∃ b, f a = .ok b ∧ R a b) :
    ∃ values, list.mapM f = .ok values ∧ List.Forall₂ R list values := by
  induction list with
  | nil => exact ⟨[], rfl, .nil⟩
  | cons a list ih =>
    obtain ⟨b, hb, hr⟩ := h a List.mem_cons_self
    obtain ⟨values, hv, hall⟩ := ih fun a ha => h a (List.mem_cons_of_mem _ ha)
    refine ⟨b :: values, ?_, .cons hr hall⟩
    rw [List.mapM_cons, hb]
    exact congrArg (· >>= fun rest => pure (b :: rest)) hv

/-- The entries that are shown: a positive `top` limits their number. -/
def shownOf (top : Int) (ranked : List Entry) : List Entry :=
  if 0 < top then ranked.take top.toNat else ranked

theorem length_shownOf (top : Int) (ranked : List Entry) :
    (shownOf top ranked).length =
      if 0 < top then min top.toNat ranked.length else ranked.length := by
  unfold shownOf
  split_ifs
  · exact List.length_take
  · rfl

theorem shownOf_subset (top : Int) (ranked : List Entry) : shownOf top ranked ⊆ ranked := by
  unfold shownOf
  split_ifs
  · exact List.take_subset _ _
  · exact List.Subset.refl _

def tableOf (rows : List String) : List String :=
  tableHead :: "".pushn '-' 72 :: if rows.isEmpty then ["(no authors)"] else rows

theorem exists_foldl_larger {values : List Binary64} (start : Nat)
    (h : ∀ value ∈ values, ∃ n : Nat, value = .finite n) :
    ∃ m : Nat, values.foldl (fun a b => if a.lt b then b else a) (.finite start) = .finite m ∧
      start ≤ m ∧ ∀ n : Nat, Binary64.finite n ∈ values → n ≤ m := by
  induction values generalizing start with
  | nil => exact ⟨start, rfl, le_rfl, fun n hn => by cases hn⟩
  | cons value values ih =>
    obtain ⟨n, rfl⟩ := h _ List.mem_cons_self
    have hrest : ∀ value ∈ values, ∃ n : Nat, value = .finite n :=
      fun value hv => h value (List.mem_cons_of_mem _ hv)
    have hstep : (if (Binary64.finite start).lt (.finite n) then Binary64.finite n
        else .finite start) = .finite ((max start n : Nat) : Rat) := by
      rw [Binary64.lt_finite]
      rcases lt_or_ge start n with hlt | hge
      · rw [if_pos (by simpa using hlt), max_eq_right hlt.le]
      · rw [if_neg (by simpa using hge), max_eq_left hge]
    obtain ⟨m, hm, hstart, hall⟩ := ih (max start n) hrest
    refine ⟨m, ?_, (le_max_left start n).trans hstart, ?_⟩
    · rw [List.foldl_cons, hstep, hm]
    · intro k hk
      rcases List.mem_cons.mp hk with he | hk
      · have hcast : (k : Rat) = n := Binary64.finite.inj he
        rw [Nat.cast_inj.mp hcast]
        exact (le_max_right start n).trans hstart
      · exact hall k hk

theorem exists_largest (key : Stat) {rows : List Entry} (h : ∀ entry ∈ rows, entry.IsWhole) :
    ∃ m : Nat, AuthorChart.largest key rows = .finite m ∧
      ∀ entry ∈ rows, ∃ n : Nat, entry.value key = .finite n ∧ n ≤ m := by
  have hvalues : ∀ value ∈ rows.map (·.value key), ∃ n : Nat, value = .finite n := by
    intro value hv
    obtain ⟨entry, he, rfl⟩ := List.mem_map.mp hv
    exact h entry he key
  obtain ⟨start, hstart⟩ : ∃ start : Nat,
      (rows.head?.map (·.value key)).getD (.finite 0) = .finite start := by
    cases rows with
    | nil => exact ⟨0, rfl⟩
    | cons entry rows => exact h entry List.mem_cons_self key
  obtain ⟨m, hm, -, hall⟩ := exists_foldl_larger start hvalues
  refine ⟨m, by rw [AuthorChart.largest, hstart, hm], ?_⟩
  intro entry he
  obtain ⟨n, hn⟩ := h entry he key
  exact ⟨n, hn, hall n (hn ▸ List.mem_map_of_mem he)⟩

theorem IsRow.mem_iff {entry : Entry} {line : String} (h : IsRow entry line) :
    '\n' ∈ line.toList ↔ '\n' ∈ labelCell entry.author.shortName.toList := by
  rw [← h.label, ← List.take_append_drop 20 line.toList, List.mem_append, List.take_append_drop]
  exact or_iff_left h.oneLine

theorem forall_not_mem_iff {entries : List Entry} {lines : List String}
    (h : List.Forall₂ IsRow entries lines) :
    (∀ line ∈ lines, '\n' ∉ line.toList) ↔
      ∀ entry ∈ entries, '\n' ∉ labelCell entry.author.shortName.toList := by
  induction h with
  | nil => simp
  | cons hrow _ ih => rw [List.forall_mem_cons, List.forall_mem_cons, ih, hrow.mem_iff]

theorem splitOnP_tableOf_iff (rows : List String) :
    ("\n".intercalate (tableOf rows)).toList.splitOnP (· == '\n') =
        (tableOf rows).map String.toList ↔
      ∀ line ∈ rows, '\n' ∉ line.toList := by
  have hhead : '\n' ∉ tableHead.toList := by decide +kernel
  have hrule : '\n' ∉ ("".pushn '-' 72).toList := by decide +kernel
  have hmark : "\n".toList = ['\n'] := rfl
  rw [String.toList_intercalate, hmark, splitOnP_intercalate_iff (by simp [tableOf]),
    List.forall_mem_map, tableOf, List.forall_mem_cons, List.forall_mem_cons]
  simp only [hhead, hrule, not_false_eq_true, true_and]
  cases rows with
  | nil => simp
  | cons row rows => rfl

namespace AuthorChart

variable {selection : Selection} {history : History} {chart : AuthorChart}

theorem getElem?_entries (chart : AuthorChart) (place : Nat) :
    chart.entries[place]? = chart.authors[place]?.map fun pair =>
      ⟨pair.2, fun stat => (chart.series stat).values[place]?.getD (.finite 0)⟩ := by
  rw [entries, List.getElem?_map, List.getElem?_zipIdx, Option.map_map, Nat.zero_add]
  rfl

theorem map_author_entries (chart : AuthorChart) :
    chart.entries.map Entry.author = chart.authors.map Prod.snd := by
  apply List.ext_getElem?
  intro place
  rw [List.getElem?_map, getElem?_entries, Option.map_map, List.getElem?_map]
  rfl

theorem length_entries (chart : AuthorChart) : chart.entries.length = chart.authors.length := by
  rw [entries, List.length_map, List.length_zipIdx]

/-- The entries stand at the places of their authors, with the values that the series have there. -/
def Aligned (chart : AuthorChart) : Prop :=
  ∀ (place : Nat) (entry : Entry), chart.entries[place]? = some entry ↔
    ∃ handle, chart.authors[place]? = some (handle, entry.author) ∧
      ∀ stat, (chart.series stat).values[place]? = some (entry.value stat)

theorem aligned_of_open (h : chart.Open) : chart.Aligned := by
  intro place entry
  rw [getElem?_entries, Option.map_eq_some_iff]
  constructor
  · rintro ⟨⟨handle, author⟩, ha, rfl⟩
    refine ⟨handle, ha, fun stat => ?_⟩
    have hlt : place < (chart.series stat).values.length := by
      rw [h.length_values stat]
      exact (List.getElem?_eq_some_iff.mp ha).1
    simp only [List.getElem?_eq_getElem hlt, Option.getD_some]
  · rintro ⟨handle, ha, hvalues⟩
    refine ⟨(handle, entry.author), ha, ?_⟩
    cases entry
    simp only [hvalues, Option.getD_some]

theorem pairwise_entries (h : (chart.authors.map (·.2.name)).Pairwise (· < ·)) :
    chart.entries.Pairwise fun a b => a.author.name < b.author.name := by
  have hnames : chart.entries.map (·.author.name) = chart.authors.map (·.2.name) := by
    have hauthors := congrArg (List.map Author.name) chart.map_author_entries
    rwa [List.map_map, List.map_map] at hauthors
  rw [← hnames, List.pairwise_map] at h
  exact h

def IsNonnegative (chart : AuthorChart) : Prop :=
  ∀ stat, ∀ value ∈ (chart.series stat).values, (Binary64.finite 0).le value = true

instance : DecidablePred IsNonnegative := fun chart =>
  decidable_of_iff (∀ stat ∈ Stat.all, ∀ value ∈ (chart.series stat).values,
      (Binary64.finite 0).le value = true)
    ⟨fun h stat => h stat (by cases stat <;> decide), fun h stat _ => h stat⟩

theorem isWhole_of_filled (h : Filled selection history chart.authors.length chart)
    (hn : chart.IsNonnegative) : ∀ entry ∈ chart.entries, entry.IsWhole := by
  intro entry hm stat
  obtain ⟨place, hat⟩ := List.mem_iff_getElem?.mp hm
  obtain ⟨handle, ha, hvalues⟩ := (aligned_of_open h.isOpen place entry).mp hat
  obtain ⟨totals, -, hcounted⟩ :=
    h.values place handle entry.author (List.getElem?_eq_some_iff.mp ha).1 ha
  obtain ⟨value, hrounded, hvalue⟩ := hcounted stat
  obtain ⟨n, rfl⟩ := Binary64.exists_finite_of_ofInt? (ofInt?_of_rounded hrounded)
  have hnonneg : (0 : Rat) ≤ n :=
    Binary64.nonneg_of_le (hn stat _ (List.mem_of_getElem? hvalue))
  obtain ⟨k, rfl⟩ := Int.eq_ofNat_of_zero_le (Int.cast_nonneg_iff.mp hnonneg)
  refine ⟨k, ?_⟩
  rw [← Option.some.inj (hvalue.symm.trans (hvalues stat))]
  rfl

/-- What the table of a chart is: all entries are ranked, the first ones have a row each, and the
rows are put below the head. -/
structure Tabulates (chart : AuthorChart) (key : Stat) (top : Int) (ranked : List Entry)
    (rows : List String) (text : String) : Prop where
  aligned : chart.Aligned
  perm : ranked.Perm chart.entries
  ordered : ranked.Pairwise (Precedes key)
  shown : List.Forall₂ IsRow (shownOf top ranked) rows
  count : rows.length =
    if 0 < top then min top.toNat chart.authors.length else chart.authors.length
  text_eq : text = "\n".intercalate (tableOf rows)
  readsBack : text.toList.splitOnP (· == '\n') = (tableOf rows).map String.toList ↔
    ∀ entry ∈ shownOf top ranked, '\n' ∉ labelCell entry.author.shortName.toList

theorem exists_rowTexts (key : Stat) {shown : List Entry} (h : ∀ entry ∈ shown, entry.IsWhole) :
    ∃ rows, shown.mapM (rowText key (largest key shown)) = .ok rows ∧
      List.Forall₂ IsRow shown rows := by
  obtain ⟨m, hm, hbound⟩ := exists_largest key h
  apply exists_mapM
  intro entry he
  obtain ⟨n, hn, hle⟩ := hbound entry he
  rw [hm]
  exact exists_rowText (h entry he) hn hle

theorem tableLines_eq {key : Stat} {top : Int} {rows : List String}
    (h : (chart.rows key top).mapM (rowText key (largest key (chart.rows key top))) = .ok rows)
    (hs : List.Forall₂ IsRow (chart.rows key top) rows) :
    chart.tableLines key top = .ok (tableOf rows) := by
  have hempty : (chart.rows key top).isEmpty = rows.isEmpty := by
    rw [Bool.eq_iff_iff, List.isEmpty_iff_length_eq_zero, List.isEmpty_iff_length_eq_zero,
      hs.length_eq]
  rw [tableOf, ← hempty]
  exact congrArg (· >>= _) h

/-- Whatever it is sorted by and however many rows are asked for, there is a table of what was
counted. -/
theorem exists_tabulates_of_crunchTimes {times : Nat}
    (hr : (∃ operations, history = History.build operations) ∨
      ∃ dates aliases lines, Log.read dates aliases lines = .ok history)
    (h : (ofAuthors history).crunchTimes selection history (times + 1) = .ok chart)
    (hn : chart.IsNonnegative) (key : Stat) (top : Int) :
    ∃ ranked rows text, chart.table key top = .ok text ∧
      chart.Tabulates key top ranked rows text := by
  have hw := History.wellFormed_of_built_or_read hr
  obtain ⟨hfilled, hauthors⟩ := filled_of_crunchTimes (.inr rfl) h
  rw [← hauthors] at hfilled
  have hnames : (chart.authors.map (·.2.name)).Pairwise (· < ·) := by
    rw [hauthors]
    exact History.pairwise_authorsByName hw.authors
  have hwhole := isWhole_of_filled hfilled hn
  let ranked := chart.entries.mergeSort (rowBefore key)
  have hperm : ranked.Perm chart.entries := List.mergeSort_perm _ _
  obtain ⟨rows, hrows, hshown⟩ := exists_rowTexts key fun entry he =>
    hwhole entry (hperm.mem_iff.mp (shownOf_subset top ranked he))
  refine ⟨ranked, rows, _, ?_, aligned_of_open hfilled.isOpen, hperm,
    pairwise_precedes hwhole (pairwise_entries hnames), hshown, ?_, rfl, ?_⟩
  · rw [table, tableLines_eq hrows hshown]
    rfl
  · rw [← hshown.length_eq, length_shownOf, hperm.length_eq, length_entries]
  · rw [splitOnP_tableOf_iff, forall_not_mem_iff hshown]

def unskippedSelection : Selection :=
  { smallSelection with skip := some 0 }

def commitBy (place : Nat) (author : String) (adds : Int) : List History.Operation :=
  [.requestCommit author, .setAuthor ⟨place⟩ author, .addChange ⟨place⟩ "p.py" adds 1,
    .setTimestamp ⟨place⟩ (some ⟨⟨⟨2025, 1, 2⟩, 12, 0, 0, 0⟩, none⟩)]

/-- Three of four authors changed as many lines, and two of these have one label in lower case. -/
def tiedHistory : History :=
  .build (commitBy 0 "Ann@x" 2 ++ commitBy 1 "ann@y" 2 ++ commitBy 2 "bob@x" 2 ++
    commitBy 3 "cat@x" 7)

theorem authorsByName_tiedHistory : tiedHistory.authorsByName =
    [(⟨0⟩, ⟨"Ann@x"⟩), (⟨1⟩, ⟨"ann@y"⟩), (⟨2⟩, ⟨"bob@x"⟩), (⟨3⟩, ⟨"cat@x"⟩)] :=
  List.mergeSort_of_pairwise (by decide +kernel)

theorem exists_tabulates_of_crunchTimes_tiedHistory :
    ∃ chart, (ofAuthors tiedHistory).crunchTimes unskippedSelection tiedHistory (0 + 1) =
        .ok chart ∧
      chart.IsNonnegative ∧ chart.labels = ["Ann", "ann", "bob", "cat"] ∧
      (chart.series .linesChanged).values = [.finite 3, .finite 3, .finite 3, .finite 8] ∧
      ∃ ranked rows text, chart.table .linesChanged 2 = .ok text ∧
        chart.Tabulates .linesChanged 2 ranked rows text := by
  have hcheck : ((ofAuthors tiedHistory).crunchTimes unskippedSelection tiedHistory
      1).toOption.any (fun chart => decide (chart.IsNonnegative ∧
        chart.labels = ["Ann", "ann", "bob", "cat"] ∧
        (chart.series .linesChanged).values =
          [.finite 3, .finite 3, .finite 3, .finite 8])) = true := by
    rw [ofAuthors, authorsByName_tiedHistory]
    decide +kernel
  obtain ⟨chart, hchart, hcheck⟩ := exists_ok_of_any hcheck
  obtain ⟨hn, hlabels, hvalues⟩ := of_decide_eq_true hcheck
  exact ⟨chart, hchart, hn, hlabels, hvalues,
    exists_tabulates_of_crunchTimes (.inl ⟨_, rfl⟩) hchart hn .linesChanged 2⟩

def oneCommitLines (author : String) : List String :=
  ["\x00" ++ author ++ "\x002025-01-01T00:00:00+00:00\x00h\x00s", "1\t2\tp.py"]

/-- If the label of an author has a line feed in it, its row is two lines of the text. -/
theorem length_splitOnP_oneCommitLines :
    ∃ history chart text,
      Log.read Log.sampleDates .empty (oneCommitLines "a\nb@x") = .ok history ∧
      (ofAuthors history).crunchTimes unskippedSelection history 1 = .ok chart ∧
      chart.IsNonnegative ∧ chart.authors.length = 1 ∧ chart.table .commits 1 = .ok text ∧
      (text.toList.splitOnP (· == '\n')).length ≠ 2 + min 1 chart.authors.length := by
  have hcheck : (Log.read Log.sampleDates .empty (oneCommitLines "a\nb@x")).toOption.any
      (fun history => ((ofAuthors history).crunchTimes unskippedSelection history 1).toOption.any
        fun chart => decide (chart.IsNonnegative ∧ chart.authors.length = 1) &&
          (chart.table .commits 1).toOption.any fun text =>
            decide ((text.toList.splitOnP (· == '\n')).length ≠
              2 + min 1 chart.authors.length)) = true := by
    decide +kernel
  obtain ⟨history, hread, hcheck⟩ := exists_ok_of_any hcheck
  obtain ⟨chart, hchart, hcheck⟩ := exists_ok_of_any hcheck
  obtain ⟨hsound, hcheck⟩ := Bool.and_eq_true_iff.mp hcheck
  obtain ⟨text, htext, hlength⟩ := exists_ok_of_any hcheck
  obtain ⟨hn, hone⟩ := of_decide_eq_true hsound
  exact ⟨history, chart, text, hread, hchart, hn, hone, htext, of_decide_eq_true hlength⟩

end AuthorChart

end Authorship.Activity
