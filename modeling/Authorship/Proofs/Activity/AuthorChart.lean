import Authorship.Proofs.Activity.Totals
import Authorship.Proofs.History.Authors
import Authorship.Proofs.Number.Binary64

namespace Authorship.Activity

open Authorship.Calendar Authorship.Number

theorem lookup_map {κ α β : Type} [BEq κ] [LawfulBEq κ] (f : κ → α → β) (list : List (κ × α))
    (key : κ) : (list.map fun pair => (pair.1, f pair.1 pair.2)).lookup key =
      (list.lookup key).map (f key) := by
  induction list with
  | nil => rfl
  | cons pair list ih =>
    obtain ⟨k, a⟩ := pair
    rw [List.map_cons, List.lookup_cons, List.lookup_cons]
    cases hk : key == k with
    | true => rw [eq_of_beq hk, Option.map_some]
    | false => exact ih

namespace AuthorChart

structure Open (chart : AuthorChart) : Prop where
  keys : chart.opened.map Prod.fst = Stat.all
  series : ∀ stat, ∃ series, chart.find? stat = some series ∧ series.label = stat.label ∧
    series.values.length = chart.authors.length

theorem openSeries_eq_self {chart : AuthorChart} (h : chart.Open) (stat : Stat) :
    chart.openSeries stat = chart := by
  obtain ⟨series, hf, -⟩ := h.series stat
  rw [openSeries, hf, Option.isSome_some, if_pos rfl]

theorem authors_openSeries (stats : List Stat) (chart : AuthorChart) :
    (stats.foldl openSeries chart).authors = chart.authors := by
  induction stats generalizing chart with
  | nil => rfl
  | cons stat stats ih =>
    rw [List.foldl_cons, ih, openSeries]
    split <;> rfl

theorem open_openSeries (history : History) {chart : AuthorChart}
    (h : chart.Open ∨ chart = ofAuthors history) :
    (Stat.all.foldl openSeries chart).Open := by
  rcases h with h | rfl
  · have hself (stats : List Stat) : stats.foldl openSeries chart = chart := by
      induction stats with
      | nil => rfl
      | cons stat stats ih => rw [List.foldl_cons, openSeries_eq_self h, ih]
    rw [hself]
    exact h
  · refine ⟨rfl, fun stat => ?_⟩
    cases stat <;> exact ⟨_, rfl, rfl, List.length_replicate⟩

theorem find?_write (chart : AuthorChart) (stat other : Stat) (place : Nat) (value : Binary64) :
    (chart.write stat place value).find? other = (chart.find? other).map fun series =>
      if other = stat then { series with values := series.values.set place value } else series :=
  lookup_map (fun key (series : Series) =>
    if key = stat then Series.mk series.label (series.values.set place value) else series)
      chart.opened other

theorem keys_write (chart : AuthorChart) (stat : Stat) (place : Nat) (value : Binary64) :
    (chart.write stat place value).opened.map Prod.fst = chart.opened.map Prod.fst := by
  rw [write, List.map_map]
  rfl

theorem series_of_find? {chart : AuthorChart} {stat : Stat} {series : Series}
    (h : chart.find? stat = some series) : chart.series stat = series := by
  rw [AuthorChart.series, h, Option.getD_some]

theorem Open.length_values {chart : AuthorChart} (h : chart.Open) (stat : Stat) :
    (chart.series stat).values.length = chart.authors.length := by
  obtain ⟨series, hf, -, hl⟩ := h.series stat
  rw [series_of_find? hf, hl]

theorem ofInt?_of_rounded {total : Int} {value : Binary64} (h : rounded total = .ok value) :
    Binary64.ofInt? total = some value := by
  unfold rounded at h
  split at h
  · rename_i hv
    cases h
    exact hv
  · cases h

/-- What writing the totals of one author does: the place of the author gets the values, and all
else stays. -/
structure Wrote (place : Nat) (totals : Totals) (stats : List Stat)
    (before after : AuthorChart) : Prop where
  authors : after.authors = before.authors
  keys : after.opened.map Prod.fst = before.opened.map Prod.fst
  written : ∀ stat ∈ stats, ∃ value, rounded (totals.value stat) = .ok value ∧
    after.find? stat = (before.find? stat).map fun series =>
      { series with values := series.values.set place value }
  kept : ∀ stat, stat ∉ stats → after.find? stat = before.find? stat

theorem wrote_of_foldlM {place : Nat} {totals : Totals} {stats : List Stat}
    {chart next : AuthorChart} (hn : stats.Nodup)
    (h : stats.foldlM (writeTotal totals place) chart = .ok next) :
    Wrote place totals stats chart next := by
  induction stats generalizing chart with
  | nil =>
    cases h
    exact ⟨rfl, rfl, fun stat hs => by simp at hs, fun _ _ => rfl⟩
  | cons stat stats ih =>
    rw [List.foldlM_cons] at h
    obtain ⟨between, hb, h⟩ := exists_of_bind_ok h
    obtain ⟨value, hv, hb⟩ := exists_of_bind_ok hb
    cases hb
    obtain ⟨hstat, hn⟩ := List.nodup_cons.mp hn
    obtain ⟨hauthors, hkeys, hwritten, hkept⟩ := ih hn h
    refine ⟨hauthors, hkeys.trans (keys_write chart stat place value), ?_, ?_⟩
    · intro other ho
      rcases List.mem_cons.mp ho with rfl | ho
      · refine ⟨value, hv, ?_⟩
        rw [hkept other hstat, find?_write]
        simp only [if_pos]
      · obtain ⟨written, hw, hf⟩ := hwritten other ho
        have hne : other ≠ stat := fun he => hstat (he ▸ ho)
        refine ⟨written, hw, ?_⟩
        rw [hf, find?_write]
        simp only [if_neg hne, Option.map_id']
    · intro other ho
      obtain ⟨hne, ho⟩ := not_or.mp (mt List.mem_cons.mpr ho)
      rw [hkept other ho, find?_write]
      simp only [if_neg hne, Option.map_id']

/-- The first authors of a chart have their values. -/
structure Filled (selection : Selection) (history : History) (count : Nat)
    (chart : AuthorChart) : Prop where
  isOpen : chart.Open
  values : ∀ place handle author, place < count →
    chart.authors[place]? = some (handle, author) →
    ∃ totals, totalsOf selection history handle = .ok totals ∧
      ∀ stat, ∃ value, rounded (totals.value stat) = .ok value ∧
        (chart.series stat).values[place]? = some value

variable {selection : Selection} {history : History}

theorem Filled.fill {chart next : AuthorChart} {place : Nat} {handle : Handle Author}
    {author : Author} {totals : Totals} (h : Filled selection history place chart)
    (ha : chart.authors[place]? = some (handle, author))
    (ht : totalsOf selection history handle = .ok totals)
    (hf : chart.fill place totals = .ok next) :
    Filled selection history (place + 1) next ∧ next.authors = chart.authors := by
  obtain ⟨hauthors, hkeys, hwritten, -⟩ := wrote_of_foldlM (by decide) hf
  have hseries (stat : Stat) : ∃ series value, rounded (totals.value stat) = .ok value ∧
      chart.find? stat = some series ∧ series.label = stat.label ∧
      series.values.length = chart.authors.length ∧
      next.find? stat = some { series with values := series.values.set place value } := by
    obtain ⟨series, hs, hlabel, hlength⟩ := h.isOpen.series stat
    obtain ⟨value, hv, hn⟩ := hwritten stat (by cases stat <;> decide)
    rw [hs] at hn
    exact ⟨series, value, hv, hs, hlabel, hlength, hn⟩
  refine ⟨⟨⟨hkeys.trans h.isOpen.keys, fun stat => ?_⟩, ?_⟩, hauthors⟩
  · obtain ⟨series, value, -, -, hlabel, hlength, hn⟩ := hseries stat
    refine ⟨_, hn, hlabel, ?_⟩
    rw [List.length_set, hauthors]
    exact hlength
  · intro other handle' author' hlt ha'
    rw [hauthors] at ha'
    by_cases he : other = place
    · subst other
      obtain ⟨rfl, rfl⟩ := Prod.mk.inj (Option.some.inj (ha.symm.trans ha'))
      refine ⟨totals, ht, fun stat => ?_⟩
      obtain ⟨series, value, hv, -, -, hlength, hn⟩ := hseries stat
      have hplace : place < series.values.length := by
        rw [hlength]
        exact (List.getElem?_eq_some_iff.mp ha).1
      refine ⟨value, hv, ?_⟩
      rw [series_of_find? hn]
      exact List.getElem?_set_self hplace
    · obtain ⟨old, ho, hold⟩ := h.values other handle' author' (by omega) ha'
      refine ⟨old, ho, fun stat => ?_⟩
      obtain ⟨kept, hk, hv⟩ := hold stat
      obtain ⟨series, value, -, hs, -, -, hn⟩ := hseries stat
      refine ⟨kept, hk, ?_⟩
      rw [series_of_find? hs] at hv
      rw [series_of_find? hn]
      exact (List.getElem?_set_ne (Ne.symm he)).trans hv

theorem Filled.run {chart next : AuthorChart} {rest : List (Handle Author × Author)}
    {place : Nat} (h : Filled selection history place chart)
    (ha : chart.authors.drop place = rest)
    (hf : (rest.zipIdx place).foldlM (countFor selection history) chart = .ok next) :
    Filled selection history (place + rest.length) next ∧ next.authors = chart.authors := by
  induction rest generalizing chart place with
  | nil =>
    cases hf
    exact ⟨h, rfl⟩
  | cons first rest ih =>
    obtain ⟨handle, author⟩ := first
    rw [List.zipIdx_cons, List.foldlM_cons] at hf
    obtain ⟨between, hb, hf⟩ := exists_of_bind_ok hf
    obtain ⟨totals, ht, hb⟩ := exists_of_bind_ok hb
    have hat : chart.authors[place]? = some (handle, author) := by
      rw [← List.head?_drop, ha, List.head?_cons]
    obtain ⟨hnext, hauthors⟩ := h.fill hat ht hb
    have hdrop : between.authors.drop (place + 1) = rest := by
      rw [hauthors, ← List.tail_drop, ha, List.tail_cons]
    obtain ⟨hall, hsame⟩ := ih hnext hdrop hf
    refine ⟨?_, hsame.trans hauthors⟩
    rw [List.length_cons, Nat.add_comm rest.length, ← Nat.add_assoc]
    exact hall

theorem filled_of_crunch {chart next : AuthorChart}
    (ho : chart.Open ∨ chart = ofAuthors history)
    (h : chart.crunch selection history = .ok next) :
    Filled selection history chart.authors.length next ∧ next.authors = chart.authors := by
  have hauthors := authors_openSeries Stat.all chart
  have hstart : Filled selection history 0 (Stat.all.foldl openSeries chart) :=
    ⟨open_openSeries history ho, fun _ _ _ hlt => absurd hlt (Nat.not_lt_zero _)⟩
  have hrest : (Stat.all.foldl openSeries chart).authors.drop 0 = chart.authors := hauthors
  obtain ⟨hall, hsame⟩ := hstart.run hrest h
  rw [Nat.zero_add] at hall
  exact ⟨hall, hsame.trans hauthors⟩

theorem filled_of_crunchTimes {chart final : AuthorChart} {times : Nat}
    (ho : chart.Open ∨ chart = ofAuthors history)
    (h : chart.crunchTimes selection history (times + 1) = .ok final) :
    Filled selection history chart.authors.length final ∧ final.authors = chart.authors := by
  induction times generalizing chart with
  | zero =>
    obtain ⟨next, hc, h⟩ := exists_of_bind_ok h
    cases h
    exact filled_of_crunch ho hc
  | succ times ih =>
    obtain ⟨next, hc, h⟩ := exists_of_bind_ok h
    obtain ⟨hfilled, hauthors⟩ := filled_of_crunch ho hc
    rw [← hauthors]
    obtain ⟨hall, hsame⟩ := ih (.inl hfilled.isOpen) h
    exact ⟨hall, hsame⟩

/-- What a chart shows: the five series, with a value for each author in the order of the names,
which is what the statistic says about the commits that count for the author, less the oldest. -/
structure Shows (selection : Selection) (history : History) (chart : AuthorChart) : Prop where
  keys : chart.opened.map (·.1.key) =
    ["files-changed", "commits", "lines-changed", "lines-added", "lines-deleted"]
  ascending : (chart.authors.map (·.2.name)).Pairwise (· < ·)
  names : (chart.authors.map (·.2.name)).Perm history.authors.keys
  aligned : ∀ stat, ∃ series, chart.find? stat = some series ∧ series.label = stat.label ∧
    series.values.length = chart.authors.length
  values : ∀ (place : Nat) (handle : Handle Author) (author : Author),
    chart.authors[place]? = some (handle, author) →
    ∃ skip ranked, selection.skip = some skip ∧
      Ranked history (CountsFor selection history author.name) ranked ∧
      ∀ stat, ∃ total value, total = stat.meaning selection history (ranked.drop skip.toNat) ∧
        (chart.series stat).values[place]? = some value ∧ Binary64.ofInt? total = some value ∧
        (total.natAbs ≤ 2 ^ 53 → value = .finite total)

/-- A chart that was counted at least once shows what its history says. -/
theorem shows_of_crunchTimes {times : Nat} {chart : AuthorChart}
    (hr : (∃ operations, history = History.build operations) ∨
      ∃ dates aliases lines, Log.read dates aliases lines = .ok history)
    (h : (ofAuthors history).crunchTimes selection history (times + 1) = .ok chart) :
    chart.Shows selection history := by
  have hw := History.wellFormed_of_built_or_read hr
  obtain ⟨⟨hopen, hvalues⟩, hauthors⟩ := filled_of_crunchTimes (.inr rfl) h
  refine ⟨?_, ?_, ?_, hopen.series, ?_⟩
  · have hkeys : chart.opened.map (·.1.key) = (chart.opened.map Prod.fst).map Stat.key := by
      rw [List.map_map]
      rfl
    rw [hkeys, hopen.keys]
    rfl
  · rw [hauthors]
    exact History.pairwise_authorsByName hw.authors
  · rw [hauthors]
    exact History.map_name_authorsByName history
  · intro place handle author ha
    have hlt : place < (ofAuthors history).authors.length := by
      rw [← hauthors]
      exact (List.getElem?_eq_some_iff.mp ha).1
    obtain ⟨totals, ht, hvalue⟩ := hvalues place handle author hlt ha
    have hg : history.authors.get? handle = some author := by
      apply History.mem_authorsByName.mp
      rw [hauthors] at ha
      exact List.mem_of_getElem? ha
    obtain ⟨skip, ranked, hskip, hranked, htotals⟩ := totalsOf_meaning hw hg ht
    refine ⟨skip, ranked, hskip, hranked, fun stat => ?_⟩
    obtain ⟨value, hv, hat⟩ := hvalue stat
    have hofInt := ofInt?_of_rounded hv
    rw [htotals stat] at hofInt
    refine ⟨_, value, rfl, hat, hofInt, fun hsmall => ?_⟩
    rw [Binary64.ofInt?_of_natAbs_le hsmall] at hofInt
    exact (Option.some.inj hofInt).symm

theorem exists_rounded {total : Int} (h : total.natAbs ≤ 2 ^ 53) :
    ∃ value, rounded total = .ok value :=
  ⟨.finite total, by rw [rounded, Binary64.ofInt?_of_natAbs_le h]⟩

theorem exists_fill {totals : Totals}
    (h : ∀ stat, ∃ value, rounded (totals.value stat) = .ok value) (chart : AuthorChart)
    (place : Nat) : ∃ next, chart.fill place totals = .ok next ∧ next.authors = chart.authors := by
  have hall (stats : List Stat) (chart : AuthorChart) :
      ∃ next, stats.foldlM (writeTotal totals place) chart = .ok next ∧
        next.authors = chart.authors := by
    induction stats generalizing chart with
    | nil => exact ⟨chart, rfl, rfl⟩
    | cons stat stats ih =>
      obtain ⟨value, hv⟩ := h stat
      obtain ⟨next, hn, hauthors⟩ := ih (chart.write stat place value)
      refine ⟨next, ?_, hauthors⟩
      rw [List.foldlM_cons, writeTotal, hv]
      exact hn
  exact hall Stat.all chart

/-- The totals of an author can be told and shown. -/
def CanTell (selection : Selection) (history : History) (handle : Handle Author) : Prop :=
  ∃ totals, totalsOf selection history handle = .ok totals ∧
    ∀ stat, ∃ value, rounded (totals.value stat) = .ok value

theorem exists_fillAll (pairs : List ((Handle Author × Author) × Nat)) (chart : AuthorChart)
    (h : ∀ pair ∈ pairs, CanTell selection history pair.1.1) :
    ∃ next, pairs.foldlM (countFor selection history) chart = .ok next ∧
      next.authors = chart.authors := by
  induction pairs generalizing chart with
  | nil => exact ⟨chart, rfl, rfl⟩
  | cons pair pairs ih =>
    obtain ⟨⟨handle, author⟩, place⟩ := pair
    obtain ⟨totals, ht, hv⟩ := h _ List.mem_cons_self
    obtain ⟨between, hb, hsame⟩ := exists_fill hv chart place
    obtain ⟨next, hn, hauthors⟩ := ih between fun pair hm => h pair (List.mem_cons_of_mem _ hm)
    refine ⟨next, ?_, hauthors.trans hsame⟩
    rw [List.foldlM_cons, countFor, ht]
    exact (congrArg (· >>= _) hb).trans hn

theorem exists_crunch {chart : AuthorChart}
    (h : ∀ pair ∈ chart.authors, CanTell selection history pair.1) :
    ∃ next, chart.crunch selection history = .ok next ∧ next.authors = chart.authors := by
  obtain ⟨next, hn, hauthors⟩ := exists_fillAll chart.authors.zipIdx
    (Stat.all.foldl openSeries chart) fun pair hm => h pair.1 (List.fst_mem_of_mem_zipIdx hm)
  exact ⟨next, hn, hauthors.trans (authors_openSeries Stat.all chart)⟩

theorem exists_crunchTimes {chart : AuthorChart} (times : Nat)
    (h : ∀ pair ∈ chart.authors, CanTell selection history pair.1) :
    ∃ final, chart.crunchTimes selection history times = .ok final := by
  induction times generalizing chart with
  | zero => exact ⟨chart, rfl⟩
  | succ times ih =>
    obtain ⟨next, hn, hauthors⟩ := exists_crunch h
    rw [← hauthors] at h
    obtain ⟨final, hf⟩ := ih h
    exact ⟨final, (congrArg (· >>= _) hn).trans hf⟩

/-- Two authors, and two commits at one instant in different zones. -/
def smallHistory : History :=
  .build [.requestCommit "1", .setAuthor ⟨0⟩ "a@x", .addChange ⟨0⟩ "src/a.py" 3 1,
    .setTimestamp ⟨0⟩ (some ⟨⟨⟨2025, 1, 1⟩, 12, 0, 0, 0⟩, none⟩),
    .requestCommit "2", .setAuthor ⟨1⟩ "b@x", .addChange ⟨1⟩ "src/b.py" 5 0,
    .setTimestamp ⟨1⟩ (some ⟨⟨⟨2025, 1, 2⟩, 12, 0, 0, 0⟩, none⟩),
    .requestCommit "3", .setAuthor ⟨2⟩ "a@x", .addChange ⟨2⟩ "doc/c.md" 1 1,
    .addChange ⟨2⟩ "src/a.py" 2 2,
    .setTimestamp ⟨2⟩ (some ⟨⟨⟨2025, 1, 1⟩, 14, 0, 0, 0⟩, some ⟨none, 7200⟩⟩)]

def smallSelection : Selection :=
  ⟨["doc/"], [], some (.finite 30), some 1, ⟨⟨⟨2025, 1, 20⟩, 0, 0, 0, 0⟩, none⟩⟩

theorem totalsOf_of_pairwise {handle : Handle Author} {commits : List Commit} {skip : Int}
    (hp : selection.pick history (commitsOf history handle) = .ok commits)
    (hs : selection.skip = some skip) (hz : isSortable commits = true)
    (h : commits.Pairwise fun a b => commitInstant a ≤ commitInstant b) :
    totalsOf selection history handle =
      .ok (Totals.ofCommits selection history (commits.drop skip.toNat)) := by
  rw [totalsOf, Selection.qualifying, hp]
  dsimp only [bind, Except.bind]
  rw [sortCommits_of_pairwise hz h]
  dsimp only
  rw [hs]
  rfl

theorem totalsOf_smallHistory :
    totalsOf smallSelection smallHistory ⟨0⟩ = .ok ⟨1, 1, 2, 2⟩ ∧
      totalsOf smallSelection smallHistory ⟨1⟩ = .ok ⟨0, 0, 0, 0⟩ := by
  have hp (handle : Handle Author) (hh : handle = ⟨0⟩ ∨ handle = ⟨1⟩) :
      smallSelection.pick smallHistory (commitsOf smallHistory handle) =
        .ok (commitsOf smallHistory handle) := by
    rcases hh with rfl | rfl <;> decide +kernel
  constructor
  · rw [totalsOf_of_pairwise (hp _ (.inl rfl)) rfl (by decide +kernel) (by decide +kernel)]
    decide +kernel
  · rw [totalsOf_of_pairwise (hp _ (.inr rfl)) rfl (by decide +kernel) (by decide +kernel)]
    decide +kernel

theorem authorsByName_smallHistory :
    smallHistory.authorsByName = [(⟨0⟩, ⟨"a@x"⟩), (⟨1⟩, ⟨"b@x"⟩)] :=
  List.mergeSort_of_pairwise (by decide +kernel)

theorem canTell_smallHistory {first second : Totals}
    (ha : totalsOf selection smallHistory ⟨0⟩ = .ok first)
    (hb : totalsOf selection smallHistory ⟨1⟩ = .ok second)
    (hs : ∀ stat, (first.value stat).natAbs ≤ 2 ^ 53 ∧ (second.value stat).natAbs ≤ 2 ^ 53) :
    ∀ pair ∈ (ofAuthors smallHistory).authors, CanTell selection smallHistory pair.1 := by
  intro pair hm
  rw [ofAuthors, authorsByName_smallHistory] at hm
  rcases List.mem_pair.mp hm with rfl | rfl
  · exact ⟨first, ha, fun stat => exists_rounded (hs stat).1⟩
  · exact ⟨second, hb, fun stat => exists_rounded (hs stat).2⟩

theorem shows_of_crunchTimes_smallHistory :
    ∃ chart, (ofAuthors smallHistory).crunchTimes smallSelection smallHistory (1 + 1) =
        .ok chart ∧
      chart.Shows smallSelection smallHistory := by
  obtain ⟨ha, hb⟩ := totalsOf_smallHistory
  have htell := canTell_smallHistory ha hb (by intro stat; cases stat <;> decide)
  obtain ⟨chart, hc⟩ := exists_crunchTimes (1 + 1) htell
  exact ⟨chart, hc, shows_of_crunchTimes (.inl ⟨_, rfl⟩) hc⟩

end AuthorChart

end Authorship.Activity
