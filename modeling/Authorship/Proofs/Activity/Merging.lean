import Authorship.Proofs.Activity.Completion
import Authorship.Proofs.Activity.Telling

namespace Authorship.Activity

open Authorship.Calendar Authorship.Number

theorem perm_flatMap_filter {α κ : Type} [DecidableEq κ] {keys : List κ} (hn : keys.Nodup)
    (key? : α → Option κ) (list : List α) :
    (keys.flatMap fun key => list.filter fun a => key? a == some key).Perm
      (list.filter fun a => (key? a).any (· ∈ keys)) := by
  induction keys with
  | nil => simp
  | cons key keys ih =>
    obtain ⟨hkey, hn⟩ := List.nodup_cons.mp hn
    -- What stands at any of the keys is cut into what stands at the first one and the rest.
    rw [List.flatMap_cons]
    refine ((ih hn).append_left _).trans ?_
    refine List.Perm.trans (.of_eq ?_)
      (List.filter_append_perm (fun a => key? a == some key) _)
    rw [List.filter_filter, List.filter_filter]
    congr 1
    · apply List.filter_congr
      intro a _
      cases h : key? a with
      | none => rfl
      | some other => by_cases he : other = key <;> simp [he]
    · apply List.filter_congr
      intro a _
      cases h : key? a with
      | none => rfl
      | some other => by_cases he : other = key <;> simp [he, hkey]

section Sums

variable {selection : Selection}

theorem countsIn_append (accounts others : List Account) :
    countsIn selection (accounts ++ others) =
      countsIn selection accounts + countsIn selection others := by
  rw [countsIn, List.map_append, List.sum_append, Multiset.filter_add]
  rfl

theorem value_ofAccounts_append (accounts others : List Account) {stat : Stat}
    (hs : stat ≠ .filesChanged) :
    (Totals.ofAccounts selection (accounts ++ others)).value stat =
      (Totals.ofAccounts selection accounts).value stat +
        (Totals.ofAccounts selection others).value stat := by
  cases stat with
  | filesChanged => exact absurd rfl hs
  | commits =>
    simp only [Totals.value, Totals.ofAccounts, List.length_append]
    exact Int.natCast_add _ _
  | linesChanged =>
    simp only [Totals.value, Totals.ofAccounts, countsIn_append, Multiset.map_add,
      Multiset.sum_add]
    exact add_add_add_comm _ _ _ _
  | linesAdded =>
    simp only [Totals.value, Totals.ofAccounts, countsIn_append, Multiset.map_add,
      Multiset.sum_add]
  | linesDeleted =>
    simp only [Totals.value, Totals.ofAccounts, countsIn_append, Multiset.map_add,
      Multiset.sum_add]

theorem value_ofAccounts_flatMap (names : List String) (f : String → List Account) {stat : Stat}
    (hs : stat ≠ .filesChanged) :
    (Totals.ofAccounts selection (names.flatMap f)).value stat =
      (names.map fun name => (Totals.ofAccounts selection (f name)).value stat).sum := by
  induction names with
  | nil => cases stat <;> first | exact absurd rfl hs | rfl
  | cons name names ih =>
    rw [List.flatMap_cons, value_ofAccounts_append _ _ hs, ih, List.map_cons, List.sum_cons]

theorem mem_countsIn {accounts : List Account} {count : Log.LineCount} :
    count ∈ countsIn selection accounts ↔
      (∃ account ∈ accounts, count ∈ account.counts) ∧ selection.Counted count.path := by
  have hsum : count ∈ (accounts.map Account.counts).sum ↔
      ∃ account ∈ accounts, count ∈ account.counts := by
    induction accounts with
    | nil => simp
    | cons account accounts ih => simp [ih]
  rw [countsIn, Multiset.mem_filter, hsum]

def pathsIn (selection : Selection) (accounts : List Account) : Finset String :=
  ((countsIn selection accounts).map Log.LineCount.path).toFinset

theorem mem_pathsIn {accounts : List Account} {path : String} :
    path ∈ pathsIn selection accounts ↔
      selection.Counted path ∧ ∃ account ∈ accounts, ∃ count ∈ account.counts, count.path = path := by
  rw [pathsIn, Multiset.mem_toFinset, Multiset.mem_map]
  simp only [mem_countsIn]
  constructor
  · rintro ⟨count, ⟨⟨account, ha, hc⟩, hcounted⟩, rfl⟩
    exact ⟨hcounted, account, ha, count, hc, rfl⟩
  · rintro ⟨hcounted, account, ha, count, hc, rfl⟩
    exact ⟨count, ⟨⟨account, ha, hc⟩, hcounted⟩, rfl⟩

end Sums

/-- The paths that count of the files that an author's commits that count have changed. -/
def touched (selection : Selection) (history : History) (name : String) : Set String :=
  { path | selection.Counted path ∧ ∃ commit ∈ history.commits.items,
      CountsFor selection history name commit ∧
      ∃ change ∈ commit.changes, history.pathOf change = path }

/-- The totals of the author of a name can be told, and a chart shows them rounded. -/
def AuthorChart.Says (chart : AuthorChart) (selection : Selection) (history : History)
    (name : String) (totals : Totals) : Prop :=
  ∃ (place : Nat) (handle : Handle Author) (author : Author),
    chart.authors[place]? = some (handle, author) ∧ author.name = name ∧
    totalsOf selection history handle = .ok totals ∧
    ∀ stat, ∃ value, Binary64.ofInt? (totals.value stat) = some value ∧
      (chart.series stat).values[place]? = some value

variable {selection : Selection} {history : History}

theorem exists_said {chart : AuthorChart} {name : String}
    (hc : AuthorChart.ofHistory selection history = .ok chart)
    (hm : name ∈ history.authors.keys) : ∃ totals, chart.Says selection history name totals := by
  obtain ⟨hfilled, hauthors⟩ := AuthorChart.filled_of_crunch (.inr rfl) hc
  have hname := (History.map_name_authorsByName history).symm.mem_iff.mp hm
  obtain ⟨⟨handle, author⟩, hpair, rfl⟩ := List.mem_map.mp hname
  obtain ⟨place, hat⟩ := List.mem_iff_getElem?.mp hpair
  have hlt : place < history.authorsByName.length := (List.getElem?_eq_some_iff.mp hat).1
  have hat' : chart.authors[place]? = some (handle, author) := by
    rw [hauthors]
    exact hat
  obtain ⟨totals, ht, hvalue⟩ := hfilled.values place handle author hlt hat'
  refine ⟨totals, place, handle, author, hat', rfl, ht, fun stat => ?_⟩
  obtain ⟨value, hv, hplace⟩ := hvalue stat
  exact ⟨value, AuthorChart.ofInt?_of_rounded hv, hplace⟩

def countedOf (selection : Selection) (history : History) (name : String) : List Account :=
  (history.accountsOf name).filter (taken selection.judge)

theorem AuthorChart.Says.eq_ofAccounts {chart : AuthorChart} {name : String} {totals : Totals}
    {skip : Int} (h : chart.Says selection history name totals) (hw : history.WellFormed)
    (hc : AuthorChart.ofHistory selection history = .ok chart) (hs : selection.skip = some skip)
    (hskip : skip ≤ 0) :
    totals = Totals.ofAccounts selection (countedOf selection history name) ∧
      ∀ account ∈ history.accountsOf name, ∃ counts, selection.judge account = .ok counts := by
  obtain ⟨place, handle, author, hat, rfl, ht, -⟩ := h
  obtain ⟨-, hauthors⟩ := AuthorChart.filled_of_crunch (.inr rfl) hc
  rw [hauthors] at hat
  have hg := History.mem_authorsByName.mp (List.mem_of_getElem? hat)
  obtain ⟨hjudged, -, htold⟩ := (totalsOf_eq_ok_iff_tells hw hg hs).mp ht
  rw [chosen_eq_of_nonpos _ hskip, ofAccounts_perm (sortedBy_perm _ _)] at htold
  exact ⟨htold, hjudged⟩

theorem touched_eq {name : String} (hw : history.WellFormed)
    (hj : ∀ account ∈ history.accountsOf name, ∃ counts, selection.judge account = .ok counts) :
    touched selection history name = ↑(pathsIn selection (countedOf selection history name)) := by
  ext path
  rw [Finset.mem_coe, mem_pathsIn]
  refine and_congr_right fun _ => ?_
  constructor
  · rintro ⟨commit, hm, ⟨hname, htakes⟩, change, hc, rfl⟩
    have haccount : history.account commit ∈ history.accountsOf name :=
      List.mem_map_of_mem (List.mem_filter.mpr ⟨hm, beq_iff_eq.mpr hname⟩)
    obtain ⟨counts, hjudge⟩ := hj _ haccount
    have hq := (qualifies_eq_judge hw hm).trans hjudge
    obtain rfl := (takes_of_qualifies hw hm hq).mpr htakes
    refine ⟨history.account commit, List.mem_filter.mpr ⟨haccount, taken_iff.mpr hjudge⟩, ?_⟩
    exact ⟨history.lineCountOf change, List.mem_map_of_mem hc, rfl⟩
  · rintro ⟨account, ha, count, hcount, rfl⟩
    obtain ⟨ha, htaken⟩ := List.mem_filter.mp ha
    obtain ⟨commit, hm, rfl⟩ := List.mem_map.mp ha
    obtain ⟨hm, hname⟩ := List.mem_filter.mp hm
    obtain ⟨change, hc, rfl⟩ := List.mem_map.mp hcount
    have hq := (qualifies_eq_judge hw hm).trans (taken_iff.mp htaken)
    exact ⟨commit, hm, ⟨beq_iff_eq.mp hname, (takes_of_qualifies hw hm hq).mp rfl⟩, change, hc, rfl⟩

section Merged

variable {aliases : Aliases} {records : List Log.Record} {raw merged : History}

theorem mem_keys_iff (h : Log.Meaning aliases records history) {name : String} :
    name ∈ history.authors.keys ↔
      ∃ summary ∈ Log.summaries records, aliases.resolve summary.email = name := by
  rw [h.names, List.mem_eraseDups, List.mem_map]

theorem mem_merged_keys_iff (hraw : Log.Meaning .empty records raw)
    (hmerged : Log.Meaning aliases records merged) {name : String} :
    name ∈ merged.authors.keys ↔ ∃ identity ∈ raw.authors.keys, aliases.resolve identity = name := by
  simp only [mem_keys_iff hraw, mem_keys_iff hmerged]
  constructor
  · rintro ⟨summary, hs, rfl⟩
    exact ⟨summary.email, ⟨summary, hs, rfl⟩, rfl⟩
  · rintro ⟨_, ⟨summary, hs, rfl⟩, rfl⟩
    exact ⟨summary, hs, rfl⟩

/-- The identities that stand for an author. -/
def identitiesOf (aliases : Aliases) (raw : History) (name : String) : List String :=
  raw.authors.keys.filter (aliases.resolve · == name)

theorem accountsOf_merged (hraw : Log.Meaning .empty records raw)
    (hmerged : Log.Meaning aliases records merged) (name : String) :
    ((identitiesOf aliases raw name).flatMap raw.accountsOf).Perm (merged.accountsOf name) := by
  have hnodup : raw.authors.keys.Nodup := by
    rw [hraw.names]
    exact nodup_eraseDups _
  -- Both histories tell the accounts by hash; only the name that is looked for differs.
  have hapart (identity : String) : raw.accountsOf identity =
      ((Log.hashesOf records).filter fun hash =>
        (Log.lastOf? records hash).map Log.Summary.email == some identity).map
          (Log.accountOf records) := by
    rw [hraw.accountsOf_eq]
    congr 2
    funext hash
    cases Log.lastOf? records hash <;> rfl
  have htogether : merged.accountsOf name =
      ((Log.hashesOf records).filter fun hash =>
        ((Log.lastOf? records hash).map Log.Summary.email).any
          (· ∈ identitiesOf aliases raw name)).map (Log.accountOf records) := by
    rw [hmerged.accountsOf_eq]
    congr 2
    funext hash
    cases hlast : Log.lastOf? records hash with
    | none => rfl
    | some summary =>
      have hs : summary ∈ Log.summaries records :=
        List.mem_reverse.mp (List.mem_of_find?_eq_some hlast)
      have hkey : summary.email ∈ raw.authors.keys := (mem_keys_iff hraw).mpr ⟨summary, hs, rfl⟩
      have hiff : (aliases.resolve summary.email == name) = true ↔
          summary.email ∈ identitiesOf aliases raw name := by
        rw [identitiesOf, List.mem_filter, and_iff_right hkey]
      rw [Option.map_some, Option.any_some, Option.any_some, Bool.eq_iff_iff, decide_eq_true_iff]
      exact hiff
  rw [htogether, show raw.accountsOf = _ from funext hapart, ← List.map_flatMap]
  exact (perm_flatMap_filter (hnodup.filter _) _ _).map _

theorem countedOf_merged (selection : Selection) (hraw : Log.Meaning .empty records raw)
    (hmerged : Log.Meaning aliases records merged) (name : String) :
    ((identitiesOf aliases raw name).flatMap (countedOf selection raw)).Perm
      (countedOf selection merged name) := by
  have hperm := (accountsOf_merged hraw hmerged name).filter (taken selection.judge)
  rw [List.filter_flatMap] at hperm
  exact hperm

theorem pathsIn_merged {selection : Selection} (hraw : Log.Meaning .empty records raw)
    (hmerged : Log.Meaning aliases records merged) (name : String) :
    (↑(pathsIn selection (countedOf selection merged name)) : Set String) =
      ⋃ identity ∈ identitiesOf aliases raw name,
        ↑(pathsIn selection (countedOf selection raw identity)) := by
  have hperm := countedOf_merged selection hraw hmerged name
  ext path
  simp only [Finset.mem_coe, Set.mem_iUnion, mem_pathsIn, ← hperm.mem_iff, List.mem_flatMap]
  constructor
  · rintro ⟨hcounted, account, ⟨identity, hi, ha⟩, hcount⟩
    exact ⟨identity, hi, hcounted, account, ha, hcount⟩
  · rintro ⟨identity, hi, hcounted, account, ha, hcount⟩
    exact ⟨hcounted, account, ⟨identity, hi, ha⟩, hcount⟩

end Merged

/-- Aliases merge identities: the authors are those whom the identities stand for, and with no
commit passed over their totals are the sums of what the identities have when they are counted
apart; of files, the number of those that any of the identities changed. -/
theorem exists_merged_of_read {dates : DateReader} {anyAliases : Aliases} {lines : List String}
    (h : Log.read dates anyAliases lines = .ok history) (aliases : Aliases) :
    ∃ raw merged, Log.read dates .empty lines = .ok raw ∧
      Log.read dates aliases lines = .ok merged ∧
      (merged.authorsByName.map (·.2.name)).Pairwise (· < ·) ∧
      (∀ name, name ∈ merged.authorsByName.map (·.2.name) ↔
        ∃ identity ∈ raw.authors.keys, aliases.resolve identity = name) ∧
      ∀ (selection : Selection) (skip : Int) (apart together : AuthorChart),
        selection.skip = some skip → skip ≤ 0 →
        AuthorChart.ofHistory selection raw = .ok apart →
        AuthorChart.ofHistory selection merged = .ok together →
        ∃ told : String → Totals,
          (∀ identity ∈ raw.authors.keys, apart.Says selection raw identity (told identity) ∧
            (told identity).files = (touched selection raw identity).ncard) ∧
          ∀ name ∈ merged.authorsByName.map (·.2.name), ∃ totals,
            together.Says selection merged name totals ∧
            (∀ stat, stat ≠ .filesChanged → totals.value stat =
              ((identitiesOf aliases raw name).map fun identity =>
                (told identity).value stat).sum) ∧
            totals.files =
              (⋃ identity ∈ identitiesOf aliases raw name, touched selection raw identity).ncard := by
  obtain ⟨records, -, hall⟩ := Log.exists_meaning_of_aliases h
  obtain ⟨raw, hreadRaw, hraw⟩ := hall .empty
  obtain ⟨merged, hreadMerged, hmerged⟩ := hall aliases
  have hw := Log.wellFormed_of_read hreadRaw
  have hw' := Log.wellFormed_of_read hreadMerged
  have hnames {name : String} : name ∈ merged.authorsByName.map (·.2.name) ↔
      name ∈ merged.authors.keys := (History.map_name_authorsByName merged).mem_iff
  refine ⟨raw, merged, hreadRaw, hreadMerged, History.pairwise_authorsByName hw'.authors, ?_, ?_⟩
  · intro name
    rw [hnames]
    exact mem_merged_keys_iff hraw hmerged
  · intro selection skip apart together hs hskip hapart htogether
    have hsaid {identity : String} (hi : identity ∈ raw.authors.keys) :
        apart.Says selection raw identity
          (Totals.ofAccounts selection (countedOf selection raw identity)) ∧
        touched selection raw identity =
          ↑(pathsIn selection (countedOf selection raw identity)) := by
      obtain ⟨totals, ht⟩ := exists_said hapart hi
      obtain ⟨rfl, hjudged⟩ := ht.eq_ofAccounts hw hapart hs hskip
      exact ⟨ht, touched_eq hw hjudged⟩
    refine ⟨fun identity => Totals.ofAccounts selection (countedOf selection raw identity),
      fun identity hi => ⟨(hsaid hi).1, ?_⟩, fun name hn => ?_⟩
    · rw [(hsaid hi).2, Set.ncard_coe_finset]
      rfl
    · obtain ⟨totals, ht⟩ := exists_said htogether (hnames.mp hn)
      obtain ⟨rfl, -⟩ := ht.eq_ofAccounts hw' htogether hs hskip
      refine ⟨_, ht, fun stat hstat => ?_, ?_⟩
      · rw [← value_ofAccounts_flatMap _ _ hstat,
          ofAccounts_perm (countedOf_merged selection hraw hmerged name)]
      · have hunion : (⋃ identity ∈ identitiesOf aliases raw name,
            touched selection raw identity) =
              ↑(pathsIn selection (countedOf selection merged name)) := by
          rw [pathsIn_merged hraw hmerged]
          apply Set.iUnion₂_congr
          intro identity hi
          exact (hsaid (List.mem_of_mem_filter hi)).2
        rw [hunion, Set.ncard_coe_finset]
        rfl

def threeIdentityLines : List String :=
  ["\x00b@x\x002025-01-01\x00h1\x00first", "1\t2\tp.py",
    "\x00bob@y\x002025-01-02\x00h2\x00second", "3\t0\tp.py", "1\t1\tq.py",
    "\x00a@x\x002025-01-03\x00h3\x00third", "7\t0\tp.py"]

def bobAliases : Aliases :=
  (Aliases.empty.set "b@x" "Bob").set "bob@y" "Bob"

theorem exists_merged_of_read_threeIdentityLines :
    ∃ (raw merged : History) (apart together : AuthorChart) (told : String → Totals)
        (totals : Totals),
      Log.read Log.sampleDates .empty threeIdentityLines = .ok raw ∧
      Log.read Log.sampleDates bobAliases threeIdentityLines = .ok merged ∧
      AuthorChart.ofHistory plainSelection raw = .ok apart ∧
      AuthorChart.ofHistory plainSelection merged = .ok together ∧
      (∀ identity ∈ raw.authors.keys, apart.Says plainSelection raw identity (told identity)) ∧
      together.Says plainSelection merged "Bob" totals ∧
      totals.value .commits = ((identitiesOf bobAliases raw "Bob").map fun identity =>
        (told identity).value .commits).sum ∧
      totals.files = (⋃ identity ∈ identitiesOf bobAliases raw "Bob",
        touched plainSelection raw identity).ncard := by
  have hplain (aliases : Aliases) (ha : aliases = .empty ∨ aliases = bobAliases) :
      (Log.read Log.sampleDates aliases threeIdentityLines).toOption.any fun history =>
        history.authors.handles.all (AuthorChart.isPlain plainSelection history) := by
    rcases ha with rfl | rfl <;> decide +kernel
  have hkeys : (Log.read Log.sampleDates .empty threeIdentityLines).toOption.any
      fun history => "b@x" ∈ history.authors.keys := by
    decide +kernel
  obtain ⟨history, h, -⟩ := exists_ok_of_any hkeys
  obtain ⟨raw, merged, hraw, hmerged, -, haxis, hmerge⟩ := exists_merged_of_read h bobAliases
  have hplainRaw := hplain .empty (.inl rfl)
  have hplainMerged := hplain bobAliases (.inr rfl)
  rw [hraw] at hplainRaw hkeys
  rw [hmerged] at hplainMerged
  obtain ⟨apart, hapart⟩ := AuthorChart.exists_ofHistory_of_isPlain hplainRaw
  obtain ⟨together, htogether⟩ := AuthorChart.exists_ofHistory_of_isPlain hplainMerged
  obtain ⟨told, htold, hall⟩ :=
    hmerge plainSelection 0 apart together rfl le_rfl hapart htogether
  obtain ⟨totals, hsaid, hsums, hfiles⟩ :=
    hall "Bob" ((haxis "Bob").mpr ⟨"b@x", of_decide_eq_true hkeys, by decide⟩)
  exact ⟨raw, merged, apart, together, told, totals, hraw, hmerged, hapart, htogether,
    fun identity hi => (htold identity hi).1, hsaid, hsums .commits (by decide), hfiles⟩

end Authorship.Activity
