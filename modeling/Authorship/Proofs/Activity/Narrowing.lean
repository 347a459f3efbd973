import Authorship.Proofs.Activity.Completion

namespace Authorship.Activity

open Authorship.Calendar Authorship.Number

/-- What is asked about commits, with the files that count given. -/
structure Inquiry where
  valid : Handle File → Bool
  days : Binary64
  skip : Int
  now : Timestamp

namespace Inquiry

/-- Whether a commit counts: it has changed a file that counts, within the window. -/
def judge (inquiry : Inquiry) (commit : Commit) : Except Fault Bool :=
  match commit.timestamp with
  | none => .ok false
  | some timestamp =>
    if commit.changes.any (inquiry.valid ·.file) then within timestamp inquiry.days inquiry.now
    else .ok false

/-- The commits that count, the oldest of them passed over. -/
def qualifying (inquiry : Inquiry) (commits : List Commit) : Except Fault (List Commit) :=
  chooseCommits inquiry.judge inquiry.skip commits

structure Narrower (narrow wide : Inquiry) : Prop where
  valid : ∀ file, narrow.valid file = true → wide.valid file = true
  days : narrow.days.le wide.days = true
  skip : wide.skip ≤ narrow.skip
  now : narrow.now = wide.now

variable {inquiry narrow wide : Inquiry}

theorem judge_iff {commit : Commit} {counts : Bool} (h : inquiry.judge commit = .ok counts) :
    counts = true ↔ (∃ change ∈ commit.changes, inquiry.valid change.file = true) ∧
      ∃ timestamp window, commit.timestamp = some timestamp ∧
        Window.ofDays? inquiry.days = .ok window ∧
        window.Contains (inquiry.now.instant - timestamp.instant) := by
  rw [← List.any_eq_true]
  unfold judge at h
  cases ht : commit.timestamp with
  | none =>
    rw [ht] at h
    cases h
    simp
  | some timestamp =>
    rw [ht] at h
    dsimp only at h
    split at h
    · rename_i hany
      obtain ⟨window, hw, hh⟩ := exists_of_bind_ok h
      rw [contains_of_holds hh]
      simp [hany, hw]
    · rename_i hany
      cases h
      simp [hany]

/-- Where timestamps can be calculated with and days are a number, every commit can be judged. -/
theorem exists_judge {commit : Commit} (hd : inquiry.days ≠ .nan)
    (hn : inquiry.now.isUsable = true)
    (hu : ∀ timestamp, commit.timestamp = some timestamp → timestamp.isUsable = true) :
    ∃ counts, inquiry.judge commit = .ok counts := by
  unfold judge
  cases ht : commit.timestamp with
  | none => exact ⟨false, rfl⟩
  | some timestamp =>
    dsimp only
    split
    · obtain ⟨window, hw⟩ := Window.exists_ofDays? hd
      rw [within, hw]
      cases window with
      | bounded microseconds => exact (Window.exists_holds_iff hn).mpr (hu timestamp ht)
      | immeasurable isPositive => exact ⟨isPositive, rfl⟩
    · exact ⟨false, rfl⟩

theorem exists_qualifying {commits : List Commit} (hd : inquiry.days ≠ .nan)
    (hn : inquiry.now.isUsable = true)
    (hu : ∀ commit ∈ commits, ∀ timestamp, commit.timestamp = some timestamp →
      timestamp.isUsable = true) : ∃ rest, inquiry.qualifying commits = .ok rest := by
  refine ⟨_, chooseCommits_eq_ok_iff.mpr ⟨?_, .inl ?_, rfl⟩⟩
  · intro commit hm
    exact exists_judge hd hn (hu commit hm)
  · intro timestamp hm
    obtain ⟨commit, hc, ht⟩ := List.mem_filterMap.mp hm
    exact hu commit (List.mem_of_mem_filter hc) timestamp ht

theorem takes_later {a b : Commit} {counts : Bool} (hv : narrow.valid = wide.valid)
    (hb : wide.judge b = .ok true) (hle : commitInstant a ≤ commitInstant b)
    (hfa : narrow.judge a = .ok true) (hfb : narrow.judge b = .ok counts) : counts = true := by
  obtain ⟨hany, late, -, htb, -⟩ := (judge_iff hb).mp rfl
  obtain ⟨-, early, window, hta, hw, hin⟩ := (judge_iff hfa).mp rfl
  rw [← hv] at hany
  refine (judge_iff hfb).mpr ⟨hany, late, window, htb, hw, hin.of_le ?_⟩
  rw [commitInstant, commitInstant, hta, htb, Option.map_some, Option.map_some, Option.getD_some,
    Option.getD_some] at hle
  omega

namespace Narrower

theorem takes {commit : Commit} {few many : Bool} (h : narrow.Narrower wide)
    (hf : narrow.judge commit = .ok few) (hm : wide.judge commit = .ok many)
    (ht : few = true) : many = true := by
  obtain ⟨⟨change, hc, hv⟩, timestamp, window, hts, hw, hin⟩ := (judge_iff hf).mp ht
  obtain ⟨wider, hw'⟩ := Window.exists_ofDays? (Binary64.ne_nan_of_le h.days).2
  refine (judge_iff hm).mpr ⟨⟨change, hc, h.valid _ hv⟩, timestamp, wider, hts, hw', ?_⟩
  rw [← h.now]
  exact hin.mono h.days hw hw'

variable {commits few many : List Commit}

theorem sublist (h : narrow.Narrower wide) (hf : narrow.qualifying commits = .ok few)
    (hm : wide.qualifying commits = .ok many) : few.Sublist many := by
  obtain ⟨hfew, -, rfl⟩ := chooseCommits_eq_ok_iff.mp hf
  obtain ⟨hmany, -, rfl⟩ := chooseCommits_eq_ok_iff.mp hm
  refine chosen_sublist ?_ h.skip
  intro commit hc ht
  obtain ⟨counts, hj⟩ := hmany commit hc
  rw [taken_of_eq_ok hj]
  exact h.takes (taken_iff.mp ht) hj rfl

theorem suffix (h : narrow.Narrower wide) (hv : narrow.valid = wide.valid)
    (hs : narrow.skip = wide.skip) (hf : narrow.qualifying commits = .ok few)
    (hm : wide.qualifying commits = .ok many) : few <:+ many := by
  obtain ⟨hfew, -, rfl⟩ := chooseCommits_eq_ok_iff.mp hf
  obtain ⟨hmany, -, rfl⟩ := chooseCommits_eq_ok_iff.mp hm
  rw [hs]
  apply chosen_suffix
  · intro commit hc ht
    obtain ⟨counts, hj⟩ := hmany commit hc
    rw [taken_of_eq_ok hj]
    exact h.takes (taken_iff.mp ht) hj rfl
  · -- What is later is younger, so that the shorter window holds it too.
    intro a ha b hb htb hle hta
    obtain ⟨counts, hj⟩ := hfew b hb
    rw [taken_of_eq_ok hj]
    exact takes_later hv (taken_iff.mp htb) hle (taken_iff.mp hta) hj

end Narrower

end Inquiry

/-- What a selection asks about the commits of a history, when it says days and commits to pass
over. -/
def Selection.inquiry? (selection : Selection) (history : History) : Option Inquiry :=
  match selection.days, selection.skip with
  | some days, some skip =>
    some ⟨fun file => (history.files.get? file).any selection.admits, days, skip, selection.now⟩
  | _, _ => none

namespace Selection

variable {selection : Selection} {history : History} {inquiry : Inquiry}

theorem inquiry?_eq_some_iff :
    selection.inquiry? history = some inquiry ↔
      selection.days = some inquiry.days ∧ selection.skip = some inquiry.skip ∧
      selection.now = inquiry.now ∧
      (fun file => (history.files.get? file).any selection.admits) = inquiry.valid := by
  obtain ⟨valid, days, skip, now⟩ := inquiry
  rw [inquiry?]
  cases selection.days <;> cases selection.skip <;> simp
  tauto

theorem qualifying_of_inquiry? (commits : List Commit)
    (h : selection.inquiry? history = some inquiry) :
    selection.qualifying history commits = inquiry.qualifying commits := by
  obtain ⟨hd, hs, hn, hv⟩ := inquiry?_eq_some_iff.mp h
  rw [qualifying_eq_chooseCommits history commits hs, Inquiry.qualifying]
  congr 1
  funext commit
  rw [qualifies, Inquiry.judge, ← hv, ← hn]
  simp only [windowHolds, hd]
  rfl

theorem admits_of_subset {few many : Selection} (hi : few.included = many.included)
    (he : many.excluded ⊆ few.excluded) {file : File} (h : few.admits file = true) :
    many.admits file = true := by
  rw [admits_iff] at h ⊢
  obtain ⟨hmove, hall | hall⟩ := h
  · exact ⟨hmove, .inl fun part hp => hall part (he hp)⟩
  · exact ⟨hmove, .inr (hi ▸ hall)⟩

end Selection

/-- No commit counts less than no line. -/
def LosesNothing (history : History) : Prop :=
  ∀ commit ∈ history.commits.items, ∀ change ∈ commit.changes,
    0 ≤ change.adds ∧ 0 ≤ change.deletes

/-- Every value of a statistic is at most what another chart has in its place. -/
def AuthorChart.Below (few many : AuthorChart) (stat : Stat) : Prop :=
  List.Forall₂ (fun a b => a.le b = true) (few.series stat).values (many.series stat).values

section Totals

variable {strict loose : Selection} {history : History}

theorem card_files_mono {few many : List Change} (h : few.Sublist many) :
    (few.map Change.file).eraseDups.length ≤ (many.map Change.file).eraseDups.length := by
  rw [length_eraseDups, length_eraseDups]
  apply Finset.card_le_card
  intro file hf
  exact List.mem_toFinset.mpr ((h.map Change.file).subset (List.mem_toFinset.mp hf))

theorem sum_mono {few many : List Change} {lines : Change → Int} (h : few.Sublist many)
    (hl : ∀ change ∈ many, 0 ≤ lines change) : (few.map lines).sum ≤ (many.map lines).sum := by
  apply (h.map lines).sum_le_sum
  intro n hn
  obtain ⟨change, hc, rfl⟩ := List.mem_map.mp hn
  exact hl change hc

/-- Totals grow with the commits and with the files that count; those of lines do so unless lines
are lost. -/
theorem value_ofCommits_mono {few many : List Commit} {stat : Stat} (hs : few.Sublist many)
    (ha : ∀ change, strict.admitsChange history change = true →
      loose.admitsChange history change = true)
    (hl : stat = .commits ∨ stat = .filesChanged ∨ ∀ commit ∈ many, ∀ change ∈ commit.changes,
      0 ≤ change.adds ∧ 0 ≤ change.deletes) :
    (Totals.ofCommits strict history few).value stat ≤
      (Totals.ofCommits loose history many).value stat := by
  have hchanges : (few.flatMap fun commit =>
      commit.changes.filter (strict.admitsChange history)).Sublist
        (many.flatMap fun commit => commit.changes.filter (loose.admitsChange history)) :=
    (hs.flatMap _).trans
      (List.Sublist.flatMap_right many fun commit _ => List.monotone_filter_right _ ha)
  rcases hl with rfl | rfl | hl
  · exact Int.ofNat_le.mpr hs.length_le
  · exact Int.ofNat_le.mpr (card_files_mono hchanges)
  · have hlines : ∀ change ∈ many.flatMap fun commit =>
        commit.changes.filter (loose.admitsChange history),
          0 ≤ change.adds ∧ 0 ≤ change.deletes := by
      intro change hc
      obtain ⟨commit, hm, hc⟩ := List.mem_flatMap.mp hc
      exact hl commit hm change (List.mem_of_mem_filter hc)
    have hadds := sum_mono hchanges fun change hc => (hlines change hc).1
    have hdeletes := sum_mono hchanges fun change hc => (hlines change hc).2
    cases stat with
    | filesChanged => exact Int.ofNat_le.mpr (card_files_mono hchanges)
    | commits => exact Int.ofNat_le.mpr hs.length_le
    | linesChanged => exact add_le_add hadds hdeletes
    | linesAdded => exact hadds
    | linesDeleted => exact hdeletes

variable {narrow wide : Inquiry}

theorem admitsChange_of_narrower (h : narrow.Narrower wide)
    (hn : strict.inquiry? history = some narrow) (hw : loose.inquiry? history = some wide)
    {change : Change} (hc : strict.admitsChange history change = true) :
    loose.admitsChange history change = true := by
  obtain ⟨-, -, -, hv⟩ := Selection.inquiry?_eq_some_iff.mp hn
  obtain ⟨-, -, -, hv'⟩ := Selection.inquiry?_eq_some_iff.mp hw
  have hwide := h.valid change.file
  rw [← hv, ← hv'] at hwide
  exact hwide hc

theorem value_totalsOf_mono (h : narrow.Narrower wide)
    (hn : strict.inquiry? history = some narrow) (hw : loose.inquiry? history = some wide)
    {handle : Handle Author} {few many : Totals} {stat : Stat}
    (hf : totalsOf strict history handle = .ok few) (hm : totalsOf loose history handle = .ok many)
    (hl : stat = .commits ∨ stat = .filesChanged ∨ LosesNothing history) :
    few.value stat ≤ many.value stat := by
  obtain ⟨left, hleft, rfl⟩ := exists_of_totalsOf hf
  obtain ⟨right, hright, rfl⟩ := exists_of_totalsOf hm
  rw [Selection.qualifying_of_inquiry? _ hn] at hleft
  rw [Selection.qualifying_of_inquiry? _ hw] at hright
  apply value_ofCommits_mono (h.sublist hleft hright) fun _ => admitsChange_of_narrower h hn hw
  refine hl.imp_right (Or.imp_right fun hl commit hc => hl commit ?_)
  obtain ⟨-, -, rfl⟩ := chooseCommits_eq_ok_iff.mp hright
  have hown : commit ∈ commitsOf history handle := List.mem_of_mem_filter (mem_of_mem_chosen hc)
  exact List.mem_of_mem_filter hown

theorem below_of_narrower (h : narrow.Narrower wide)
    (hn : strict.inquiry? history = some narrow) (hw : loose.inquiry? history = some wide)
    {few many : AuthorChart} {stat : Stat} (hf : AuthorChart.ofHistory strict history = .ok few)
    (hm : AuthorChart.ofHistory loose history = .ok many)
    (hl : stat = .commits ∨ stat = .filesChanged ∨ LosesNothing history) :
    few.Below many stat := by
  obtain ⟨hfew, hauthors⟩ := AuthorChart.filled_of_crunch (.inr rfl) hf
  obtain ⟨hmany, hauthors'⟩ := AuthorChart.filled_of_crunch (.inr rfl) hm
  -- The charts have the same places, and each value is a rounded total.
  apply List.forall₂_iff_get.mpr
  have hlength := hfew.isOpen.length_values stat
  have hlength' := hmany.isOpen.length_values stat
  rw [hauthors] at hlength
  rw [hauthors'] at hlength'
  refine ⟨hlength.trans hlength'.symm, fun place hlt hlt' => ?_⟩
  rw [hlength] at hlt
  obtain ⟨⟨handle, author⟩, hat⟩ : ∃ pair, (AuthorChart.ofAuthors history).authors[place]? =
      some pair := ⟨_, List.getElem?_eq_getElem hlt⟩
  obtain ⟨totals, ht, hvalue⟩ := hfew.values place handle author hlt (by rw [hauthors, hat])
  obtain ⟨totals', ht', hvalue'⟩ := hmany.values place handle author hlt (by rw [hauthors', hat])
  obtain ⟨value, hv, hplace⟩ := hvalue stat
  obtain ⟨value', hv', hplace'⟩ := hvalue' stat
  have hget := (List.getElem?_eq_some_iff.mp hplace).2
  have hget' := (List.getElem?_eq_some_iff.mp hplace').2
  rw [List.get_eq_getElem, List.get_eq_getElem]
  dsimp only
  rw [hget, hget']
  exact Binary64.le_of_ofInt? (value_totalsOf_mono h hn hw ht ht' hl)
    (AuthorChart.ofInt?_of_rounded hv) (AuthorChart.ofInt?_of_rounded hv')

end Totals

/-- Narrower settings take no other commits, in no other order, and show no more. -/
theorem shows_no_more {narrow wide : Inquiry} (h : narrow.Narrower wide) :
    (∀ commits : List Commit,
      (narrow.now.isUsable = true →
        (∀ commit ∈ commits, ∀ timestamp, commit.timestamp = some timestamp →
          timestamp.isUsable = true) →
        ∃ few many, narrow.qualifying commits = .ok few ∧ wide.qualifying commits = .ok many) ∧
      ∀ few many, narrow.qualifying commits = .ok few → wide.qualifying commits = .ok many →
        few.Sublist many ∧
        (narrow.valid = wide.valid → narrow.skip = wide.skip → few <:+ many)) ∧
    ∀ (history : History) (strict loose : Selection),
      (strict.included = loose.included → loose.excluded ⊆ strict.excluded →
        ∀ file, strict.admits file = true → loose.admits file = true) ∧
      (strict.inquiry? history = some narrow → loose.inquiry? history = some wide →
        (∀ commits, strict.qualifying history commits = narrow.qualifying commits ∧
          loose.qualifying history commits = wide.qualifying commits) ∧
        ∀ few many, AuthorChart.ofHistory strict history = .ok few →
          AuthorChart.ofHistory loose history = .ok many →
          few.authors = many.authors ∧
          ∀ stat, stat = .commits ∨ stat = .filesChanged ∨ LosesNothing history →
            few.Below many stat) := by
  refine ⟨fun commits => ⟨fun hn hu => ?_, fun few many hf hm => ?_⟩,
    fun history strict loose => ⟨fun hi he _ => Selection.admits_of_subset hi he,
      fun hn hw => ⟨fun commits => ?_, fun few many hf hm => ?_⟩⟩⟩
  · obtain ⟨hfew, hmany⟩ := Binary64.ne_nan_of_le h.days
    obtain ⟨few, hf⟩ := Inquiry.exists_qualifying hfew hn hu
    obtain ⟨many, hm⟩ := Inquiry.exists_qualifying hmany (h.now ▸ hn) hu
    exact ⟨few, many, hf, hm⟩
  · exact ⟨h.sublist hf hm, fun hv hs => h.suffix hv hs hf hm⟩
  · exact ⟨Selection.qualifying_of_inquiry? commits hn, Selection.qualifying_of_inquiry? commits hw⟩
  · obtain ⟨-, hauthors⟩ := AuthorChart.filled_of_crunch (.inr rfl) hf
    obtain ⟨-, hauthors'⟩ := AuthorChart.filled_of_crunch (.inr rfl) hm
    exact ⟨hauthors.trans hauthors'.symm, fun stat => below_of_narrower h hn hw hf hm⟩

/-- Everything counts, and no commit is passed over. -/
def looseSelection : Selection :=
  { AuthorChart.smallSelection with excluded := [], days := some (.infinite false), skip := some (-1) }

theorem shows_no_more_smallHistory :
    ∃ narrow wide few many,
      AuthorChart.smallSelection.inquiry? AuthorChart.smallHistory = some narrow ∧
      looseSelection.inquiry? AuthorChart.smallHistory = some wide ∧ narrow.Narrower wide ∧
      AuthorChart.ofHistory AuthorChart.smallSelection AuthorChart.smallHistory = .ok few ∧
      AuthorChart.ofHistory looseSelection AuthorChart.smallHistory = .ok many ∧
      few.authors = many.authors ∧ few.Below many .commits := by
  obtain ⟨few, hf⟩ : ∃ few,
      AuthorChart.ofHistory AuthorChart.smallSelection AuthorChart.smallHistory = .ok few :=
    AuthorChart.exists_ofHistory_of_isPlain (by decide +kernel)
  obtain ⟨many, hm⟩ : ∃ many,
      AuthorChart.ofHistory looseSelection AuthorChart.smallHistory = .ok many :=
    AuthorChart.exists_ofHistory_of_isPlain (by decide +kernel)
  have hnarrower : (Inquiry.mk (fun file => (AuthorChart.smallHistory.files.get? file).any
      AuthorChart.smallSelection.admits) (.finite 30) 1 AuthorChart.smallSelection.now).Narrower
        ⟨fun file => (AuthorChart.smallHistory.files.get? file).any looseSelection.admits,
          .infinite false, -1, AuthorChart.smallSelection.now⟩ := by
    refine ⟨fun file hv => ?_, rfl, by decide, rfl⟩
    obtain ⟨known, hg, ha⟩ := (Option.any_eq_true _ _).mp hv
    have hmore : looseSelection.admits known = true :=
      Selection.admits_of_subset (by rfl) (by exact List.nil_subset _) ha
    exact (Option.any_eq_true _ _).mpr ⟨known, hg, hmore⟩
  obtain ⟨-, hcharts⟩ := shows_no_more hnarrower
  obtain ⟨hauthors, hbelow⟩ := ((hcharts _ _ _).2 rfl rfl).2 few many hf hm
  exact ⟨_, _, few, many, rfl, rfl, hnarrower, hf, hm, hauthors, hbelow .commits (.inl rfl)⟩

end Authorship.Activity
