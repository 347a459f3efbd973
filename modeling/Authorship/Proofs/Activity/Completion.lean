import Authorship.Proofs.Activity.AuthorChart
import Authorship.Proofs.Activity.Choosing
import Authorship.Proofs.Activity.Window

namespace Authorship.Activity

open Authorship.Calendar Authorship.Number

/-- The times at which an author changed a file that counts. -/
def candidates (selection : Selection) (history : History) (handle : Handle Author) :
    List Timestamp :=
  ((commitsOf history handle).filter
    (·.changes.any (selection.admitsChange history))).filterMap Commit.timestamp

/-- Whether timestamps can be held against a window. Their age is measured for a bounded one; the
one that holds all of them leaves them to be put in order, and the one that holds none looks at
none. -/
def Window.Accepts : Window → List Timestamp → Prop
  | .bounded _, timestamps => ∀ timestamp ∈ timestamps, timestamp.isUsable = true
  | .immeasurable true, timestamps => Comparable timestamps
  | .immeasurable false, _ => True

theorem Window.accepts_of_usable {window : Window} {timestamps : List Timestamp}
    (h : ∀ timestamp ∈ timestamps, timestamp.isUsable = true) : window.Accepts timestamps := by
  cases window with
  | bounded microseconds => exact h
  | immeasurable isPositive =>
    cases isPositive with
    | true => exact .inl h
    | false => trivial

theorem Window.exists_holds_iff {microseconds : Int} {timestamp now : Timestamp}
    (hn : now.isUsable = true) :
    (∃ inside, (Window.bounded microseconds).holds timestamp now = .ok inside) ↔
      timestamp.isUsable = true := by
  rw [Window.holds, hn, Bool.and_true]
  split <;> rename_i h <;> simp [h]

variable {selection : Selection} {history : History} {handle : Handle Author} {days : Binary64}
  {window : Window} {skip : Int}

theorem mem_candidates {timestamp : Timestamp} :
    timestamp ∈ candidates selection history handle ↔
      ∃ commit ∈ commitsOf history handle,
        commit.changes.any (selection.admitsChange history) = true ∧
          commit.timestamp = some timestamp := by
  rw [candidates, List.mem_filterMap]
  simp only [List.mem_filter, and_assoc]

theorem qualifies_eq (hd : selection.days = some days) (hw : Window.ofDays? days = .ok window)
    (commit : Commit) :
    selection.qualifies history commit =
      match commit.timestamp with
      | none => .ok false
      | some timestamp =>
        if commit.changes.any (selection.admitsChange history) then
          window.holds timestamp selection.now
        else .ok false := by
  rw [Selection.qualifies]
  simp only [Selection.windowHolds, hd, within, hw]
  rfl

theorem subset_candidates (hd : selection.days = some days)
    (hw : Window.ofDays? days = .ok window) :
    ((commitsOf history handle).filter (taken (selection.qualifies history))).filterMap
      Commit.timestamp ⊆ candidates selection history handle := by
  intro timestamp hm
  obtain ⟨commit, hc, ht⟩ := List.mem_filterMap.mp hm
  obtain ⟨hc, htaken⟩ := List.mem_filter.mp hc
  refine mem_candidates.mpr ⟨commit, hc, ?_, ht⟩
  rw [taken_iff, qualifies_eq hd hw, ht] at htaken
  dsimp only at htaken
  split at htaken
  · assumption
  · cases htaken

/-- All commits of an author can be judged just when a bounded window can measure them. -/
theorem exists_qualifies_iff (hd : selection.days = some days)
    (hw : Window.ofDays? days = .ok window) (hn : selection.now.isUsable = true) :
    (∀ commit ∈ commitsOf history handle,
        ∃ counts, selection.qualifies history commit = .ok counts) ↔
      ∀ microseconds, window = .bounded microseconds →
        ∀ timestamp ∈ candidates selection history handle, timestamp.isUsable = true := by
  constructor
  · rintro h microseconds rfl timestamp hm
    obtain ⟨commit, hc, hany, ht⟩ := mem_candidates.mp hm
    obtain ⟨counts, hq⟩ := h commit hc
    rw [qualifies_eq hd hw, ht] at hq
    simp only [hany, if_true] at hq
    exact (Window.exists_holds_iff hn).mp ⟨counts, hq⟩
  · intro h commit hc
    rw [qualifies_eq hd hw]
    cases ht : commit.timestamp with
    | none => exact ⟨false, rfl⟩
    | some timestamp =>
      dsimp only
      split
      · rename_i hany
        cases window with
        | bounded microseconds =>
          exact (Window.exists_holds_iff hn).mpr
            (h microseconds rfl timestamp (mem_candidates.mpr ⟨commit, hc, hany, ht⟩))
        | immeasurable isPositive => exact ⟨isPositive, rfl⟩
      · exact ⟨false, rfl⟩

/-- The totals of an author can be told just when the window accepts the times of the author. -/
theorem exists_totalsOf_iff (hd : selection.days = some days) (hs : selection.skip = some skip)
    (hw : Window.ofDays? days = .ok window) (hn : selection.now.isUsable = true) :
    (∃ totals, totalsOf selection history handle = .ok totals) ↔
      window.Accepts (candidates selection history handle) := by
  have hsub : ((commitsOf history handle).filter
      (taken (selection.qualifies history))).filterMap Commit.timestamp ⊆
        candidates selection history handle := subset_candidates hd hw
  have hchoice : (∃ totals, totalsOf selection history handle = .ok totals) ↔
      (∀ commit ∈ commitsOf history handle,
        ∃ counts, selection.qualifies history commit = .ok counts) ∧
      Comparable (((commitsOf history handle).filter
        (taken (selection.qualifies history))).filterMap Commit.timestamp) := by
    simp only [totalsOf_eq_ok_iff hs, exists_and_left, exists_eq, and_true]
  rw [hchoice, exists_qualifies_iff hd hw hn]
  -- A bounded window asks for more than the order does; the other two ask for nothing.
  cases window with
  | bounded microseconds =>
    constructor
    · rintro ⟨hall, -⟩
      exact hall microseconds rfl
    · intro h
      exact ⟨fun _ _ => h, .inl fun timestamp hm => h timestamp (hsub hm)⟩
  | immeasurable isPositive =>
    have hall : ∀ microseconds, Window.immeasurable isPositive = .bounded microseconds →
        ∀ timestamp ∈ candidates selection history handle, timestamp.isUsable = true := by
      intro microseconds h
      cases h
    cases isPositive with
    | true =>
      refine (and_iff_right hall).trans ⟨fun h => h.of_subset ?_, fun h => h.of_subset hsub⟩
      intro timestamp hm
      obtain ⟨commit, hc, hany, ht⟩ := mem_candidates.mp hm
      refine List.mem_filterMap.mpr ⟨commit, List.mem_filter.mpr ⟨hc, ?_⟩, ht⟩
      rw [taken_iff, qualifies_eq hd hw, ht]
      simp only [hany, if_true]
      rfl
    | false =>
      refine ⟨fun _ => trivial, fun _ => ⟨hall, .inl fun timestamp hm => ?_⟩⟩
      obtain ⟨commit, hc, ht⟩ := List.mem_filterMap.mp hm
      have htaken := taken_iff.mp (List.mem_filter.mp hc).2
      rw [qualifies_eq hd hw, ht] at htaken
      dsimp only at htaken
      split at htaken <;> cases htaken

namespace AuthorChart

theorem exists_rounded_iff {total : Int} :
    (∃ value, rounded total = .ok value) ↔ total.natAbs < Binary64.limit := by
  rw [← Binary64.exists_ofInt?_iff, rounded]
  cases Binary64.ofInt? total <;> simp

theorem exists_ofHistory_iff_canTell :
    (∃ chart, ofHistory selection history = .ok chart) ↔
      ∀ pair ∈ history.authorsByName, CanTell selection history pair.1 := by
  constructor
  · rintro ⟨chart, hc⟩ ⟨handle, author⟩ hm
    obtain ⟨hfilled, hauthors⟩ := filled_of_crunch (.inr rfl) hc
    obtain ⟨place, hat⟩ := List.mem_iff_getElem?.mp hm
    have hlt : place < history.authorsByName.length := (List.getElem?_eq_some_iff.mp hat).1
    obtain ⟨totals, ht, hvalue⟩ := hfilled.values place handle author hlt (by rw [hauthors]; exact hat)
    refine ⟨totals, ht, fun stat => ?_⟩
    obtain ⟨value, hv, -⟩ := hvalue stat
    exact ⟨value, hv⟩
  · intro h
    have hall : ∀ pair ∈ (ofAuthors history).authors, CanTell selection history pair.1 := h
    obtain ⟨chart, hc, -⟩ := exists_crunch hall
    exact ⟨chart, hc⟩

/-- Whether the commits of an author all count, stand in the order of time, and have small totals. -/
def isPlain (selection : Selection) (history : History) (handle : Handle Author) : Bool :=
  match selection.pick history (commitsOf history handle), selection.skip with
  | .ok commits, some skip =>
    isSortable commits && commits.Pairwise (fun a b => commitInstant a ≤ commitInstant b) &&
      Stat.all.all fun stat =>
        ((Totals.ofCommits selection history (commits.drop skip.toNat)).value stat).natAbs ≤ 2 ^ 53
  | _, _ => false

theorem canTell_of_isPlain (h : isPlain selection history handle = true) :
    CanTell selection history handle := by
  unfold isPlain at h
  split at h
  · rename_i commits skip hp hs
    simp only [Bool.and_eq_true, decide_eq_true_eq, List.all_eq_true] at h
    obtain ⟨⟨hz, horder⟩, hsmall⟩ := h
    refine ⟨_, totalsOf_of_pairwise hp hs hz horder, fun stat => exists_rounded ?_⟩
    exact hsmall stat (by cases stat <;> decide)
  · cases h

theorem exists_ofHistory_of_isPlain
    (h : history.authors.handles.all (isPlain selection history) = true) :
    ∃ chart, ofHistory selection history = .ok chart := by
  rw [exists_ofHistory_iff_canTell]
  rintro ⟨handle, author⟩ hm
  apply canTell_of_isPlain
  apply List.all_eq_true.mp h
  have hlt := (List.getElem?_eq_some_iff.mp (History.mem_authorsByName.mp hm)).1
  exact List.mem_of_getElem? (History.getElem?_handles.mpr ⟨hlt, rfl⟩)

end AuthorChart

/-- The faults that the settings of a chart cannot rule out. -/
def Fault.IsOfLog (fault : Fault) : Prop :=
  fault = .unusableOffset ∨ fault = .tooLarge

section Faults

variable {ε α β : Type} {Allowed : ε → Prop}

theorem allowed_of_bind {x : Except ε α} {f : α → Except ε β} {e : ε} (h : x >>= f = .error e)
    (hx : x = .error e → Allowed e) (hf : ∀ a, f a = .error e → Allowed e) : Allowed e := by
  cases x with
  | error other =>
    cases h
    exact hx rfl
  | ok a => exact hf a h

theorem allowed_of_foldlM {f : β → α → Except ε β} {list : List α} {b : β} {e : ε}
    (h : list.foldlM f b = .error e) (hf : ∀ b a, f b a = .error e → Allowed e) : Allowed e := by
  induction list generalizing b with
  | nil => cases h
  | cons a list ih =>
    rw [List.foldlM_cons] at h
    exact allowed_of_bind h (hf b a) fun next hn => ih hn

end Faults

theorem isOfLog_of_pick (hd : selection.days = some days) (hw : Window.ofDays? days = .ok window)
    {commits : List Commit} {fault : Fault} (h : selection.pick history commits = .error fault) :
    fault.IsOfLog := by
  induction commits with
  | nil => cases h
  | cons commit rest ih =>
    refine allowed_of_bind h (fun hq => ?_) fun counts hp => allowed_of_bind hp ih fun _ he => ?_
    · rw [qualifies_eq hd hw] at hq
      split at hq
      · cases hq
      · split at hq
        · unfold Window.holds at hq
          split at hq
          · cases hq
          · split at hq <;> cases hq
            exact .inl rfl
        · cases hq
    · cases he

theorem isOfLog_of_totalsOf (hd : selection.days = some days) (hs : selection.skip = some skip)
    (hw : Window.ofDays? days = .ok window) {fault : Fault}
    (h : totalsOf selection history handle = .error fault) : fault.IsOfLog := by
  rw [totalsOf] at h
  cases hq : selection.qualifying history (commitsOf history handle) with
  | ok rest =>
    rw [hq] at h
    cases h
  | error other =>
    rw [hq] at h
    cases h
    refine allowed_of_bind hq (isOfLog_of_pick hd hw) fun picked hp => allowed_of_bind hp ?_ ?_
    · intro hsort
      unfold sortCommits at hsort
      split at hsort <;> cases hsort
      exact .inl rfl
    · intro sorted he
      rw [hs] at he
      cases he

theorem isOfLog_of_ofHistory (hd : selection.days = some days) (hs : selection.skip = some skip)
    (hw : Window.ofDays? days = .ok window) {fault : Fault}
    (h : AuthorChart.ofHistory selection history = .error fault) : fault.IsOfLog := by
  refine allowed_of_foldlM h fun chart pair hc => ?_
  refine allowed_of_bind hc (isOfLog_of_totalsOf hd hs hw) fun totals hf => ?_
  refine allowed_of_foldlM hf fun chart stat hv => ?_
  refine allowed_of_bind hv (fun hr => ?_) fun value he => by cases he
  unfold rounded at hr
  split at hr <;> cases hr
  exact .inr rfl

/-- A chart of a log that was read is completed just when the window accepts the times of all
authors and no total is too large; it accepts them when all offsets are shorter than a day. -/
theorem exists_ofHistory_iff_of_read {dates : DateReader} {aliases : Aliases} {lines : List String}
    (h : Log.read dates aliases lines = .ok history) (hd : selection.days = some days)
    (hnan : days ≠ .nan) (hs : selection.skip = some skip)
    (hn : selection.now.isUsable = true) :
    ∃ window records, Window.ofDays? days = .ok window ∧
      List.Forall₂ (Log.Says dates) (Log.recordLines lines) records ∧
      ((∃ chart, AuthorChart.ofHistory selection history = .ok chart) ↔
        ∀ pair ∈ history.authorsByName, window.Accepts (candidates selection history pair.1) ∧
          ∀ totals, totalsOf selection history pair.1 = .ok totals →
            ∀ stat, (totals.value stat).natAbs < Binary64.limit) ∧
      ((∀ summary ∈ Log.summaries records, summary.timestamp.isUsable = true) →
        ∀ pair ∈ history.authorsByName, window.Accepts (candidates selection history pair.1)) ∧
      ∀ fault, AuthorChart.ofHistory selection history = .error fault → fault.IsOfLog := by
  obtain ⟨window, hw⟩ := Window.exists_ofDays? hnan
  obtain ⟨records, hlines, hm⟩ := Log.meaning_of_read h
  refine ⟨window, records, hw, hlines, ?_, fun husable pair _ => ?_,
    fun fault => isOfLog_of_ofHistory hd hs hw⟩
  · rw [AuthorChart.exists_ofHistory_iff_canTell]
    refine forall₂_congr fun pair _ => ?_
    rw [← exists_totalsOf_iff hd hs hw hn]
    constructor
    · rintro ⟨totals, ht, hv⟩
      refine ⟨⟨totals, ht⟩, fun other ho stat => ?_⟩
      rw [ht] at ho
      cases ho
      exact AuthorChart.exists_rounded_iff.mp (hv stat)
    · rintro ⟨⟨totals, ht⟩, hsmall⟩
      exact ⟨totals, ht, fun stat => AuthorChart.exists_rounded_iff.mpr (hsmall totals ht stat)⟩
  · apply Window.accepts_of_usable
    intro timestamp ht
    obtain ⟨commit, hc, -, htime⟩ := mem_candidates.mp ht
    obtain ⟨before, summary, after, rfl, -, -, -, hsaid, -⟩ :=
      hm.latest commit (List.mem_of_mem_filter hc)
    rw [htime] at hsaid
    cases hsaid
    apply husable
    rw [Log.summaries_append]
    exact List.mem_append_right _ List.mem_cons_self

def farOffsetLines : List String :=
  ["\x00a@x\x002025-01-01T00:00:00+25:00\x00h1\x00s", "1\t2\tp.py"]

def plainSelection : Selection :=
  ⟨[], [], some (.finite 10000), some 0, ⟨⟨⟨2026, 10, 19⟩, 12, 0, 0, 0⟩, none⟩⟩

theorem exists_ofHistory_iff_of_read_farOffsetLines :
    ∃ history fault, Log.read Log.sampleDates .empty farOffsetLines = .ok history ∧
      AuthorChart.ofHistory plainSelection history = .error fault ∧ fault.IsOfLog := by
  have hcheck : (Log.read Log.sampleDates .empty farOffsetLines).toOption.any (fun history =>
      history.authors.get? ⟨0⟩ == some ⟨"a@x"⟩ &&
        !(candidates plainSelection history ⟨0⟩).all Timestamp.isUsable) = true := by
    decide +kernel
  obtain ⟨history, hread, hfound⟩ := exists_ok_of_any hcheck
  obtain ⟨hauthor, hfar⟩ := Bool.and_eq_true_iff.mp hfound
  obtain ⟨window, records, hw, -, hiff, -, hfaults⟩ := exists_ofHistory_iff_of_read hread
    (show plainSelection.days = some (.finite 10000) from rfl) (by decide)
    (show plainSelection.skip = some 0 from rfl) (by decide)
  have hbounded : Window.ofDays? (.finite 10000) = .ok (.bounded 864000000000000) := by
    decide +kernel
  rw [hbounded] at hw
  cases hw
  cases hc : AuthorChart.ofHistory plainSelection history with
  | error fault => exact ⟨history, fault, hread, hc, hfaults fault hc⟩
  | ok chart =>
    have hmem := History.mem_authorsByName.mpr (beq_iff_eq.mp hauthor)
    have haccepts := (hiff.mp ⟨chart, hc⟩ _ hmem).1
    rw [Bool.not_eq_true', ← Bool.not_eq_true, List.all_eq_true] at hfar
    exact absurd haccepts hfar

end Authorship.Activity
