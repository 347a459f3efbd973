import Authorship.Activity.Selection
import Authorship.Proofs.History.Build
import Authorship.Proofs.Text.Piece

namespace Authorship

theorem exists_of_bind_ok {ε α β : Type} {x : Except ε α} {f : α → Except ε β} {b : β}
    (h : x >>= f = .ok b) : ∃ a, x = .ok a ∧ f a = .ok b := by
  cases x with
  | error e => cases h
  | ok a => exact ⟨a, rfl, h⟩

theorem eq_ok_of_mapError {ε ε' α : Type} {wrap : ε → ε'} {x : Except ε α} {a : α}
    (h : x.mapError wrap = .ok a) : x = .ok a := by
  cases x with
  | error e => cases h
  | ok a' => exact congrArg Except.ok (Except.ok.inj h)

theorem exists_ok_of_any {ε α : Type} {x : Except ε α} {p : α → Bool}
    (h : x.toOption.any p = true) : ∃ a, x = .ok a ∧ p a = true := by
  cases x with
  | error e => cases h
  | ok a => exact ⟨a, rfl, h⟩

theorem pair_sublist_or {α : Type} {list : List α} {a b : α} (ha : a ∈ list) (hb : b ∈ list)
    (h : a ≠ b) : [a, b].Sublist list ∨ [b, a].Sublist list := by
  obtain ⟨before, after, rfl⟩ := List.append_of_mem ha
  rcases List.mem_append.mp hb with hb | hb
  · exact .inr (List.Sublist.append (List.singleton_sublist.mpr hb)
      (List.singleton_sublist.mpr List.mem_cons_self))
  · have hb' : b ∈ after := (List.mem_cons.mp hb).resolve_left h.symm
    exact .inl (((List.singleton_sublist.mpr hb').cons_cons a).trans (List.sublist_append_right _ _))

theorem not_pair_sublist_swap {α : Type} {list : List α} {a b : α} (hn : list.Nodup)
    (h : [a, b].Sublist list) : ¬ [b, a].Sublist list := by
  induction list with
  | nil => cases h
  | cons c list ih =>
    intro hs
    obtain ⟨hc, hn⟩ := List.nodup_cons.mp hn
    cases h with
    | cons _ h =>
      cases hs with
      | cons _ hs => exact ih hn h hs
      | cons_cons _ hs => exact hc (h.subset (by simp))
    | cons_cons _ h =>
      cases hs with
      | cons _ hs => exact hc (hs.subset (by simp))
      | cons_cons _ hs => exact hc (h.subset (by simp))

theorem History.WellFormed.nodup_items {history : History} (h : history.WellFormed) :
    history.commits.items.Nodup :=
  List.Nodup.of_map _ h.commits

theorem History.WellFormed.exists_path {history : History} (h : history.WellFormed)
    {commit : Commit} (hm : commit ∈ history.commits.items) {change : Change}
    (hc : change ∈ commit.changes) :
    history.files.get? change.file = some ⟨history.pathOf change⟩ := by
  obtain ⟨file, hg⟩ := h.changed commit hm change hc
  rw [pathOf, hg]
  rfl

namespace Activity

open Authorship.Calendar Authorship.Number

/-- The paths that count: those of no moved file, without the texts that exclude, or with all the
texts that include, when there are any. -/
def Selection.Counted (selection : Selection) (path : String) : Prop :=
  ¬ " => ".toList <:+: path.toList ∧
    ((∀ part ∈ selection.excluded, ¬ part.toList <:+: path.toList) ∨
      (selection.included ≠ [] ∧ ∀ part ∈ selection.included, part.toList <:+: path.toList))

instance (selection : Selection) (path : String) : Decidable (selection.Counted path) :=
  inferInstanceAs (Decidable (_ ∧ (_ ∨ (_ ∧ _))))

theorem admits_iff {selection : Selection} {file : File} :
    selection.admits file = true ↔ selection.Counted file.path := by
  simp only [Selection.admits, Selection.Counted, File.isMove, Bool.and_eq_true, Bool.or_eq_true,
    Bool.not_eq_true', List.all_eq_true, ← Bool.not_eq_true, Text.contains_iff,
    List.isEmpty_iff, ne_eq]

theorem admitsChange_iff {selection : Selection} {history : History} (hw : history.WellFormed)
    {commit : Commit} (hm : commit ∈ history.commits.items) {change : Change}
    (hc : change ∈ commit.changes) :
    selection.admitsChange history change = true ↔
      selection.Counted (history.pathOf change) := by
  rw [Selection.admitsChange, hw.exists_path hm hc, Option.any_some, admits_iff]

/-- The ages in the window. -/
def Window.Contains : Window → Int → Prop
  | .bounded microseconds, age => age < microseconds
  | .immeasurable isPositive, _ => isPositive = true

theorem contains_of_holds {window : Window} {timestamp now : Timestamp} {inside : Bool}
    (h : window.holds timestamp now = .ok inside) :
    inside = true ↔ window.Contains (now.instant - timestamp.instant) := by
  cases window with
  | bounded microseconds =>
    simp only [Window.holds] at h
    split at h
    · cases h
      exact decide_eq_true_iff
    · cases h
  | immeasurable isPositive =>
    cases h
    exact Iff.rfl

/-- The commits that count: they have a timestamp, they changed a file that counts, and their age
is in the window. -/
def Selection.Takes (selection : Selection) (history : History) (commit : Commit) : Prop :=
  (∃ change ∈ commit.changes, selection.Counted (history.pathOf change)) ∧
    ∃ timestamp days window, commit.timestamp = some timestamp ∧ selection.days = some days ∧
      Window.ofDays? days = .ok window ∧
      window.Contains (selection.now.instant - timestamp.instant)

theorem takes_of_qualifies {selection : Selection} {history : History} (hw : history.WellFormed)
    {commit : Commit} (hm : commit ∈ history.commits.items) {counts : Bool}
    (h : selection.qualifies history commit = .ok counts) :
    counts = true ↔ selection.Takes history commit := by
  have hany : commit.changes.any (selection.admitsChange history) = true ↔
      ∃ change ∈ commit.changes, selection.Counted (history.pathOf change) := by
    rw [List.any_eq_true]
    exact exists_congr fun change => and_congr_right fun hc => admitsChange_iff hw hm hc
  rw [Selection.Takes, ← hany]
  unfold Selection.qualifies at h
  cases ht : commit.timestamp with
  | none =>
    rw [ht] at h
    cases h
    simp
  | some timestamp =>
    rw [ht] at h
    dsimp only at h
    split at h
    · rename_i hc
      cases hd : selection.days with
      | none =>
        rw [Selection.windowHolds, hd] at h
        cases h
      | some days =>
        rw [Selection.windowHolds, hd] at h
        obtain ⟨window, hw, hh⟩ := exists_of_bind_ok h
        rw [contains_of_holds hh]
        simp [hc, hw]
    · rename_i hc
      cases h
      simp [hc]

theorem mem_of_pick {selection : Selection} {history : History} {commits picked : List Commit}
    (h : selection.pick history commits = .ok picked) :
    picked.Sublist commits ∧ ∀ commit, commit ∈ picked ↔
      commit ∈ commits ∧ selection.qualifies history commit = .ok true := by
  induction commits generalizing picked with
  | nil =>
    cases h
    simp
  | cons first rest ih =>
    obtain ⟨counts, hq, h⟩ := exists_of_bind_ok h
    obtain ⟨others, hp, h⟩ := exists_of_bind_ok h
    obtain ⟨hs, hm⟩ := ih hp
    cases h
    cases counts with
    | true =>
      refine ⟨hs.cons_cons first, fun commit => ?_⟩
      simp only [if_pos, List.mem_cons, hm]
      constructor
      · rintro (rfl | hc)
        · exact ⟨.inl rfl, hq⟩
        · exact ⟨.inr hc.1, hc.2⟩
      · rintro ⟨rfl | hc, hc'⟩
        · exact .inl rfl
        · exact .inr ⟨hc, hc'⟩
    | false =>
      refine ⟨hs.cons first, fun commit => ?_⟩
      simp only [Bool.false_eq_true, if_false, List.mem_cons, hm]
      constructor
      · rintro ⟨hc, hc'⟩
        exact ⟨.inr hc, hc'⟩
      · rintro ⟨rfl | hc, hc'⟩
        · rw [hq] at hc'
          cases hc'
        · exact ⟨hc, hc'⟩

theorem qualifies_of_pick {selection : Selection} {history : History} {commits picked : List Commit}
    (h : selection.pick history commits = .ok picked) {commit : Commit} (hm : commit ∈ commits) :
    ∃ counts, selection.qualifies history commit = .ok counts := by
  induction commits generalizing picked with
  | nil => cases hm
  | cons first rest ih =>
    obtain ⟨counts, hq, h⟩ := exists_of_bind_ok h
    obtain ⟨others, hp, -⟩ := exists_of_bind_ok h
    rcases List.mem_cons.mp hm with rfl | hm
    · exact ⟨counts, hq⟩
    · exact ih hp hm

/-- What comes first: the earlier commit, and of two at one instant the one that was made first. -/
def Before (history : History) (a b : Commit) : Prop :=
  commitInstant a < commitInstant b ∨
    (commitInstant a = commitInstant b ∧ [a, b].Sublist history.commits.items)

theorem before_of_sortCommits {history : History} {picked sorted : List Commit}
    (hn : history.commits.items.Nodup) (hs : picked.Sublist history.commits.items)
    (h : sortCommits picked = .ok sorted) :
    sorted.Perm picked ∧ sorted.Pairwise (Before history) := by
  unfold sortCommits at h
  split at h
  case isFalse => cases h
  cases h
  have hp := List.mergeSort_perm picked fun a b => decide (commitInstant a ≤ commitInstant b)
  refine ⟨hp, ?_⟩
  have htrans (a b c : Commit) (hab : decide (commitInstant a ≤ commitInstant b) = true)
      (hbc : decide (commitInstant b ≤ commitInstant c) = true) :
      decide (commitInstant a ≤ commitInstant c) = true := by
    simp only [decide_eq_true_eq] at hab hbc ⊢
    omega
  have htotal (a b : Commit) : (decide (commitInstant a ≤ commitInstant b) ||
      decide (commitInstant b ≤ commitInstant a)) = true := by
    simp only [Bool.or_eq_true, decide_eq_true_eq]
    omega
  have hle := List.pairwise_mergeSort htrans htotal picked
  have hns := hp.nodup_iff.mpr (hs.nodup hn)
  rw [List.pairwise_iff_forall_sublist]
  intro a b hab
  have hab' := of_decide_eq_true (hle.forall_sublist hab)
  rcases Int.lt_or_eq_of_le hab' with hlt | heq
  · exact .inl hlt
  · refine .inr ⟨heq, ?_⟩
    have hne : a ≠ b := by simpa using hab.nodup hns
    have ha : a ∈ picked := hp.mem_iff.mp (hab.subset (by simp))
    have hb : b ∈ picked := hp.mem_iff.mp (hab.subset (by simp))
    rcases pair_sublist_or ha hb hne with hsub | hsub
    · exact hsub.trans hs
    · -- The sort is stable, so that the other order would still be there.
      have hba := List.pair_sublist_mergeSort htrans htotal (by simp [heq]) hsub
      exact absurd hba (not_pair_sublist_swap hns hab)

theorem sortCommits_of_pairwise {commits : List Commit} (hs : isSortable commits = true)
    (h : commits.Pairwise fun a b => commitInstant a ≤ commitInstant b) :
    sortCommits commits = .ok commits := by
  rw [sortCommits, if_pos hs, List.mergeSort_of_pairwise (h.imp decide_eq_true)]

structure Ranked (history : History) (counts : Commit → Prop) (ranked : List Commit) : Prop where
  mem_iff : ∀ commit, commit ∈ ranked ↔ commit ∈ history.commits.items ∧ counts commit
  order : ranked.Pairwise (Before history)

theorem ranked_of_qualifying {selection : Selection} {history : History}
    (hw : history.WellFormed) {commits rest : List Commit}
    (hs : commits.Sublist history.commits.items)
    (h : selection.qualifying history commits = .ok rest) :
    ∃ skip ranked, selection.skip = some skip ∧
      Ranked history (fun commit => commit ∈ commits ∧ selection.Takes history commit) ranked ∧
      rest = ranked.drop skip.toNat := by
  obtain ⟨picked, hp, h⟩ := exists_of_bind_ok h
  obtain ⟨sorted, hsort, h⟩ := exists_of_bind_ok h
  obtain ⟨hsub, hm⟩ := mem_of_pick hp
  obtain ⟨hperm, horder⟩ := before_of_sortCommits hw.nodup_items (hsub.trans hs) hsort
  cases hskip : selection.skip with
  | none =>
    rw [hskip] at h
    cases h
  | some skip =>
    rw [hskip] at h
    cases h
    refine ⟨skip, sorted, rfl, ⟨fun commit => ?_, horder⟩, rfl⟩
    rw [hperm.mem_iff, hm]
    constructor
    · rintro ⟨hc, hq⟩
      exact ⟨hs.subset hc, hc, (takes_of_qualifies hw (hs.subset hc) hq).mp rfl⟩
    · rintro ⟨hi, hc, ht⟩
      obtain ⟨counts, hq⟩ := qualifies_of_pick hp hc
      rw [(takes_of_qualifies hw hi hq).mpr ht] at hq
      exact ⟨hc, hq⟩

end Activity

end Authorship
