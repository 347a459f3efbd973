import Authorship.Proofs.Activity.Sorting
import Authorship.Proofs.Activity.Totals

namespace Authorship.Activity

open Authorship.Calendar Authorship.Number

variable {α β : Type}

/-- Whether something is taken; what cannot be judged is not. -/
def taken (judge : α → Except Fault Bool) (a : α) : Bool :=
  match judge a with
  | .ok counts => counts
  | .error _ => false

theorem taken_iff {judge : α → Except Fault Bool} {a : α} :
    taken judge a = true ↔ judge a = .ok true := by
  unfold taken
  cases judge a <;> simp

theorem taken_of_eq_ok {judge : α → Except Fault Bool} {a : α} {counts : Bool}
    (h : judge a = .ok counts) : taken judge a = counts := by
  rw [taken, h]

/-- What is taken of a list, in the order of a key, less the first ones. -/
def chosen (judge : α → Except Fault Bool) (key : α → Int) (skip : Int) (list : List α) : List α :=
  (sortedBy key (list.filter (taken judge))).drop skip.toNat

theorem mem_of_mem_chosen {judge : α → Except Fault Bool} {key : α → Int} {skip : Int}
    {list : List α} {a : α} (h : a ∈ chosen judge key skip list) : a ∈ list.filter (taken judge) :=
  (sortedBy_perm key _).mem_iff.mp (List.mem_of_mem_drop h)

theorem map_chosen {judge : α → Except Fault Bool} {judge' : β → Except Fault Bool}
    {key : α → Int} {key' : β → Int} {f : α → β} {list : List α} (skip : Int)
    (hj : ∀ a ∈ list, judge' (f a) = judge a) (hk : ∀ a, key' (f a) = key a) :
    (chosen judge key skip list).map f = chosen judge' key' skip (list.map f) := by
  have htaken : list.filter (taken judge) = list.filter (taken judge' ∘ f) := by
    apply List.filter_congr
    intro a ha
    rw [Function.comp_apply, taken, taken, hj a ha]
  rw [chosen, chosen, List.map_drop, map_sortedBy fun a _ => hk a, List.filter_map, htaken]

theorem filter_taken_taken {few many : α → Except Fault Bool} {list : List α}
    (h : ∀ a ∈ list, taken few a = true → taken many a = true) :
    list.filter (taken few) = (list.filter (taken many)).filter (taken few) := by
  rw [List.filter_filter]
  apply List.filter_congr
  intro a ha
  cases hf : taken few a with
  | false => rfl
  | true => rw [h a ha hf, Bool.and_self]

/-- When more is taken and fewer are passed over, what is chosen stays and keeps its order. -/
theorem chosen_sublist {few many : α → Except Fault Bool} {key : α → Int} {skip skip' : Int}
    {list : List α} (h : ∀ a ∈ list, taken few a = true → taken many a = true)
    (hs : skip' ≤ skip) : (chosen few key skip list).Sublist (chosen many key skip' list) := by
  rw [chosen, chosen, filter_taken_taken h, ← filter_sortedBy]
  have hfew := List.filter_sublist (p := taken few) (l := sortedBy key (list.filter (taken many)))
  exact (List.drop_sublist_drop_left _ (by omega)).trans (hfew.drop skip'.toNat)

/-- When what is taken lasts from some point of the order on, passing over leaves an end. -/
theorem chosen_suffix {few many : α → Except Fault Bool} {key : α → Int} (skip : Int)
    {list : List α} (h : ∀ a ∈ list, taken few a = true → taken many a = true)
    (hup : ∀ a ∈ list, ∀ b ∈ list, taken many b = true → key a ≤ key b → taken few a = true →
      taken few b = true) :
    chosen few key skip list <:+ chosen many key skip list := by
  rw [chosen, chosen, filter_taken_taken h, ← filter_sortedBy]
  apply drop_suffix_drop
  apply filter_suffix (pairwise_sortedBy key _)
  have hmem {a : α} (ha : a ∈ sortedBy key (list.filter (taken many))) :
      a ∈ list ∧ taken many a = true :=
    List.mem_filter.mp ((sortedBy_perm key _).mem_iff.mp ha)
  intro a ha b hb
  exact hup a (hmem ha).1 b (hmem hb).1 (hmem hb).2

theorem chosen_eq_of_nonpos {judge : α → Except Fault Bool} {key : α → Int} {skip : Int}
    (list : List α) (h : skip ≤ 0) :
    chosen judge key skip list = sortedBy key (list.filter (taken judge)) := by
  rw [chosen, Int.toNat_of_nonpos h, List.drop_zero]

theorem chosen_perm {judge : α → Except Fault Bool} {key : α → Int} {skip : Int}
    {list other : List α} (hp : list.Perm other)
    (hs : skip ≤ 0 ∨ ((list.filter (taken judge)).map key).Nodup) :
    (chosen judge key skip list).Perm (chosen judge key skip other) := by
  have htaken := hp.filter (taken judge)
  rcases hs with hs | hn
  · rw [chosen_eq_of_nonpos list hs, chosen_eq_of_nonpos other hs]
    exact (sortedBy_perm key _).trans (htaken.trans (sortedBy_perm key _).symm)
  · rw [chosen, chosen, sortedBy_eq_of_perm htaken hn]

def sift (judge : α → Except Fault Bool) : List α → Except Fault (List α)
  | [] => .ok []
  | a :: rest => do
    let counts ← judge a
    let picked ← sift judge rest
    .ok (if counts then a :: picked else picked)

theorem pick_eq_sift (selection : Selection) (history : History) (commits : List Commit) :
    selection.pick history commits = sift (selection.qualifies history) commits := by
  induction commits with
  | nil => rfl
  | cons commit rest ih => rw [Selection.pick, sift, ih]

theorem sift_eq_ok_iff {judge : α → Except Fault Bool} {list picked : List α} :
    sift judge list = .ok picked ↔
      (∀ a ∈ list, ∃ counts, judge a = .ok counts) ∧ picked = list.filter (taken judge) := by
  induction list generalizing picked with
  | nil => simp [sift, eq_comm]
  | cons a rest ih =>
    constructor
    · intro h
      obtain ⟨counts, hj, h⟩ := exists_of_bind_ok h
      obtain ⟨others, hs, h⟩ := exists_of_bind_ok h
      obtain ⟨hall, rfl⟩ := ih.mp hs
      cases h
      refine ⟨List.forall_mem_cons.mpr ⟨⟨counts, hj⟩, hall⟩, ?_⟩
      rw [List.filter_cons, taken_of_eq_ok hj]
    · rintro ⟨hall, rfl⟩
      obtain ⟨⟨counts, hj⟩, hall⟩ := List.forall_mem_cons.mp hall
      rw [sift, hj, ih.mpr ⟨hall, rfl⟩, List.filter_cons, taken_of_eq_ok hj]
      rfl

/-- Timestamps that can be put in order: all their zones can be calculated with, or they all have
the same one. -/
def Comparable (timestamps : List Timestamp) : Prop :=
  (∀ timestamp ∈ timestamps, timestamp.isUsable = true) ∨
    ∃ zone, ∀ timestamp ∈ timestamps, timestamp.actualZone = zone

theorem Comparable.of_subset {timestamps others : List Timestamp} (h : Comparable timestamps)
    (hs : others ⊆ timestamps) : Comparable others := by
  rcases h with husable | ⟨zone, hzone⟩
  · exact .inl fun timestamp hm => husable timestamp (hs hm)
  · exact .inr ⟨zone, fun timestamp hm => hzone timestamp (hs hm)⟩

theorem isSortable_iff {commits : List Commit} :
    isSortable commits = true ↔ Comparable (commits.filterMap Commit.timestamp) := by
  have hzones : (commits.filterMap fun commit => commit.timestamp.map Timestamp.actualZone) =
      (commits.filterMap Commit.timestamp).map Timestamp.actualZone := by
    rw [List.map_filterMap]
  rw [isSortable, hzones, Comparable]
  generalize commits.filterMap Commit.timestamp = timestamps
  rw [Bool.or_eq_true, List.all_map, List.all_map, List.all_eq_true, List.all_eq_true]
  refine or_congr Iff.rfl ?_
  cases timestamps with
  | nil => exact ⟨fun _ => ⟨.universal, fun _ hm => by cases hm⟩, fun _ _ hm => by cases hm⟩
  | cons first rest =>
    rw [List.map_cons, List.head?_cons]
    constructor
    · intro h
      refine ⟨first.actualZone, fun timestamp hm => ?_⟩
      exact Option.some.inj (beq_iff_eq.mp (h timestamp hm))
    · rintro ⟨zone, hzone⟩ timestamp hm
      rw [Function.comp_apply, beq_iff_eq, hzone timestamp hm, hzone first List.mem_cons_self]

/-- The commits that a judgement takes, in the order of time, the oldest passed over. -/
def chooseCommits (judge : Commit → Except Fault Bool) (skip : Int) (commits : List Commit) :
    Except Fault (List Commit) := do
  let picked ← sift judge commits
  let sorted ← sortCommits picked
  .ok (sorted.drop skip.toNat)

theorem chooseCommits_eq_ok_iff {judge : Commit → Except Fault Bool} {skip : Int}
    {commits rest : List Commit} :
    chooseCommits judge skip commits = .ok rest ↔
      (∀ commit ∈ commits, ∃ counts, judge commit = .ok counts) ∧
      Comparable ((commits.filter (taken judge)).filterMap Commit.timestamp) ∧
      rest = chosen judge commitInstant skip commits := by
  constructor
  · intro h
    obtain ⟨picked, hp, h⟩ := exists_of_bind_ok h
    obtain ⟨sorted, hs, h⟩ := exists_of_bind_ok h
    obtain ⟨hall, rfl⟩ := sift_eq_ok_iff.mp hp
    unfold sortCommits at hs
    split at hs
    · rename_i hsortable
      cases hs
      cases h
      exact ⟨hall, isSortable_iff.mp hsortable, rfl⟩
    · cases hs
  · rintro ⟨hall, hc, rfl⟩
    rw [chooseCommits, sift_eq_ok_iff.mpr ⟨hall, rfl⟩]
    dsimp only [bind, Except.bind]
    rw [sortCommits, if_pos (isSortable_iff.mpr hc)]
    rfl

theorem qualifying_eq_chooseCommits {selection : Selection} {skip : Int} (history : History)
    (commits : List Commit) (hs : selection.skip = some skip) :
    selection.qualifying history commits =
      chooseCommits (selection.qualifies history) skip commits := by
  rw [Selection.qualifying, chooseCommits, pick_eq_sift, hs]

theorem totalsOf_eq_ok_iff {selection : Selection} {history : History} {handle : Handle Author}
    {skip : Int} {totals : Totals} (hs : selection.skip = some skip) :
    totalsOf selection history handle = .ok totals ↔
      (∀ commit ∈ commitsOf history handle,
        ∃ counts, selection.qualifies history commit = .ok counts) ∧
      Comparable (((commitsOf history handle).filter
        (taken (selection.qualifies history))).filterMap Commit.timestamp) ∧
      totals = Totals.ofCommits selection history
        (chosen (selection.qualifies history) commitInstant skip (commitsOf history handle)) := by
  constructor
  · intro h
    obtain ⟨rest, hq, rfl⟩ := exists_of_totalsOf h
    rw [qualifying_eq_chooseCommits _ _ hs] at hq
    obtain ⟨hall, hc, rfl⟩ := chooseCommits_eq_ok_iff.mp hq
    exact ⟨hall, hc, rfl⟩
  · rintro ⟨hall, hc, rfl⟩
    rw [totalsOf, qualifying_eq_chooseCommits _ _ hs, chooseCommits_eq_ok_iff.mpr ⟨hall, hc, rfl⟩]
    rfl

end Authorship.Activity
