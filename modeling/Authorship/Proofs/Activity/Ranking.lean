import Authorship.Proofs.Activity.Row
import Mathlib.Data.Prod.Lex

namespace Authorship.Activity

open Authorship.Number Authorship.Text

/-- An entry precedes another one by its larger value, then by its label in lower case, then by the
name of its author. -/
def Precedes (key : Stat) (a b : Entry) : Prop :=
  (b.value key).lt (a.value key) = true ∨
    a.value key = b.value key ∧
      (lowerCase a.author.shortName < lowerCase b.author.shortName ∨
        lowerCase a.author.shortName = lowerCase b.author.shortName ∧ a.author.name < b.author.name)

/-- What the rows are sorted by. -/
def rank (key : Stat) (entry : Entry) : Rat ×ₗ String :=
  toLex (-((entry.value key).value?.getD 0), lowerCase entry.author.shortName)

def rankLe (key : Stat) (a b : Entry) : Bool :=
  rank key a ≤ rank key b

variable {key : Stat} {a b : Entry} {n m : Nat}

theorem rank_of_finite (h : a.value key = .finite n) :
    rank key a = toLex (-(n : Rat), lowerCase a.author.shortName) := by
  rw [rank, h]
  rfl

theorem rowBefore_eq (ha : a.value key = .finite n) (hb : b.value key = .finite m) :
    rowBefore key a b = rankLe key a b := by
  have heq : (Binary64.finite n).eq (.finite m) = decide ((n : Rat) = m) := rfl
  rw [rankLe, rank_of_finite ha, rank_of_finite hb]
  simp only [rowBefore, ha, hb, heq, Binary64.lt_finite, decide_eq_true_eq, Prod.Lex.toLex_le_toLex,
    neg_lt_neg_iff, neg_inj]
  split_ifs with h
  · simp only [h, lt_irrefl, false_or, true_and, ← not_lt, decide_not]
  · simp only [h, false_and, or_false]

theorem precedes_of_rank_lt (ha : a.value key = .finite n) (hb : b.value key = .finite m)
    (h : rank key a < rank key b) : Precedes key a b := by
  rw [rank_of_finite ha, rank_of_finite hb, Prod.Lex.toLex_lt_toLex] at h
  rcases h with hvalue | ⟨hvalue, hlabel⟩
  · refine .inl ?_
    rw [ha, hb, Binary64.lt_finite]
    exact decide_eq_true (neg_lt_neg_iff.mp hvalue)
  · refine .inr ⟨?_, .inl hlabel⟩
    rw [ha, hb, neg_inj.mp hvalue]

theorem precedes_of_rank_eq (ha : a.value key = .finite n) (hb : b.value key = .finite m)
    (h : rank key a = rank key b) (hname : a.author.name < b.author.name) :
    Precedes key a b := by
  rw [rank_of_finite ha, rank_of_finite hb] at h
  obtain ⟨hvalue, hlabel⟩ := Prod.mk.inj (toLex.injective h)
  refine .inr ⟨?_, .inr ⟨hlabel, hname⟩⟩
  rw [ha, hb, neg_inj.mp hvalue]

section Sorting

variable {entries : List Entry}

theorem mergeSort_rowBefore (h : ∀ entry ∈ entries, entry.IsWhole) :
    entries.mergeSort (rowBefore key) = entries.mergeSort (rankLe key) := by
  have hsame : ∀ a ∈ entries, ∀ b ∈ entries, rowBefore key a b = rankLe key (id a) (id b) := by
    intro a ha b hb
    obtain ⟨n, hn⟩ := h a ha key
    obtain ⟨m, hm⟩ := h b hb key
    exact rowBefore_eq hn hm
  have hmap := List.map_mergeSort hsame
  rwa [List.map_id, List.map_id] at hmap

theorem rankLe_trans (key : Stat) (a b c : Entry) (hab : rankLe key a b = true)
    (hbc : rankLe key b c = true) : rankLe key a c = true := by
  rw [rankLe, decide_eq_true_eq] at *
  exact hab.trans hbc

theorem rankLe_total (key : Stat) (a b : Entry) :
    (rankLe key a b || rankLe key b a) = true := by
  rw [Bool.or_eq_true, rankLe, rankLe, decide_eq_true_eq, decide_eq_true_eq]
  exact le_total _ _

/-- Entries in the order of their names are sorted into the order of rows. -/
theorem pairwise_precedes (h : ∀ entry ∈ entries, entry.IsWhole)
    (hn : entries.Pairwise fun a b => a.author.name < b.author.name) :
    (entries.mergeSort (rowBefore key)).Pairwise (Precedes key) := by
  rw [mergeSort_rowBefore h]
  generalize hsorted : entries.mergeSort (rankLe key) = sorted
  have hperm : sorted.Perm entries := hsorted ▸ List.mergeSort_perm _ _
  have hpairs : sorted.Pairwise fun a b => rankLe key a b = true :=
    hsorted ▸ List.pairwise_mergeSort (rankLe_trans key) (rankLe_total key) entries
  have hnodup : entries.Nodup := by
    apply hn.imp
    rintro a _ hlt rfl
    exact lt_irrefl _ hlt
  rw [List.pairwise_iff_forall_sublist] at hn hpairs ⊢
  intro a b hab
  have ha : a ∈ entries := hperm.mem_iff.mp (hab.subset (by simp))
  have hb : b ∈ entries := hperm.mem_iff.mp (hab.subset (by simp))
  obtain ⟨n, hvalue⟩ := h a ha key
  obtain ⟨m, hvalue'⟩ := h b hb key
  rcases (of_decide_eq_true (hpairs hab)).lt_or_eq with hlt | heq
  · exact precedes_of_rank_lt hvalue hvalue' hlt
  · have hne : a ≠ b := by
      have hsorted := (hperm.nodup_iff.mpr hnodup).sublist hab
      simpa using hsorted
    -- The later of two entries of one rank stays the later one.
    rcases pair_sublist_or ha hb hne with hsame | hswap
    · exact precedes_of_rank_eq hvalue hvalue' heq (hn hsame)
    · have hkept : [b, a].Sublist sorted := hsorted ▸
        List.pair_sublist_mergeSort (rankLe_trans key) (rankLe_total key)
          (decide_eq_true heq.ge) hswap
      exact absurd hkept (not_pair_sublist_swap (hperm.nodup_iff.mpr hnodup) hab)

end Sorting

end Authorship.Activity
