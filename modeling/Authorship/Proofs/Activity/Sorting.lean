import Authorship.Activity.Selection
import Mathlib.Data.List.Nodup
import Mathlib.Algebra.Order.Group.Int

namespace Authorship.Activity

variable {α β : Type}

/-- In the order of a key; what has the same key keeps its order. -/
def sortedBy (key : α → Int) (list : List α) : List α :=
  list.mergeSort fun a b => key a ≤ key b

variable {key : α → Int}

theorem sortedBy_perm (key : α → Int) (list : List α) : (sortedBy key list).Perm list :=
  List.mergeSort_perm _ _

theorem keyLe_trans (key : α → Int) (a b c : α) (hab : decide (key a ≤ key b) = true)
    (hbc : decide (key b ≤ key c) = true) : decide (key a ≤ key c) = true := by
  rw [decide_eq_true_eq] at *
  omega

theorem keyLe_total (key : α → Int) (a b : α) :
    (decide (key a ≤ key b) || decide (key b ≤ key a)) = true := by
  rw [Bool.or_eq_true, decide_eq_true_eq, decide_eq_true_eq]
  omega

theorem pairwise_sortedBy (key : α → Int) (list : List α) :
    (sortedBy key list).Pairwise fun a b => key a ≤ key b :=
  (List.pairwise_mergeSort (keyLe_trans key) (keyLe_total key) list).imp of_decide_eq_true

theorem filter_key_sortedBy (key : α → Int) (list : List α) (k : Int) :
    (sortedBy key list).filter (key · == k) = list.filter (key · == k) := by
  have hsame : (list.filter (key · == k)).Pairwise fun a b => decide (key a ≤ key b) = true := by
    apply List.pairwise_of_forall_mem_list
    intro a ha b hb
    have hka := beq_iff_eq.mp (List.mem_filter.mp ha).2
    have hkb := beq_iff_eq.mp (List.mem_filter.mp hb).2
    exact decide_eq_true (hka.trans hkb.symm).le
  have hsub : (list.filter (key · == k)).Sublist (sortedBy key list) :=
    List.sublist_mergeSort (keyLe_trans key) (keyLe_total key) hsame List.filter_sublist
  have hfilter := hsub.filter (key · == k)
  simp only [List.filter_filter, Bool.and_self] at hfilter
  exact (hfilter.eq_of_length ((sortedBy_perm key list).filter _).length_eq.symm).symm

theorem mem_of_filter_key_eq {list other : List α}
    (h : ∀ k, list.filter (key · == k) = other.filter (key · == k)) {a : α} (ha : a ∈ list) :
    a ∈ other := by
  have hk : a ∈ list.filter (key · == key a) := List.mem_filter.mpr ⟨ha, beq_self_eq_true _⟩
  rw [h] at hk
  exact List.mem_of_mem_filter hk

theorem key_le_of_pairwise_cons {a b : α} {list : List α}
    (hl : (a :: list).Pairwise fun a b => key a ≤ key b) (hb : b ∈ a :: list) :
    key a ≤ key b := by
  rcases List.mem_cons.mp hb with rfl | hb
  · exact le_rfl
  · exact (List.pairwise_cons.mp hl).1 b hb

theorem eq_of_filter_key_eq {list other : List α} (hl : list.Pairwise fun a b => key a ≤ key b)
    (ho : other.Pairwise fun a b => key a ≤ key b)
    (h : ∀ k, list.filter (key · == k) = other.filter (key · == k)) : list = other := by
  induction list generalizing other with
  | nil =>
    cases other with
    | nil => rfl
    | cons b other =>
      exact absurd (mem_of_filter_key_eq (fun k => (h k).symm) List.mem_cons_self) List.not_mem_nil
  | cons a list ih =>
    cases other with
    | nil => exact absurd (mem_of_filter_key_eq h List.mem_cons_self) List.not_mem_nil
    | cons b other =>
      -- The first elements have the least key, so that they are the first at this key.
      have hkey : key b = key a := by
        apply le_antisymm
        · exact key_le_of_pairwise_cons ho (mem_of_filter_key_eq h List.mem_cons_self)
        · exact key_le_of_pairwise_cons hl
            (mem_of_filter_key_eq (fun k => (h k).symm) List.mem_cons_self)
      have hfirst := h (key a)
      rw [List.filter_cons_of_pos (by simp), List.filter_cons_of_pos (by simp [hkey])] at hfirst
      obtain ⟨rfl, -⟩ := List.cons.inj hfirst
      have hrest (k : Int) : list.filter (key · == k) = other.filter (key · == k) := by
        have hk := h k
        rw [List.filter_cons, List.filter_cons] at hk
        split at hk
        · exact (List.cons.inj hk).2
        · exact hk
      rw [ih (List.pairwise_cons.mp hl).2 (List.pairwise_cons.mp ho).2 hrest]

theorem filter_sortedBy (key : α → Int) (takes : α → Bool) (list : List α) :
    (sortedBy key list).filter takes = sortedBy key (list.filter takes) := by
  apply eq_of_filter_key_eq ((pairwise_sortedBy key list).filter takes) (pairwise_sortedBy key _)
  intro k
  rw [List.filter_comm, filter_key_sortedBy, filter_key_sortedBy, List.filter_comm]

theorem sortedBy_eq_of_perm {list other : List α} (h : list.Perm other)
    (hd : (list.map key).Nodup) : sortedBy key list = sortedBy key other := by
  have hl := sortedBy_perm key list
  have hperm : (sortedBy key list).Perm (sortedBy key other) :=
    hl.trans (h.trans (sortedBy_perm key other).symm)
  apply hperm.eq_of_pairwise _ (pairwise_sortedBy key list) (pairwise_sortedBy key other)
  intro a b ha hb hab hba
  apply List.inj_on_of_nodup_map hd (hl.mem_iff.mp ha) _ (le_antisymm hab hba)
  exact hl.mem_iff.mp (hperm.mem_iff.mpr hb)

theorem map_sortedBy {key' : β → Int} {f : α → β} {list : List α}
    (h : ∀ a ∈ list, key' (f a) = key a) :
    (sortedBy key list).map f = sortedBy key' (list.map f) := by
  apply List.map_mergeSort
  intro a ha b hb
  rw [h a ha, h b hb]

theorem filter_suffix {takes : α → Bool} {list : List α}
    (hl : list.Pairwise fun a b => key a ≤ key b)
    (h : ∀ a ∈ list, ∀ b ∈ list, key a ≤ key b → takes a = true → takes b = true) :
    list.filter takes <:+ list := by
  induction list with
  | nil => exact List.suffix_rfl
  | cons a list ih =>
    obtain ⟨ha, hl⟩ := List.pairwise_cons.mp hl
    by_cases hta : takes a = true
    · have hall : ∀ b ∈ a :: list, takes b = true := by
        intro b hb
        rcases List.mem_cons.mp hb with rfl | hb
        · exact hta
        · exact h a List.mem_cons_self b (List.mem_cons_of_mem a hb) (ha b hb) hta
      exact ⟨[], List.filter_eq_self.mpr hall⟩
    · rw [List.filter_cons_of_neg hta]
      have hrest := ih hl fun b hb c hc =>
        h b (List.mem_cons_of_mem a hb) c (List.mem_cons_of_mem a hc)
      exact hrest.trans (List.suffix_cons a list)

theorem drop_suffix_drop {list other : List α} (h : list <:+ other) (n : Nat) :
    list.drop n <:+ other.drop n := by
  obtain ⟨before, rfl⟩ := h
  rw [List.drop_append]
  refine List.IsSuffix.trans ?_ (List.suffix_append _ _)
  exact List.drop_suffix_drop_left list (Nat.sub_le n before.length)

end Authorship.Activity
