import Authorship.Proofs.History.Registry
import Mathlib.Data.String.Basic

namespace Authorship.History

theorem getElem?_handles {registry : Registry Author} {i : Nat} {handle : Handle Author} :
    registry.handles[i]? = some handle ↔ i < registry.size ∧ handle = ⟨i⟩ := by
  rw [Registry.handles, List.getElem?_map]
  by_cases hi : i < registry.size
  · rw [List.getElem?_range hi]
    simp only [Option.map_some, Option.some.injEq, hi, true_and, eq_comm]
  · rw [List.getElem?_eq_none (by simpa using hi)]
    simp [hi]

theorem mem_authorsByName {history : History} {handle : Handle Author} {author : Author} :
    (handle, author) ∈ history.authorsByName ↔ history.authors.get? handle = some author := by
  rw [authorsByName, List.mem_mergeSort, List.mem_iff_getElem?]
  constructor
  · rintro ⟨i, hi⟩
    obtain ⟨hh, ha⟩ := List.getElem?_zip_eq_some.mp hi
    obtain ⟨-, rfl⟩ := getElem?_handles.mp hh
    exact ha
  · intro h
    have hlt := (List.getElem?_eq_some_iff.mp h).1
    exact ⟨handle.place, List.getElem?_zip_eq_some.mpr ⟨getElem?_handles.mpr ⟨hlt, rfl⟩, h⟩⟩

theorem map_name_authorsByName (history : History) :
    (history.authorsByName.map (·.2.name)).Perm history.authors.keys := by
  refine ((List.mergeSort_perm _ _).map _).trans (.of_eq ?_)
  have hs : history.authors.handles.length = history.authors.items.length := by
    simp [Registry.handles, Registry.size]
  calc (history.authors.handles.zip history.authors.items).map (·.2.name)
      = ((history.authors.handles.zip history.authors.items).map Prod.snd).map Author.name :=
        List.map_map.symm
    _ = history.authors.keys := by
        rw [List.map_snd_zip (Nat.le_of_eq hs.symm)]
        rfl

theorem pairwise_authorsByName {history : History} (h : history.authors.keys.Nodup) :
    (history.authorsByName.map (·.2.name)).Pairwise (· < ·) := by
  have hs : (history.authorsByName.map (·.2.name)).Pairwise (· ≤ ·) := by
    rw [List.pairwise_map]
    refine (List.pairwise_mergeSort ?_ ?_ _).imp fun hle => ?_
    · intro a b c hab hbc
      simp only [Bool.not_eq_true', decide_eq_false_iff_not, not_lt] at hab hbc ⊢
      exact le_trans hab hbc
    · intro a b
      simp only [Bool.or_eq_true, Bool.not_eq_true', decide_eq_false_iff_not, not_lt]
      exact le_total _ _
    · simpa only [Bool.not_eq_true', decide_eq_false_iff_not, not_lt] using hle
  have hn := (map_name_authorsByName history).nodup_iff.mpr h
  exact (hs.and hn).imp fun hab => lt_of_le_of_ne hab.1 hab.2

end Authorship.History
