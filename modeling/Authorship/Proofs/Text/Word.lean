import Authorship.Proofs.Text.Piece

namespace Authorship.Text

theorem words_of_forall_false {text : List Char} (hne : text ≠ [])
    (h : ∀ c ∈ text, isBlank c = false) : words text = [text] := by
  have hfull : ¬ text.isEmpty = true := by simpa using hne
  rw [words, List.splitOnP_eq_singleton h, List.filter_cons_of_pos (by simp [hfull]),
    List.filter_nil]

theorem words_append_cons {word : List Char} {blank : Char} (rest : List Char) (hne : word ≠ [])
    (h : ∀ c ∈ word, isBlank c = false) (hb : isBlank blank = true) :
    words (word ++ blank :: rest) = word :: words rest := by
  have hfull : ¬ word.isEmpty = true := by simpa using hne
  rw [words, List.splitOnP_append_cons_of_forall_mem h blank hb,
    List.filter_cons_of_pos (by simp [hfull]), words]

theorem words_of_not_blank {text : List Char} (h : ∀ c ∈ text, isBlank c = false) :
    words text = if text.isEmpty then [] else [text] := by
  cases text with
  | nil => rfl
  | cons c text => exact words_of_forall_false (List.cons_ne_nil c text) h

theorem words_cons_of_blank {c : Char} (text : List Char) (h : isBlank c = true) :
    words (c :: text) = words text := by
  rw [words, List.splitOnP_cons_eq_if_modifyHead, if_pos h, List.filter_cons_of_neg (by simp), words]

theorem words_append_blank {text : List Char} {blank : Char} (rest : List Char)
    (h : ∀ c ∈ text, isBlank c = false) (hb : isBlank blank = true) :
    words (text ++ blank :: rest) = (if text.isEmpty then [] else [text]) ++ words rest := by
  cases text with
  | nil => exact words_cons_of_blank rest hb
  | cons c text => exact words_append_cons rest (List.cons_ne_nil c text) h hb

theorem toList_pushn (text : String) (c : Char) (count : Nat) :
    (text.pushn c count).toList = text.toList ++ List.replicate count c := by
  induction count with
  | zero => exact (List.append_nil _).symm
  | succ count ih =>
    rw [List.replicate_succ', ← List.append_assoc, ← ih, ← String.toList_push]
    rfl

theorem toList_padEnd (width : Nat) (text : String) :
    (padEnd width text).toList =
      text.toList ++ List.replicate (width - text.toList.length) ' ' := by
  rw [padEnd, String.toList_append, toList_pushn, String.length_toList]
  rfl

theorem toList_padStart (width : Nat) (text : String) :
    (padStart width text).toList =
      List.replicate (width - text.toList.length) ' ' ++ text.toList := by
  rw [padStart, String.toList_append, toList_pushn, String.length_toList]
  rfl

structure IsSolid (text : List Char) : Prop where
  ne_nil : text ≠ []
  noBlank : ∀ c ∈ text, isBlank c = false

theorem words_replicate_append (count : Nat) (text : List Char) :
    words (List.replicate count ' ' ++ text) = words text := by
  induction count with
  | zero => rfl
  | succ count ih =>
    rw [List.replicate_succ, List.cons_append, words_cons_of_blank _ rfl, ih]

theorem words_padStart_append {text : String} (width : Nat) (rest : List Char)
    (h : IsSolid text.toList) :
    words ((padStart width text).toList ++ ' ' :: rest) = text.toList :: words rest := by
  rw [toList_padStart, List.append_assoc, words_replicate_append,
    words_append_cons rest h.ne_nil h.noBlank rfl]

theorem not_mem_padStart {text : String} {c : Char} (width : Nat) (hc : c ≠ ' ')
    (h : c ∉ text.toList) : c ∉ (padStart width text).toList := by
  rw [toList_padStart, List.mem_append]
  rintro (hm | hm)
  · exact hc (List.eq_of_mem_replicate hm)
  · exact h hm

end Authorship.Text
