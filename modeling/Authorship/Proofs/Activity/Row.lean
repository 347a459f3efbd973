import Authorship.Activity.Table
import Authorship.Proofs.Activity.Qualifying
import Authorship.Proofs.Number.Whole
import Authorship.Proofs.Text.Word

namespace Authorship.Activity

open Authorship.Number Authorship.Text

/-- The label in a row: padded, or cut with an ellipsis in the place of the rest. -/
def labelCell (label : List Char) : List Char :=
  if label.length ≤ 20 then label ++ List.replicate (20 - label.length) ' '
  else label.take 19 ++ ['…']

def markedBar (full : Nat) : String :=
  "[" ++ "".pushn '#' full ++ "".pushn '-' (12 - full) ++ "]"

/-- A field shows a number as its decimal digits, with commas among them. -/
def ShowsWhole (value : Binary64) (field : List Char) : Prop :=
  ∃ n : Nat, value = .finite n ∧ field.filter (· != ',') = Nat.toDigits 10 n

/-- A line shows an entry: its label, the values of all statistics in their order, and a bar. -/
structure IsRow (entry : Entry) (line : String) : Prop where
  label : line.toList.take 20 = labelCell entry.author.shortName.toList
  fields : ∃ numbers full, full ≤ 12 ∧
    words (line.toList.drop 20) = numbers ++ [(markedBar full).toList] ∧
    List.Forall₂ (fun stat field => ShowsWhole (entry.value stat) field) Stat.all numbers
  oneLine : '\n' ∉ line.toList.drop 20

def Entry.IsWhole (entry : Entry) : Prop :=
  ∀ stat, ∃ n : Nat, entry.value stat = .finite n

section Cells

theorem length_labelCell (label : List Char) : (labelCell label).length = 20 := by
  unfold labelCell
  split_ifs with h
  · rw [List.length_append, List.length_replicate]
    omega
  · rw [List.length_append, List.length_take, List.length_singleton]
    omega

theorem toList_shorten (text : String) :
    (shorten text 20).toList =
      if text.toList.length ≤ 20 then text.toList else text.toList.take 19 ++ ['…'] := by
  unfold shorten
  by_cases h : text.toList.length ≤ 20
  · have hint : (text.toList.length : Int) ≤ 20 := by omega
    simp only [if_pos h, if_pos hint]
  · have hint : ¬ (text.toList.length : Int) ≤ 20 := by omega
    simp only [if_neg h, if_neg hint]
    rw [if_neg (by decide), String.toList_append, String.toList_ofList]
    rfl

theorem toList_padEnd_shorten (text : String) :
    (padEnd 20 (shorten text 20)).toList = labelCell text.toList := by
  rw [toList_padEnd, toList_shorten, labelCell]
  split_ifs with h
  · rfl
  · have hlength : (text.toList.take 19 ++ ['…']).length = 20 := by
      rw [List.length_append, List.length_take, List.length_singleton]
      omega
    rw [hlength, Nat.sub_self]
    exact List.append_nil _

theorem wholeText_natCast (n : Nat) : wholeText (.finite n) = .ok (groupedNat n) := by
  rw [wholeText, Binary64.toInteger, truncate_natCast]
  exact congrArg Except.ok (groupedInt_natCast n)

theorem showsWhole_groupedNat (n : Nat) : ShowsWhole (.finite n) (groupedNat n).toList :=
  ⟨n, rfl, filter_groupedNat n⟩

theorem isSolid_groupedNat (n : Nat) : IsSolid (groupedNat n).toList where
  ne_nil := by
    intro hnil
    have hdigits := filter_groupedNat n
    rw [hnil] at hdigits
    exact Nat.toDigits_ne_nil hdigits.symm
  noBlank _ hc := isBlank_of_printable (printable_groupedNat hc).1 (printable_groupedNat hc).2

theorem toList_markedBar (full : Nat) :
    (markedBar full).toList =
      '[' :: (List.replicate full '#' ++ List.replicate (12 - full) '-' ++ [']']) := by
  simp only [markedBar, String.toList_append, toList_pushn]
  rfl

theorem printable_markedBar {full : Nat} {c : Char} (h : c ∈ (markedBar full).toList) :
    32 < c.toNat ∧ c.toNat < 127 := by
  have hmark : c = '[' ∨ c = '#' ∨ c = '-' ∨ c = ']' := by
    rw [toList_markedBar] at h
    simp only [List.mem_cons, List.mem_append, List.mem_replicate, List.not_mem_nil,
      or_false] at h
    tauto
  rcases hmark with rfl | rfl | rfl | rfl <;> decide

theorem isSolid_markedBar (full : Nat) : IsSolid (markedBar full).toList where
  ne_nil := by rw [toList_markedBar]; exact List.cons_ne_nil _ _
  noBlank _ hc := isBlank_of_printable (printable_markedBar hc).1 (printable_markedBar hc).2

end Cells

section Bar

variable {n m : Nat}

theorem div_natCast (h : n ≤ m) (hm : 0 < m) :
    ∃ part : Rat, (Binary64.finite n).div (.finite m) = .finite part ∧ 0 ≤ part ∧ part ≤ 1 := by
  have hpos : (0 : Rat) < m := Nat.cast_pos.mpr hm
  have hlow : (0 : Rat) ≤ n / m := div_nonneg (Nat.cast_nonneg n) hpos.le
  have hhigh : (n : Rat) / m ≤ (1 : Int) := by
    rw [Int.cast_one]
    exact (div_le_one hpos).mpr (Nat.cast_le.mpr h)
  have hsmall : |Binary64.rounding ((n : Rat) / m)| < 2 ^ (1024 : Int) := by
    apply Binary64.abs_rounding_lt (n := 1) _ (by decide)
    rw [abs_of_nonneg hlow]
    exact hhigh
  refine ⟨Binary64.rounding (n / m), ?_, ?_, ?_⟩
  · rw [Binary64.div_finite (Nat.cast_nonneg n) hpos, Binary64.ofRat_of_nonneg hlow hsmall]
  · rw [← Binary64.rounding_zero]
    exact Binary64.rounding_mono hlow
  · have hround := Binary64.rounding_mono hhigh
    rwa [Binary64.rounding_intCast (by decide), Int.cast_one] at hround

theorem exists_filledMarks (h : n ≤ m) :
    ∃ filled, filledMarks (.finite n) (.finite m) 12 = .ok filled := by
  rcases m.eq_zero_or_pos with rfl | hm
  · exact ⟨0, if_pos rfl⟩
  · have hnot : ¬ (Binary64.finite m).le (.finite 0) = true := by
      rw [Binary64.le_iff rfl rfl, not_le]
      exact Nat.cast_pos.mpr hm
    obtain ⟨part, hpart, hlow, hhigh⟩ := div_natCast h hm
    have htwelve : (0 : Rat) ≤ (12 : Int) := by norm_num
    have hproduct : 0 ≤ part * (12 : Int) := mul_nonneg hlow htwelve
    have hsmall : |Binary64.rounding (part * (12 : Int))| < 2 ^ (1024 : Int) := by
      apply Binary64.abs_rounding_lt (n := 12) _ (by decide)
      rw [abs_of_nonneg hproduct]
      exact mul_le_of_le_one_left htwelve hhigh
    rw [filledMarks, if_neg hnot, Binary64.ofInt?_of_natAbs_le (by decide), hpart]
    dsimp only
    rw [Binary64.mul_finite hlow htwelve, Binary64.ofRat_of_nonneg hproduct hsmall]
    exact ⟨_, rfl⟩

theorem exists_barText (h : n ≤ m) :
    ∃ full, full ≤ 12 ∧ barText (.finite n) (.finite m) 12 = .ok (markedBar full) := by
  obtain ⟨filled, hf⟩ := exists_filledMarks h
  have hlow : 0 ≤ max 0 (min 12 filled) := le_max_left 0 _
  have hhigh : max 0 (min 12 filled) ≤ 12 := max_le (by decide) (min_le_left 12 _)
  generalize hmarks : max 0 (min 12 filled) = marks at hlow hhigh
  have hfull : count marks = .ok marks.toNat :=
    count_eq_ok (by omega) (hhigh.trans (by decide))
  have hempty : count (12 - marks) = .ok (12 - marks).toNat :=
    count_eq_ok (by omega) ((sub_le_self 12 hlow).trans (by decide))
  have hrest : (12 - marks).toNat = 12 - marks.toNat := by omega
  refine ⟨marks.toNat, by omega, ?_⟩
  rw [barText, hf]
  simp only [Bind.bind, Except.bind, hmarks, hfull, hempty, Except.mapError, hrest, markedBar]

end Bar

section Row

variable {entry : Entry} {key : Stat} {n m : Nat}

def cellsAfter (files commits changed added deleted bar : String) : List Char :=
  ' ' :: ((padStart 7 files).toList ++ ' ' :: ((padStart 8 commits).toList ++
    ' ' :: ((padStart 10 changed).toList ++ ' ' :: ((padStart 10 added).toList ++
    ' ' :: ((padStart 10 deleted).toList ++ ' ' :: ' ' :: bar.toList)))))

def rowOf (label files commits changed added deleted bar : String) : String :=
  label ++ " " ++ padStart 7 files ++ " " ++ padStart 8 commits ++ " " ++ padStart 10 changed ++
    " " ++ padStart 10 added ++ " " ++ padStart 10 deleted ++ "  " ++ bar

theorem toList_rowOf (label files commits changed added deleted bar : String) :
    (rowOf label files commits changed added deleted bar).toList =
      label.toList ++ cellsAfter files commits changed added deleted bar := by
  have hone : " ".toList = [' '] := rfl
  have htwo : "  ".toList = [' ', ' '] := rfl
  simp only [rowOf, cellsAfter, String.toList_append, hone, htwo, List.append_assoc,
    List.cons_append, List.nil_append]

theorem words_cellsAfter {files commits changed added deleted bar : String}
    (hf : IsSolid files.toList) (hc : IsSolid commits.toList) (hch : IsSolid changed.toList)
    (ha : IsSolid added.toList) (hd : IsSolid deleted.toList) (hb : IsSolid bar.toList) :
    words (cellsAfter files commits changed added deleted bar) =
      [files.toList, commits.toList, changed.toList, added.toList, deleted.toList] ++
        [bar.toList] := by
  rw [cellsAfter, words_cons_of_blank _ rfl, words_padStart_append 7 _ hf,
    words_padStart_append 8 _ hc, words_padStart_append 10 _ hch, words_padStart_append 10 _ ha,
    words_padStart_append 10 _ hd, words_cons_of_blank _ rfl,
    words_of_forall_false hb.ne_nil hb.noBlank]
  rfl

theorem not_mem_cellsAfter {files commits changed added deleted bar : String}
    (h : ∀ text ∈ [files, commits, changed, added, deleted, bar], '\n' ∉ text.toList) :
    '\n' ∉ cellsAfter files commits changed added deleted bar := by
  have hcell (width : Nat) {text : String} (ht : '\n' ∉ text.toList) :
      '\n' ∉ (padStart width text).toList := not_mem_padStart width (by decide) ht
  simp only [List.forall_mem_cons] at h
  obtain ⟨hf, hc, hch, ha, hd, hb, -⟩ := h
  simp only [cellsAfter, List.mem_cons, List.mem_append, hcell 7 hf, hcell 8 hc, hcell 10 hch,
    hcell 10 ha, hcell 10 hd, hb]
  decide

theorem exists_rowText (h : entry.IsWhole) (hn : entry.value key = .finite n) (hm : n ≤ m) :
    ∃ line, rowText key (.finite m) entry = .ok line ∧ IsRow entry line := by
  choose counts hcounts using h
  obtain ⟨full, hfull, hbar⟩ := exists_barText hm
  let text (stat : Stat) : String := groupedNat (counts stat)
  let cells := cellsAfter (text .filesChanged) (text .commits) (text .linesChanged)
    (text .linesAdded) (text .linesDeleted) (markedBar full)
  let line := rowOf (padEnd 20 (shorten entry.author.shortName 20)) (text .filesChanged)
    (text .commits) (text .linesChanged) (text .linesAdded) (text .linesDeleted) (markedBar full)
  have hline : line.toList = labelCell entry.author.shortName.toList ++ cells := by
    rw [← toList_padEnd_shorten]
    exact toList_rowOf _ _ _ _ _ _ _
  have hlength := length_labelCell entry.author.shortName.toList
  have hdrop : line.toList.drop 20 = cells := by
    rw [hline, ← hlength, List.drop_left]
  have hsolid (stat : Stat) : IsSolid (text stat).toList := isSolid_groupedNat (counts stat)
  have hnone (stat : Stat) : '\n' ∉ (text stat).toList := fun hc =>
    absurd (printable_groupedNat hc).1 (by decide)
  have hnobar : '\n' ∉ (markedBar full).toList := fun hc =>
    absurd (printable_markedBar hc).1 (by decide)
  refine ⟨line, ?_, ?_, ?_, ?_⟩
  · rw [rowText, hn]
    simp only [hcounts, wholeText_natCast, hbar, Bind.bind, Except.bind]
    rfl
  · rw [hline, ← hlength, List.take_left]
  · refine ⟨Stat.all.map fun stat => (text stat).toList, full, hfull, ?_, ?_⟩
    · rw [hdrop]
      exact words_cellsAfter (hsolid _) (hsolid _) (hsolid _) (hsolid _) (hsolid _)
        (isSolid_markedBar full)
    · rw [List.forall₂_map_right_iff, List.forall₂_same]
      intro stat _
      rw [hcounts stat]
      exact showsWhole_groupedNat (counts stat)
  · rw [hdrop]
    apply not_mem_cellsAfter
    simp only [List.forall_mem_cons, hnone, hnobar]
    simp

end Row

end Authorship.Activity
