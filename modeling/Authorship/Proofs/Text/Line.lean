import Authorship.Proofs.Text.Piece
import Authorship.Text.Line

namespace Authorship.Text

structure IsOneLine (text : List Char) : Prop where
  lineFeed : '\n' ∉ text
  carriageReturn : '\r' ∉ text

/-- The lines, each ended by a line feed. -/
def joinLines (lines : List (List Char)) : List Char :=
  lines.flatMap (· ++ ['\n'])

theorem unifyNewlines_of_not_mem {text : List Char} (h : '\r' ∉ text) :
    unifyNewlines text = text := by
  fun_induction unifyNewlines text with
  | case1 => rfl
  | case2 rest => exact absurd List.mem_cons_self h
  | case3 rest => exact absurd List.mem_cons_self h
  | case4 c rest hc hr ih => rw [ih fun hm => h (List.mem_cons_of_mem c hm)]

theorem splitOnP_joinLines {lines : List (List Char)} (h : ∀ line ∈ lines, '\n' ∉ line) :
    (joinLines lines).splitOnP (· == '\n') = lines ++ [[]] := by
  induction lines with
  | nil => exact List.splitOnP_nil
  | cons line lines ih =>
    have hrest := ih fun other ho => h other (List.mem_cons_of_mem line ho)
    rw [joinLines] at hrest ⊢
    rw [List.flatMap_cons, List.append_assoc, List.singleton_append,
      splitOnP_append_cons_of_not_mem _ (h line List.mem_cons_self), hrest, List.cons_append]

theorem linesOf_joinLines {lines : List (List Char)} (h : ∀ line ∈ lines, '\n' ∉ line) :
    linesOf (joinLines lines) = lines := by
  simp [linesOf, linesBetween, splitOnP_joinLines h]

theorem not_mem_joinLines {lines : List (List Char)} (h : ∀ line ∈ lines, '\r' ∉ line) :
    '\r' ∉ joinLines lines := by
  intro hm
  obtain ⟨line, hl, hc⟩ := List.mem_flatMap.mp hm
  rcases List.mem_append.mp hc with hc | hc
  · exact h line hl hc
  · simp at hc

theorem linesOf_unifyNewlines_joinLines {lines : List (List Char)}
    (h : ∀ line ∈ lines, IsOneLine line) : linesOf (unifyNewlines (joinLines lines)) = lines := by
  rw [unifyNewlines_of_not_mem (not_mem_joinLines fun line hl => (h line hl).carriageReturn),
    linesOf_joinLines fun line hl => (h line hl).lineFeed]

theorem splitOnP_isVerticalBreak_joinLines (lines : List (List Char)) :
    (joinLines lines).splitOnP isVerticalBreak =
      lines.flatMap (·.splitOnP isVerticalBreak) ++ [[]] := by
  induction lines with
  | nil => exact List.splitOnP_nil
  | cons line lines ih =>
    have hbreak : isVerticalBreak '\n' = true := rfl
    rw [joinLines] at ih ⊢
    rw [List.flatMap_cons, List.append_assoc, List.singleton_append,
      List.splitOnP_append_cons _ _ hbreak, ih, List.flatMap_cons, List.append_assoc]

theorem scriptLines_unifyNewlines_joinLines {lines : List (List Char)}
    (h : ∀ line ∈ lines, IsOneLine line) :
    scriptLines (unifyNewlines (joinLines lines)) =
      lines.flatMap (·.splitOnP isVerticalBreak) := by
  rw [unifyNewlines_of_not_mem (not_mem_joinLines fun line hl => (h line hl).carriageReturn)]
  simp [scriptLines, linesBetween, splitOnP_isVerticalBreak_joinLines]

theorem splitOnP_intercalate_iff {lines : List (List Char)} (hne : lines ≠ []) :
    (['\n'].intercalate lines).splitOnP (· == '\n') = lines ↔ ∀ line ∈ lines, '\n' ∉ line := by
  constructor
  · intro h line hl hm
    simpa using forall_mem_of_splitOnP h line hl '\n' hm
  · intro h
    exact List.splitOn_intercalate '\n' h hne

end Authorship.Text
