import Authorship.Proofs.Script.Recount

namespace Authorship.Script

/-- A line without tokens, or a comment. -/
def isInert (line : String) : Bool :=
  (tokens line).isEmpty || (tokens line).head?.any fun token => token.toList.head? == some '#'

theorem isInert_eq (cursor : Cursor) {line : String} (h : cursor.tokens = tokens line) :
    isInert line = (cursor.isBlank || cursor.isComment) := by
  rw [isInert, Cursor.isBlank, Cursor.isComment, Cursor.startsWith, h]

section Inert

variable {line : String}

theorem passed_of_isInert (h : isInert line = true) :
    isCommandLine line = false ∧ item? line = none := by
  let cursor : Cursor := ⟨[], "", 0, tokens line, 0, false⟩
  have hpassed : (cursor.isBlank || cursor.isComment) = true := by
    rwa [← isInert_eq cursor rfl]
  exact Cursor.passed_of_blank_or_comment rfl hpassed

theorem itemsBefore_insert (before after : List String) (h : isInert line = true) :
    itemsBefore (before ++ line :: after) = itemsBefore (before ++ after) := by
  obtain ⟨hcommand, hitem⟩ := passed_of_isInert h
  induction before with
  | nil =>
    rw [List.nil_append, List.nil_append, itemsBefore_cons, hcommand, if_neg Bool.false_ne_true,
      hitem]
    exact Option.map_id'
  | cons first rest ih =>
    rw [List.cons_append, List.cons_append, itemsBefore_cons, itemsBefore_cons, ih]

/-- A line is put into a script after the given number of lines. -/
def Recount.insertedAfter (place : Nat) : Recount :=
  ⟨fun line => if place < line then line + 1 else line, (· + 1)⟩

theorem Recount.line_insertedAfter_of_lt {place number : Nat} (h : place < number) :
    (insertedAfter place).line number = number + 1 :=
  if_pos h

theorem Recount.line_insertedAfter_of_le {place number : Nat} (h : number ≤ place) :
    (insertedAfter place).line number = number :=
  if_neg (Nat.not_lt.mpr h)

theorem blocksAfter_insert (read : Nat) (before after : List String) (h : isInert line = true) :
    blocksAfter read (before ++ line :: after) =
      (blocksAfter read (before ++ after)).map
        (Block.recounted (.insertedAfter (read + before.length))) := by
  induction before generalizing read with
  | nil =>
    rw [List.nil_append, List.nil_append, blocksAfter, (passed_of_isInert h).1,
      if_neg Bool.false_ne_true]
    apply blocksAfter_recounted
    intro passed
    have hlater : read + 0 < read + passed + 1 := by omega
    rw [List.length_nil, Recount.line_insertedAfter_of_lt hlater]
    omega
  | cons first rest ih =>
    have hplace : read + 1 + rest.length = read + (first :: rest).length := by
      rw [List.length_cons]
      omega
    have hfirst : read + 1 ≤ read + (first :: rest).length := by omega
    rw [List.cons_append, List.cons_append, blocksAfter, blocksAfter, ih (read + 1), hplace,
      itemsBefore_insert rest after h]
    split
    · rw [List.map_cons, Block.recounted, Recount.line_insertedAfter_of_le hfirst]
    · rfl

/-- An inert line in a script changes nothing but the numbers of the lines that it comes before,
and the length of the script. -/
theorem interpret_insert (setup : Setup) (before after : List String) (session : Session)
    (h : isInert line = true) :
    FollowsRecounted (.insertedAfter before.length) session
      (interpret setup (before ++ after) session)
      (interpret setup (before ++ line :: after) session) := by
  apply interpret_recounted
  · have hblocks := blocksAfter_insert 0 before after h
    rw [Nat.zero_add] at hblocks
    exact hblocks
  · rw [List.length_append, List.length_append, List.length_cons]
    rfl

end Inert

theorem interpret_insert_commentInList :
    isInert "  # all of them" = true ∧
      FollowsRecounted (.insertedAfter 2) (.start gridSetup gridFiles none (some 0))
        (interpret gridSetup ([":include", "*.py"] ++ [":days many"])
          (.start gridSetup gridFiles none (some 0)))
        (interpret gridSetup ([":include", "*.py"] ++ "  # all of them" :: [":days many"])
          (.start gridSetup gridFiles none (some 0))) ∧
      failureOf? (interpret gridSetup ([":include", "*.py"] ++ [":days many"])
        (.start gridSetup gridFiles none (some 0))) = some (.script ⟨3, .notNumber "many", ""⟩) ∧
      failureOf? (interpret gridSetup
          ([":include", "*.py"] ++ "  # all of them" :: [":days many"])
        (.start gridSetup gridFiles none (some 0))) =
          some (.script ⟨4, .notNumber "many", ""⟩) := by
  have hinert : isInert "  # all of them" = true := by decide
  refine ⟨hinert, interpret_insert gridSetup [":include", "*.py"] [":days many"] _ hinert, ?_, ?_⟩
  · rw [← failureOf?_workOf, workOf_interpret]
    rfl
  · rw [← failureOf?_workOf, workOf_interpret]
    rfl

end Authorship.Script
