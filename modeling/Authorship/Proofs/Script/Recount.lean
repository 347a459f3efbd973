import Authorship.Proofs.Script.Place

namespace Authorship

/-- How the lines of a script are counted when it is part of another one, or has other lines in
it. -/
structure Script.Recount where
  line : Nat → Nat
  /-- The length of the script, which the complaint about its end tells. -/
  length : Nat → Nat

def Failure.recounted (recount : Script.Recount) : Failure → Failure
  | .script fault =>
    .script { fault with
      line := if fault.complaint = .endOfScript then recount.length fault.line
        else recount.line fault.line }
  | failure => failure

theorem Failure.inLine_recount (recount : Script.Recount) (line length : Nat) (failure : Failure) :
    failure.inLine (recount.line line) (recount.length length) =
      (failure.inLine line length).recounted recount := by
  cases failure with
  | script fault =>
    simp only [Failure.inLine, Failure.recounted]
    split <;> rfl
  | _ => rfl

namespace Script

open Authorship.Drawing Authorship.Script.Action

def Note.recounted (recount : Recount) : Note → Note
  | .unknownDirective token line => .unknownDirective token (recount.line line)
  | note => note

theorem Note.inLine_recount (recount : Recount) (line : Nat) (note : Note) :
    note.inLine (recount.line line) = (note.inLine line).recounted recount := by
  cases note <;> rfl

def Block.recounted (recount : Recount) (block : Block) : Block :=
  { block with line := recount.line block.line }

theorem blocksAfter_recounted (recount : Recount) {read read' : Nat} (script : List String)
    (h : ∀ passed, recount.line (read + passed + 1) = read' + passed + 1) :
    blocksAfter read' script = (blocksAfter read script).map (Block.recounted recount) := by
  induction script generalizing read read' with
  | nil => rfl
  | cons line rest ih =>
    have hrest : ∀ passed, recount.line (read + 1 + passed + 1) = read' + 1 + passed + 1 := by
      intro passed
      have hpassed : read + 1 + passed = read + (passed + 1) := by omega
      rw [hpassed, h]
      omega
    rw [blocksAfter, blocksAfter, ih hrest]
    split
    · simp only [List.map_cons, Block.recounted, h 0]
    · rfl

/-- Two sessions that went on from the same notes did the same, the second one in lines that are
counted anew. -/
def HappensRecounted (recount : Recount) (told : List Note) (session other : Session) : Prop :=
  other.work = session.work ∧
    ∃ made, session.notes = told ++ made ∧ other.notes = told ++ made.map (Note.recounted recount)

/-- Two results that went on from a session are the same, the second one in lines that are counted
anew. A failure that the backend refused a call with is the same in every line. -/
def FollowsRecounted (recount : Recount) (start : Session) :
    EStateM.Result Failure Session Unit → EStateM.Result Failure Session Unit → Prop
  | .ok _ session, .ok _ other => HappensRecounted recount start.notes session other
  | .error failure session, .error failure' other =>
    HappensRecounted recount start.notes session other ∧
      failure' = if refusals session.attempts = refusals start.attempts then
        failure.recounted recount else failure
  | _, _ => False

variable {recount : Recount} {start session other : Session}

theorem HappensRecounted.refl (recount : Recount) (session : Session) :
    HappensRecounted recount session.notes session session :=
  ⟨rfl, [], (List.append_nil _).symm, (List.append_nil _).symm⟩

theorem HappensRecounted.inLine {told : List Note}
    (h : HappensRecounted recount told session other) (line : Nat) (after : Session) :
    HappensRecounted recount told (after.inLine line session.notes)
      (after.inLine (recount.line line) other.notes) := by
  obtain ⟨-, made, hnotes, hother⟩ := h
  refine ⟨rfl, made ++ after.notes.map (Note.inLine line), ?_, ?_⟩
  · simp only [Session.inLine, hnotes, List.append_assoc]
  · have hmoved : after.notes.map (Note.inLine (recount.line line)) =
        (after.notes.map (Note.inLine line)).map (Note.recounted recount) := by
      rw [List.map_map]
      exact List.map_congr_left fun note _ => note.inLine_recount recount line
    simp only [Session.inLine, hother, hmoved, List.map_append, List.append_assoc]

theorem followsRecounted_run (setup : Setup) (length : Nat) (block : Block)
    (h : HappensRecounted recount start.notes session other)
    (hr : refusals session.attempts = refusals start.attempts) :
    FollowsRecounted recount start (block.run setup length session)
      ((block.recounted recount).run setup (recount.length length) other) := by
  have hattempts : refusals other.attempts = refusals session.attempts :=
    congrArg (fun work => refusals work.attempts) h.1
  rw [Block.run_eq_inLine, Block.run_eq_inLine setup _ (block.recounted recount), h.1, hattempts,
    hr]
  change FollowsRecounted recount start _ (inLine (recount.line block.line) _ _ _
    ({ block with line := 0 }.run setup 0 (.ofWork session.work)))
  cases { block with line := 0 }.run setup 0 (.ofWork session.work) with
  | ok value after => exact h.inLine block.line after
  | error failure after =>
    refine ⟨h.inLine block.line after, ?_⟩
    change (if refusals after.attempts = refusals start.attempts then _ else failure) =
      if refusals after.attempts = refusals start.attempts then _ else _
    split
    · exact failure.inLine_recount recount block.line length
    · rfl

theorem followsRecounted_forM (setup : Setup) (length : Nat) (blocks : List Block)
    (h : HappensRecounted recount start.notes session other)
    (hr : refusals session.attempts = refusals start.attempts) :
    FollowsRecounted recount start (blocks.forM (Block.run setup length) session)
      ((blocks.map (Block.recounted recount)).forM (Block.run setup (recount.length length))
        other) := by
  induction blocks generalizing session other with
  | nil => exact h
  | cons block rest ih =>
    have hblock := followsRecounted_run setup length block h hr
    rw [List.map_cons]
    cases hrun : block.run setup length session with
    | ok value after =>
      cases hmoved : (block.recounted recount).run setup (recount.length length) other with
      | ok value after' =>
        rw [hrun, hmoved] at hblock
        rw [forM_of_ok hrun, forM_of_ok hmoved]
        exact ih hblock ((Block.refusals_run hrun).trans hr)
      | error failure after' =>
        rw [hrun, hmoved] at hblock
        exact hblock.elim
    | error failure after =>
      cases hmoved : (block.recounted recount).run setup (recount.length length) other with
      | ok value after' =>
        rw [hrun, hmoved] at hblock
        exact hblock.elim
      | error failure' after' =>
        rw [hrun, hmoved] at hblock
        rw [forM_of_error hrun, forM_of_error hmoved]
        exact hblock

theorem HappensRecounted.of_offScript {told : List Note} {session' other' : Session}
    (h : HappensRecounted recount told session other) (hs : session.offScript = session'.offScript)
    (ho : other.offScript = other'.offScript) :
    HappensRecounted recount told session' other' := by
  obtain ⟨hwork, made, hnotes, hmoved⟩ := h
  have hswork : session.work = session'.work := (congrArg Session.work hs :)
  have howork : other.work = other'.work := (congrArg Session.work ho :)
  have hsnotes : session.notes = session'.notes := (congrArg Session.notes hs :)
  have honotes : other.notes = other'.notes := (congrArg Session.notes ho :)
  exact ⟨by rw [← howork, hwork, hswork], made, hsnotes ▸ hnotes, honotes ▸ hmoved⟩

theorem FollowsRecounted.of_offScript
    {result result' other other' : EStateM.Result Failure Session Unit}
    (h : FollowsRecounted recount start result other)
    (hresult : offScript result = offScript result') (hother : offScript other = offScript other') :
    FollowsRecounted recount start result' other' := by
  cases result with
  | ok value session =>
    cases other with
    | ok value other =>
      obtain ⟨session', rfl, hs⟩ := eq_ok_of_offScript hresult
      obtain ⟨other', rfl, ho⟩ := eq_ok_of_offScript hother
      exact HappensRecounted.of_offScript h hs ho
    | error failure other => exact h.elim
  | error failure session =>
    cases other with
    | ok value other => exact h.elim
    | error failure' other =>
      obtain ⟨session', rfl, hs⟩ := eq_error_of_offScript hresult
      obtain ⟨other', rfl, ho⟩ := eq_error_of_offScript hother
      have hattempts : session.attempts = session'.attempts := (congrArg Session.attempts hs :)
      exact ⟨h.1.of_offScript hs ho, hattempts ▸ h.2⟩

/-- Two scripts whose blocks are the same but for the numbers of their lines do the same. -/
theorem interpret_recounted (setup : Setup) {lines others : List String} (session : Session)
    (hblocks : blocks others = (blocks lines).map (Block.recounted recount))
    (hlength : others.length = recount.length lines.length) :
    FollowsRecounted recount session (interpret setup lines session)
      (interpret setup others session) := by
  have hforM := followsRecounted_forM setup lines.length (blocks lines) (.refl recount session) rfl
  rw [← hblocks, ← hlength] at hforM
  exact hforM.of_offScript (offScript_interpret setup lines session).symm
    (offScript_interpret setup others session).symm

end Script

end Authorship
