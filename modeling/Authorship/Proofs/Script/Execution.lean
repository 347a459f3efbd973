import Authorship.Proofs.Script.Deed

namespace Authorship.Script

open Authorship.Drawing Authorship.Script.Action

/-- A command with the session at its dispatch and what came of it. -/
structure Execution where
  block : Block
  found : Session
  result : EStateM.Result Failure Session Unit

namespace Execution

def left (execution : Execution) : Session :=
  match execution.result with
  | .ok _ session => session
  | .error _ session => session

def isDone (execution : Execution) : Bool :=
  match execution.result with
  | .ok _ _ => true
  | .error _ _ => false

end Execution

def Cursor.block (cursor : Cursor) : Block :=
  ⟨cursor.lineNumber, cursor.tokens, itemsBefore cursor.ahead⟩

def executionOf (session : Session) (cursor : Cursor)
    (result : EStateM.Result Failure Session Unit) : List Execution :=
  (dispatchOf cursor).map fun start => ⟨start.block, { session with cursor := start }, result⟩

def executionsFrom (setup : Setup) (session : Session) : List Execution :=
  match _next : session.cursor.nextLine with
  | none => []
  | some cursor =>
    match _done : runLine setup { session with cursor := cursor } with
    | .error failure after => executionOf session cursor (.error failure after)
    | .ok () after => executionOf session cursor (.ok () after) ++ executionsFrom setup after
termination_by session.cursor.pending
decreasing_by
  have delivered := Cursor.pending_nextLine _next
  have settled := Settles.runLine setup { session with cursor := cursor }
  simp only [Action.final, _done] at settled
  omega

/-- The executions of a script, up to the first one that fails. -/
def executions (setup : Setup) (lines : List String) (session : Session) : List Execution :=
  executionsFrom setup { session with cursor := .ofLines lines setup.source }

/-- What is done with the command of a block at its dispatch. -/
def Block.dispatch (setup : Setup) (block : Block) : Action Unit :=
  match block.directive? with
  | some directive => directive.run setup
  | none => note (.unknownDirective (block.tokens.headD "") block.line)

/-- A block of a script was executed, with the cursor after its first token. -/
structure Execution.IsOf (setup : Setup) (script : List String) (execution : Execution) :
    Prop where
  mem_blocks : execution.block ∈ blocks script
  cursor : execution.found.cursor =
    execution.block.cursor setup.source (script.drop execution.block.line)
  dispatch : execution.result = execution.block.dispatch setup execution.found
  work : workOf execution.result =
    execution.block.act setup script.length execution.found.work

/-- Executions that lead from a session to the result of a run. -/
inductive Ran (setup : Setup) (script : List String) :
    Session → List Execution → EStateM.Result Failure Session Unit → Prop
  | ended {session after : Session} (hw : after.work = session.work) :
      Ran setup script session [] (.ok () after)
  | failed {session after : Session} {execution : Execution} {failure : Failure}
      (hw : execution.found.work = session.work) (he : execution.IsOf setup script)
      (hr : execution.result = .error failure after) :
      Ran setup script session [execution] (.error failure after)
  | went {session after : Session} {execution : Execution} {rest : List Execution}
      {result : EStateM.Result Failure Session Unit}
      (hw : execution.found.work = session.work) (he : execution.IsOf setup script)
      (hr : execution.result = .ok () after) (hrest : Ran setup script after rest result) :
      Ran setup script session (execution :: rest) result

variable {setup : Setup} {script : List String}

theorem Ran.of_work_eq {session other : Session} {executions : List Execution}
    {result : EStateM.Result Failure Session Unit} (h : Ran setup script session executions result)
    (hw : session.work = other.work) : Ran setup script other executions result := by
  cases h with
  | ended ha => exact .ended (ha.trans hw)
  | failed hf he hr => exact .failed (hf.trans hw) he hr
  | went hf he hr hrest => exact .went (hf.trans hw) he hr hrest

theorem mem_blocksAfter {lines rest : List String} {line : String} (read : Nat) {passed : Nat}
    (h : lines.drop passed = line :: rest) (hl : isCommandLine line = true) :
    ⟨read + passed + 1, tokens line, itemsBefore rest⟩ ∈ blocksAfter read lines := by
  induction lines generalizing read passed with
  | nil => simp at h
  | cons first lines ih =>
    cases passed with
    | zero =>
      cases h
      rw [blocksAfter, if_pos hl]
      exact List.mem_cons_self
    | succ passed =>
      rw [List.drop_succ_cons] at h
      have hm := ih (read + 1) h
      rw [Nat.add_right_comm read 1 passed] at hm
      rw [blocksAfter]
      split
      · exact List.mem_cons_of_mem _ hm
      · exact hm

theorem executionOf_of_not_command {session : Session} {cursor : Cursor}
    {result : EStateM.Result Failure Session Unit} (h : cursor.isCommand = false) :
    executionOf session cursor result = [] := by
  have hn : dispatchOf cursor = [] := if_neg (Bool.eq_false_iff.mp h)
  rw [executionOf, hn, List.map_nil]

theorem isOf_of_runLine {read : Nat} {rest : List String} {line : String} {session : Session}
    {result : EStateM.Result Failure Session Unit} (hl : isCommandLine line = true)
    (hscript : script.drop read = line :: rest)
    (hlength : read + (line :: rest).length = script.length)
    (hr : runLine setup
      { session with cursor := ⟨rest, setup.source, read + 1, tokens line, 0, false⟩ } = result) :
    ∃ execution : Execution,
      executionOf session ⟨rest, setup.source, read + 1, tokens line, 0, false⟩ result =
        [execution] ∧
      execution.found.work = session.work ∧ execution.result = result ∧
      execution.IsOf setup script := by
  obtain ⟨hdrop, hlast⟩ := drop_succ hscript hlength
  have hcommand :
      Cursor.isCommand ⟨rest, setup.source, read + 1, tokens line, 0, false⟩ = true := hl
  let block : Block := ⟨read + 1, tokens line, itemsBefore rest⟩
  let found : Session := { session with cursor := block.cursor setup.source rest }
  refine ⟨⟨block, found, result⟩, ?_, rfl, rfl, ?_, ?_, ?_, ?_⟩
  · rw [executionOf, dispatchOf_command hl]
    rfl
  · have hm := mem_blocksAfter 0 hscript hl
    rwa [Nat.zero_add] at hm
  · exact congrArg (block.cursor setup.source) hdrop.symm
  · dsimp only
    rw [← hr, runLine_of_command hcommand]
    obtain ⟨token, arguments, ht⟩ : ∃ token arguments, tokens line = token :: arguments := by
      cases ht : tokens line with
      | nil => simp [isCommandLine, ht] at hl
      | cons token arguments => exact ⟨token, arguments, rfl⟩
    simp only [runCommand, Bind.bind, EStateM.bind, Action.consume, Cursor.consume, Block.dispatch,
      Block.directive?, found, block, Block.cursor, ht, List.getElem?_cons_zero, List.headD_cons]
    cases Directive.ofToken? token <;> rfl
  · obtain ⟨hsame, -⟩ := follows_block setup read rest hl (rfl : session.offScript = _)
    have hwork := congrArg workOf hsame
    rw [workOf_offScript, workOf_offScript, workOf_run, hlast, hr] at hwork
    exact hwork

/-- From any place in a script on, the executions are what the run consists of. -/
theorem ran_executionsFrom {read : Nat} {lines : List String} {session : Session}
    (hscript : script.drop read = lines) (hlength : read + lines.length = script.length)
    (hdelivers : session.cursor.Delivers setup.source read lines) :
    Ran setup script session (executionsFrom setup session) (runFrom setup session) := by
  have hin : session.InScript setup script read lines := ⟨hscript, hlength, hdelivers⟩
  clear hscript hlength hdelivers
  fun_induction executionsFrom setup session generalizing read lines with
  | case1 session h =>
    rw [runFrom_of_end h]
    exact .ended rfl
  | case2 session cursor h failure after hdone =>
    rw [runFrom_of_error h hdone]
    obtain ⟨line, rest, rfl, rfl, -⟩ := hin.exists_cons h
    have hl := isCommandLine_of_error hdone
    obtain ⟨execution, ho, hw, hr, he⟩ := isOf_of_runLine hl hin.drop_eq hin.length_eq hdone
    rw [ho]
    exact .failed hw he hr
  | case3 session cursor h after hdone ih =>
    rw [runFrom_of_ok h hdone]
    obtain ⟨line, rest, rfl, rfl, -⟩ := hin.exists_cons h
    obtain ⟨upto, remaining, hafter, -⟩ := hin.exists_after hdone
    cases hl : isCommandLine line with
    | false =>
      rw [executionOf_of_not_command (not_isCommand hl), List.nil_append]
      rw [runLine_of_not_command (not_isCommand hl)] at hdone
      cases hdone
      exact (ih hafter).of_work_eq rfl
    | true =>
      obtain ⟨execution, ho, hw, hr, he⟩ := isOf_of_runLine hl hin.drop_eq hin.length_eq hdone
      rw [ho]
      exact .went hw he hr (ih hafter)

theorem ran_executions (setup : Setup) (lines : List String) (session : Session) :
    Ran setup lines session (executions setup lines session) (interpret setup lines session) := by
  have hdelivers : (Cursor.ofLines lines setup.source).Delivers setup.source 0 lines :=
    ⟨rfl, .inl ⟨rfl, rfl, rfl⟩⟩
  exact (ran_executionsFrom List.drop_zero (Nat.zero_add lines.length) hdelivers).of_work_eq rfl

end Authorship.Script
