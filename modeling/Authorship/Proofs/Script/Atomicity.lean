import Authorship.Proofs.Script.Execution
import Authorship.Proofs.Script.Figures

namespace Authorship.Script

open Authorship.Drawing Authorship.Activity

def Grants (backend : Backend) : Prop :=
  ∀ attempts files request, ∃ after, backend.answer attempts files request = .ok after

section Deeds

variable {setup : Setup}

theorem Work.exists_call (hgrants : Grants setup.backend) (request : Call) (work : Work) :
    ∃ after, Work.call setup request work = .ok () after := by
  obtain ⟨files, ha⟩ := hgrants work.attempts work.files request
  exact ⟨_, by rw [Work.call, ha]⟩

theorem Work.exists_close (hgrants : Grants setup.backend) (figure? : Option Figure) (work : Work) :
    ∃ after, Work.close setup figure? work = .ok () after := by
  cases figure? with
  | none => exact ⟨work, rfl⟩
  | some figure => exact Work.exists_call hgrants (.close figure) work

theorem Deed.exists_act (hgrants : Grants setup.backend) (deed : Deed) (work : Work) :
    ∃ after, deed.act setup work = .ok () after := by
  cases deed with
  | set change => exact ⟨_, rfl⟩
  | call request => exact Work.exists_call hgrants request work
  | replace creation target =>
    obtain ⟨made, hmade⟩ := Work.exists_call hgrants creation work
    obtain ⟨closed, hclosed⟩ := Work.exists_close hgrants work.state.target.figure? made
    refine ⟨{ closed with state.target := target (nextFigure (granted work.attempts)) }, ?_⟩
    simp only [Deed.act, Work.replace, Bind.bind, EStateM.bind, hmade, hclosed]
    rfl

theorem Block.of_act_error (hgrants : Grants setup.backend) {length : Nat} {block : Block}
    {work after : Work} {failure : Failure} (h : block.act setup length work = .error failure after) :
    ∃ directive, block.directive? = some directive ∧
      block.decision setup length work directive = .error failure ∧ after = work := by
  unfold Block.act at h
  cases hd : block.directive? with
  | none =>
    rw [hd] at h
    cases h
  | some directive =>
    rw [hd] at h
    refine ⟨directive, rfl, ?_⟩
    dsimp only at h
    cases hdecision : block.decision setup length work directive with
    | ok deed =>
      obtain ⟨done, hdone⟩ := deed.exists_act hgrants work
      rw [hdecision] at h
      have hfollow : deed.act setup work = .error failure after := h
      rw [hdone] at hfollow
      cases hfollow
    | error other =>
      rw [hdecision] at h
      cases h
      exact ⟨rfl, rfl⟩

end Deeds

theorem ne_endOfScript_of_readNumber {text : String} {complaint : Complaint}
    (h : readNumber text = .error complaint) : complaint ≠ .endOfScript := by
  unfold readNumber at h
  split at h <;> cases h <;> exact Complaint.noConfusion

theorem ne_endOfScript_of_readWhole {text : String} {complaint : Complaint}
    (h : readWhole text = .error complaint) : complaint ≠ .endOfScript := by
  obtain ⟨rfl, -⟩ := readWhole_eq_error h
  exact Complaint.noConfusion

theorem ne_endOfScript_of_readPair {mark form text : String} {c : Char} {complaint : Complaint}
    (hmark : mark.toList = [c]) (h : readPair mark form text = .error complaint) :
    complaint ≠ .endOfScript := by
  cases mistakes_of_readPair hmark h <;> exact Complaint.noConfusion

theorem ne_endOfScript_of_chosenStats {name : String} {keys : List String} {complaint : Complaint}
    (h : chosenStats name keys = .error complaint) : complaint ≠ .endOfScript := by
  cases keys with
  | nil => cases h
  | cons first rest =>
    simp only [chosenStats] at h
    generalize first :: rest = keys at h
    induction keys generalizing complaint with
    | nil => cases h
    | cons key keys ih =>
      rw [List.mapM_cons] at h
      cases hkey : Stat.ofKey? key with
      | none =>
        rw [hkey] at h
        cases h
        exact Complaint.noConfusion
      | some stat =>
        simp only [hkey, Bind.bind, Except.bind] at h
        split at h
        · rename_i hrest
          cases h
          exact ih hrest
        · cases h

/-- A result whose complaint, if it is one, is about the line of a block, or about the end of the
script if a list is asked for that the script does not end. -/
def Block.Located {α : Type} (length : Nat) (block : Block) (asksList : Bool)
    (result : Except Failure α) : Prop :=
  ∀ fault, result = .error (.script fault) →
    (fault.complaint ≠ .endOfScript ∧ fault.line = block.line) ∨
    (fault.complaint = .endOfScript ∧ fault.line = length ∧ asksList = true ∧ block.items = none)

namespace Block.Located

variable {α β : Type} {setup : Setup} {length : Nat} {block : Block} {asksList : Bool}

theorem ok (value : α) : block.Located length asksList (.ok value) := by
  intro fault h
  cases h

theorem of_not_script {result : Except Failure α} (h : ∀ fault, result ≠ .error (.script fault)) :
    block.Located length asksList result :=
  fun fault hr => absurd hr (h fault)

theorem bind {result : Except Failure α} {next : α → Except Failure β}
    (hresult : block.Located length asksList result)
    (hnext : ∀ value, block.Located length asksList (next value)) :
    block.Located length asksList (result >>= next) := by
  intro fault h
  cases result with
  | ok value => exact hnext value fault h
  | error failure =>
    cases h
    exact hresult fault rfl

theorem refuse {complaint : Complaint} (h : complaint ≠ .endOfScript) :
    block.Located length asksList (block.refuse setup complaint : Except Failure α) := by
  intro fault hr
  cases hr
  exact .inl ⟨h, rfl⟩

theorem argument (place : Nat) :
    block.Located length asksList (block.argument setup place) := by
  unfold Block.argument
  split
  · exact ok _
  · exact refuse Complaint.noConfusion

theorem orRefuse {result : Except Complaint α}
    (h : ∀ complaint, result = .error complaint → complaint ≠ .endOfScript) :
    block.Located length asksList (block.orRefuse setup result) := by
  cases result with
  | ok value => exact ok value
  | error complaint => exact refuse (h complaint rfl)

theorem listed : block.Located length true (block.listed setup length) := by
  intro fault h
  unfold Block.listed at h
  split at h
  · cases h
  · rename_i hitems
    cases h
    exact .inr ⟨rfl, rfl, rfl, hitems⟩

theorem mapError {ε : Type} {result : Except ε α} {wrap : ε → Failure}
    (h : ∀ other fault, wrap other ≠ .script fault) :
    block.Located length asksList (result.mapError wrap) := by
  apply of_not_script
  intro fault hr
  cases result with
  | ok value => cases hr
  | error other => exact h other fault (Except.error.inj hr)

theorem resolvePath (text : String) :
    block.Located length asksList (Script.resolvePath setup text) := by
  unfold Script.resolvePath
  apply of_not_script
  intro fault h
  split at h <;> cases h

theorem loading (work : Work) : block.Located length asksList (block.loading setup work) := by
  apply (argument 1).bind
  intro text
  apply (resolvePath text).bind
  intro path
  apply (mapError (fun _ _ => Failure.noConfusion)).bind
  intro isFile
  split
  · exact refuse Complaint.noConfusion
  · apply (mapError (fun _ _ => Failure.noConfusion)).bind
    intro content
    apply (mapError (fun _ _ => Failure.noConfusion)).bind
    intro history
    exact ok _

theorem declaring : block.Located length asksList (block.declaring setup) := by
  apply (argument 1).bind
  intro text
  apply (orRefuse fun _ => ne_endOfScript_of_readPair (c := 'x') rfl).bind
  rintro ⟨width, height⟩
  dsimp only
  split
  · apply (argument 2).bind
    intro text
    apply (orRefuse fun _ => ne_endOfScript_of_readPair (c := '-') rfl).bind
    rintro ⟨rows, cols⟩
    exact ok _
  · exact ok _

theorem drawing (state : State) (place : Nat) (figure : Figure) (cell : Option Cell) :
    block.Located length asksList (block.drawing setup state place figure cell) := by
  apply (argument place).bind
  intro kind
  split
  · apply (argument (place + 1)).bind
    intro name
    split
    · exact refuse Complaint.noConfusion
    · split
      · exact refuse Complaint.noConfusion
      · apply (mapError (fun _ _ => Failure.noConfusion)).bind
        intro chart
        apply (orRefuse fun _ => ne_endOfScript_of_chosenStats).bind
        intro stats
        exact ok _
  · exact refuse Complaint.noConfusion

theorem drawingCell (state : State) :
    block.Located length asksList (block.drawingCell setup state) := by
  apply (argument 1).bind
  intro text
  apply (orRefuse fun _ => ne_endOfScript_of_readPair (c := '-') rfl).bind
  rintro ⟨row, col⟩
  dsimp only
  split
  · split
    · exact drawing state 2 _ _
    · exact refuse Complaint.noConfusion
  · exact refuse Complaint.noConfusion

theorem drawingWhole (state : State) :
    block.Located length asksList (block.drawingWhole setup state) := by
  unfold Block.drawingWhole
  split
  · exact drawing state 1 _ none
  · exact refuse Complaint.noConfusion

theorem saving (state : State) : block.Located length asksList (block.saving setup state) := by
  apply (argument 1).bind
  intro text
  apply (resolvePath text).bind
  intro path
  split
  · exact refuse Complaint.noConfusion
  · exact ok _

theorem decision (work : Work) (directive : Directive) :
    block.Located length directive.hasList (block.decision setup length work directive) := by
  cases directive with
  | aliasList => exact (argument 1).bind fun _ => listed.bind fun _ => ok _
  | load => exact loading work
  | days =>
    exact (argument 1).bind fun _ => (orRefuse fun _ => ne_endOfScript_of_readNumber).bind fun _ =>
      ok _
  | skipCommit =>
    exact (argument 1).bind fun _ => (orRefuse fun _ => ne_endOfScript_of_readWhole).bind fun _ =>
      ok _
  | includeList => exact listed.bind fun _ => ok _
  | includeClear => exact ok _
  | excludeList => exact listed.bind fun _ => ok _
  | excludeClear => exact ok _
  | excludeRemove => exact listed.bind fun _ => ok _
  | figure => exact declaring
  | subplot => exact drawingCell work.state
  | plot => exact drawingWhole work.state
  | save => exact saving work.state
  | title => exact (argument 1).bind fun _ => ok _

end Block.Located

theorem exists_line_of_mem_blocksAfter {read : Nat} {lines : List String} {block : Block}
    (h : block ∈ blocksAfter read lines) :
    ∃ passed line rest, lines.drop passed = line :: rest ∧ isCommandLine line = true ∧
      block = ⟨read + passed + 1, tokens line, itemsBefore rest⟩ := by
  induction lines generalizing read with
  | nil => cases h
  | cons first lines ih =>
    have hlater (h : block ∈ blocksAfter (read + 1) lines) :
        ∃ passed line rest, (first :: lines).drop passed = line :: rest ∧
          isCommandLine line = true ∧
          block = ⟨read + passed + 1, tokens line, itemsBefore rest⟩ := by
      obtain ⟨passed, line, rest, hdrop, hline, rfl⟩ := ih h
      refine ⟨passed + 1, line, rest, hdrop, hline, ?_⟩
      rw [Nat.add_right_comm read 1 passed, Nat.add_assoc read passed 1]
    rw [blocksAfter] at h
    split at h
    · rename_i hfirst
      rcases List.mem_cons.mp h with rfl | h
      · exact ⟨0, first, lines, rfl, hfirst, rfl⟩
      · exact hlater h
    · exact hlater h

theorem getElem?_of_mem_blocks {lines : List String} {block : Block} (h : block ∈ blocks lines) :
    ∃ line, 1 ≤ block.line ∧ lines[block.line - 1]? = some line ∧ isCommandLine line = true ∧
      block.tokens = tokens line := by
  obtain ⟨passed, line, rest, hdrop, hline, rfl⟩ := exists_line_of_mem_blocksAfter h
  refine ⟨line, Nat.le_add_left 1 _, ?_, hline, rfl⟩
  rw [Nat.zero_add, Nat.add_sub_cancel, ← List.head?_drop, hdrop, List.head?_cons]

variable {setup : Setup} {script : List String}

theorem Ran.exists_last {session after : Session} {executions : List Execution} {failure : Failure}
    (h : Ran setup script session executions (.error failure after)) :
    ∃ done last, executions = done ++ [last] ∧ (∀ execution ∈ done, execution.isDone = true) ∧
      last.IsOf setup script ∧ last.result = .error failure after := by
  generalize hresult : EStateM.Result.error failure after = result at h
  induction h with
  | ended => cases hresult
  | failed _ he hr =>
    cases hresult
    exact ⟨[], _, rfl, by simp, he, hr⟩
  | @went session left execution rest result _ _ hr _ ih =>
    obtain ⟨done, last, hrest, hdone, hlast, hfailed⟩ := ih hresult
    refine ⟨execution :: done, last, by rw [hrest]; rfl, ?_, hlast, hfailed⟩
    intro other ho
    rcases List.mem_cons.mp ho with rfl | ho
    · rw [Execution.isDone, hr]
    · exact hdone other ho

/-- A command that failed without having done anything, with the place of its complaint. -/
structure Execution.Refuses (setup : Setup) (script : List String) (execution : Execution)
    (directive : Directive) (failure : Failure) (after : Session) : Prop where
  isOf : execution.IsOf setup script
  decided : execution.block.directive? = some directive
  failed : directive.run setup execution.found = .error failure after
  state : after.state = execution.found.state
  attempts : after.attempts = execution.found.attempts
  files : after.files = execution.found.files
  line : ∃ line, 1 ≤ execution.block.line ∧ script[execution.block.line - 1]? = some line ∧
    isCommandLine line = true ∧ execution.block.tokens = tokens line
  complaint : ∀ fault, failure = .script fault →
    (fault.complaint ≠ .endOfScript ∧ fault.line = execution.block.line) ∨
    (fault.complaint = .endOfScript ∧ fault.line = script.length ∧ directive.hasList = true ∧
      execution.block.items = none)

theorem Execution.IsOf.refuses (hgrants : Grants setup.backend) {execution : Execution}
    (h : execution.IsOf setup script) {failure : Failure} {after : Session}
    (hr : execution.result = .error failure after) :
    ∃ directive, execution.Refuses setup script directive failure after := by
  have hwork : execution.block.act setup script.length execution.found.work =
      .error failure after.work := by rw [← h.work, hr]; rfl
  obtain ⟨directive, hd, hdecision, hsame⟩ := Block.of_act_error hgrants hwork
  refine ⟨directive, h, hd, ?_, congrArg Work.state hsame, congrArg Work.attempts hsame,
    congrArg Work.files hsame, getElem?_of_mem_blocks h.mem_blocks, ?_⟩
  · have hdispatch := h.dispatch
    rw [Block.dispatch, hd, hr] at hdispatch
    exact hdispatch.symm
  · rintro fault rfl
    exact Block.Located.decision execution.found.work directive fault hdecision

/-- If a script fails, its last command has failed and has left everything as it was when it was
dispatched, which is as the commands before it had left it; these were done. -/
theorem refuses_of_interpret_error {setup : Setup} (hgrants : Grants setup.backend)
    {lines : List String} {session after : Session} {failure : Failure}
    (h : interpret setup lines session = .error failure after) :
    ∃ done last directive, executions setup lines session = done ++ [last] ∧
      Ran setup lines session (done ++ [last]) (.error failure after) ∧
      (∀ execution ∈ done, execution.isDone = true) ∧
      last.Refuses setup lines directive failure after := by
  have hran := ran_executions setup lines session
  rw [h] at hran
  obtain ⟨done, last, he, hdone, hlast, hfailed⟩ := hran.exists_last
  obtain ⟨directive, hrefuses⟩ := hlast.refuses hgrants hfailed
  exact ⟨done, last, directive, he, he ▸ hran, hdone, hrefuses⟩

theorem refuses_of_interpret_error_gridScript :
    Grants gridSetup.backend ∧ ∃ fault after,
      interpret gridSetup gridScript (.start gridSetup gridFiles none (some 0)) =
        .error (.script fault) after ∧ fault.line = 4 ∧
      ∃ done last directive,
        executions gridSetup gridScript (.start gridSetup gridFiles none (some 0)) =
          done ++ [last] ∧
        Ran gridSetup gridScript (.start gridSetup gridFiles none (some 0)) (done ++ [last])
          (.error (.script fault) after) ∧
        (∀ execution ∈ done, execution.isDone = true) ∧
        last.Refuses gridSetup gridScript directive (.script fault) after := by
  have hgrants : Grants gridSetup.backend := fun _ files _ => ⟨files, rfl⟩
  refine ⟨hgrants, ?_⟩
  have hfails : (match workOf
      (interpret gridSetup gridScript (.start gridSetup gridFiles none (some 0))) with
      | .error (.script fault) _ => fault.line == 4
      | _ => false) = true := by
    rw [workOf_interpret]
    decide +kernel
  cases hr : interpret gridSetup gridScript (.start gridSetup gridFiles none (some 0)) with
  | ok value after =>
    rw [hr] at hfails
    cases hfails
  | error failure after =>
    rw [hr] at hfails
    cases failure with
    | script fault =>
      exact ⟨fault, after, rfl, beq_iff_eq.mp hfails, refuses_of_interpret_error hgrants hr⟩
    | _ => cases hfails

end Authorship.Script
