import Authorship.Proofs.Activity.Completion
import Authorship.Proofs.Script.Atomicity

namespace Authorship.Script

open Authorship.Drawing Authorship.Activity

def chartFault? : Failure → Option Activity.Fault
  | .activity fault => some fault
  | .log _ | .script _ | .drawing _ | .files _ | .encoding _ => none

def SparesCharts (failure : Failure) : Prop :=
  chartFault? failure = none

def RefusesWith (backend : Backend) (failure : Failure) : Prop :=
  ∃ attempts files request, backend.answer attempts files request = .error failure

/-- If a failure is about a chart, it is what keeps the chart of these settings from being told. -/
def BlamesChart (setup : Setup) (state : State) (failure : Failure) : Prop :=
  ∀ fault, failure = .activity fault → ∃ history, state.history = some history ∧
    AuthorChart.ofHistory (selection setup state) history = .error fault

variable {setup : Setup} {length : Nat} {block : Block} {failure : Failure}

section Decisions

variable {α : Type} {place : Nat}

theorem sparesCharts_of_refuse {complaint : Complaint}
    (h : (block.refuse setup complaint : Except Failure α) = .error failure) :
    SparesCharts failure := by
  cases h
  rfl

theorem sparesCharts_of_argument (h : block.argument setup place = .error failure) :
    SparesCharts failure := by
  unfold Block.argument at h
  split at h
  · cases h
  · exact sparesCharts_of_refuse h

theorem sparesCharts_of_orRefuse {result : Except Complaint α}
    (h : block.orRefuse setup result = .error failure) : SparesCharts failure := by
  cases result with
  | ok value => cases h
  | error complaint => exact sparesCharts_of_refuse h

theorem sparesCharts_of_listed (h : block.listed setup length = .error failure) :
    SparesCharts failure := by
  unfold Block.listed at h
  split at h <;> cases h
  rfl

theorem sparesCharts_of_mapError {ε : Type} {result : Except ε α} {wrap : ε → Failure}
    (hw : ∀ fault, SparesCharts (wrap fault)) (h : result.mapError wrap = .error failure) :
    SparesCharts failure := by
  cases result with
  | ok value => cases h
  | error fault =>
    cases h
    exact hw fault

theorem sparesCharts_of_logError {result : Except Log.Fault α}
    (h : result.mapError Failure.log = .error failure) : SparesCharts failure := by
  apply sparesCharts_of_mapError _ h
  intro fault
  rfl

theorem sparesCharts_of_filesError {result : Except Files.Fault α}
    (h : result.mapError Failure.files = .error failure) : SparesCharts failure := by
  apply sparesCharts_of_mapError _ h
  intro fault
  rfl

theorem sparesCharts_of_resolvePath {text : String} (h : resolvePath setup text = .error failure) :
    SparesCharts failure := by
  unfold resolvePath at h
  split at h <;> cases h
  rfl

theorem sparesCharts_of_loading {work : Work} (h : block.loading setup work = .error failure) :
    SparesCharts failure := by
  apply allowed_of_bind h sparesCharts_of_argument
  intro text h
  apply allowed_of_bind h sparesCharts_of_resolvePath
  intro path h
  apply allowed_of_bind h sparesCharts_of_filesError
  intro isFile h
  split at h
  · exact sparesCharts_of_refuse h
  · apply allowed_of_bind h sparesCharts_of_filesError
    intro content h
    apply allowed_of_bind h sparesCharts_of_logError
    intro history h
    cases h

theorem sparesCharts_of_declaring (h : block.declaring setup = .error failure) :
    SparesCharts failure := by
  apply allowed_of_bind h sparesCharts_of_argument
  intro text h
  apply allowed_of_bind h sparesCharts_of_orRefuse
  intro size h
  dsimp only at h
  split at h
  · apply allowed_of_bind h sparesCharts_of_argument
    intro text h
    apply allowed_of_bind h sparesCharts_of_orRefuse
    intro shape h
    cases h
  · cases h

theorem sparesCharts_of_saving {state : State} (h : block.saving setup state = .error failure) :
    SparesCharts failure := by
  apply allowed_of_bind h sparesCharts_of_argument
  intro text h
  apply allowed_of_bind h sparesCharts_of_resolvePath
  intro path h
  split at h
  · exact sparesCharts_of_refuse h
  · cases h

theorem SparesCharts.blamesChart {state : State} (h : SparesCharts failure) :
    BlamesChart setup state failure := by
  rintro fault rfl
  cases h

theorem blamesChart_of_ofHistory {state : State} {history : History}
    (hh : state.history = some history)
    (h : (AuthorChart.ofHistory (selection setup state) history).mapError .activity =
      .error failure) : BlamesChart setup state failure := by
  cases hchart : AuthorChart.ofHistory (selection setup state) history with
  | ok chart =>
    rw [hchart] at h
    cases h
  | error other =>
    rw [hchart] at h
    cases h
    rintro fault he
    cases he
    exact ⟨history, hh, hchart⟩

theorem blamesChart_of_drawing {state : State} {figure : Figure} {cell : Option Cell}
    (h : block.drawing setup state place figure cell = .error failure) :
    BlamesChart setup state failure := by
  apply allowed_of_bind h (fun h => (sparesCharts_of_argument h).blamesChart)
  intro kind h
  split at h
  · apply allowed_of_bind h (fun h => (sparesCharts_of_argument h).blamesChart)
    intro name h
    split at h
    · exact (sparesCharts_of_refuse h).blamesChart
    · cases hh : state.history with
      | none =>
        rw [hh] at h
        exact (sparesCharts_of_refuse h).blamesChart
      | some history =>
        rw [hh] at h
        apply allowed_of_bind h (blamesChart_of_ofHistory hh)
        intro chart h
        apply allowed_of_bind h (fun h => (sparesCharts_of_orRefuse h).blamesChart)
        intro stats h
        cases h
  · exact (sparesCharts_of_refuse h).blamesChart

theorem blamesChart_of_drawingCell {state : State}
    (h : block.drawingCell setup state = .error failure) : BlamesChart setup state failure := by
  apply allowed_of_bind h (fun h => (sparesCharts_of_argument h).blamesChart)
  intro text h
  apply allowed_of_bind h (fun h => (sparesCharts_of_orRefuse h).blamesChart)
  intro cell h
  dsimp only at h
  split at h
  · split at h
    · exact blamesChart_of_drawing h
    · exact (sparesCharts_of_refuse h).blamesChart
  · exact (sparesCharts_of_refuse h).blamesChart

theorem blamesChart_of_drawingWhole {state : State}
    (h : block.drawingWhole setup state = .error failure) : BlamesChart setup state failure := by
  unfold Block.drawingWhole at h
  split at h
  · exact blamesChart_of_drawing h
  · exact (sparesCharts_of_refuse h).blamesChart

theorem sparesCharts_of_decision {work : Work} {directive : Directive}
    (hs : directive ≠ .subplot) (hp : directive ≠ .plot)
    (h : block.decision setup length work directive = .error failure) : SparesCharts failure := by
  cases directive with
  | subplot => exact absurd rfl hs
  | plot => exact absurd rfl hp
  | load => exact sparesCharts_of_loading h
  | figure => exact sparesCharts_of_declaring h
  | save => exact sparesCharts_of_saving h
  | includeClear | excludeClear => cases h
  | includeList | excludeList | excludeRemove =>
    apply allowed_of_bind h sparesCharts_of_listed
    intro items h
    cases h
  | aliasList =>
    apply allowed_of_bind h sparesCharts_of_argument
    intro canonical h
    apply allowed_of_bind h sparesCharts_of_listed
    intro raws h
    cases h
  | days | skipCommit =>
    apply allowed_of_bind h sparesCharts_of_argument
    intro text h
    apply allowed_of_bind h sparesCharts_of_orRefuse
    intro value h
    cases h
  | title =>
    apply allowed_of_bind h sparesCharts_of_argument
    intro title h
    cases h

theorem exists_history_of_decision {work : Work} {directive : Directive} {fault : Activity.Fault}
    (h : block.decision setup length work directive = .error (.activity fault)) :
    (directive = .subplot ∨ directive = .plot) ∧
      ∃ history, work.state.history = some history ∧
        AuthorChart.ofHistory (selection setup work.state) history = .error fault := by
  by_cases hs : directive = .subplot
  · subst hs
    exact ⟨.inl rfl, blamesChart_of_drawingCell h fault rfl⟩
  by_cases hp : directive = .plot
  · subst hp
    exact ⟨.inr rfl, blamesChart_of_drawingWhole h fault rfl⟩
  · cases sparesCharts_of_decision hs hp h

end Decisions

section Deeds

variable {work after : Work}

theorem refusesWith_of_call {request : Call}
    (h : Work.call setup request work = .error failure after) :
    RefusesWith setup.backend failure := by
  unfold Work.call at h
  split at h
  · cases h
  · rename_i other ha
    cases h
    exact ⟨_, _, _, ha⟩

theorem refusesWith_of_close {figure? : Option Figure}
    (h : Work.close setup figure? work = .error failure after) :
    RefusesWith setup.backend failure := by
  cases figure? with
  | none => cases h
  | some figure => exact refusesWith_of_call h

theorem refusesWith_of_deed {deed : Deed} (h : deed.act setup work = .error failure after) :
    RefusesWith setup.backend failure := by
  cases deed with
  | set change => cases h
  | call request => exact refusesWith_of_call h
  | replace creation target =>
    simp only [Deed.act, Work.replace, Bind.bind, EStateM.bind] at h
    split at h
    · rename_i value made hmade
      split at h
      · cases h
      · rename_i hclose
        cases h
        exact refusesWith_of_close hclose
    · rename_i hmade
      cases h
      exact refusesWith_of_call hmade

variable {fault : Activity.Fault}

theorem exists_history_of_act (hb : ¬ RefusesWith setup.backend (.activity fault))
    (h : block.act setup length work = .error (.activity fault) after) :
    (block.directive? = some .subplot ∨ block.directive? = some .plot) ∧
      ∃ history, work.state.history = some history ∧
        AuthorChart.ofHistory (selection setup work.state) history = .error fault := by
  unfold Block.act at h
  cases hd : block.directive? with
  | none =>
    rw [hd] at h
    cases h
  | some directive =>
    rw [hd] at h
    dsimp only at h
    cases hdecision : block.decision setup length work directive with
    | ok deed =>
      rw [hdecision] at h
      exact absurd (refusesWith_of_deed h) hb
    | error other =>
      rw [hdecision] at h
      cases h
      rw [Option.some.injEq, Option.some.injEq]
      exact exists_history_of_decision hdecision

/-- A run that fails for a chart has failed at a command that draws. -/
theorem exists_draw_of_interpret_error (hb : ¬ RefusesWith setup.backend (.activity fault))
    {lines : List String} {session after : Session}
    (h : interpret setup lines session = .error (.activity fault) after) :
    ∃ before draw, executions setup lines session = before ++ [draw] ∧
      (draw.block.directive? = some .subplot ∨ draw.block.directive? = some .plot) ∧
      ∃ history, draw.found.state.history = some history ∧
        AuthorChart.ofHistory (selection setup draw.found.state) history = .error fault := by
  have hran := ran_executions setup lines session
  rw [h] at hran
  obtain ⟨before, draw, he, -, hdraw, hfailed⟩ := hran.exists_last
  have hwork := hdraw.work
  rw [hfailed] at hwork
  exact ⟨before, draw, he, exists_history_of_act hb hwork.symm⟩

end Deeds

end Authorship.Script
