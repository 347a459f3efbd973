import Authorship.Proofs.Script.Shown
import Mathlib.Data.List.DropRight

namespace Authorship.Script

open Authorship.Drawing Authorship.Activity Authorship.Script.Action

/-- The commands that were done after the last one with a directive. -/
def since (directive : Directive) (commands : List Done) : List Done :=
  commands.rtakeWhile (·.directive != directive)

def Done.removes (command : Done) (item : String) : Bool :=
  command.directive == .excludeRemove && command.items.contains item

/-- The items that commands list, in order, without those that a later command removes. -/
def unremoved : List Done → List String
  | [] => []
  | command :: later =>
    (if command.directive = .excludeList then
      command.items.filter fun item => !later.any (·.removes item) else []) ++ unremoved later

def listed (directive : Directive) (commands : List Done) : List String :=
  (commands.filter (·.directive == directive)).flatMap Done.items

structure Filters (commands : List Done) (selection : Selection) : Prop where
  excluded : selection.excluded = unremoved (since .excludeClear commands)
  included : selection.included = listed .includeList (since .includeClear commands)

section Concat

variable {directive : Directive} {commands : List Done} {command : Done}

theorem since_concat_self (h : command.directive = directive) :
    since directive (commands ++ [command]) = [] :=
  List.rtakeWhile_concat_neg _ _ _ (by simp [h])

theorem since_concat (h : command.directive ≠ directive) :
    since directive (commands ++ [command]) = since directive commands ++ [command] :=
  List.rtakeWhile_concat_pos _ _ _ (by simp [h])

theorem listed_concat_self (h : command.directive = directive) :
    listed directive (commands ++ [command]) = listed directive commands ++ command.items := by
  simp [listed, h]

theorem listed_concat (h : command.directive ≠ directive) :
    listed directive (commands ++ [command]) = listed directive commands := by
  simp [listed, h]

theorem any_removes_concat (commands : List Done) (command : Done) (item : String) :
    (commands ++ [command]).any (·.removes item) =
      (commands.any (·.removes item) || command.removes item) := by
  rw [List.any_append, List.any_cons, List.any_nil, Bool.or_false]

theorem removes_of_excludeRemove (h : command.directive = .excludeRemove) (item : String) :
    command.removes item = command.items.contains item := by
  simp [Done.removes, h]

theorem removes_of_ne (h : command.directive ≠ .excludeRemove) (item : String) :
    command.removes item = false := by
  simp [Done.removes, h]

theorem unremoved_concat_remove (h : command.directive = .excludeRemove) (commands : List Done) :
    unremoved (commands ++ [command]) =
      (unremoved commands).filter (!command.items.contains ·) := by
  induction commands with
  | nil => simp [unremoved, h]
  | cons first later ih =>
    rw [List.cons_append, unremoved, ih, unremoved, List.filter_append]
    congr 1
    split
    · rw [List.filter_filter]
      apply List.filter_congr
      intro item _
      rw [any_removes_concat, removes_of_excludeRemove h, Bool.not_or, Bool.and_comm]
    · rfl

theorem unremoved_concat (h : command.directive ≠ .excludeRemove) (commands : List Done) :
    unremoved (commands ++ [command]) =
      unremoved commands ++ if command.directive = .excludeList then command.items else [] := by
  induction commands with
  | nil => simp [unremoved]
  | cons first later ih =>
    rw [List.cons_append, unremoved, ih, unremoved, List.append_assoc]
    congr 1
    simp only [any_removes_concat, removes_of_ne h, Bool.or_false]

end Concat

theorem excludedOf_eq (commands : List Done) :
    excludedOf commands = unremoved (since .excludeClear commands) := by
  induction commands using List.reverseRecOn with
  | nil => rfl
  | append_singleton commands command ih =>
    rw [excludedOf_concat, ih]
    by_cases hclear : command.directive = .excludeClear
    · rw [since_concat_self hclear, hclear]
      rfl
    · rw [since_concat hclear]
      by_cases hremove : command.directive = .excludeRemove
      · rw [unremoved_concat_remove hremove, hremove]
      · rw [unremoved_concat hremove]
        by_cases hlist : command.directive = .excludeList
        · rw [if_pos hlist, hlist]
        · rw [if_neg hlist, List.append_nil]
          split <;> first | rfl | contradiction

theorem includedOf_eq (commands : List Done) :
    includedOf commands = listed .includeList (since .includeClear commands) := by
  induction commands using List.reverseRecOn with
  | nil => rfl
  | append_singleton commands command ih =>
    rw [includedOf_concat, ih]
    by_cases hclear : command.directive = .includeClear
    · rw [since_concat_self hclear, hclear]
      rfl
    · rw [since_concat hclear]
      by_cases hlist : command.directive = .includeList
      · rw [listed_concat_self hlist, hlist]
      · rw [listed_concat hlist]
        split <;> first | rfl | contradiction

variable {setup : Setup} {start : Work}

theorem InForce.filters {days : Option Number.Binary64} {skip : Option Int} {commands : List Done}
    {state : State} (h : InForce setup days skip commands state) :
    Filters commands (selection setup state) :=
  ⟨h.excluded.trans (excludedOf_eq commands), h.included.trans (includedOf_eq commands)⟩

/-- A filter list is changed only by a command that was done and has one of its directives. -/
structure Execution.LeavesFilters (execution : Execution) : Prop where
  excluded : execution.left.state.excluded ≠ execution.found.state.excluded →
    ∃ command, execution.done? = some command ∧
      (command.directive = .excludeList ∨ command.directive = .excludeClear ∨
        command.directive = .excludeRemove)
  included : execution.left.state.included ≠ execution.found.state.included →
    ∃ command, execution.done? = some command ∧
      (command.directive = .includeList ∨ command.directive = .includeClear)

theorem leavesFilters_of_went {days : Option Number.Binary64} {skip : Option Int}
    {before : List Execution} {execution : Execution} {script : List String}
    (h : Went setup start before execution.found.work) (he : execution.IsOf setup script)
    (hs : start.state = .start days skip) : execution.LeavesFilters := by
  have hfound : InForce setup days skip (doneIn before) execution.found.state :=
    inForce_of_went h hs
  have hleft : InForce setup days skip (doneIn (before ++ [execution])) execution.left.state :=
    inForce_of_went (h.execution he) hs
  rw [doneIn_concat] at hleft
  cases hdone : execution.done? with
  | none =>
    rw [hdone, Option.toList_none, List.append_nil] at hleft
    exact ⟨fun hne => absurd (hleft.excluded.trans hfound.excluded.symm) hne,
      fun hne => absurd (hleft.included.trans hfound.included.symm) hne⟩
  | some command =>
    rw [hdone, Option.toList_some] at hleft
    have hexcluded := hleft.excluded
    have hincluded := hleft.included
    rw [excludedOf_concat, ← hfound.excluded] at hexcluded
    rw [includedOf_concat, ← hfound.included] at hincluded
    refine ⟨fun hne => ⟨command, hdone, ?_⟩, fun hne => ⟨command, hdone, ?_⟩⟩
    · rw [hexcluded] at hne
      cases hd : command.directive <;> simp_all
    · rw [hincluded] at hne
      cases hd : command.directive <;> simp_all

/-- Whatever scripts a session has run, every command finds the filter lists that the commands done
before it have left, and so does the next one; bars are drawn with the lists that their command has
found. -/
theorem filters_of_record (setup : Setup) (files : Files.Tree) (days : Option Number.Binary64)
    (skip : Option Int) (steps : List Step) :
    Filters (doneIn ((Session.start setup files days skip).record setup steps))
        (selection setup
          (steps.foldl (Session.after setup) (.start setup files days skip)).state) ∧
      (∀ before execution after, (Session.start setup files days skip).record setup steps =
          before ++ execution :: after →
        Filters (doneIn before) (selection setup execution.found.state) ∧
          execution.LeavesFilters) ∧
      ∀ earlier figure cell chart isGranted later,
        (steps.foldl (Session.after setup) (.start setup files days skip)).attempts =
          earlier ++ ⟨.bars figure cell chart, isGranted⟩ :: later →
        ∃ before draw after place, (Session.start setup files days skip).record setup steps =
            before ++ draw :: after ∧ draw.found.attempts = earlier ∧
          Draws setup draw.found.state draw.block place chart ∧
          Filters (doneIn before) (selection setup draw.found.state) := by
  have hwent : Went setup (Session.start setup files days skip).work
      ((Session.start setup files days skip).record setup steps)
      (steps.foldl (Session.after setup) (.start setup files days skip)).work :=
    Went.record .start steps
  refine ⟨(inForce_of_went hwent rfl).filters, ?_, ?_⟩
  · intro before execution after hsplit
    obtain ⟨hbefore, script, he⟩ := hwent.split hsplit
    have hforce := inForce_of_went hbefore (rfl : _ = State.start days skip)
    exact ⟨hforce.filters, leavesFilters_of_went hbefore he rfl⟩
  · intro earlier figure cell chart isGranted later ha
    obtain ⟨before, draw, after, hsplit, hbefore, hasks⟩ := exists_draw_of_went hwent rfl ha
    have hforce := inForce_of_went hbefore (rfl : _ = State.start days skip)
    obtain ⟨-, hdraws⟩ | ⟨-, hdraws⟩ := hasks.draws
    · exact ⟨before, draw, after, 2, hsplit, hasks.found, hdraws, hforce.filters⟩
    · exact ⟨before, draw, after, 1, hsplit, hasks.found, hdraws, hforce.filters⟩

theorem work_after_interpret (setup : Setup) (lines : List String) (session : Session) :
    (session.after setup (.interpret lines)).work =
      match (blocks lines).forM (Block.act setup lines.length) session.work with
      | .ok _ work => work
      | .error _ work => work := by
  rw [← workOf_interpret, Session.after, Action.final]
  cases interpret setup lines session <;> rfl

/-- An item is removed and listed again, another one stays twice, and a directive fails. -/
def filterSteps : List Step :=
  [.interpret [":exclude", "a", "b", "b", "", ":exclude-remove", "a", "", ":include", "z", "",
    ":load log", ":days many"],
   .interpret [":include-clear", ":include", "p.py", "", ":exclude", "a", "", ":figure 1x1",
    ":plot bars author commits"]]

def filterChart : BarChart :=
  ⟨["a"], [⟨"Commits", [.finite 1]⟩], none⟩

theorem filters_of_record_filterSteps :
    (filterSteps.foldl (Session.after gridSetup) aliasStart).state.excluded = ["b", "b", "a"] ∧
    ∃ before draw after place, aliasStart.record gridSetup filterSteps = before ++ draw :: after ∧
      Draws gridSetup draw.found.state draw.block place filterChart ∧
      Filters (doneIn before) (selection gridSetup draw.found.state) ∧ draw.LeavesFilters := by
  have hworks : (filterSteps.foldl (Session.after gridSetup) aliasStart).work.state.excluded =
        ["b", "b", "a"] ∧
      (filterSteps.foldl (Session.after gridSetup) aliasStart).work.attempts =
        [⟨.newFigure 1 1, true⟩] ++ ⟨.bars ⟨1⟩ none filterChart, true⟩ :: [] := by
    simp only [filterSteps, List.foldl_cons, List.foldl_nil, work_after_interpret]
    decide +kernel
  obtain ⟨hexcluded, hattempts⟩ := hworks
  obtain ⟨-, hcommands, hcharts⟩ := filters_of_record gridSetup aliasFiles (some (.finite 100))
    (some 0) filterSteps
  obtain ⟨before, draw, after, place, hsplit, -, hdraws, hfilters⟩ :=
    hcharts _ _ _ _ _ _ hattempts
  exact ⟨hexcluded, before, draw, after, place, hsplit, hdraws, hfilters,
    (hcommands before draw after hsplit).2⟩

end Authorship.Script
