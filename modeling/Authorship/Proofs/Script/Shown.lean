import Authorship.Proofs.Activity.AuthorChart
import Authorship.Proofs.Script.InForce

namespace Authorship.Script

open Authorship.Drawing Authorship.Activity Authorship.Script.Action

/-- The executions of all scripts that a session is asked for. -/
def Session.record (setup : Setup) (session : Session) : List Step → List Execution
  | [] => []
  | .interpret lines :: steps =>
    executions setup lines session ++
      record setup (session.after setup (.interpret lines)) steps
  | .close :: steps => record setup (session.after setup .close) steps

/-- Executions, with figures closed between them, that lead from one work to another. -/
inductive Went (setup : Setup) (start : Work) : List Execution → Work → Prop
  | start : Went setup start [] start
  | execution {before : List Execution} {execution : Execution} {script : List String}
      (h : Went setup start before execution.found.work) (he : execution.IsOf setup script) :
      Went setup start (before ++ [execution]) execution.left.work
  | close {before : List Execution} {session : Session}
      (h : Went setup start before session.work) :
      Went setup start before ((closeTarget setup).final session).work

variable {setup : Setup} {start : Work}

theorem Went.ran {script : List String} {session after : Session} {before executions : List Execution}
    {result : EStateM.Result Failure Session Unit} (h : Went setup start before session.work)
    (hran : Ran setup script session executions result)
    (hr : result = .ok () after ∨ ∃ failure, result = .error failure after) :
    Went setup start (before ++ executions) after.work := by
  induction hran generalizing before with
  | @ended session other hw =>
    have hafter : other = after := by
      rcases hr with hr | ⟨failure, hr⟩ <;> cases hr
      rfl
    rw [List.append_nil, ← hafter, hw]
    exact h
  | @failed session other execution failure hw he hfailed =>
    have hafter : other = after := by
      rcases hr with hr | ⟨failure, hr⟩ <;> cases hr
      rfl
    have hleft : execution.left = after := by rw [Execution.left, hfailed, hafter]
    rw [← hw] at h
    rw [← hleft]
    exact h.execution he
  | @went session left execution rest result hw he hdone _ ih =>
    have hleft : execution.left = left := by rw [Execution.left, hdone]
    rw [← hw] at h
    have hnext := h.execution he
    rw [hleft] at hnext
    have hall := ih hnext hr
    rwa [List.append_assoc] at hall

theorem Went.record {session : Session} {before : List Execution}
    (h : Went setup start before session.work) (steps : List Step) :
    Went setup start (before ++ session.record setup steps)
      (steps.foldl (Session.after setup) session).work := by
  induction steps generalizing session before with
  | nil =>
    rw [Session.record, List.append_nil]
    exact h
  | cons step steps ih =>
    cases step with
    | close => exact ih h.close
    | interpret lines =>
      have hran := ran_executions setup lines session
      have hafter : interpret setup lines session = .ok () (session.after setup (.interpret lines)) ∨
          ∃ failure, interpret setup lines session =
            .error failure (session.after setup (.interpret lines)) := by
        simp only [Session.after, Action.final]
        cases interpret setup lines session with
        | ok value after => exact .inl rfl
        | error failure after => exact .inr ⟨failure, rfl⟩
      have hall := ih (h.ran hran hafter)
      rwa [List.append_assoc] at hall

theorem append_cons_cases {α : Type} {a b c d : List α} {x : α} (h : a ++ b = c ++ x :: d) :
    (∃ rest, a = c ++ x :: rest) ∨ ∃ rest, c = a ++ rest ∧ b = rest ++ x :: d := by
  rcases List.append_eq_append_iff.mp h with ⟨rest, hc, hb⟩ | ⟨rest, ha, hd⟩
  · exact .inr ⟨rest, hc, hb⟩
  · cases rest with
    | nil => exact .inr ⟨[], by rw [ha, List.append_nil, List.append_nil], hd.symm⟩
    | cons first rest =>
      cases hd
      exact .inl ⟨rest, ha⟩

theorem Went.split {work : Work} {executions before after : List Execution}
    {execution : Execution} (h : Went setup start executions work)
    (he : executions = before ++ execution :: after) :
    Went setup start before execution.found.work ∧
      ∃ script, execution.IsOf setup script := by
  induction h generalizing after with
  | start => cases before <;> cases he
  | @execution earlier last script h hlast ih =>
    rcases append_cons_cases he with ⟨rest, hearlier⟩ | ⟨rest, hbefore, hrest⟩
    · exact ih hearlier
    · cases rest with
      | nil =>
        cases hrest
        rw [hbefore, List.append_nil]
        exact ⟨h, script, hlast⟩
      | cons first rest =>
        cases rest <;> cases hrest
  | close _ ih => exact ih he

theorem Went.found {work : Work} {executions before after : List Execution}
    {execution : Execution} (h : Went setup start executions work)
    (he : executions = before ++ execution :: after) :
    Went setup start before execution.found.work :=
  (h.split he).1

namespace Execution

variable {execution : Execution} {work : Work}

theorem of_workOf_ok (h : workOf execution.result = .ok () work) :
    execution.isDone = true ∧ execution.left.work = work := by
  unfold isDone left
  cases hr : execution.result with
  | ok value left =>
    rw [hr] at h
    exact ⟨rfl, (EStateM.Result.ok.inj h).2⟩
  | error failure left =>
    rw [hr] at h
    cases h

theorem of_workOf_error {failure : Failure} (h : workOf execution.result = .error failure work) :
    execution.isDone = false ∧ execution.left.work = work := by
  unfold isDone left
  cases hr : execution.result with
  | ok value left =>
    rw [hr] at h
    cases h
  | error other left =>
    rw [hr] at h
    exact ⟨rfl, (EStateM.Result.error.inj h).2⟩

theorem done?_of_not_done (h : execution.isDone = false) : execution.done? = none := by
  rw [done?, h]
  rfl

/-- What an execution can leave: what a directive has decided to make, or the state as it was
found. -/
theorem IsOf.cases {script : List String} (h : execution.IsOf setup script) :
    (∃ directive deed made state, execution.block.directive? = some directive ∧
      Decides setup execution.found.work execution.block directive deed ∧
      deed.Makes execution.found.work made state ∧
      execution.left.attempts = execution.found.attempts ++ made ∧
      ((execution.done? = some ⟨directive, execution.block, execution.found⟩ ∧
          execution.left.state = state) ∨
        (execution.done? = none ∧ execution.left.state = execution.found.state))) ∨
    (execution.done? = none ∧ execution.left.work = execution.found.work) := by
  have hwork := h.work
  unfold Block.act at hwork
  cases hd : execution.block.directive? with
  | none =>
    rw [hd] at hwork
    obtain ⟨-, hleft⟩ := of_workOf_ok hwork
    refine .inr ⟨?_, hleft⟩
    rw [done?, hd]
    exact ite_self none
  | some directive =>
    rw [hd] at hwork
    cases hdecision : execution.block.decision setup script.length execution.found.work directive with
    | error failure =>
      dsimp only at hwork
      rw [hdecision] at hwork
      obtain ⟨hfailed, hleft⟩ := of_workOf_error hwork
      exact .inr ⟨done?_of_not_done hfailed, hleft⟩
    | ok deed =>
      dsimp only at hwork
      rw [hdecision] at hwork
      obtain ⟨made, state, hmakes, hleads⟩ := deed.leadsTo_act setup execution.found.work
      refine .inl ⟨directive, deed, made, state, rfl, decides_of_decision hdecision, hmakes, ?_⟩
      rcases hleads with ⟨files, hact⟩ | ⟨failure, files, hact⟩
      · obtain ⟨hdone, hleft⟩ := of_workOf_ok (hwork.trans hact)
        refine ⟨congrArg Work.attempts hleft, .inl ⟨?_, congrArg Work.state hleft⟩⟩
        rw [done?, hdone, hd]
        rfl
      · obtain ⟨hfailed, hleft⟩ := of_workOf_error (hwork.trans hact)
        exact ⟨congrArg Work.attempts hleft,
          .inr ⟨done?_of_not_done hfailed, congrArg Work.state hleft⟩⟩

end Execution

theorem closeTarget_cases (setup : Setup) (session : Session) :
    ∃ made target, (∀ attempt ∈ made, ∃ figure, attempt.call = .close figure) ∧
      ((closeTarget setup).final session).attempts = session.attempts ++ made ∧
      ((closeTarget setup).final session).state = { session.state with target := target } := by
  have hclose : closeTarget setup session =
      (closeFigure setup session.state.target.figure? >>= fun _ =>
        setState fun state => { state with target := .absent }) session := rfl
  simp only [Action.final, hclose, Bind.bind, EStateM.bind]
  cases session.state.target.figure? with
  | none => exact ⟨[], .absent, by simp, (List.append_nil _).symm, rfl⟩
  | some figure =>
    simp only [closeFigure, Action.call]
    cases setup.backend.answer session.attempts session.files (.close figure) with
    | ok files => exact ⟨[⟨.close figure, true⟩], .absent, by simp, rfl, rfl⟩
    | error failure => exact ⟨[⟨.close figure, false⟩], session.state.target, by simp, rfl, rfl⟩

theorem doneIn_concat (executions : List Execution) (execution : Execution) :
    doneIn (executions ++ [execution]) = doneIn executions ++ execution.done?.toList := by
  rw [doneIn, List.filterMap_append]
  cases h : execution.done? <;> simp [doneIn, h]

theorem inForce_of_went {days : Option Number.Binary64} {skip : Option Int}
    {executions : List Execution} {work : Work} (h : Went setup start executions work)
    (hs : start.state = .start days skip) :
    InForce setup days skip (doneIn executions) work.state := by
  induction h with
  | start =>
    rw [hs]
    exact inForce_start setup days skip
  | @execution before execution script _ he ih =>
    rw [doneIn_concat]
    rcases he.cases with ⟨directive, deed, made, state, -, hd, hm, -, hleft⟩ | ⟨hnone, hleft⟩
    · rcases hleft with ⟨hdone, rfl⟩ | ⟨hnone, hstate⟩
      · rw [hdone]
        let command : Done := ⟨directive, execution.block, execution.found⟩
        have hfound : InForce setup days skip (doneIn before) command.found.state := ih
        exact hfound.concat hd hm
      · rw [hnone, Option.toList_none, List.append_nil]
        rw [show execution.found.work.state = execution.left.work.state from hstate.symm] at ih
        exact ih
    · rw [hnone, Option.toList_none, List.append_nil, hleft]
      exact ih
  | @close before session _ ih =>
    obtain ⟨made, target, -, -, hstate⟩ := closeTarget_cases setup session
    have hclosed := ih.withTarget target
    rw [show { session.work.state with target := target } =
      ((closeTarget setup).final session).work.state from hstate.symm] at hclosed
    exact hclosed

structure Execution.AsksFor (setup : Setup) (draw : Execution) (earlier : List Attempt)
    (attempt : Attempt) (chart : BarChart) : Prop where
  found : draw.found.attempts = earlier
  left : draw.left.attempts = earlier ++ [attempt]
  draws : (draw.block.directive? = some .subplot ∧
      Draws setup draw.found.state draw.block 2 chart) ∨
    (draw.block.directive? = some .plot ∧ Draws setup draw.found.state draw.block 1 chart)

/-- An attempt to draw bars was made by the execution of a directive that draws. -/
theorem exists_draw_of_went {executions : List Execution} {work : Work}
    (h : Went setup start executions work) (hs : start.attempts = []) {earlier later : List Attempt}
    {figure : Figure} {cell : Option Cell} {chart : BarChart} {isGranted : Bool}
    (ha : work.attempts = earlier ++ ⟨.bars figure cell chart, isGranted⟩ :: later) :
    ∃ before draw after, executions = before ++ draw :: after ∧
      Went setup start before draw.found.work ∧
      draw.AsksFor setup earlier ⟨.bars figure cell chart, isGranted⟩ chart := by
  -- on what led to the work: the attempt is one of those before the latest execution, or its own
  induction h generalizing later with
  | start =>
    rw [hs] at ha
    simp at ha
  | @execution before execution script hbefore he ih =>
    have hearlier {later : List Attempt} (hf : execution.found.work.attempts =
        earlier ++ ⟨.bars figure cell chart, isGranted⟩ :: later) :
        ∃ first draw after, before ++ [execution] = first ++ draw :: after ∧
          Went setup start first draw.found.work ∧
          draw.AsksFor setup earlier ⟨.bars figure cell chart, isGranted⟩ chart := by
      obtain ⟨first, draw, after, hsplit, hdraw⟩ := ih hf
      exact ⟨first, draw, after ++ [execution], by rw [hsplit]; simp, hdraw⟩
    rcases he.cases with ⟨directive, deed, made, state, hdir, hd, hm, hmade, -⟩ | ⟨-, hleft⟩
    · rcases append_cons_cases (hmade.symm.trans ha) with ⟨rest, hf⟩ | ⟨rest, hc, hb⟩
      · exact hearlier hf
      · have hmem : ⟨.bars figure cell chart, isGranted⟩ ∈ made := by
          rw [hb]
          exact List.mem_append_right rest List.mem_cons_self
        obtain ⟨honly, hdraws⟩ := hd.of_bars hm hmem
        have hrest : rest = [] := by
          rw [honly] at hb
          cases rest with
          | nil => rfl
          | cons first rest => simp at hb
        rw [hrest, List.append_nil] at hc
        refine ⟨before, execution, [], rfl, hbefore, hc.symm, ?_, ?_⟩
        · rw [hmade, hc, honly]
        · rw [hdir]
          rcases hdraws with ⟨rfl, hdraws⟩ | ⟨rfl, hdraws⟩
          · exact .inl ⟨rfl, hdraws⟩
          · exact .inr ⟨rfl, hdraws⟩
    · rw [hleft] at ha
      exact hearlier ha
  | @close before session _ ih =>
    -- what is made between two scripts closes figures, so it draws nothing
    obtain ⟨made, target, hcloses, hmade, -⟩ := closeTarget_cases setup session
    rcases append_cons_cases (hmade.symm.trans ha) with ⟨rest, hf⟩ | ⟨rest, -, hb⟩
    · exact ih hf
    · obtain ⟨other, ho⟩ := hcloses ⟨.bars figure cell chart, isGranted⟩ (by simp [hb])
      cases ho

theorem key_of_ofKey? {key : String} {stat : Stat} (h : Stat.ofKey? key = some stat) :
    stat.key = key := by
  have hfound := List.find?_some h
  exact eq_of_beq hfound

theorem chosenStats_eq_ok {name : String} {keys : List String} {stats : List Stat}
    (h : chosenStats name keys = .ok stats) :
    (keys = [] ∧ stats = Stat.all) ∨ (keys ≠ [] ∧ stats.map Stat.key = keys) := by
  cases keys with
  | nil =>
    cases h
    exact .inl ⟨rfl, rfl⟩
  | cons first rest =>
    refine .inr ⟨List.cons_ne_nil first rest, ?_⟩
    simp only [chosenStats] at h
    generalize first :: rest = keys at h
    induction keys generalizing stats with
    | nil =>
      cases h
      rfl
    | cons key keys ih =>
      rw [List.mapM_cons] at h
      obtain ⟨stat, hk, h⟩ := exists_of_bind_ok h
      obtain ⟨others, ho, h⟩ := exists_of_bind_ok h
      cases h
      rw [List.map_cons, ih ho]
      split at hk
      · rename_i stat' hkey
        cases hk
        rw [key_of_ofKey? hkey]
      · cases hk

/-- A chart shows the history that was loaded last, with the settings of the commands that were done
before, and with the statistics that the tokens of a line ask for. -/
structure Shows (setup : Setup) (days : Option Number.Binary64) (skip : Option Int)
    (commands : List Done) (keys : List String) (chart : BarChart) : Prop where
  crunched : ∃ history crunched stats, Loaded setup commands (some history) ∧
    AuthorChart.ofHistory
      { excluded := excludedOf commands
        included := includedOf commands
        days := lastValue .days readNumber days commands
        skip := lastValue .skipCommit readWhole skip commands
        now := setup.now.getD setup.machine.clock } history = .ok crunched ∧
    ((keys = [] ∧ stats = Stat.all) ∨ (keys ≠ [] ∧ stats.map Stat.key = keys)) ∧
    chart.labels = crunched.labels ∧ chart.series = stats.map crunched.series
  aligned : ∀ series ∈ chart.series, series.values.length = chart.labels.length
  title : chart.title = lastArgument? .title commands

theorem length_values_series {crunched : AuthorChart} (h : crunched.Open) (stat : Stat) :
    (crunched.series stat).values.length = crunched.labels.length := by
  rw [h.length_values, AuthorChart.labels, List.length_map]

theorem Draws.shows {days : Option Number.Binary64} {skip : Option Int} {commands : List Done}
    {state : State} {block : Block} {place : Nat} {chart : BarChart}
    (h : Draws setup state block place chart) (hf : InForce setup days skip commands state) :
    Shows setup days skip commands (block.tokens.drop (place + 2)) chart := by
  obtain ⟨history, crunched, stats, hh, hc, hs, rfl⟩ := h.shown
  have hloaded := hf.history
  rw [hh] at hloaded
  rw [selection, hf.excluded, hf.included, hf.days, hf.skip] at hc
  obtain ⟨hfilled, -⟩ := AuthorChart.filled_of_crunch (.inr rfl) hc
  refine ⟨⟨history, crunched, stats, hloaded, hc, chosenStats_eq_ok hs, rfl, rfl⟩, ?_, hf.title⟩
  intro series hm
  obtain ⟨stat, -, rfl⟩ := List.mem_map.mp hm
  exact length_values_series hfilled.isOpen stat

/-- Every attempt to draw bars, whether or not it was granted, was made by the command of a line
that draws, and what it shows is told by the commands that were done before it. -/
theorem exists_shows_of_bars (setup : Setup) (files : Files.Tree) (days : Option Number.Binary64)
    (skip : Option Int) (steps : List Step) {earlier later : List Attempt} {figure : Figure}
    {cell : Option Cell} {chart : BarChart} {isGranted : Bool}
    (h : (steps.foldl (Session.after setup) (.start setup files days skip)).attempts =
      earlier ++ ⟨.bars figure cell chart, isGranted⟩ :: later) :
    ∃ before draw after, (Session.start setup files days skip).record setup steps =
        before ++ draw :: after ∧
      draw.found.attempts = earlier ∧
      draw.left.attempts = earlier ++ [⟨.bars figure cell chart, isGranted⟩] ∧
      ((draw.block.directive? = some .plot ∧
          Shows setup days skip (doneIn before) (draw.block.tokens.drop 3) chart) ∨
        (draw.block.directive? = some .subplot ∧
          Shows setup days skip (doneIn before) (draw.block.tokens.drop 4) chart)) := by
  have hwent : Went setup (Session.start setup files days skip).work
      ((Session.start setup files days skip).record setup steps)
      (steps.foldl (Session.after setup) (.start setup files days skip)).work :=
    Went.record .start steps
  obtain ⟨before, draw, after, hsplit, hbefore, hasks⟩ := exists_draw_of_went hwent rfl h
  have hforce := inForce_of_went hbefore (rfl : _ = State.start days skip)
  refine ⟨before, draw, after, hsplit, hasks.found, hasks.left, ?_⟩
  rcases hasks.draws with ⟨hd, hdraws⟩ | ⟨hd, hdraws⟩
  · exact .inr ⟨hd, hdraws.shows hforce⟩
  · exact .inl ⟨hd, hdraws.shows hforce⟩

/-- A log is drawn that was loaded before its author had another alias. -/
def aliasScript : List String :=
  [":alias Ann", "a@x", ":load log", ":alias Bob", "a@x", ":figure 1x1",
    ":plot bars author commits commits", ":title later"]

def aliasFiles : Files.Tree :=
  ⟨[(["log"], .file (Text.Utf8.encode
    "\x00a@x\x002025-01-01T00:00:00+00:00\x00h1\x00first\n1\t2\tp.py\n".toList))]⟩

def aliasStart : Session :=
  .start gridSetup aliasFiles (some (.finite 100)) (some 0)

def aliasChart : BarChart :=
  ⟨["Ann"], [⟨"Commits", [.finite 1]⟩, ⟨"Commits", [.finite 1]⟩], none⟩

theorem exists_shows_of_bars_aliasScript :
    ([.interpret aliasScript].foldl (Session.after gridSetup) aliasStart).attempts =
      [⟨.newFigure 1 1, true⟩] ++ ⟨.bars ⟨1⟩ none aliasChart, true⟩ :: [] ∧
    ∃ before draw after, aliasStart.record gridSetup [.interpret aliasScript] =
        before ++ draw :: after ∧
      draw.found.attempts = [⟨.newFigure 1 1, true⟩] ∧
      draw.left.attempts = [⟨.newFigure 1 1, true⟩] ++ [⟨.bars ⟨1⟩ none aliasChart, true⟩] ∧
      ((draw.block.directive? = some .plot ∧
          Shows gridSetup (some (.finite 100)) (some 0) (doneIn before)
            (draw.block.tokens.drop 3) aliasChart) ∨
        (draw.block.directive? = some .subplot ∧
          Shows gridSetup (some (.finite 100)) (some 0) (doneIn before)
            (draw.block.tokens.drop 4) aliasChart)) := by
  have hruns : (match workOf (interpret gridSetup aliasScript aliasStart) with
      | .ok _ work => decide (work.attempts =
          [⟨.newFigure 1 1, true⟩] ++ ⟨.bars ⟨1⟩ none aliasChart, true⟩ :: [])
      | .error _ _ => false) = true := by
    rw [workOf_interpret]
    decide +kernel
  have hattempts : ([.interpret aliasScript].foldl (Session.after gridSetup) aliasStart).attempts =
      [⟨.newFigure 1 1, true⟩] ++ ⟨.bars ⟨1⟩ none aliasChart, true⟩ :: [] := by
    rw [List.foldl_cons, List.foldl_nil, Session.after, Action.final]
    cases hr : interpret gridSetup aliasScript aliasStart with
    | ok value after =>
      rw [hr] at hruns
      exact of_decide_eq_true hruns
    | error failure after =>
      rw [hr] at hruns
      cases hruns
  exact ⟨hattempts, exists_shows_of_bars gridSetup aliasFiles (some (.finite 100)) (some 0)
    [.interpret aliasScript] hattempts⟩

end Authorship.Script
