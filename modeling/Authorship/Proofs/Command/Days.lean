import Authorship.Proofs.Activity.Completion
import Authorship.Proofs.Command.Performing
import Authorship.Proofs.Script.ChartFault
import Authorship.Proofs.Script.Shown

namespace Authorship

open Authorship.Number

namespace Activity

variable {selection : Selection} {history : History}

/-- A fault about a number that is none is due to the days of the window. -/
def Fault.BlamesDays (selection : Selection) (fault : Fault) : Prop :=
  ∀ reason, fault = .notIntegral reason → selection.days = some .nan

theorem blamesDays_of_windowHolds {timestamp : Calendar.Timestamp} {fault : Fault}
    (h : selection.windowHolds timestamp = .error fault) : fault.BlamesDays selection := by
  rintro reason rfl
  unfold Selection.windowHolds at h
  cases hd : selection.days with
  | none =>
    rw [hd] at h
    cases h
  | some days =>
    rw [hd] at h
    by_contra hnan
    obtain ⟨window, hw⟩ := Window.exists_ofDays? fun he : days = .nan => hnan (he ▸ rfl)
    dsimp only at h
    rw [within, hw] at h
    cases window with
    | immeasurable isPositive => cases h
    | bounded microseconds =>
      change (if _ then _ else _) = _ at h
      split at h <;> cases h

theorem blamesDays_of_pick {commits : List Commit} {fault : Fault}
    (h : selection.pick history commits = .error fault) : fault.BlamesDays selection := by
  induction commits with
  | nil => cases h
  | cons commit rest ih =>
    refine allowed_of_bind h (fun hq => ?_) fun counts hp => allowed_of_bind hp ih fun _ he => ?_
    · unfold Selection.qualifies at hq
      split at hq
      · cases hq
      · split at hq
        · exact blamesDays_of_windowHolds hq
        · cases hq
    · cases he

theorem blamesDays_of_totalsOf {handle : Handle Author} {fault : Fault}
    (h : totalsOf selection history handle = .error fault) : fault.BlamesDays selection := by
  rw [totalsOf] at h
  cases hq : selection.qualifying history (commitsOf history handle) with
  | ok rest =>
    rw [hq] at h
    cases h
  | error other =>
    rw [hq] at h
    cases h
    refine allowed_of_bind hq blamesDays_of_pick fun picked hp => allowed_of_bind hp ?_ ?_
    · intro hsort
      unfold sortCommits at hsort
      split at hsort <;> cases hsort
      exact fun _ => Fault.noConfusion
    · intro sorted he
      split at he <;> cases he
      exact fun _ => Fault.noConfusion

theorem blamesDays_of_ofHistory {fault : Fault}
    (h : AuthorChart.ofHistory selection history = .error fault) : fault.BlamesDays selection := by
  refine allowed_of_foldlM h fun chart pair hc => ?_
  refine allowed_of_bind hc blamesDays_of_totalsOf fun totals hf => ?_
  refine allowed_of_foldlM hf fun chart stat hv => ?_
  refine allowed_of_bind hv (fun hr => ?_) fun value he => by cases he
  unfold rounded at hr
  split at hr <;> cases hr
  exact fun _ => Fault.noConfusion

theorem qualifies_of_nan (hd : selection.days = some .nan) {commit : Commit}
    {timestamp : Calendar.Timestamp} (ht : commit.timestamp = some timestamp)
    (hany : commit.changes.any (selection.admitsChange history) = true) :
    selection.qualifies history commit = .error (.notIntegral .nan) := by
  rw [Selection.qualifies, ht]
  dsimp only
  rw [if_pos hany, Selection.windowHolds, hd]
  rfl

theorem qualifies_of_not_measured {commit : Commit}
    (h : ∀ timestamp, commit.timestamp = some timestamp →
      ¬ commit.changes.any (selection.admitsChange history) = true) :
    selection.qualifies history commit = .ok false := by
  rw [Selection.qualifies]
  cases htime : commit.timestamp with
  | none => rfl
  | some timestamp => exact if_neg (h timestamp htime)

/-- From days that are no number a chart is told only if there is no commit to be measured. -/
theorem exists_ofHistory_iff_of_nan {skip : Int} (hd : selection.days = some .nan)
    (hs : selection.skip = some skip) :
    (∃ chart, AuthorChart.ofHistory selection history = .ok chart) ↔
      ∀ pair ∈ history.authorsByName, candidates selection history pair.1 = [] := by
  rw [AuthorChart.exists_ofHistory_iff_canTell]
  refine forall₂_congr fun pair _ => ?_
  constructor
  · rintro ⟨totals, ht, -⟩
    obtain ⟨hall, -, -⟩ := (totalsOf_eq_ok_iff hs).mp ht
    rw [List.eq_nil_iff_forall_not_mem]
    intro timestamp hm
    obtain ⟨commit, hc, hany, htime⟩ := mem_candidates.mp hm
    obtain ⟨counts, hq⟩ := hall commit hc
    rw [qualifies_of_nan hd htime hany] at hq
    cases hq
  · intro hnone
    have hfalse (commit : Commit) (hc : commit ∈ commitsOf history pair.1) :
        selection.qualifies history commit = .ok false := by
      refine qualifies_of_not_measured fun timestamp htime hany => ?_
      have hm := mem_candidates.mpr ⟨commit, hc, hany, htime⟩
      rw [hnone] at hm
      cases hm
    have hempty : (commitsOf history pair.1).filter (taken (selection.qualifies history)) = [] := by
      rw [List.filter_eq_nil_iff]
      intro commit hc
      rw [taken_of_eq_ok (hfalse commit hc)]
      exact Bool.false_ne_true
    have hchosen : chosen (selection.qualifies history) commitInstant skip
        (commitsOf history pair.1) = [] := by
      rw [chosen, hempty, sortedBy, List.mergeSort_nil, List.drop_nil]
    refine ⟨_, (totalsOf_eq_ok_iff hs).mpr ⟨fun commit hc => ⟨false, hfalse commit hc⟩, ?_, rfl⟩,
      fun stat => AuthorChart.exists_rounded ?_⟩
    · rw [hempty]
      exact .inl fun _ hm => by cases hm
    · rw [hchosen]
      cases stat <;> exact Nat.zero_le _

end Activity

namespace Script

variable {setup : Setup} {commands : List Done}

theorem toOption_readNumber_ne_nan (text : String) : (readNumber text).toOption ≠ some .nan := by
  intro h
  unfold readNumber at h
  split at h
  · cases h
  · cases h
  · rename_i hnan _
    cases h
    exact hnan rfl

theorem lastArgument?_eq_none_iff {directive : Directive} :
    lastArgument? directive commands = none ↔
      ∀ command ∈ commands, command.directive ≠ directive := by
  rw [lastArgument?, Option.map_eq_none_iff, List.getLast?_eq_none_iff, List.filter_eq_nil_iff]
  simp only [beq_iff_eq, ne_eq]

theorem lastValue_days_eq_nan_iff {days : Option Binary64} :
    lastValue .days readNumber days commands = some .nan ↔
      days = some .nan ∧ ∀ command ∈ commands, command.directive ≠ .days := by
  rw [← lastArgument?_eq_none_iff, lastValue]
  cases lastArgument? .days commands with
  | none => exact (and_iff_left rfl).symm
  | some text => exact iff_of_false (toOption_readNumber_ne_nan text) fun h => by cases h.2

namespace Request

variable (request : Request) (machine : Machine) (backend : Drawing.Backend) (files : Files.Tree)

/-- The commands of the script that are executed for a request. -/
def record (lines : List String) : List Execution :=
  executions (request.setup machine backend) lines (request.session machine backend files)

/-- A chart that a command asks for has a window of no number just when this is so at first and no
command before it has set the days. -/
theorem days_of_record {lines : List String} {before after : List Execution} {execution : Execution}
    (h : request.record machine backend files lines = before ++ execution :: after) :
    (selection (request.setup machine backend) execution.found.state).days = some .nan ↔
      request.days = some .nan ∧ ∀ command ∈ doneIn before, command.directive ≠ .days := by
  let session := request.session machine backend files
  have hstarted : Went (request.setup machine backend) session.work [] session.work := .start
  have hwent := hstarted.record [.interpret lines]
  rw [Session.record, Session.record, List.append_nil, List.nil_append] at hwent
  have hstart : (request.session machine backend files).work.state =
      .start request.days request.skip := by
    rw [work_session]
    rfl
  have hforce := inForce_of_went (hwent.found h) hstart
  rw [← lastValue_days_eq_nan_iff, ← hforce.days]
  rfl

end Request

end Script

namespace Command

open Authorship.Activity Authorship.Script

/-- The days are chosen, or else set by a file, to be no number. -/
def SaysNaN (days : Choice Binary64) (settings : Settings) : Prop :=
  days = .given .nan ∨ days = .absent ∧ settings.days = .nan

theorem valueOr_eq_nan_iff {days : Choice Binary64} {settings : Settings} :
    days.valueOr settings.days = some .nan ↔ SaysNaN days settings := by
  cases days <;> simp [Choice.valueOr, SaysNaN]

/-- The days of a window are no number just when an option or the settings say so and, in a script,
no command has set them before. Only then a chart fails about a number that is none, and a script
at the command that asks for it; and then a chart does not fail only if there is no commit to be
measured. -/
theorem selection_days_eq_nan_iff (surroundings : Surroundings) (settings : Settings) :
    (∀ options : Stats.Options,
      let selection := Stats.selection surroundings.machine options settings
      (selection.days = some .nan ↔ SaysNaN options.days settings) ∧
        ∀ content aliases history, Stats.Started surroundings options settings content →
          Stats.readAliases options.aliases = .ok aliases →
          Log.readContent surroundings.machine.dates aliases content = .ok history →
          Stats.perform surroundings options = Stats.report surroundings options
            ((AuthorChart.ofHistory selection history).mapError .activity)) ∧
    (∀ (options : Run.Options) (backend : Drawing.Backend) (script : Files.Path)
        (lines : List String),
      let asked := Run.request options settings script
      let setup := asked.setup surroundings.machine backend
      let session := asked.session surroundings.machine backend surroundings.files
      let record := asked.record surroundings.machine backend surroundings.files lines
      (∀ before after execution, record = before ++ execution :: after →
        ((Script.selection setup execution.found.state).days = some .nan ↔
          SaysNaN options.days settings ∧
            ∀ command ∈ doneIn before, command.directive ≠ .days)) ∧
      (∀ reason after, ¬ RefusesWith backend (.activity (.notIntegral reason)) →
        interpret setup lines session = .error (.activity (.notIntegral reason)) after →
          ∃ before draw, record = before ++ [draw] ∧
            (draw.block.directive? = some .subplot ∨ draw.block.directive? = some .plot) ∧
            (Script.selection setup draw.found.state).days = some .nan) ∧
      (backend = surroundings.backend (options.dpi.valueOr settings.dpi) →
        Run.Started surroundings options settings script lines →
          Run.perform surroundings options = Run.report (options.dpi.valueOr settings.dpi)
            (closingAfter setup (interpret setup lines) session))) ∧
    (∀ (selection : Selection) (history : History) (reason : Binary64.IntegralFault),
      AuthorChart.ofHistory selection history = .error (.notIntegral reason) →
        selection.days = some .nan) ∧
    ∀ (selection : Selection) (history : History) (skip : Int),
      selection.days = some .nan → selection.skip = some skip →
      ((∃ chart, AuthorChart.ofHistory selection history = .ok chart) ↔
        ∀ pair ∈ history.authorsByName, candidates selection history pair.1 = []) := by
  refine ⟨fun options => ⟨valueOr_eq_nan_iff, ?_⟩, fun options backend script lines => ⟨?_, ?_, ?_⟩,
    ?_, ?_⟩
  · intro content aliases history hstarted haliases hread
    rw [hstarted.perform_eq haliases, Stats.chart_of_read hread]
  · intro before after execution h
    rw [← valueOr_eq_nan_iff]
    exact (Run.request options settings script).days_of_record surroundings.machine backend
      surroundings.files h
  · intro reason after hb h
    obtain ⟨before, draw, hrecord, hdraws, history, -, hchart⟩ :=
      exists_draw_of_interpret_error hb h
    exact ⟨before, draw, hrecord, hdraws, blamesDays_of_ofHistory hchart reason rfl⟩
  · rintro rfl hstarted
    exact hstarted.perform_eq
  · intro selection history reason h
    exact blamesDays_of_ofHistory h reason rfl
  · intro selection history skip hd hs
    exact exists_ofHistory_iff_of_nan hd hs

def nanLog : List UInt8 :=
  Text.Utf8.encode "\x00a@x\x002025-01-01T00:00:00+00:00\x00h1\x00first\n1\t2\tp.py\n".toList

def nanScript : List String :=
  [":load log", ":figure 1x1", ":plot bars author"]

/-- The days stand in the default file, beside a log and a script that draws its chart. -/
def nanSurroundings : Surroundings where
  machine := gridSetup.machine
  files := ⟨[(["gista.json"], .file (Text.Utf8.encode "\x7b\"days\": NaN\x7d".toList)),
    (["gista.cfg"], .file (Text.Utf8.encode ("\n".intercalate nanScript).toList)),
    (["log"], .file nanLog)]⟩
  git := ⟨none⟩
  backend _ := .recording

def nanSettings : Settings :=
  { Settings.standard with days := .nan }

def nanOptions : Stats.Options :=
  { Stats.standard with log := .given ⟨.relative, ["log"]⟩ }

def nanSelection : Selection :=
  Stats.selection nanSurroundings.machine nanOptions nanSettings

def nanRequest : Request :=
  Run.request Run.standard nanSettings ⟨.relative, ["gista.cfg"]⟩

def nanSetup : Setup :=
  nanRequest.setup nanSurroundings.machine .recording

def nanSession : Session :=
  nanRequest.session nanSurroundings.machine .recording nanSurroundings.files

theorem configured_nanSettings : nanSurroundings.Configured .absent nanSettings :=
  ⟨.ofText Settings.defaultFile, rfl, by decide +kernel⟩

theorem started_nanOptions : Stats.Started nanSurroundings nanOptions nanSettings nanLog where
  configured := configured_nanSettings
  log := ⟨⟨.relative, ["log"]⟩, rfl, by decide +kernel⟩

theorem started_nanScript :
    Run.Started nanSurroundings Run.standard nanSettings ⟨.relative, ["gista.cfg"]⟩ nanScript where
  configured := configured_nanSettings
  script_eq := by decide +kernel
  lines_eq := by
    have hcheck : ((Run.request Run.standard nanSettings ⟨.relative, ["gista.cfg"]⟩).lines
        nanSurroundings.machine nanSurroundings.files).toOption.any
          (fun lines => decide (lines = nanScript)) = true := by
      decide +kernel
    obtain ⟨lines, hl, hlines⟩ := exists_ok_of_any hcheck
    rw [hl, of_decide_eq_true hlines]

theorem exists_interpret_nanScript : ∃ after, interpret nanSetup nanScript nanSession =
    .error (.activity (.notIntegral .nan)) after := by
  have hfails : (failureOf? (workOf (interpret nanSetup nanScript nanSession))).bind chartFault? =
      some (.notIntegral .nan) := by
    rw [workOf_interpret]
    decide +kernel
  rw [failureOf?_workOf] at hfails
  cases hr : interpret nanSetup nanScript nanSession with
  | ok value after =>
    rw [hr] at hfails
    cases hfails
  | error failure after =>
    rw [hr] at hfails
    cases failure with
    | activity fault =>
      cases hfails
      exact ⟨after, rfl⟩
    | _ => cases hfails

theorem exists_history_nanLog : ∃ history,
    Log.readContent nanSurroundings.machine.dates .empty nanLog = .ok history ∧
      AuthorChart.ofHistory nanSelection history = .error (.notIntegral .nan) := by
  have hcheck : (Log.readContent nanSurroundings.machine.dates .empty nanLog).toOption.any
      (fun history => match AuthorChart.ofHistory nanSelection history with
        | .error fault => decide (fault = .notIntegral .nan)
        | .ok _ => false) = true := by
    decide +kernel
  obtain ⟨history, hread, hcheck⟩ := exists_ok_of_any hcheck
  refine ⟨history, hread, ?_⟩
  cases hchart : AuthorChart.ofHistory nanSelection history with
  | ok chart =>
    rw [hchart] at hcheck
    cases hcheck
  | error fault =>
    rw [hchart] at hcheck
    rw [of_decide_eq_true hcheck]

theorem selection_days_eq_nan_iff_nanSurroundings :
    SaysNaN .absent nanSettings ∧ nanSelection.days = some .nan ∧
    (∃ history, Log.readContent nanSurroundings.machine.dates .empty nanLog = .ok history ∧
      AuthorChart.ofHistory nanSelection history = .error (.notIntegral .nan) ∧
      (∃ pair ∈ history.authorsByName, candidates nanSelection history pair.1 ≠ []) ∧
      Stats.perform nanSurroundings nanOptions =
        .failed nanSurroundings (.script (.activity (.notIntegral .nan)))) ∧
    ∃ after, interpret nanSetup nanScript nanSession =
        .error (.activity (.notIntegral .nan)) after ∧
      Run.perform nanSurroundings Run.standard =
        Run.report (some 100) (closingAfter nanSetup (interpret nanSetup nanScript) nanSession) ∧
      ∃ before draw, nanRequest.record nanSurroundings.machine .recording nanSurroundings.files
          nanScript = before ++ [draw] ∧
        (draw.block.directive? = some .subplot ∨ draw.block.directive? = some .plot) ∧
        (Script.selection nanSetup draw.found.state).days = some .nan ∧
        ∀ command ∈ doneIn before, command.directive ≠ .days := by
  obtain ⟨hstats, hrun, hblames, htold⟩ := selection_days_eq_nan_iff nanSurroundings nanSettings
  obtain ⟨hdays, hperform⟩ := hstats nanOptions
  obtain ⟨hrecord, hdraws, hruns⟩ := hrun Run.standard .recording ⟨.relative, ["gista.cfg"]⟩
    nanScript
  obtain ⟨history, hread, hfails⟩ := exists_history_nanLog
  have hnan : nanSelection.days = some .nan := hblames _ _ _ hfails
  have hconfig : SaysNaN .absent nanSettings := hdays.mp hnan
  have hmeasured : ∃ pair ∈ history.authorsByName, candidates nanSelection history pair.1 ≠ [] := by
    by_contra hnone
    push Not at hnone
    obtain ⟨chart, hc⟩ := (htold nanSelection history 0 hnan rfl).mpr hnone
    rw [hfails] at hc
    cases hc
  have hstopped := hperform nanLog .empty history started_nanOptions rfl hread
  rw [show Stats.selection nanSurroundings.machine nanOptions nanSettings = nanSelection from rfl,
    hfails] at hstopped
  obtain ⟨after, hfailed⟩ := exists_interpret_nanScript
  have hgrants : ¬ RefusesWith .recording (.activity (.notIntegral .nan)) := by
    rintro ⟨_, _, _, h⟩
    cases h
  obtain ⟨before, draw, hlast, hasked, hwindow⟩ := hdraws .nan after hgrants hfailed
  exact ⟨hconfig, hnan, ⟨history, hread, hfails, hmeasured, hstopped⟩, after, hfailed,
    hruns rfl started_nanScript, before, draw, hlast, hasked, hwindow,
    ((hrecord before [] draw hlast).mp hwindow).2⟩

end Command

end Authorship
