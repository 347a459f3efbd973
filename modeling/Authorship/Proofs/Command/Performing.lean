import Authorship.Command.Run
import Authorship.Command.Stats
import Authorship.Proofs.Activity.Qualifying
import Authorship.Proofs.Files.Tree
import Authorship.Proofs.Script.ScriptFile

namespace Authorship.Command

open Authorship.Activity Authorship.Script

def Surroundings.settings (surroundings : Surroundings) (path : Files.Path) :
    Except Settings.Fault Settings :=
  Settings.ofFile surroundings.machine.home? surroundings.files surroundings.machine.workDir path

/-- The file of settings that is chosen, or the default one, has these settings. -/
def Surroundings.Configured (surroundings : Surroundings) (choice : Choice Files.Path)
    (settings : Settings) : Prop :=
  ∃ path, choice.valueOr (.ofText Settings.defaultFile) = some path ∧
    surroundings.settings path = .ok settings

variable {surroundings : Surroundings} {settings : Settings}

theorem Surroundings.Configured.withSettings_eq {choice : Choice Files.Path}
    (h : surroundings.Configured choice settings) (next : Settings → Report) :
    surroundings.withSettings choice next = next settings := by
  obtain ⟨path, hc, hs⟩ := h
  rw [Surroundings.settings] at hs
  simp only [withSettings, hc, hs]

theorem Surroundings.withFile_of_read {path : Files.Path} {content : List UInt8}
    (h : surroundings.files.read surroundings.machine.workDir path = .ok content) (lack : Lack)
    (next : Files.Path → Report) :
    surroundings.withFile (some path) lack next = next path := by
  simp only [withFile, Files.Tree.isFile_of_read h]

namespace Stats

variable {options : Options} {content : List UInt8} {aliases : Aliases}

theorem chart_of_read {machine : Machine} {history : History}
    (h : Log.readContent machine.dates aliases content = .ok history) :
    chart machine options settings aliases content =
      (AuthorChart.ofHistory (selection machine options settings) history).mapError .activity := by
  rw [chart, h]
  rfl

structure Started (surroundings : Surroundings) (options : Options) (settings : Settings)
    (content : List UInt8) : Prop where
  configured : surroundings.Configured options.config settings
  log : ∃ path, options.log.valueOr (.ofText ".") = some path ∧
    surroundings.files.read surroundings.machine.workDir path = .ok content

theorem Started.perform_eq (h : Started surroundings options settings content)
    (ha : readAliases options.aliases = .ok aliases) :
    perform surroundings options = report surroundings options
      (chart surroundings.machine options settings aliases content) := by
  obtain ⟨path, hp, hr⟩ := h.log
  rw [perform, hp, Surroundings.withFile_of_read hr, h.configured.withSettings_eq]
  simp only [ha, hr]

/-- How the command ends with a chart, or with what went wrong before there was one: the table of
the chart is printed, and a failure is told with the code 1 or goes on. -/
structure Tells (surroundings : Surroundings) (options : Options)
    (result : Except Authorship.Failure AuthorChart) (report : Report) : Prop where
  printed : ∀ chart key top text, result = .ok chart →
    options.sortBy.valueOr .linesChanged = some key → options.top.valueOr 0 = some top →
    chart.table key top = .ok text →
      report = .plain surroundings (.finished 0) (text ++ "\n") ""
  unprinted : ∀ chart key top fault, result = .ok chart →
    options.sortBy.valueOr .linesChanged = some key → options.top.valueOr 0 = some top →
    chart.table key top = .error fault → report = .failed surroundings (.activity fault)
  diagnosed : ∀ failure, result = .error failure → failure.isDiagnostic = true →
    report = .diagnostic surroundings failure.message
  failed : ∀ failure, result = .error failure → failure.isDiagnostic = false →
    report = .failed surroundings (.script failure)

end Stats

namespace Run

variable {options : Options} {script : Files.Path} {lines : List String}

def request (options : Options) (settings : Settings) (script : Files.Path) : Request :=
  ⟨script, none, options.days.valueOr settings.days, options.skip.valueOr settings.skip,
    options.quiet⟩

structure Started (surroundings : Surroundings) (options : Options) (settings : Settings)
    (script : Files.Path) (lines : List String) : Prop where
  configured : surroundings.Configured options.config settings
  script_eq : options.script.valueOr settings.script = some script
  lines_eq : (request options settings script).lines surroundings.machine surroundings.files =
    .ok lines

theorem Started.perform_eq (h : Started surroundings options settings script lines) :
    perform surroundings options =
      let asked := request options settings script
      let dpi := options.dpi.valueOr settings.dpi
      let backend := surroundings.backend dpi
      report dpi (closingAfter (asked.setup surroundings.machine backend)
        (interpret (asked.setup surroundings.machine backend) lines)
        (asked.session surroundings.machine backend surroundings.files)) := by
  obtain ⟨content, hr, -⟩ := exists_of_bind_ok h.lines_eq
  have hread : surroundings.files.read surroundings.machine.workDir script = .ok content :=
    eq_ok_of_mapError hr
  rw [perform, h.configured.withSettings_eq, h.script_eq, Surroundings.withFile_of_read hread]
  exact congrArg (report _) ((request options settings script).run_eq surroundings.machine
    (surroundings.backend (options.dpi.valueOr settings.dpi)) surroundings.files h.lines_eq)

end Run

end Authorship.Command
