import Authorship.Proofs.Activity.Qualifying
import Authorship.Proofs.Command.Performing
import Authorship.Proofs.Script.Figures
import Authorship.Proofs.Settings.Reporting

namespace Authorship.Command

open Authorship.Text

variable {surroundings : Surroundings} {path : Files.Path} {fault : Settings.Fault}

/-- Both commands that use settings end with a report when these are to be in the file at a path. -/
structure Ends (surroundings : Surroundings) (path : Files.Path) (report : Report) : Prop where
  run : ∀ options : Run.Options,
    options.config.valueOr (.ofText Settings.defaultFile) = some path →
      Run.perform surroundings options = report
  stats : ∀ (options : Stats.Options) (log : Files.Path),
    options.config.valueOr (.ofText Settings.defaultFile) = some path →
    options.log.valueOr (.ofText ".") = some log →
    surroundings.files.isFile surroundings.machine.workDir log = .ok true →
      Stats.perform surroundings options = report

theorem Surroundings.withSettings_of_error {choice : Choice Files.Path}
    (hc : choice.valueOr (.ofText Settings.defaultFile) = some path)
    (h : surroundings.settings path = .error fault) (next : Settings → Report) :
    surroundings.withSettings choice next =
      if fault.isReported then
        .diagnostic surroundings ("Invalid config " ++ path.text ++ ": " ++ fault.message)
      else .failed surroundings (.settings fault) := by
  rw [settings] at h
  simp only [withSettings, hc, h]

theorem ends_of_error (h : surroundings.settings path = .error fault) :
    Ends surroundings path
      (if fault.isReported then
        .diagnostic surroundings ("Invalid config " ++ path.text ++ ": " ++ fault.message)
      else .failed surroundings (.settings fault)) where
  run _ hc := Surroundings.withSettings_of_error hc h _
  stats options log hc hl hf := by
    simp only [Stats.perform, Surroundings.withFile, hl, hf]
    exact Surroundings.withSettings_of_error hc h _

/-- For every content of the file of settings: it gives settings, or both commands end with the
code 1 and the word that it is invalid, or it is one of those whose fault is not reported. It is
one of these for its depth only if it opens enough lists and objects, and brackets are enough. -/
theorem ends_of_content {content : List UInt8}
    (h : surroundings.files.read surroundings.machine.workDir path = .ok content) :
    ((Settings.IsUsable surroundings.machine.home? content ∧
        ¬ Settings.IsUnreported surroundings.machine.home? content ∧
        ∃ settings, surroundings.settings path = .ok settings) ∨
      (¬ Settings.IsUsable surroundings.machine.home? content ∧
        ¬ Settings.IsUnreported surroundings.machine.home? content ∧
        ∃ fault, surroundings.settings path = .error fault ∧
          Ends surroundings path
            (.diagnostic surroundings ("Invalid config " ++ path.text ++ ": " ++ fault.message))) ∨
      (¬ Settings.IsUsable surroundings.machine.home? content ∧
        Settings.IsUnreported surroundings.machine.home? content ∧
        ∃ fault, surroundings.settings path = .error fault ∧
          Ends surroundings path (.failed surroundings (.settings fault)))) ∧
      (Settings.IsTooDeep content → ∃ text, Utf8.decode? content = .ok text ∧
        Json.depthLimit < Json.openings (unifyNewlines text)) ∧
      ∀ text count rest, Utf8.decode? content = .ok text →
        unifyNewlines text = List.replicate count '[' ++ rest → Json.depthLimit < count →
          Settings.IsTooDeep content := by
  obtain ⟨husable, hunreported⟩ := Settings.ofFile_cases h
  refine ⟨?_, Settings.depthLimit_lt_of_isTooDeep,
    fun _ _ _ hd ht hc => Settings.isTooDeep_of_brackets hd ht hc⟩
  rw [← husable, ← hunreported]
  cases hs : surroundings.settings path with
  | ok settings =>
    rw [Surroundings.settings] at hs
    refine .inl ⟨⟨settings, hs⟩, ?_, settings, rfl⟩
    rintro ⟨fault, hf, -⟩
    rw [hs] at hf
    cases hf
  | error fault =>
    have hends := ends_of_error hs
    rw [Surroundings.settings] at hs
    have hnone : ¬ ∃ settings, Settings.ofFile surroundings.machine.home? surroundings.files
        surroundings.machine.workDir path = .ok settings := by
      rintro ⟨settings, hok⟩
      rw [hs] at hok
      cases hok
    cases hr : fault.isReported with
    | true =>
      rw [if_pos hr] at hends
      refine .inr (.inl ⟨hnone, ?_, fault, rfl, hends⟩)
      rintro ⟨other, ho, hother⟩
      rw [hs] at ho
      cases ho
      rw [hr] at hother
      cases hother
    | false =>
      rw [if_neg (Bool.eq_false_iff.mp hr)] at hends
      exact .inr (.inr ⟨hnone, ⟨fault, hs, hr⟩, fault, rfl, hends⟩)

def infiniteText : List Char :=
  "\x7b\"dpi\": Infinity\x7d".toList

def infiniteContent : List UInt8 :=
  Utf8.encode infiniteText

/-- The resolution stands in the default file, beside a log. -/
def infiniteSurroundings : Surroundings where
  machine := Script.gridSetup.machine
  files := ⟨[(["gista.json"], .file infiniteContent), (["log"], .file [])]⟩
  git := ⟨none⟩
  backend _ := .recording

theorem ends_of_content_infiniteSurroundings :
    ∃ content, infiniteSurroundings.files.read [] (.ofText Settings.defaultFile) = .ok content ∧
      Settings.IsUnreported infiniteSurroundings.machine.home? content ∧
      ∃ fault, infiniteSurroundings.settings (.ofText Settings.defaultFile) = .error fault ∧
        Ends infiniteSurroundings (.ofText Settings.defaultFile)
          (.failed infiniteSurroundings (.settings fault)) := by
  have hread : infiniteSurroundings.files.read infiniteSurroundings.machine.workDir
      (.ofText Settings.defaultFile) = .ok infiniteContent := by
    decide +kernel
  have hdecode : Utf8.decode? infiniteContent = .ok infiniteText := by decide +kernel
  have hcheck : (Json.read (unifyNewlines infiniteText)).toOption.any fun config =>
      (config.member? "script").isNone &&
        decide (Settings.memberOr config "dpi" Settings.toInteger 0 =
          .error (.notIntegral .infinity)) := by
    decide +kernel
  obtain ⟨config, hconfig, hmembers⟩ := exists_ok_of_any hcheck
  rw [Bool.and_eq_true, Option.isNone_iff_eq_none, decide_eq_true_iff] at hmembers
  obtain ⟨hscript, hdpi⟩ := hmembers
  obtain ⟨value, hg, hv⟩ := Settings.memberOr_eq_error_iff.mp hdpi
  obtain ⟨negative, rfl⟩ := (Settings.isReported_of_toInteger hv).mp rfl
  have hunreported : Settings.IsUnreported infiniteSurroundings.machine.home? infiniteContent := by
    refine .inr ⟨config, Settings.holds_of_member? hdecode hconfig hg, .dpi ?_ hg⟩
    intro script hs
    rw [hscript] at hs
    cases hs
  obtain ⟨⟨-, hnot, -⟩ | ⟨-, hnot, -⟩ | ⟨-, -, hends⟩, -⟩ := ends_of_content hread
  · exact absurd hunreported hnot
  · exact absurd hunreported hnot
  · exact ⟨infiniteContent, hread, hunreported, hends⟩

end Authorship.Command
