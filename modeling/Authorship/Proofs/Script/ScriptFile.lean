import Authorship.Proofs.Script.Figures
import Authorship.Proofs.Script.Deed
import Authorship.Proofs.Text.Line
import Authorship.Proofs.Text.Utf8

namespace Authorship.Script

open Authorship.Text Authorship.Drawing Authorship.Activity Authorship.Script.Action

section Closing

variable {setup : Setup}

def Work.leave (setup : Setup) : EStateM Failure Work Unit := fun work =>
  (do
    Work.close setup work.state.target.figure?
    Work.set fun state => { state with target := .absent }) work

def Work.leaveAfter (setup : Setup) :
    EStateM.Result Failure Work Unit → EStateM.Result Failure Work Unit
  | .ok () work => Work.leave setup work
  | .error failure work =>
    match Work.leave setup work with
    | .ok () work => .error failure work
    | .error failure work => .error failure work

theorem workOf_closeTarget (setup : Setup) (session : Session) :
    workOf (closeTarget setup session) = Work.leave setup session.work := by
  have hclose : closeTarget setup session =
      (closeFigure setup session.state.target.figure? >>= fun _ =>
        setState fun state => { state with target := .absent }) session := rfl
  have hleave : Work.leave setup session.work =
      (Work.close setup session.state.target.figure? >>= fun _ =>
        Work.set fun state => { state with target := .absent }) session.work := rfl
  rw [hclose, hleave]
  simp only [Bind.bind, EStateM.bind]
  cases session.state.target.figure? with
  | none => rfl
  | some figure =>
    simp only [closeFigure, Action.call, Work.close, Work.call, Session.work]
    cases setup.backend.answer session.attempts session.files (.close figure) <;> rfl

theorem workOf_closingAfter (setup : Setup) (action : Action Unit) (session : Session) :
    workOf (closingAfter setup action session) =
      Work.leaveAfter setup (workOf (action session)) := by
  rw [closingAfter]
  cases action session with
  | ok value after => exact workOf_closeTarget setup after
  | error failure after =>
    simp only [workOf, Work.leaveAfter, ← workOf_closeTarget]
    cases closeTarget setup after <;> rfl

theorem workOf_closingAfter_interpret {lines : List String} {session other : Session}
    (h : session.work = other.work) :
    workOf (closingAfter setup (interpret setup lines) session) =
      workOf (closingAfter setup (interpret setup lines) other) := by
  rw [workOf_closingAfter, workOf_closingAfter, workOf_interpret, workOf_interpret, h]

end Closing

namespace Request

variable (request : Request) (machine : Machine) (backend : Drawing.Backend) (files : Files.Tree)

def session : Session :=
  (Action.tell (request.setup machine backend) (.loadingScript request.path.text)).final
    (.start (request.setup machine backend) files request.days request.skip)

theorem run_eq {lines : List String} (h : request.lines machine files = .ok lines) :
    request.run machine backend files =
      closingAfter (request.setup machine backend)
        (interpret (request.setup machine backend) lines)
        (request.session machine backend files) := by
  have htold : Action.tell (request.setup machine backend) (.loadingScript request.path.text)
      (.start (request.setup machine backend) files request.days request.skip) =
        .ok () (request.session machine backend files) := by
    unfold session Action.tell
    split <;> rfl
  rw [run, h]
  simp only [Bind.bind, EStateM.bind, htold]

theorem work_session : (request.session machine backend files).work =
    (Session.start (request.setup machine backend) files request.days request.skip).work := by
  unfold session Action.tell
  split <;> rfl

end Request

def cutLines (lines : List String) : List String :=
  lines.flatMap fun line => (line.toList.splitOnP isVerticalBreak).map String.ofList

theorem cutLines_of_not_break {lines : List String}
    (h : ∀ line ∈ lines, ∀ c ∈ line.toList, isVerticalBreak c = false) : cutLines lines = lines := by
  induction lines with
  | nil => rfl
  | cons line lines ih =>
    have hline : line.toList.splitOnP isVerticalBreak = [line.toList] :=
      List.splitOnP_eq_singleton (h line List.mem_cons_self)
    have hrest := ih fun other ho => h other (List.mem_cons_of_mem line ho)
    rw [cutLines] at hrest ⊢
    rw [List.flatMap_cons, hrest, hline, List.map_singleton, String.ofList_toList,
      List.singleton_append]

theorem Request.lines_eq {request : Request} {machine : Machine} {files : Files.Tree}
    {lines : List String} (hl : ∀ line ∈ lines, IsOneLine line.toList)
    (hf : files.read machine.workDir request.path =
      .ok (Utf8.encode (joinLines (lines.map String.toList)))) :
    request.lines machine files = .ok (cutLines lines) := by
  have hone : ∀ text ∈ lines.map String.toList, IsOneLine text := by
    intro text ht
    obtain ⟨line, hm, rfl⟩ := List.mem_map.mp ht
    exact hl line hm
  rw [Request.lines, hf]
  simp only [Bind.bind, Except.bind, Except.mapError, Utf8.decode?_encode,
    scriptLines_unifyNewlines_joinLines hone]
  rw [List.flatMap_map, List.map_flatMap, cutLines]

/-- A script file comes to what its lines, cut at the vertical breaks, come to in a new interpreter
that is closed after them: the same calls, settings and files, and the same failure at the same
line. Lines without such breaks are run as they are. -/
theorem workOf_run_joinLines (request : Request) (machine : Machine) (backend : Drawing.Backend)
    (files : Files.Tree) (lines : List String) (hl : ∀ line ∈ lines, IsOneLine line.toList)
    (hf : files.read machine.workDir request.path =
      .ok (Utf8.encode (joinLines (lines.map String.toList)))) :
    workOf (request.run machine backend files) =
        workOf (closingAfter (request.setup machine backend)
          (interpret (request.setup machine backend) (cutLines lines))
          (.start (request.setup machine backend) files request.days request.skip)) ∧
      ((∀ line ∈ lines, ∀ c ∈ line.toList, isVerticalBreak c = false) →
        workOf (request.run machine backend files) =
          workOf (closingAfter (request.setup machine backend)
            (interpret (request.setup machine backend) lines)
            (.start (request.setup machine backend) files request.days request.skip))) := by
  have hcut : workOf (request.run machine backend files) =
      workOf (closingAfter (request.setup machine backend)
        (interpret (request.setup machine backend) (cutLines lines))
        (.start (request.setup machine backend) files request.days request.skip)) := by
    rw [request.run_eq machine backend files (Request.lines_eq hl hf)]
    exact workOf_closingAfter_interpret (request.work_session machine backend files)
  refine ⟨hcut, fun hbreak => ?_⟩
  rw [cutLines_of_not_break hbreak] at hcut
  exact hcut

def scriptFiles (lines : List String) : Files.Tree :=
  ⟨[(["grid"], .file (Utf8.encode (joinLines (lines.map String.toList))))]⟩

def titleOf? {ε α : Type} : EStateM.Result ε Work α → Option String
  | .ok _ work => work.state.title
  | .error _ work => work.state.title

def separatedLines : List String :=
  [":title \"a\u2028b\""]

/-- A title with a line separator is cut in a file and not in memory; without separators a failing
script fails alike. -/
theorem workOf_run_joinLines_separatedLines :
    (titleOf? (workOf (gridRequest.run gridSetup.machine gridSetup.backend
          (scriptFiles separatedLines))) = some "a" ∧
        titleOf? (workOf (closingAfter (gridRequest.setup gridSetup.machine gridSetup.backend)
          (interpret (gridRequest.setup gridSetup.machine gridSetup.backend) separatedLines)
          (.start (gridRequest.setup gridSetup.machine gridSetup.backend)
            (scriptFiles separatedLines) none (some 0)))) = some "a\u2028b") ∧
      workOf (gridRequest.run gridSetup.machine gridSetup.backend (scriptFiles gridScript)) =
        workOf (closingAfter (gridRequest.setup gridSetup.machine gridSetup.backend)
          (interpret (gridRequest.setup gridSetup.machine gridSetup.backend) gridScript)
          (.start (gridRequest.setup gridSetup.machine gridSetup.backend)
            (scriptFiles gridScript) none (some 0))) := by
  have hone (lines : List String)
      (h : lines.all (fun line => !line.toList.contains '\n' && !line.toList.contains '\r') = true) :
      ∀ line ∈ lines, IsOneLine line.toList := by
    intro line hm
    have hline := List.all_eq_true.mp h line hm
    rw [Bool.and_eq_true, Bool.not_eq_true', Bool.not_eq_true'] at hline
    exact ⟨by simpa using hline.1, by simpa using hline.2⟩
  refine ⟨⟨?_, ?_⟩, ?_⟩
  · obtain ⟨hcut, -⟩ := workOf_run_joinLines gridRequest gridSetup.machine gridSetup.backend
      (scriptFiles separatedLines) separatedLines (hone _ (by decide +kernel)) rfl
    rw [hcut, workOf_closingAfter, workOf_interpret]
    decide +kernel
  · rw [workOf_closingAfter, workOf_interpret]
    decide +kernel
  · obtain ⟨-, hplain⟩ := workOf_run_joinLines gridRequest gridSetup.machine gridSetup.backend
      (scriptFiles gridScript) gridScript (hone _ (by decide +kernel)) rfl
    have hbreak : gridScript.all (fun line => line.toList.all fun c => !isVerticalBreak c) = true := by
      decide +kernel
    apply hplain
    intro line hm c hc
    rw [← Bool.not_eq_true']
    exact List.all_eq_true.mp (List.all_eq_true.mp hbreak line hm) c hc

end Authorship.Script
