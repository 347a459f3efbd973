import Authorship.DateText.Resolution
import Authorship.Proofs.Drawing.Lifecycle
import Authorship.Proofs.Script.Pair
import Authorship.Script.ScriptFile

namespace Authorship.Script

open Authorship.Drawing Authorship.Activity Authorship.Script.Action

/-- The figure of the target is the open one. -/
def Session.IsOrderly (session : Session) : Prop :=
  Orderly session.attempts session.state.target

def Keeps {α : Type} (target : Target) (action : Action α) : Prop :=
  ∀ session, session.IsOrderly → session.state.target = target →
    (action.final session).IsOrderly ∧ (action.final session).state.target = target

namespace Keeps

variable {α β : Type} {target : Target} {setup : Setup}

theorem of_idle {action : Action α}
    (h : ∀ session, (action.final session).attempts = session.attempts ∧
      (action.final session).state.target = session.state.target) : Keeps target action := by
  intro session ho ht
  obtain ⟨ha, hs⟩ := h session
  refine ⟨?_, hs.trans ht⟩
  rw [Session.IsOrderly, ha, hs]
  exact ho

theorem pure (value : α) : Keeps target (Pure.pure value : Action α) :=
  of_idle fun _ => ⟨rfl, rfl⟩

theorem bind {action : Action α} {next : α → Action β} (hfirst : Keeps target action)
    (hsecond : ∀ value, Keeps target (next value)) : Keeps target (action >>= next) := by
  intro session ho ht
  have hmid := hfirst session ho ht
  simp only [final, Bind.bind, EStateM.bind] at hmid ⊢
  cases h : action session with
  | ok value after =>
    rw [h] at hmid
    exact hsecond value after hmid.1 hmid.2
  | error failure after =>
    rw [h] at hmid
    exact hmid

theorem get_bind {next : Session → Action β} (h : ∀ session, Keeps target (next session)) :
    Keeps target (MonadState.get >>= next) :=
  bind (of_idle fun _ => ⟨rfl, rfl⟩) h

theorem state_bind {next : State → Action β}
    (h : ∀ current, current.target = target → Keeps target (next current)) :
    Keeps target (Action.state >>= next) := by
  intro session ho ht
  exact h session.state ht session ho ht

theorem setState {change : State → State} (h : ∀ state, (change state).target = state.target) :
    Keeps target (Action.setState change) :=
  of_idle fun session => ⟨rfl, h session.state⟩

theorem note (message : Note) : Keeps target (Action.note message) :=
  of_idle fun _ => ⟨rfl, rfl⟩

theorem tell (setup : Setup) (message : Note) : Keeps target (Action.tell setup message) := by
  unfold Action.tell
  split
  · exact pure ()
  · exact note message

theorem attempt (result : Except Failure α) : Keeps target (Action.attempt result) := by
  cases result <;> exact of_idle fun _ => ⟨rfl, rfl⟩

theorem complain (complaint : Complaint) : Keeps target (Action.complain complaint : Action α) :=
  of_idle fun _ => ⟨rfl, rfl⟩

theorem ofComplaint (result : Except Complaint α) : Keeps target (Action.ofComplaint result) := by
  cases result with
  | ok value => exact pure value
  | error complaint => exact Keeps.complain complaint

theorem consume : Keeps target Action.consume := by
  apply of_idle
  intro session
  simp only [final, Action.consume]
  cases session.cursor.consume <;> exact ⟨rfl, rfl⟩

theorem consumeRest : Keeps target Action.consumeRest :=
  of_idle fun _ => ⟨rfl, rfl⟩

theorem readList : Keeps target Action.readList := by
  apply of_idle
  intro session
  simp only [final, Action.readList]
  cases session.cursor.readList.1 <;> exact ⟨rfl, rfl⟩

theorem call (setup : Setup) {request : Call} (hn : request.newSize? = none)
    (hc : request.closed? = none)
    (hp : ∀ attempts, Orderly attempts target → Proper attempts request) :
    Keeps target (Action.call setup request) := by
  intro session ho ht
  rw [Session.IsOrderly, ht] at ho
  have hproper := hp session.attempts ho
  simp only [final, Action.call, Session.IsOrderly]
  cases setup.backend.answer session.attempts session.files request with
  | ok files =>
    refine ⟨?_, ht⟩
    dsimp only
    rw [ht]
    exact ho.used hproper hn hc
  | error failure =>
    refine ⟨?_, ht⟩
    dsimp only
    rw [ht]
    exact ho.refused hproper

theorem aliasAuthor : Keeps target Script.aliasAuthor :=
  bind consume fun _ => bind readList fun _ => setState fun _ => rfl

theorem loadLog (setup : Setup) : Keeps target (Script.loadLog setup) := by
  apply bind consume
  intro text
  apply bind (attempt _)
  intro path
  apply get_bind
  intro session
  apply bind (attempt _)
  intro isFile
  cases isFile with
  | false => exact complain _
  | true =>
    exact bind (tell _ _) fun _ => bind (attempt _) fun _ => bind (of_idle fun _ => ⟨rfl, rfl⟩)
      fun _ => bind (attempt _) fun _ => bind (setState fun _ => rfl) fun _ => tell _ _

theorem drawBars (setup : Setup) {figure : Figure} {cell : Option Cell}
    (hp : ∀ attempts chart, Orderly attempts target → Proper attempts (.bars figure cell chart)) :
    Keeps target (Script.drawBars setup figure cell) := by
  apply bind consume
  intro name
  split
  · exact complain _
  · apply state_bind
    intro current _
    cases current.history with
    | none => exact complain _
    | some history =>
      exact bind (attempt _) fun _ => bind consumeRest fun _ => bind (ofComplaint _) fun _ =>
        call setup rfl rfl fun attempts => hp attempts _

theorem draw (setup : Setup) {figure : Figure} {cell : Option Cell}
    (hp : ∀ attempts chart, Orderly attempts target → Proper attempts (.bars figure cell chart)) :
    Keeps target (Script.draw setup figure cell) := by
  apply bind consume
  intro kind
  split
  · exact drawBars setup hp
  · exact complain _

theorem drawCell (setup : Setup) : Keeps target (Script.drawCell setup) := by
  apply bind consume
  intro text
  apply bind (ofComplaint _)
  intro place
  apply state_bind
  intro current hc
  dsimp only
  rw [hc]
  cases target with
  | grid figure rows cols =>
    dsimp only
    split
    · rename_i hcell
      apply draw setup
      intro attempts chart ho
      obtain ⟨width, height, hmade⟩ := ho.isMade
      simp only [hasCell, Bool.and_eq_true, decide_eq_true_eq] at hcell
      obtain ⟨⟨⟨hrow, hrows⟩, hcol⟩, hcols⟩ := hcell
      exact ⟨ho.isOnlyOpenAfter rfl, width, height, rows, cols, hmade, hrow, hrows, hcol, hcols⟩
    · exact complain _
  | absent => exact complain _
  | whole => exact complain _

theorem drawWhole (setup : Setup) : Keeps target (Script.drawWhole setup) := by
  apply state_bind
  intro current hc
  rw [hc]
  cases target with
  | whole figure =>
    apply draw setup
    intro attempts chart ho
    exact ⟨ho.isOnlyOpenAfter rfl, ho.isMade⟩
  | absent => exact complain _
  | grid => exact complain _

theorem saveFigure (setup : Setup) : Keeps target (Script.saveFigure setup) := by
  apply bind consume
  intro text
  apply bind (attempt _)
  intro path
  apply state_bind
  intro current hc
  rw [hc]
  cases hf : target.figure? with
  | none => exact complain _
  | some figure =>
    exact bind (call setup rfl rfl fun attempts ho => ho.isOnlyOpenAfter hf) fun _ => tell _ _

end Keeps

/-- An action that keeps sessions orderly; the target may be another one after it. -/
def KeepsOrder {α : Type} (action : Action α) : Prop :=
  ∀ session, session.IsOrderly → (action.final session).IsOrderly

theorem Keeps.keepsOrder {α : Type} {action : Action α} (h : ∀ target, Keeps target action) :
    KeepsOrder action :=
  fun session ho => (h session.state.target session ho rfl).1

def Closes (backend : Backend) : Prop :=
  ∀ attempts files figure, ∃ after, backend.answer attempts files (.close figure) = .ok after

theorem closeTarget_eq {setup : Setup} (hclose : Closes setup.backend) (session : Session) :
    ∃ files, closeTarget setup session = .ok ()
      { session with
        files := files
        attempts := session.attempts ++
          session.state.target.figure?.toList.map fun figure => ⟨.close figure, true⟩
        state := { session.state with target := .absent } } := by
  have hunfold : closeTarget setup session =
      (closeFigure setup session.state.target.figure? >>= fun _ =>
        setState fun state => { state with target := .absent }) session := rfl
  rw [hunfold]
  cases session.state.target.figure? with
  | none =>
    rw [Option.toList_none, List.map_nil, List.append_nil]
    exact ⟨session.files, rfl⟩
  | some figure =>
    obtain ⟨files, hfiles⟩ := hclose session.attempts session.files figure
    refine ⟨files, ?_⟩
    simp only [closeFigure, Bind.bind, EStateM.bind, Action.call, hfiles]
    rfl

theorem orderly_closed {attempts : List Attempt} {target : Target} (h : Orderly attempts target) :
    Orderly (attempts ++ target.figure?.toList.map fun figure => ⟨.close figure, true⟩)
      .absent := by
  refine ⟨?_, trivial⟩
  have hkept := h.kept
  cases hf : target.figure? with
  | none =>
    rw [hf] at hkept
    rw [Option.toList_none, List.map_nil, List.append_nil]
    exact hkept
  | some figure =>
    rw [hf] at hkept
    exact hkept.close (List.mem_singleton.mpr rfl) fun other => by
      simp [Target.figure?]

theorem keepsOrder_closeTarget {setup : Setup} (hclose : Closes setup.backend) :
    KeepsOrder (closeTarget setup) := by
  intro session ho
  obtain ⟨files, hc⟩ := closeTarget_eq hclose session
  rw [final, hc]
  exact orderly_closed ho

theorem orderly_replaced {attempts : List Attempt} {target next : Target} {creation : Call}
    {size : Nat × Nat} (h : Orderly attempts target) (hp : Proper attempts creation)
    (hn : creation.newSize? = some size)
    (hf : next.figure? = some (nextFigure (granted attempts)))
    (hm : ∀ others, creationOf others (nextFigure (granted attempts)) = some creation →
      next.IsMade others) :
    Orderly (attempts ++ [⟨creation, true⟩] ++
      target.figure?.toList.map fun figure => ⟨.close figure, true⟩) next := by
  have hmade := h.kept.made hp hn
  have hcreation : creationOf (attempts ++ [⟨creation, true⟩]) (nextFigure (granted attempts)) =
      some creation := by
    rw [creationOf_made hn, if_pos rfl]
  constructor
  · rw [hf]
    cases ht : target.figure? with
    | none =>
      rw [ht] at hmade
      rw [Option.toList_none, List.map_nil, List.append_nil]
      exact hmade
    | some old =>
      rw [ht] at hmade
      have hne : nextFigure (granted attempts) ≠ old := by
        rintro rfl
        have hopen := (h.kept.isOpenAfter_iff (nextFigure (granted attempts))).mpr (by rw [ht]; simp)
        rw [IsOpenAfter, creationOf_nextFigure] at hopen
        cases hopen.1
      refine hmade.close (by simp) fun other => ?_
      simp only [Option.toList_some, List.mem_append, List.mem_singleton]
      constructor
      · rintro rfl
        exact ⟨.inr rfl, hne⟩
      · rintro ⟨rfl | rfl, ho⟩
        · exact absurd rfl ho
        · rfl
  · apply hm
    cases target.figure? with
    | none => rwa [Option.toList_none, List.map_nil, List.append_nil]
    | some old => exact (creationOf_of_eq (creations_used rfl) _).trans hcreation

theorem keepsOrder_replace {setup : Setup} (hclose : Closes setup.backend) {creation : Call}
    {size : Nat × Nat} (target : Figure → Target) (hp : ∀ attempts, Proper attempts creation)
    (hn : creation.newSize? = some size) (hf : ∀ figure, (target figure).figure? = some figure)
    (hm : ∀ attempts figure, creationOf attempts figure = some creation →
      (target figure).IsMade attempts) :
    KeepsOrder (do
      let figure ← newFigure setup creation
      closeTarget setup
      setState fun state => { state with target := target figure }) := by
  intro session ho
  have hproper := hp session.attempts
  have hnew : newFigure setup creation session =
      (call setup creation >>= fun _ => pure (nextFigure (granted session.attempts))) session := rfl
  simp only [final, Bind.bind, EStateM.bind, hnew, Action.call, Pure.pure, EStateM.pure]
  cases setup.backend.answer session.attempts session.files creation with
  | error failure => exact ho.refused hproper
  | ok files =>
    dsimp only
    obtain ⟨closedFiles, hc⟩ := closeTarget_eq hclose
      { session with files := files, attempts := session.attempts ++ [⟨creation, true⟩] }
    simp only [hc]
    exact orderly_replaced ho hproper hn (hf _) fun others => hm others _

namespace KeepsOrder

variable {α β : Type} {setup : Setup}

theorem bind {action : Action α} {next : α → Action β} (hfirst : ∀ target, Keeps target action)
    (hsecond : ∀ value, KeepsOrder (next value)) : KeepsOrder (action >>= next) := by
  intro session ho
  obtain ⟨hmid, -⟩ := hfirst session.state.target session ho rfl
  simp only [final, Bind.bind, EStateM.bind] at hmid ⊢
  cases h : action session with
  | ok value after =>
    rw [h] at hmid
    exact hsecond value after hmid
  | error failure after =>
    rw [h] at hmid
    exact hmid

theorem ofComplaint_bind {result : Except Complaint α} {next : α → Action β}
    (h : ∀ value, result = .ok value → KeepsOrder (next value)) :
    KeepsOrder (Action.ofComplaint result >>= next) := by
  cases result with
  | ok value => exact h value rfl
  | error complaint => exact Keeps.keepsOrder fun _ => .complain complaint

theorem declareFigure (hclose : Closes setup.backend) :
    KeepsOrder (Script.declareFigure setup) := by
  apply bind fun _ => .consume
  intro text
  apply ofComplaint_bind
  rintro ⟨width, height⟩ hsize
  apply bind fun _ => .of_idle fun _ => ⟨rfl, rfl⟩
  intro session
  obtain ⟨hwidth, hheight⟩ := one_le_of_readPair (c := 'x') rfl hsize
  dsimp only
  split
  · apply bind fun _ => .consume
    intro text
    apply ofComplaint_bind
    rintro ⟨rows, cols⟩ hshape
    obtain ⟨hrows, hcols⟩ := one_le_of_readPair (c := '-') rfl hshape
    exact keepsOrder_replace hclose (fun figure => .grid figure rows cols)
      (fun _ => ⟨hwidth, hheight, hrows, hcols⟩) rfl (fun _ => rfl)
      fun _ _ hmade => ⟨width, height, hmade⟩
  · exact keepsOrder_replace hclose .whole (fun _ => ⟨hwidth, hheight⟩) rfl (fun _ => rfl)
      fun _ _ hmade => ⟨width, height, hmade⟩

theorem run (hclose : Closes setup.backend) (directive : Directive) :
    KeepsOrder (directive.run setup) := by
  cases directive with
  | figure => exact declareFigure hclose
  | aliasList => exact Keeps.keepsOrder fun _ => .aliasAuthor
  | load => exact Keeps.keepsOrder fun _ => .loadLog setup
  | days =>
    exact Keeps.keepsOrder fun _ => .bind .consume fun _ => .bind (.ofComplaint _) fun _ =>
      .setState fun _ => rfl
  | skipCommit =>
    exact Keeps.keepsOrder fun _ => .bind .consume fun _ => .bind (.ofComplaint _) fun _ =>
      .setState fun _ => rfl
  | includeList =>
    exact Keeps.keepsOrder fun _ => .bind .readList fun _ => .setState fun _ => rfl
  | includeClear => exact Keeps.keepsOrder fun _ => .of_idle fun _ => ⟨rfl, rfl⟩
  | excludeList =>
    exact Keeps.keepsOrder fun _ => .bind .readList fun _ => .setState fun _ => rfl
  | excludeClear => exact Keeps.keepsOrder fun _ => .of_idle fun _ => ⟨rfl, rfl⟩
  | excludeRemove =>
    exact Keeps.keepsOrder fun _ => .bind .readList fun _ => .setState fun _ => rfl
  | subplot => exact Keeps.keepsOrder fun _ => .drawCell setup
  | plot => exact Keeps.keepsOrder fun _ => .drawWhole setup
  | save => exact Keeps.keepsOrder fun _ => .saveFigure setup
  | title => exact Keeps.keepsOrder fun _ => .bind .consume fun _ => .setState fun _ => rfl

theorem runLine (hclose : Closes setup.backend) : KeepsOrder (Script.runLine setup) := by
  apply bind fun _ => .of_idle fun _ => ⟨rfl, rfl⟩
  intro session
  split
  · apply bind (fun _ => .consume)
    intro token
    cases Directive.ofToken? token with
    | some directive => exact run hclose directive
    | none =>
      exact bind (fun _ => .of_idle fun _ => ⟨rfl, rfl⟩) fun _ =>
        Keeps.keepsOrder fun _ => .note _
  · exact Keeps.keepsOrder fun _ => .pure ()

/-- A run keeps sessions orderly from line to line. -/
theorem runFrom (hclose : Closes setup.backend) :
    KeepsOrder (Script.runFrom setup : Action Unit) := by
  intro session ho
  unfold final
  fun_induction Script.runFrom setup session with
  | case1 session h => exact ho
  | case2 session cursor h failure after hdone =>
    have hline := runLine hclose { session with cursor := cursor } ho
    rw [final, hdone] at hline
    exact hline
  | case3 session cursor h after hdone ih =>
    have hline := runLine hclose { session with cursor := cursor } ho
    rw [final, hdone] at hline
    exact ih hline

theorem interpret (hclose : Closes setup.backend) (lines : List String) :
    KeepsOrder (Script.interpret setup lines) := by
  intro session ho
  exact runFrom hclose { session with cursor := .ofLines lines setup.source } ho

end KeepsOrder

inductive Step
  | interpret (lines : List String)
  | close

def Session.after (setup : Setup) (session : Session) : Step → Session
  | .interpret lines => (interpret setup lines).final session
  | .close => (closeTarget setup).final session

theorem isOrderly_start (setup : Setup) (files : Files.Tree) (days : Option Number.Binary64)
    (skip : Option Int) : (Session.start setup files days skip).IsOrderly :=
  orderly_nil

theorem isOrderly_after {setup : Setup} (hclose : Closes setup.backend) {session : Session}
    (h : session.IsOrderly) (step : Step) : (session.after setup step).IsOrderly := by
  cases step with
  | interpret lines => exact KeepsOrder.interpret hclose lines session h
  | close => exact keepsOrder_closeTarget hclose session h

theorem isOrderly_steps {setup : Setup} (hclose : Closes setup.backend) {session : Session}
    (h : session.IsOrderly) (steps : List Step) :
    (steps.foldl (Session.after setup) session).IsOrderly := by
  induction steps generalizing session with
  | nil => exact h
  | cons step steps ih => exact ih (isOrderly_after hclose h step)

theorem isOrderly_closingAfter {setup : Setup} (hclose : Closes setup.backend)
    {action : Action Unit} (ha : KeepsOrder action) {session : Session} (h : session.IsOrderly) :
    ((closingAfter setup action).final session).IsOrderly ∧
      ((closingAfter setup action).final session).state.target = .absent := by
  have hran := ha session h
  simp only [final, closingAfter] at hran ⊢
  cases hr : action session with
  | ok value after =>
    rw [hr] at hran
    obtain ⟨files, hc⟩ := closeTarget_eq hclose after
    simp only [hc]
    exact ⟨orderly_closed hran, trivial⟩
  | error failure after =>
    rw [hr] at hran
    obtain ⟨files, hc⟩ := closeTarget_eq hclose after
    simp only [hc]
    exact ⟨orderly_closed hran, trivial⟩

/-- Running a script file that can be read closes every figure once, whether or not it fails. -/
theorem isOrderly_run {setup : Setup} (hclose : Closes setup.backend) {request : Request}
    {files : Files.Tree} {lines : List String} (hl : request.lines setup.machine files = .ok lines)
    {after : Session}
    (h : request.run setup.machine setup.backend files = .ok () after ∨
      ∃ failure, request.run setup.machine setup.backend files = .error failure after) :
    after.IsOrderly ∧ after.state.target = .absent := by
  let own := request.setup setup.machine setup.backend
  let start := Session.start own files request.days request.skip
  obtain ⟨told, htold, hrun⟩ : ∃ told : Session, told.IsOrderly ∧
      request.run setup.machine setup.backend files =
        closingAfter own (interpret own lines) told := by
    refine ⟨(Action.tell own (.loadingScript request.path.text)).final start, ?_, ?_⟩
    · exact (Keeps.tell own _ start (isOrderly_start own files _ _) rfl).1
    · unfold Request.run
      rw [hl]
      simp only [Action.tell]
      split <;> rfl
  have hown : Closes own.backend := hclose
  have hall := isOrderly_closingAfter hown (KeepsOrder.interpret hown lines) htold
  rcases h with h | ⟨failure, h⟩
  · rw [final, ← hrun, h] at hall
    exact hall
  · rw [final, ← hrun, h] at hall
    exact hall

/-- Whatever an interpreter is asked for, the figure of its target is the only open one, and every
call was proper when it was made. A script file that can be read leaves no figure open. -/
theorem figures_kept {setup : Setup} (hclose : Closes setup.backend) :
    (∀ (files : Files.Tree) (days : Option Number.Binary64) (skip : Option Int)
      (steps : List Step),
      (steps.foldl (Session.after setup) (.start setup files days skip)).IsOrderly) ∧
    ∀ (request : Request) (files : Files.Tree) (lines : List String),
      request.lines setup.machine files = .ok lines → ∀ after,
      (request.run setup.machine setup.backend files = .ok () after ∨
        ∃ failure, request.run setup.machine setup.backend files = .error failure after) →
      after.IsOrderly ∧ ∀ figure, (creationOf after.attempts figure).isSome = true →
        (closed after.attempts).count figure = 1 := by
  constructor
  · intro files days skip steps
    exact isOrderly_steps hclose (isOrderly_start setup files days skip) steps
  · intro request files lines hl after h
    obtain ⟨horderly, habsent⟩ := isOrderly_run hclose hl h
    refine ⟨horderly, fun figure hm => ?_⟩
    have hkept := horderly.kept
    rw [habsent] at hkept
    exact hkept.count_closed hm

/-- A script that makes a grid in the place of a whole figure and fails at a cell it has not. -/
def gridScript : List String :=
  [":figure 4x3", ":save a.png", ":figure 8x6 2-2", ":subplot 3-1 bars author"]

def gridSetup : Setup :=
  ⟨⟨⟨⟨⟨2025, 1, 20⟩, 0, 0, 0, 0⟩, none⟩, DateText.reader ⟨2025, 1, 20⟩, [], fun _ => none⟩,
    .recording, ⟨.slash, []⟩, "", none, true⟩

def gridRequest : Request :=
  ⟨⟨.relative, ["grid"]⟩, none, none, some 0, true⟩

def gridFiles : Files.Tree :=
  ⟨[(["grid"], .file (Text.Utf8.encode ("\n".intercalate gridScript).toList))]⟩

theorem figures_kept_gridScript :
    ([.interpret gridScript, .close, .interpret gridScript].foldl (Session.after gridSetup)
      (.start gridSetup gridFiles none (some 0))).IsOrderly ∧
    ∃ lines after, gridRequest.lines gridSetup.machine gridFiles = .ok lines ∧
      (gridRequest.run gridSetup.machine gridSetup.backend gridFiles = .ok () after ∨
        ∃ failure, gridRequest.run gridSetup.machine gridSetup.backend gridFiles =
          .error failure after) ∧
      after.IsOrderly ∧ ∀ figure, (creationOf after.attempts figure).isSome = true →
        (closed after.attempts).count figure = 1 := by
  have hclose : Closes gridSetup.backend := fun _ files _ => ⟨files, rfl⟩
  obtain ⟨hsteps, hfile⟩ := figures_kept hclose
  refine ⟨hsteps gridFiles none (some 0) _, ?_⟩
  have hok : (gridRequest.lines gridSetup.machine gridFiles).isOk = true := by decide +kernel
  cases hl : gridRequest.lines gridSetup.machine gridFiles with
  | error failure =>
    rw [hl] at hok
    cases hok
  | ok lines =>
    cases hr : gridRequest.run gridSetup.machine gridSetup.backend gridFiles with
    | ok value after => exact ⟨lines, after, rfl, .inl rfl, hfile _ _ lines hl after (.inl hr)⟩
    | error failure after =>
      exact ⟨lines, after, rfl, .inr ⟨failure, rfl⟩, hfile _ _ lines hl after (.inr ⟨failure, hr⟩)⟩

end Authorship.Script
