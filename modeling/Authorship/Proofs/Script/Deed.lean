import Authorship.Proofs.Script.Refinement

namespace Authorship.Script

open Authorship.Drawing Authorship.Activity Authorship.Script.Action

/-- What a session has to show: the settings, the files and the calls. -/
structure Work where
  state : State
  files : Files.Tree
  attempts : List Attempt

def Session.work (session : Session) : Work :=
  ⟨session.state, session.files, session.attempts⟩

def workOf {α : Type} : EStateM.Result Failure Session α → EStateM.Result Failure Work α
  | .ok value session => .ok value session.work
  | .error failure session => .error failure session.work

def failureOf? {ε σ α : Type} : EStateM.Result ε σ α → Option ε
  | .ok _ _ => none
  | .error failure _ => some failure

theorem failureOf?_workOf {α : Type} (result : EStateM.Result Failure Session α) :
    failureOf? (workOf result) = failureOf? result := by
  cases result <;> rfl

inductive Deed
  | set (change : State → State)
  | call (request : Call)
  /-- A figure is made, and takes the place of the one that was drawn on. -/
  | replace (creation : Call) (target : Figure → Target)

namespace Work

def call (setup : Setup) (request : Call) : EStateM Failure Work Unit := fun work =>
  match setup.backend.answer work.attempts work.files request with
  | .ok files =>
    .ok () { work with files := files, attempts := work.attempts ++ [⟨request, true⟩] }
  | .error failure => .error failure { work with attempts := work.attempts ++ [⟨request, false⟩] }

def close (setup : Setup) : Option Figure → EStateM Failure Work Unit
  | some figure => call setup (.close figure)
  | none => pure ()

def set (change : State → State) : EStateM Failure Work Unit :=
  modify fun work => { work with state := change work.state }

def replace (setup : Setup) (creation : Call) (target : Figure → Target) :
    EStateM Failure Work Unit := fun work =>
  let figure := nextFigure (granted work.attempts)
  (do
    call setup creation
    close setup work.state.target.figure?
    set fun state => { state with target := target figure }) work

end Work

def Deed.act (setup : Setup) : Deed → EStateM Failure Work Unit
  | .set change => Work.set change
  | .call request => Work.call setup request
  | .replace creation target => Work.replace setup creation target

/-- Does what was decided. -/
def Work.follow (setup : Setup) (decision : Except Failure Deed) : EStateM Failure Work Unit :=
  fun work =>
    match decision with
    | .ok deed => deed.act setup work
    | .error failure => .error failure work

namespace Block

def directive? (block : Block) : Option Directive :=
  Directive.ofToken? (block.tokens.headD "")

def refuse {α : Type} (setup : Setup) (block : Block) (complaint : Complaint) : Except Failure α :=
  .error (.script ⟨block.line, complaint, setup.source⟩)

def orRefuse {α : Type} (setup : Setup) (block : Block) :
    Except Complaint α → Except Failure α
  | .ok value => .ok value
  | .error complaint => block.refuse setup complaint

/-- The token in a place of the line. -/
def argument (setup : Setup) (block : Block) (place : Nat) : Except Failure String :=
  match block.tokens[place]? with
  | some token => .ok token
  | none => block.refuse setup .missingArgument

/-- The list after the line, in a script of the given length. -/
def listed (setup : Setup) (length : Nat) (block : Block) : Except Failure (List String) :=
  match block.items with
  | some items => .ok items
  | none => .error (.script ⟨length, .endOfScript, setup.source⟩)

def loading (setup : Setup) (work : Work) (block : Block) : Except Failure Deed := do
  let text ← block.argument setup 1
  let path ← resolvePath setup text
  let isFile ← (work.files.isFile setup.machine.workDir path).mapError .files
  if !isFile then block.refuse setup (.noSuchFile path.text)
  else do
    let content ← (work.files.read setup.machine.workDir path).mapError .files
    let history ←
      (Log.readContent setup.machine.dates work.state.aliases content).mapError .log
    .ok (.set fun state => { state with history := some history })

def declaring (setup : Setup) (block : Block) : Except Failure Deed := do
  let text ← block.argument setup 1
  let (width, height) ← block.orRefuse setup (readPair "x" "WxH" text)
  if 2 < block.tokens.length then do
    let text ← block.argument setup 2
    let (rows, cols) ← block.orRefuse setup (readPair "-" "rows-cols" text)
    .ok (.replace (.newGrid width height rows cols) fun figure => .grid figure rows cols)
  else .ok (.replace (.newFigure width height) .whole)

def drawing (setup : Setup) (state : State) (block : Block) (place : Nat) (figure : Figure)
    (cell : Option Cell) : Except Failure Deed := do
  let kind ← block.argument setup place
  if kind == "bars" then do
    let name ← block.argument setup (place + 1)
    if name != authorGrouping then block.refuse setup (.unknownGrouping name)
    else
      match state.history with
      | none => block.refuse setup .noData
      | some history => do
        let chart ←
          (AuthorChart.ofHistory (selection setup state) history).mapError .activity
        let stats ←
          block.orRefuse setup (chosenStats name (block.tokens.drop (place + 2)))
        .ok (.call (.bars figure cell ⟨chart.labels, stats.map chart.series, state.title⟩))
  else block.refuse setup (.unknownKind kind)

def drawingCell (setup : Setup) (state : State) (block : Block) : Except Failure Deed := do
  let text ← block.argument setup 1
  let (row, col) ← block.orRefuse setup (readPair "-" "row-col" text)
  match state.target with
  | .grid figure rows cols =>
    let cell : Cell := ⟨row - 1, col - 1⟩
    if hasCell rows cols cell then block.drawing setup state 2 figure (some cell)
    else block.refuse setup (.outsideGrid row col rows cols)
  | _ => block.refuse setup .needsGrid

def drawingWhole (setup : Setup) (state : State) (block : Block) : Except Failure Deed :=
  match state.target with
  | .whole figure => block.drawing setup state 1 figure none
  | _ => block.refuse setup .needsWholeFigure

def saving (setup : Setup) (state : State) (block : Block) : Except Failure Deed := do
  let text ← block.argument setup 1
  let path ← resolvePath setup text
  match state.target.figure? with
  | none => block.refuse setup .nothingToSave
  | some figure => .ok (.call (.save figure path))

def decision (setup : Setup) (length : Nat) (work : Work) (block : Block) :
    Directive → Except Failure Deed
  | .aliasList => do
    let canonical ← block.argument setup 1
    let raws ← block.listed setup length
    .ok (.set fun state => { state with aliases := state.aliases.register canonical raws })
  | .load => block.loading setup work
  | .days => do
    let text ← block.argument setup 1
    let days ← block.orRefuse setup (readNumber text)
    .ok (.set fun state => { state with days := some days })
  | .skipCommit => do
    let text ← block.argument setup 1
    let skip ← block.orRefuse setup (readWhole text)
    .ok (.set fun state => { state with skip := some skip })
  | .includeList => do
    let items ← block.listed setup length
    .ok (.set fun state => { state with included := state.included ++ items })
  | .includeClear => .ok (.set fun state => { state with included := [] })
  | .excludeList => do
    let items ← block.listed setup length
    .ok (.set fun state => { state with excluded := state.excluded ++ items })
  | .excludeClear => .ok (.set fun state => { state with excluded := [] })
  | .excludeRemove => do
    let items ← block.listed setup length
    .ok (.set fun state => { state with excluded := state.excluded.filter (!items.contains ·) })
  | .figure => block.declaring setup
  | .subplot => block.drawingCell setup work.state
  | .plot => block.drawingWhole setup work.state
  | .save => block.saving setup work.state
  | .title => do
    let title ← block.argument setup 1
    .ok (.set fun state => { state with title := some title })

/-- What a block does to the work. An unknown directive does nothing. -/
def act (setup : Setup) (length : Nat) (block : Block) : EStateM Failure Work Unit := fun work =>
  match block.directive? with
  | some directive => Work.follow setup (block.decision setup length work directive) work
  | none => .ok () work

end Block

/-- An action does to the work what was decided, with the cursor on a place of the line. -/
def Obeys (setup : Setup) (block : Block) (place : Nat) (work : Work) (action : Action Unit)
    (decision : Except Failure Deed) : Prop :=
  ∀ session, session.cursor = { block.cursor setup.source [] with index := place } →
    session.work = work → workOf (action session) = Work.follow setup decision work

namespace Obeys

variable {α : Type} {setup : Setup} {block : Block} {place : Nat} {work : Work}
  {decision : Except Failure Deed}

theorem setState (change : State → State) :
    Obeys setup block place work (Action.setState change) (.ok (.set change)) := by
  rintro session - rfl
  rfl

theorem complain (complaint : Complaint) :
    Obeys setup block place work (Action.complain complaint) (block.refuse setup complaint) := by
  rintro session hc rfl
  simp only [Action.complain, hc]
  rfl

theorem consume {next : String → Action Unit} {rest : String → Except Failure Deed}
    (h : ∀ token, Obeys setup block (place + 1) work (next token) (rest token)) :
    Obeys setup block place work (Action.consume >>= next) (block.argument setup place >>= rest) := by
  rintro session hc rfl
  have ht : session.cursor.tokens[session.cursor.index]? = block.tokens[place]? := by rw [hc]; rfl
  simp only [Bind.bind, EStateM.bind, Except.bind, Action.consume, Cursor.consume, ht,
    Block.argument]
  cases block.tokens[place]? with
  | none =>
    simp only [hc]
    rfl
  | some token => exact h token _ (by rw [hc]) rfl

theorem attempt {result : Except Failure α} {next : α → Action Unit}
    {rest : α → Except Failure Deed}
    (h : ∀ value, Obeys setup block place work (next value) (rest value)) :
    Obeys setup block place work (Action.attempt result >>= next) (result >>= rest) := by
  rintro session hc rfl
  cases result with
  | ok value => exact h value session hc rfl
  | error failure => rfl

theorem ofComplaint {result : Except Complaint α} {next : α → Action Unit}
    {rest : α → Except Failure Deed}
    (h : ∀ value, Obeys setup block place work (next value) (rest value)) :
    Obeys setup block place work (Action.ofComplaint result >>= next)
      (block.orRefuse setup result >>= rest) := by
  rintro session hc rfl
  cases result with
  | ok value => exact h value session hc rfl
  | error complaint => exact complain complaint session hc rfl

theorem state {next : State → Action Unit}
    (h : Obeys setup block place work (next work.state) decision) :
    Obeys setup block place work (Action.state >>= next) decision := by
  rintro session hc rfl
  exact h session hc rfl

theorem get {next : Session → Action Unit}
    (h : ∀ session, session.cursor = { block.cursor setup.source [] with index := place } →
      session.work = work → Obeys setup block place work (next session) decision) :
    Obeys setup block place work (MonadState.get >>= next) decision := by
  intro session hc hw
  exact h session hc hw session hc hw

theorem tell {message : Note} {next : Unit → Action Unit}
    (h : Obeys setup block place work (next ()) decision) :
    Obeys setup block place work (Action.tell setup message >>= next) decision := by
  rintro session hc rfl
  unfold Action.tell
  split
  · exact h session hc rfl
  · exact h _ hc rfl

theorem consumeRest {next : List String → Action Unit}
    (h : Obeys setup block block.tokens.length work (next (block.tokens.drop place)) decision) :
    Obeys setup block place work (Action.consumeRest >>= next) decision := by
  rintro session hc rfl
  have hd : session.cursor.tokens.drop session.cursor.index = block.tokens.drop place := by
    rw [hc]; rfl
  simp only [Bind.bind, EStateM.bind, Action.consumeRest, Cursor.consumeRest, hd]
  exact h _ (by rw [hc]; rfl) rfl

theorem list {length : Nat} {next : List String → Action Unit}
    {rest : List String → Except Failure Deed}
    (h : ∀ items, Obeys setup block place work (next items) (rest items)) :
    Obeys setup block place work (block.list setup length >>= next)
      (block.listed setup length >>= rest) := by
  rintro session hc rfl
  simp only [Block.list, Block.listed]
  cases block.items with
  | none => rfl
  | some items => exact h items session hc rfl

theorem call (request : Call) :
    Obeys setup block place work (Action.call setup request) (.ok (.call request)) := by
  rintro session - rfl
  simp only [Action.call, Work.follow, Deed.act, Work.call, Session.work]
  cases setup.backend.answer session.attempts session.files request <;> rfl

theorem thenTell {action : Action Unit} {message : Note}
    (h : Obeys setup block place work action decision) :
    Obeys setup block place work (action >>= fun _ => Action.tell setup message) decision := by
  intro session hc hw
  rw [← h session hc hw]
  simp only [Bind.bind, EStateM.bind]
  cases action session with
  | error failure after => rfl
  | ok value after =>
    simp only [Action.tell]
    split <;> rfl

theorem replace (creation : Call) (target : Figure → Target) :
    Obeys setup block place work
      (do
        let figure ← Action.newFigure setup creation
        closeTarget setup
        Action.setState fun state => { state with target := target figure })
      (.ok (.replace creation target)) := by
  rintro session - rfl
  have hnew : Action.newFigure setup creation session =
      (Action.call setup creation >>= fun _ => pure (nextFigure (granted session.attempts)))
        session := rfl
  have hclose (session : Session) : closeTarget setup session =
      (closeFigure setup session.state.target.figure? >>= fun _ =>
        Action.setState fun state => { state with target := .absent }) session := rfl
  simp only [Bind.bind, EStateM.bind, hnew, Action.call, Work.follow, Deed.act, Work.replace,
    Work.call, Session.work]
  cases setup.backend.answer session.attempts session.files creation with
  | error failure => rfl
  | ok files =>
    simp only [Pure.pure, EStateM.pure, hclose, Bind.bind, EStateM.bind]
    cases session.state.target.figure? with
    | none => rfl
    | some old =>
      simp only [closeFigure, Action.call, Work.close, Work.call]
      cases setup.backend.answer (session.attempts ++ [⟨creation, true⟩]) files (.close old) <;> rfl

theorem loadLog : Obeys setup block 1 work (Script.loadLog setup) (block.loading setup work) := by
  apply consume
  intro text
  apply attempt
  intro path
  apply get
  intro session hc hw
  subst hw
  apply attempt
  intro isFile
  cases isFile with
  | false => exact complain _
  | true =>
    apply tell
    apply attempt
    intro content
    apply state
    apply attempt
    intro history
    exact thenTell (setState _)

theorem declareFigure :
    Obeys setup block 1 work (Script.declareFigure setup) (block.declaring setup) := by
  apply consume
  intro text
  apply ofComplaint
  rintro ⟨width, height⟩
  apply get
  intro session hc hw
  have hasToken : session.cursor.hasToken = decide (2 < block.tokens.length) := by
    rw [hc]; rfl
  dsimp only
  rw [hasToken]
  by_cases hmore : 2 < block.tokens.length
  · simp only [hmore, decide_true, if_true]
    apply consume
    intro text
    apply ofComplaint
    rintro ⟨rows, cols⟩
    exact replace _ fun figure => .grid figure rows cols
  · simp only [hmore, decide_false, if_false]
    exact replace _ _

theorem draw (figure : Figure) (cell : Option Cell) :
    Obeys setup block place work (Script.draw setup figure cell)
      (block.drawing setup work.state place figure cell) := by
  apply consume
  intro kind
  split
  · apply consume
    intro name
    split
    · exact complain _
    · apply state
      cases work.state.history with
      | none => exact complain _
      | some history =>
        apply attempt
        intro chart
        apply consumeRest
        apply ofComplaint
        intro stats
        exact call _
  · exact complain _

theorem drawCell :
    Obeys setup block 1 work (Script.drawCell setup) (block.drawingCell setup work.state) := by
  apply consume
  intro text
  apply ofComplaint
  rintro ⟨row, col⟩
  apply state
  cases work.state.target with
  | grid figure rows cols =>
    dsimp only
    split
    · exact draw figure _
    · exact complain _
  | absent => exact complain _
  | whole => exact complain _

theorem drawWhole :
    Obeys setup block 1 work (Script.drawWhole setup) (block.drawingWhole setup work.state) := by
  apply state
  unfold Block.drawingWhole
  cases work.state.target with
  | whole figure => exact draw figure none
  | absent => exact complain _
  | grid => exact complain _

theorem saveFigure :
    Obeys setup block 1 work (Script.saveFigure setup) (block.saving setup work.state) := by
  apply consume
  intro text
  apply attempt
  intro path
  apply state
  cases work.state.target.figure? with
  | none => exact complain _
  | some figure => exact thenTell (call _)

/-- Every directive does what it decides. -/
theorem runWith (length : Nat) (directive : Directive) :
    Obeys setup block 1 work (directive.runWith setup (block.list setup length))
      (block.decision setup length work directive) := by
  cases directive with
  | aliasList => exact consume fun _ => list fun _ => setState _
  | load => exact loadLog
  | days => exact consume fun _ => ofComplaint fun _ => setState _
  | skipCommit => exact consume fun _ => ofComplaint fun _ => setState _
  | includeList => exact list fun _ => setState _
  | includeClear => exact setState fun state => { state with included := [] }
  | excludeList => exact list fun _ => setState _
  | excludeClear => exact setState fun state => { state with excluded := [] }
  | excludeRemove => exact list fun _ => setState _
  | figure => exact declareFigure
  | subplot => exact drawCell
  | plot => exact drawWhole
  | save => exact saveFigure
  | title => exact consume fun _ => setState _

end Obeys

theorem workOf_run (setup : Setup) (length : Nat) (block : Block) (session : Session) :
    workOf (block.run setup length session) = block.act setup length session.work := by
  simp only [Block.run, Block.perform, Block.act, Block.directive?]
  cases Directive.ofToken? (block.tokens.headD "") with
  | none => rfl
  | some directive => exact Obeys.runWith length directive _ rfl rfl

theorem workOf_offScript {α : Type} (result : EStateM.Result Failure Session α) :
    workOf (offScript result) = workOf result := by
  cases result <;> rfl

theorem workOf_forM_run (setup : Setup) (length : Nat) (blocks : List Block) (session : Session) :
    workOf (blocks.forM (Block.run setup length) session) =
      blocks.forM (Block.act setup length) session.work := by
  induction blocks generalizing session with
  | nil => rfl
  | cons block blocks ih =>
    have hblock := workOf_run setup length block session
    simp only [List.forM, Bind.bind, EStateM.bind, ← hblock]
    cases block.run setup length session with
    | error failure after => rfl
    | ok value after => exact ih after

/-- What a run of a script comes to is told by its blocks. -/
theorem workOf_interpret (setup : Setup) (lines : List String) (session : Session) :
    workOf (interpret setup lines session) =
      (blocks lines).forM (Block.act setup lines.length) session.work := by
  have hwork := congrArg workOf (offScript_interpret setup lines session)
  rw [workOf_offScript, workOf_offScript, workOf_forM_run] at hwork
  exact hwork

end Authorship.Script
