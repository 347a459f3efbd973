import Authorship.Proofs.Script.Atomicity

namespace Authorship

open Authorship.Drawing

def refusals (attempts : List Attempt) : Nat :=
  attempts.countP (!·.isGranted)

def Failure.inLine (line length : Nat) : Failure → Failure
  | .script fault =>
    .script { fault with line := if fault.complaint = .endOfScript then length else line }
  | failure => failure

namespace Script

open Authorship.Activity Authorship.Script.Action

def Note.inLine (line : Nat) : Note → Note
  | .unknownDirective token _ => .unknownDirective token line
  | note => note

/-- A session in the given line, with what was told before it. -/
def Session.inLine (line : Nat) (told : List Note) (session : Session) : Session :=
  { session with
    cursor := { session.cursor with lineNumber := line }
    notes := told ++ session.notes.map (Note.inLine line) }

/-- A result in the given line. A refusal of the backend is the same in every line; without one
there are as many refusals as before. -/
def inLine {α : Type} (line length : Nat) (told : List Note) (before : Nat) :
    EStateM.Result Failure Session α → EStateM.Result Failure Session α
  | .ok value session => .ok value (session.inLine line told)
  | .error failure session =>
    .error (if refusals session.attempts = before then failure.inLine line length else failure)
      (session.inLine line told)

/-- An action does what another one does, but in the given line. -/
structure Moved {α : Type} (line length : Nat) (told : List Note) (action moved : Action α) :
    Prop where
  same : ∀ session, moved (session.inLine line told) =
    inLine line length told (refusals session.attempts) (action session)
  granted : ∀ session value after, action session = .ok value after →
    refusals after.attempts = refusals session.attempts

namespace Moved

variable {α β : Type} {line length : Nat} {told : List Note}

theorem pure (value : α) : Moved line length told (Pure.pure value) (Pure.pure value) := by
  refine ⟨fun _ => rfl, fun session value after h => ?_⟩
  cases h
  rfl

theorem bind {action moved : Action α} {next movedNext : α → Action β}
    (hfirst : Moved line length told action moved)
    (hsecond : ∀ value, Moved line length told (next value) (movedNext value)) :
    Moved line length told (action >>= next) (moved >>= movedNext) := by
  constructor
  · intro session
    simp only [Bind.bind, EStateM.bind, hfirst.same]
    cases h : action session with
    | ok value after =>
      rw [← hfirst.granted session value after h]
      exact (hsecond value).same after
    | error failure after => rfl
  · intro session value last h
    simp only [Bind.bind, EStateM.bind] at h
    cases hmid : action session with
    | ok value after =>
      rw [hmid] at h
      exact ((hsecond _).granted after _ last h).trans (hfirst.granted session _ after hmid)
    | error failure after =>
      rw [hmid] at h
      cases h

theorem get_bind {next : Session → Action β}
    (hblind : ∀ session : Session, next (session.inLine line told) = next session)
    (hnext : ∀ session, Moved line length told (next session) (next session)) :
    Moved line length told (MonadState.get >>= next) (MonadState.get >>= next) := by
  constructor
  · intro session
    change next (session.inLine line told) (session.inLine line told) = _
    rw [hblind]
    exact (hnext session).same session
  · intro session value after h
    exact (hnext session).granted session value after h

theorem state : Moved line length told Action.state Action.state := by
  refine ⟨fun _ => rfl, fun session value after h => ?_⟩
  cases h
  rfl

theorem setState (change : State → State) :
    Moved line length told (Action.setState change) (Action.setState change) := by
  refine ⟨fun _ => rfl, fun session value after h => ?_⟩
  cases h
  rfl

theorem note {message moved : Note} (h : message.inLine line = moved) :
    Moved line length told (Action.note message) (Action.note moved) := by
  constructor
  · intro session
    have hnotes : told ++ session.notes.map (Note.inLine line) ++ [moved] =
        told ++ (session.notes ++ [message]).map (Note.inLine line) := by
      rw [List.map_append, List.append_assoc, List.map_singleton, h]
    exact congrArg (fun notes => EStateM.Result.ok ()
      { session.inLine line told with notes := notes }) hnotes
  · intro session value after h
    cases h
    rfl

theorem tell (setup : Setup) {message : Note} (h : message.inLine line = message) :
    Moved line length told (Action.tell setup message) (Action.tell setup message) := by
  unfold Action.tell
  split
  · exact pure ()
  · exact note h

theorem attempt {result : Except Failure α}
    (h : ∀ failure, result = .error failure → failure.inLine line length = failure) :
    Moved line length told (Action.attempt result) (Action.attempt result) := by
  cases result with
  | ok value => exact pure value
  | error failure =>
    constructor
    · intro session
      simp only [Action.attempt, inLine, if_pos, h failure rfl]
    · intro session value after h
      cases h

theorem attempt_mapError {ε : Type} {result : Except ε α} {wrap : ε → Failure}
    (h : ∀ fault, (wrap fault).inLine line length = wrap fault) :
    Moved line length told (Action.attempt (result.mapError wrap))
      (Action.attempt (result.mapError wrap)) := by
  apply attempt
  intro failure hf
  cases result with
  | ok value => cases hf
  | error fault =>
    cases hf
    exact h fault

theorem attempt_resolvePath (setup : Setup) (text : String) :
    Moved line length told (Action.attempt (resolvePath setup text))
      (Action.attempt (resolvePath setup text)) := by
  apply attempt
  intro failure h
  unfold resolvePath at h
  split at h <;> cases h
  rfl

theorem complain {complaint : Complaint} (h : complaint ≠ .endOfScript) :
    Moved line length told (Action.complain complaint : Action α) (Action.complain complaint) := by
  constructor
  · intro session
    simp only [Action.complain, inLine, if_pos, Failure.inLine, Cursor.fault, if_neg h]
    rfl
  · intro session value after h
    cases h

theorem ofComplaint {result : Except Complaint α}
    (h : ∀ complaint, result = .error complaint → complaint ≠ .endOfScript) :
    Moved line length told (Action.ofComplaint result) (Action.ofComplaint result) := by
  cases result with
  | ok value => exact pure value
  | error complaint => exact complain (h complaint rfl)

theorem consume : Moved line length told Action.consume Action.consume := by
  constructor
  · intro session
    have ht : (session.inLine line told).cursor.tokens[(session.inLine line told).cursor.index]? =
        session.cursor.tokens[session.cursor.index]? := rfl
    simp only [Action.consume, Cursor.consume, ht]
    cases session.cursor.tokens[session.cursor.index]? with
    | some token => rfl
    | none =>
      simp only [inLine, if_pos]
      rfl
  · intro session value after h
    simp only [Action.consume, Cursor.consume] at h
    split at h <;> cases h
    rfl

theorem consumeRest : Moved line length told Action.consumeRest Action.consumeRest := by
  refine ⟨fun _ => rfl, fun session value after h => ?_⟩
  cases h
  rfl

theorem list (setup : Setup) {block moved : Block} (h : moved.items = block.items) :
    Moved line length told (block.list setup 0) (moved.list setup length) := by
  unfold Block.list
  rw [h]
  cases block.items with
  | some items => exact pure items
  | none =>
    constructor
    · intro session
      simp only [Action.attempt, inLine, if_pos, Failure.inLine]
    · intro session value after h
      cases h

theorem call (setup : Setup) (request : Call) :
    Moved line length told (Action.call setup request) (Action.call setup request) := by
  have hcount (attempts : List Attempt) (isGranted : Bool) :
      refusals (attempts ++ [⟨request, isGranted⟩]) =
        refusals attempts + if isGranted then 0 else 1 := by
    cases isGranted <;> simp [refusals]
  constructor
  · intro session
    have ha : setup.backend.answer (session.inLine line told).attempts
        (session.inLine line told).files request =
          setup.backend.answer session.attempts session.files request := rfl
    simp only [Action.call, ha]
    cases setup.backend.answer session.attempts session.files request with
    | ok files => rfl
    | error failure =>
      have hmore : refusals (session.attempts ++ [⟨request, false⟩]) ≠
          refusals session.attempts := by
        rw [hcount]
        exact Nat.succ_ne_self _
      simp only [inLine, if_neg hmore]
      rfl
  · intro session value after h
    simp only [Action.call] at h
    split at h <;> cases h
    exact hcount session.attempts true

theorem newFigure (setup : Setup) (creation : Call) :
    Moved line length told (Action.newFigure setup creation) (Action.newFigure setup creation) :=
  get_bind (fun _ => rfl) fun _ => bind (call setup creation) fun _ => pure _

theorem closeTarget (setup : Setup) :
    Moved line length told (Script.closeTarget setup) (Script.closeTarget setup) := by
  apply bind state
  intro current
  cases current.target.figure? with
  | none => exact bind (pure ()) fun _ => setState _
  | some figure => exact bind (call _ _) fun _ => setState _

theorem loadLog (setup : Setup) :
    Moved line length told (Script.loadLog setup) (Script.loadLog setup) := by
  apply bind consume
  intro text
  apply bind (attempt_resolvePath setup text)
  intro path
  apply get_bind fun _ => rfl
  intro session
  apply bind (attempt_mapError fun _ => rfl)
  intro isFile
  cases isFile with
  | false => exact complain Complaint.noConfusion
  | true =>
    exact bind (tell setup rfl) fun _ => bind (attempt_mapError fun _ => rfl) fun _ =>
      bind state fun _ => bind (attempt_mapError fun _ => rfl) fun _ =>
        bind (setState _) fun _ => tell setup rfl

theorem declareFigure (setup : Setup) :
    Moved line length told (Script.declareFigure setup) (Script.declareFigure setup) := by
  apply bind consume
  intro text
  apply bind (ofComplaint fun _ => ne_endOfScript_of_readPair (c := 'x') rfl)
  rintro ⟨width, height⟩
  apply get_bind fun _ => rfl
  intro session
  dsimp only
  split
  · apply bind consume
    intro text
    apply bind (ofComplaint fun _ => ne_endOfScript_of_readPair (c := '-') rfl)
    rintro ⟨rows, cols⟩
    exact bind (newFigure _ _) fun _ => bind (closeTarget _) fun _ => setState _
  · exact bind (newFigure _ _) fun _ => bind (closeTarget _) fun _ => setState _

theorem drawBars (setup : Setup) (figure : Figure) (cell : Option Cell) :
    Moved line length told (Script.drawBars setup figure cell)
      (Script.drawBars setup figure cell) := by
  apply bind consume
  intro name
  split
  · exact complain Complaint.noConfusion
  · apply bind state
    intro current
    cases current.history with
    | none => exact complain Complaint.noConfusion
    | some history =>
      exact bind (attempt_mapError fun _ => rfl) fun _ => bind consumeRest fun _ =>
        bind (ofComplaint fun _ => ne_endOfScript_of_chosenStats) fun _ => call _ _

theorem draw (setup : Setup) (figure : Figure) (cell : Option Cell) :
    Moved line length told (Script.draw setup figure cell) (Script.draw setup figure cell) := by
  apply bind consume
  intro kind
  split
  · exact drawBars _ _ _
  · exact complain Complaint.noConfusion

theorem drawCell (setup : Setup) :
    Moved line length told (Script.drawCell setup) (Script.drawCell setup) := by
  apply bind consume
  intro text
  apply bind (ofComplaint fun _ => ne_endOfScript_of_readPair (c := '-') rfl)
  intro place
  apply bind state
  intro current
  cases current.target with
  | grid figure rows cols =>
    dsimp only
    split
    · exact draw _ _ _
    · exact complain Complaint.noConfusion
  | absent => exact complain Complaint.noConfusion
  | whole => exact complain Complaint.noConfusion

theorem drawWhole (setup : Setup) :
    Moved line length told (Script.drawWhole setup) (Script.drawWhole setup) := by
  apply bind state
  intro current
  cases current.target with
  | whole figure => exact draw _ _ _
  | absent => exact complain Complaint.noConfusion
  | grid => exact complain Complaint.noConfusion

theorem saveFigure (setup : Setup) :
    Moved line length told (Script.saveFigure setup) (Script.saveFigure setup) := by
  apply bind consume
  intro text
  apply bind (attempt_resolvePath setup text)
  intro path
  apply bind state
  intro current
  cases current.target.figure? with
  | none => exact complain Complaint.noConfusion
  | some figure => exact bind (call _ _) fun _ => tell setup rfl

theorem runWith (setup : Setup) {block moved : Block} (h : moved.items = block.items)
    (directive : Directive) :
    Moved line length told (directive.runWith setup (block.list setup 0))
      (directive.runWith setup (moved.list setup length)) := by
  cases directive with
  | aliasList => exact bind consume fun _ => bind (list setup h) fun _ => setState _
  | load => exact loadLog setup
  | days =>
    exact bind consume fun _ => bind (ofComplaint fun _ => ne_endOfScript_of_readNumber) fun _ =>
      setState _
  | skipCommit =>
    exact bind consume fun _ => bind (ofComplaint fun _ => ne_endOfScript_of_readWhole) fun _ =>
      setState _
  | includeList => exact bind (list setup h) fun _ => setState _
  | includeClear => exact setState fun state => { state with included := [] }
  | excludeList => exact bind (list setup h) fun _ => setState _
  | excludeClear => exact setState fun state => { state with excluded := [] }
  | excludeRemove => exact bind (list setup h) fun _ => setState _
  | figure => exact declareFigure setup
  | subplot => exact drawCell setup
  | plot => exact drawWhole setup
  | save => exact saveFigure setup
  | title => exact bind consume fun _ => setState _

theorem perform (setup : Setup) (block : Block) :
    Moved block.line length told ({ block with line := 0 }.perform setup 0)
      (block.perform setup length) := by
  simp only [Block.perform]
  cases Directive.ofToken? (block.tokens.headD "") with
  | some directive => exact runWith setup rfl directive
  | none => exact note rfl

end Moved

def Session.ofWork (work : Work) : Session :=
  ⟨work.state, .ofLines [] "", work.files, work.attempts, []⟩

theorem Block.run_eq_inLine (setup : Setup) (length : Nat) (block : Block) (session : Session) :
    block.run setup length session =
      inLine block.line length session.notes (refusals session.attempts)
        ({ block with line := 0 }.run setup 0 (.ofWork session.work)) := by
  let bare : Block := { block with line := 0 }
  let start : Session := { Session.ofWork session.work with cursor := bare.cursor setup.source [] }
  have hstart : { session with cursor := block.cursor setup.source [] } =
      start.inLine block.line session.notes := by
    simp only [Session.inLine, start, Session.ofWork, List.map_nil, List.append_nil]
    rfl
  unfold Block.run
  rw [hstart]
  exact (Moved.perform setup block).same start

theorem Block.refusals_run {setup : Setup} {length : Nat} {block : Block} {session after : Session}
    (h : block.run setup length session = .ok () after) :
    refusals after.attempts = refusals session.attempts := by
  rw [Block.run_eq_inLine] at h
  cases hbare : { block with line := 0 }.run setup 0 (.ofWork session.work) with
  | error failure bare =>
    rw [hbare] at h
    cases h
  | ok value bare =>
    rw [hbare] at h
    cases h
    have hmoved : Moved block.line length [] ({ block with line := 0 }.perform setup 0)
        (block.perform setup length) := .perform setup block
    have hgranted := hmoved.granted _ _ bare hbare
    exact hgranted

end Script

end Authorship
