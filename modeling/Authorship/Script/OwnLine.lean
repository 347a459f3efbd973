import Authorship.Script.Directive

namespace Authorship.Script

open Authorship.Drawing Authorship.Activity Authorship.Script.Action

def Session.atLastLine (session : Session) : Session :=
  { session with cursor := { session.cursor with ahead := [] } }

def atLastLine {α : Type} : EStateM.Result Failure Session α → EStateM.Result Failure Session α
  | .ok value session => .ok value session.atLastLine
  | .error failure session => .error failure session.atLastLine

/-- An action that has to do with the latest line alone. -/
structure OwnLine {α : Type} (action : Action α) : Prop where
  blind : ∀ session, action session.atLastLine = atLastLine (action session)
  steady : ∀ session, ∃ index,
    (action.final session).cursor = { session.cursor with index := index }

namespace OwnLine

variable {α β : Type}

theorem pure (value : α) : OwnLine (Pure.pure value : Action α) :=
  ⟨fun _ => rfl, fun session => ⟨session.cursor.index, rfl⟩⟩

theorem bind {action : Action α} {next : α → Action β} (hfirst : OwnLine action)
    (hsecond : ∀ value, OwnLine (next value)) : OwnLine (action >>= next) := by
  constructor
  · intro session
    have hb := hfirst.blind session
    simp only [Bind.bind, EStateM.bind, hb]
    cases h : action session with
    | ok value after => exact (hsecond value).blind after
    | error failure after => rfl
  · intro session
    obtain ⟨index, hi⟩ := hfirst.steady session
    simp only [final, Bind.bind, EStateM.bind] at hi ⊢
    cases h : action session with
    | ok value after =>
      rw [h] at hi
      dsimp only at hi ⊢
      obtain ⟨last, hl⟩ := (hsecond value).steady after
      exact ⟨last, hl.trans (by rw [hi])⟩
    | error failure after =>
      rw [h] at hi
      exact ⟨index, hi⟩

theorem get_bind {next : Session → Action β}
    (hblind : ∀ session, next session.atLastLine = next session)
    (hnext : ∀ session, OwnLine (next session)) : OwnLine (MonadState.get >>= next) := by
  constructor
  · intro session
    change next session.atLastLine session.atLastLine = _
    rw [hblind]
    exact (hnext session).blind session
  · intro session
    exact (hnext session).steady session

theorem state : OwnLine Action.state :=
  ⟨fun _ => rfl, fun session => ⟨session.cursor.index, rfl⟩⟩

theorem setState (change : State → State) : OwnLine (Action.setState change) :=
  ⟨fun _ => rfl, fun session => ⟨session.cursor.index, rfl⟩⟩

theorem note (message : Note) : OwnLine (Action.note message) :=
  ⟨fun _ => rfl, fun session => ⟨session.cursor.index, rfl⟩⟩

theorem tell (setup : Setup) (message : Note) : OwnLine (Action.tell setup message) := by
  unfold Action.tell
  split
  · exact pure ()
  · exact note message

theorem attempt (result : Except Failure α) : OwnLine (Action.attempt result) := by
  cases result <;> exact ⟨fun _ => rfl, fun session => ⟨session.cursor.index, rfl⟩⟩

theorem complain (complaint : Complaint) : OwnLine (Action.complain complaint : Action α) :=
  ⟨fun _ => rfl, fun session => ⟨session.cursor.index, rfl⟩⟩

theorem ofComplaint (result : Except Complaint α) : OwnLine (Action.ofComplaint result) := by
  cases result with
  | ok value => exact pure value
  | error complaint => exact OwnLine.complain complaint

theorem consume : OwnLine Action.consume := by
  constructor
  · intro session
    have ht : session.atLastLine.cursor.tokens[session.atLastLine.cursor.index]? =
        session.cursor.tokens[session.cursor.index]? := rfl
    simp only [Action.consume, Cursor.consume, ht]
    cases session.cursor.tokens[session.cursor.index]? <;> rfl
  · intro session
    simp only [final, Action.consume, Cursor.consume]
    cases session.cursor.tokens[session.cursor.index]? with
    | some token => exact ⟨session.cursor.index + 1, rfl⟩
    | none => exact ⟨session.cursor.index, rfl⟩

theorem consumeRest : OwnLine Action.consumeRest :=
  ⟨fun _ => rfl, fun session => ⟨session.cursor.tokens.length, rfl⟩⟩

theorem call (setup : Setup) (request : Call) : OwnLine (Action.call setup request) := by
  constructor
  · intro session
    have ha : setup.backend.answer session.atLastLine.attempts session.atLastLine.files request =
        setup.backend.answer session.attempts session.files request := rfl
    simp only [Action.call, ha]
    cases setup.backend.answer session.attempts session.files request <;> rfl
  · intro session
    simp only [final, Action.call]
    cases setup.backend.answer session.attempts session.files request <;>
      exact ⟨session.cursor.index, rfl⟩

theorem newFigure (setup : Setup) (creation : Call) :
    OwnLine (Action.newFigure setup creation) :=
  get_bind (fun _ => rfl) fun _ => bind (call setup creation) fun _ => pure _

theorem closeTarget (setup : Setup) : OwnLine (Script.closeTarget setup) := by
  apply bind state
  intro current
  cases current.target.figure? with
  | none => exact bind (pure ()) fun _ => setState _
  | some figure => exact bind (call _ _) fun _ => setState _

theorem loadLog (setup : Setup) : OwnLine (Script.loadLog setup) := by
  apply bind consume
  intro text
  apply bind (attempt _)
  intro path
  apply get_bind fun _ => rfl
  intro session
  apply bind (attempt _)
  intro isFile
  cases isFile with
  | false => exact complain _
  | true =>
    exact bind (tell _ _) fun _ => bind (attempt _) fun _ => bind state fun _ =>
      bind (attempt _) fun _ => bind (setState _) fun _ => tell _ _

theorem declareFigure (setup : Setup) : OwnLine (Script.declareFigure setup) := by
  apply bind consume
  intro text
  apply bind (ofComplaint _)
  intro size
  apply get_bind fun _ => rfl
  intro session
  dsimp only
  split
  · exact bind consume fun _ => bind (ofComplaint _) fun _ => bind (newFigure _ _) fun _ =>
      bind (closeTarget _) fun _ => setState _
  · exact bind (newFigure _ _) fun _ => bind (closeTarget _) fun _ => setState _

theorem drawBars (setup : Setup) (figure : Figure) (cell : Option Cell) :
    OwnLine (Script.drawBars setup figure cell) := by
  apply bind consume
  intro name
  split
  · exact complain _
  · apply bind state
    intro current
    cases current.history with
    | none => exact complain _
    | some history =>
      exact bind (attempt _) fun _ => bind consumeRest fun _ => bind (ofComplaint _) fun _ =>
        call _ _

theorem draw (setup : Setup) (figure : Figure) (cell : Option Cell) :
    OwnLine (Script.draw setup figure cell) := by
  apply bind consume
  intro kind
  split
  · exact drawBars _ _ _
  · exact complain _

theorem drawCell (setup : Setup) : OwnLine (Script.drawCell setup) := by
  apply bind consume
  intro text
  apply bind (ofComplaint _)
  intro place
  apply bind state
  intro current
  cases current.target with
  | grid figure rows cols =>
    dsimp only
    split
    · exact draw _ _ _
    · exact complain _
  | absent => exact complain _
  | whole => exact complain _

theorem drawWhole (setup : Setup) : OwnLine (Script.drawWhole setup) := by
  apply bind state
  intro current
  cases current.target with
  | whole figure => exact draw _ _ _
  | absent => exact complain _
  | grid => exact complain _

theorem saveFigure (setup : Setup) : OwnLine (Script.saveFigure setup) := by
  apply bind consume
  intro text
  apply bind (attempt _)
  intro path
  apply bind state
  intro current
  cases current.target.figure? with
  | none => exact complain _
  | some figure => exact bind (call _ _) fun _ => tell _ _

theorem run (setup : Setup) {directive : Directive} (h : directive.hasList = false) :
    OwnLine (directive.run setup) := by
  cases directive with
  | aliasList => cases h
  | load => exact loadLog setup
  | days => exact bind consume fun _ => bind (ofComplaint _) fun _ => setState _
  | skipCommit => exact bind consume fun _ => bind (ofComplaint _) fun _ => setState _
  | includeList => cases h
  | includeClear => exact setState fun state => { state with included := [] }
  | excludeList => cases h
  | excludeClear => exact setState fun state => { state with excluded := [] }
  | excludeRemove => cases h
  | figure => exact declareFigure setup
  | subplot => exact drawCell setup
  | plot => exact drawWhole setup
  | save => exact saveFigure setup
  | title => exact bind consume fun _ => setState _

end OwnLine

end Authorship.Script
