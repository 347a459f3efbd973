import Authorship.Script.OwnLine

namespace Authorship.Script

open Authorship.Drawing Authorship.Script.Action

/-- An action after which no more deliveries are pending than before. -/
def Settles {α : Type} (action : Action α) : Prop :=
  ∀ session, (action.final session).cursor.pending ≤ session.cursor.pending

namespace Settles

variable {α β : Type}

theorem pure (value : α) : Settles (Pure.pure value : Action α) :=
  fun _ => Nat.le_refl _

theorem bind {action : Action α} {next : α → Action β} (first : Settles action)
    (second : ∀ value, Settles (next value)) : Settles (action >>= next) := by
  intro session
  have before := first session
  simp only [Action.final, Bind.bind, EStateM.bind] at before ⊢
  cases h : action session with
  | ok value after =>
    simp only [h] at before ⊢
    exact Nat.le_trans (second value after) before
  | error failure after => simpa only [h] using before

theorem consume : Settles Action.consume := by
  intro session
  simp only [Action.final, Action.consume]
  cases h : session.cursor.consume with
  | ok result => exact Nat.le_of_eq (Cursor.pending_consume h)
  | error fault => exact Nat.le_refl _

theorem readList : Settles Action.readList := by
  intro session
  have kept := session.cursor.pending_readList
  simp only [Action.final, Action.readList]
  cases h : session.cursor.readList.1 <;> exact kept

theorem ofOwnLine {action : Action α} (h : OwnLine action) : Settles action := by
  intro session
  obtain ⟨index, hc⟩ := h.steady session
  rw [hc]
  exact Nat.le_refl _

theorem run (setup : Setup) (directive : Directive) : Settles (directive.run setup) := by
  cases h : directive.hasList with
  | false => exact ofOwnLine (.run setup h)
  | true =>
    cases directive with
    | aliasList => exact bind consume fun _ => bind readList fun _ => ofOwnLine (.setState _)
    | includeList => exact bind readList fun _ => ofOwnLine (.setState _)
    | excludeList => exact bind readList fun _ => ofOwnLine (.setState _)
    | excludeRemove => exact bind readList fun _ => ofOwnLine (.setState _)
    | _ => cases h

end Settles

def runCommand (setup : Setup) : Action Unit := do
  let token ← consume
  match Directive.ofToken? token with
  | some directive => directive.run setup
  | none => note (.unknownDirective token (← get).cursor.lineNumber)

def runLine (setup : Setup) : Action Unit := do
  if (← get).cursor.isCommand then runCommand setup else pure ()

theorem Settles.runLine (setup : Setup) : Settles (Script.runLine setup) := by
  apply bind (fun _ => Nat.le_refl _)
  intro session
  split
  · apply bind consume
    intro token
    cases Directive.ofToken? token with
    | some directive => exact Settles.run setup directive
    | none => exact bind (fun _ => Nat.le_refl _) fun _ => ofOwnLine (.note _)
  · exact pure ()

def runFrom (setup : Setup) (session : Session) : EStateM.Result Failure Session Unit :=
  match _next : session.cursor.nextLine with
  | none => .ok () session
  | some cursor =>
    match _done : runLine setup { session with cursor := cursor } with
    | .error failure after => .error failure after
    | .ok () after => runFrom setup after
termination_by session.cursor.pending
decreasing_by
  have delivered := Cursor.pending_nextLine _next
  have settled := Settles.runLine setup { session with cursor := cursor }
  simp only [Action.final, _done] at settled
  omega

section

variable {setup : Setup} {session after : Session} {cursor : Cursor} {failure : Failure}

theorem runFrom_of_end (h : session.cursor.nextLine = none) :
    runFrom setup session = .ok () session := by
  rw [runFrom]
  split
  · rfl
  · rename_i hs
    rw [h] at hs
    cases hs

theorem runFrom_of_error (h : session.cursor.nextLine = some cursor)
    (hd : runLine setup { session with cursor := cursor } = .error failure after) :
    runFrom setup session = .error failure after := by
  rw [runFrom]
  split <;> rename_i hs
  · rw [h] at hs
    cases hs
  · rw [h] at hs
    cases hs
    split <;> rename_i hr
    · rw [hd] at hr
      cases hr
      rfl
    · rw [hd] at hr
      cases hr

theorem runFrom_of_ok (h : session.cursor.nextLine = some cursor)
    (hd : runLine setup { session with cursor := cursor } = .ok () after) :
    runFrom setup session = runFrom setup after := by
  rw [runFrom]
  split <;> rename_i hs
  · rw [h] at hs
    cases hs
  · rw [h] at hs
    cases hs
    split <;> rename_i hr
    · rw [hd] at hr
      cases hr
    · rw [hd] at hr
      cases hr
      rfl

end

def interpret (setup : Setup) (lines : List String) : Action Unit := fun session =>
  runFrom setup { session with cursor := .ofLines lines setup.source }

/-- Runs an action and closes the figure after it, whether or not it failed. -/
def closingAfter (setup : Setup) (action : Action Unit) : Action Unit := fun session =>
  match action session with
  | .ok () session => closeTarget setup session
  | .error failure session =>
    match closeTarget setup session with
    | .ok () session => .error failure session
    | .error failure session => .error failure session

end Authorship.Script
