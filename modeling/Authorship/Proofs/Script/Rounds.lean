import Authorship.Proofs.Script.Cursor
import Authorship.Proofs.Script.Refinement

namespace Authorship.Script

open Authorship.Script.Action

/-- Reads a list in at most so many rounds, with the turns that go to other lines; none if the
rounds do not suffice. -/
def Cursor.readListWithin :
    Nat → Cursor → Option (List Turn × Except Fault (List String) × Cursor)
  | 0, _ => none
  | rounds + 1, cursor =>
    let reading : Turn := ⟨cursor, .advance⟩
    match cursor.advance with
    | .error fault => some ([reading], .error fault, cursor)
    | .ok line =>
      if line.isBlank || line.isComment then
        (line.readListWithin rounds).map fun (turns, result) => (reading :: turns, result)
      else if line.isCommand then some ([reading, ⟨line, .hold⟩], .ok [], line.hold)
      else
        match line.consume with
        | .error fault => some ([reading], .error fault, line)
        | .ok (item, after) =>
          (after.readListWithin rounds).map fun (turns, items, final) =>
            (reading :: turns, items.map (item :: ·), final)

/-- An action with the turns that go to other lines; none if its rounds do not suffice. -/
def Tracked (α : Type) : Type :=
  Session → Option (List Turn × EStateM.Result Failure Session α)

namespace Tracked

/-- An action that stays on its line. -/
def ofAction {α : Type} (action : Action α) : Tracked α :=
  fun session => some ([], action session)

def bind {α β : Type} (first : Tracked α) (next : α → Tracked β) : Tracked β := fun session =>
  match first session with
  | none => none
  | some (turns, .error failure after) => some (turns, .error failure after)
  | some (turns, .ok value after) =>
    (next value after).map fun (later, result) => (turns ++ later, result)

instance : Monad Tracked where
  pure value := ofAction (pure value)
  bind := Tracked.bind

def readList (rounds : Nat) : Tracked (List String) := fun session =>
  (session.cursor.readListWithin rounds).map fun (turns, result, cursor) =>
    (turns, match result with
      | .ok items => .ok items { session with cursor := cursor }
      | .error fault => .error (.script fault) { session with cursor := cursor })

end Tracked

open Tracked in
/-- Runs a directive whose list is read in at most so many rounds. -/
def Directive.runWithin (setup : Setup) (rounds : Nat) : Directive → Tracked Unit
  | .aliasList => do
    let canonical ← ofAction consume
    let raws ← Tracked.readList rounds
    ofAction (setState fun state => { state with aliases := state.aliases.register canonical raws })
  | .includeList => do
    let items ← Tracked.readList rounds
    ofAction (setState fun state => { state with included := state.included ++ items })
  | .excludeList => do
    let items ← Tracked.readList rounds
    ofAction (setState fun state => { state with excluded := state.excluded ++ items })
  | .excludeRemove => do
    let items ← Tracked.readList rounds
    ofAction (setState fun state =>
      { state with excluded := state.excluded.filter (!items.contains ·) })
  | directive => ofAction (directive.run setup)

open Tracked in
def runCommandWithin (setup : Setup) (rounds : Nat) : Tracked Unit := do
  let token ← ofAction consume
  match Directive.ofToken? token with
  | some directive => directive.runWithin setup rounds
  | none => ofAction (do note (.unknownDirective token (← get).cursor.lineNumber))

def runLineWithin (setup : Setup) (rounds : Nat) : Tracked Unit := fun session =>
  if session.cursor.isCommand then runCommandWithin setup rounds session
  else some ([], .ok () session)

/-- Runs the lines from the cursor on in at most so many rounds, and their lists too. -/
def runFromWithin (setup : Setup) (listRounds : Nat) :
    Nat → Session → Option (List Turn × EStateM.Result Failure Session Unit)
  | 0, _ => none
  | rounds + 1, session =>
    let asking : Turn := ⟨session.cursor, .nextLine⟩
    match session.cursor.nextLine with
    | none => some ([asking], .ok () session)
    | some cursor =>
      match runLineWithin setup listRounds { session with cursor := cursor } with
      | none => none
      | some (turns, .error failure after) => some (asking :: turns, .error failure after)
      | some (turns, .ok () after) =>
        (runFromWithin setup listRounds rounds after).map fun (later, result) =>
          (asking :: turns ++ later, result)

def interpretWithin (setup : Setup) (listRounds rounds : Nat) (lines : List String) :
    Tracked Unit := fun session =>
  runFromWithin setup listRounds rounds { session with cursor := .ofLines lines setup.source }

def readNumbers (turns : List Turn) : List Nat :=
  (turns.filter Turn.isReading).map (·.left.lineNumber)

def heldNumbers (turns : List Turn) : List Nat :=
  (turns.filter (·.move == .hold)).map (·.found.lineNumber)

def asks (turns : List Turn) : Nat :=
  turns.countP (·.move == .nextLine)

structure Ascends (low high : Nat) (numbers : List Nat) : Prop where
  pairwise : numbers.Pairwise (· < ·)
  between : ∀ number ∈ numbers, low < number ∧ number ≤ high

/-- How many lines a cursor has yet to deliver; a line that is held is one of them. -/
def Cursor.toDeliver (cursor : Cursor) : Nat :=
  cursor.ahead.length + if cursor.held then 1 else 0

/-- Turns that lead from one cursor to another. They read every line between the two once, hand
back some of these, and ask for no more lines than are delivered, or for some in vain. -/
structure Passage (vain : Nat) (before after : Cursor) (turns : List Turn) : Prop where
  length : after.lineNumber + after.ahead.length = before.lineNumber + before.ahead.length
  le : before.lineNumber ≤ after.lineNumber
  reads : readNumbers turns =
    List.range' (before.lineNumber + 1) (after.lineNumber - before.lineNumber)
  holds : Ascends before.lineNumber after.lineNumber (heldNumbers turns)
  asks : asks turns + after.toDeliver ≤ before.toDeliver + vain

theorem Ascends.append {low middle high : Nat} {first second : List Nat}
    (hf : Ascends low middle first) (hs : Ascends middle high second) (hl : low ≤ middle)
    (hh : middle ≤ high) : Ascends low high (first ++ second) := by
  constructor
  · rw [List.pairwise_append]
    refine ⟨hf.pairwise, hs.pairwise, fun a ha b hb => ?_⟩
    exact Nat.lt_of_le_of_lt (hf.between a ha).2 (hs.between b hb).1
  · intro number hn
    rcases List.mem_append.mp hn with hn | hn
    · have := hf.between number hn
      omega
    · have := hs.between number hn
      omega

theorem ascends_nil (low high : Nat) : Ascends low high [] :=
  ⟨.nil, by simp⟩

namespace Passage

variable {before middle after : Cursor} {first second : List Turn} {vain more : Nat}

theorem trans (hf : Passage vain before middle first) (hs : Passage more middle after second) :
    Passage (vain + more) before after (first ++ second) := by
  refine ⟨hs.length.trans hf.length, hf.le.trans hs.le, ?_, ?_, ?_⟩
  · have hreads : readNumbers (first ++ second) = readNumbers first ++ readNumbers second := by
      simp [readNumbers]
    have hle := hf.le
    have hle' := hs.le
    have hstart : before.lineNumber + 1 + (middle.lineNumber - before.lineNumber) =
        middle.lineNumber + 1 := by omega
    rw [hreads, hf.reads, hs.reads, ← hstart, List.range'_append_1]
    congr 1
    omega
  · have hholds : heldNumbers (first ++ second) = heldNumbers first ++ heldNumbers second := by
      simp [heldNumbers]
    rw [hholds]
    exact hf.holds.append hs.holds hf.le hs.le
  · have hasks : Script.asks (first ++ second) = Script.asks first + Script.asks second :=
      List.countP_append
    have hf := hf.asks
    have hs := hs.asks
    omega

theorem mono (h : Passage vain before after first) (hv : vain ≤ more) :
    Passage more before after first :=
  ⟨h.length, h.le, h.reads, h.holds, Nat.le_trans h.asks (Nat.add_le_add_left hv _)⟩

theorem stay (hn : after.lineNumber = before.lineNumber) (ha : after.ahead = before.ahead)
    (hh : after.held = before.held) : Passage 0 before after [] := by
  refine ⟨by rw [hn, ha], Nat.le_of_eq hn.symm, ?_, ascends_nil _ _, ?_⟩
  · rw [hn, Nat.sub_self]
    rfl
  · rw [Cursor.toDeliver, Cursor.toDeliver, ha, hh]
    exact Nat.le_of_eq (Nat.zero_add _)

theorem read {turn : Turn} (h : before.advance = .ok after) (hr : turn.Reads after)
    (hh : turn.move ≠ .hold)
    (ha : (if turn.move = .nextLine then 1 else 0) + after.toDeliver ≤ before.toDeliver) :
    Passage 0 before after [turn] := by
  have hlength := Cursor.length_ahead_advance h
  have hnumber : after.lineNumber = before.lineNumber + 1 := by
    obtain ⟨line, rest, -, rfl⟩ := Cursor.of_advance h
    rfl
  refine ⟨by omega, by omega, ?_, ?_, ?_⟩
  · rw [hnumber, Nat.add_sub_cancel_left]
    simp [readNumbers, hr.isReading, hr.left, hnumber]
  · have hnone : heldNumbers [turn] = [] := by simp [heldNumbers, hh]
    rw [hnone]
    exact ascends_nil _ _
  · rw [Script.asks, List.countP_singleton]
    simpa using ha

theorem advance (h : before.advance = .ok after) :
    Passage 0 before after [⟨before, .advance⟩] := by
  have hlength := Cursor.length_ahead_advance h
  have hheld := Cursor.held_advance h
  apply read h (reads_advance h) (by simp)
  simp only [Cursor.toDeliver, hheld, reduceCtorEq, if_false]
  omega

theorem advance_in_vain {fault : Fault} (h : before.advance = .error fault) :
    Passage 0 before before [⟨before, .advance⟩] := by
  have hr : Turn.isReading ⟨before, .advance⟩ = false := by
    apply Turn.isReading_of_not_delivery
    apply Turn.isDelivery_of_error
    rw [Turn.result, Cursor.make, h]
    rfl
  refine ⟨rfl, Nat.le_refl _, ?_, ascends_nil _ _, Nat.le_of_eq ?_⟩
  · rw [Nat.sub_self]
    simp [readNumbers, hr]
  · exact Nat.zero_add _

theorem consume {token : String} (h : before.consume = .ok (token, after)) :
    Passage 0 before after [] := by
  unfold Cursor.consume at h
  split at h <;> cases h
  exact stay rfl rfl rfl

theorem nextLine (h : before.nextLine = some after) :
    Passage 0 before after [⟨before, .nextLine⟩] := by
  cases hheld : before.held with
  | true =>
    rw [Cursor.nextLine_of_held hheld, Option.some.injEq] at h
    subst h
    have hr : Turn.isReading ⟨before, .nextLine⟩ = false := by
      rw [Turn.isReading, hheld]
      exact Bool.and_false _
    refine ⟨rfl, Nat.le_refl _, ?_, ascends_nil _ _, Nat.le_of_eq ?_⟩
    · simp [readNumbers, hr]
    · simp only [Cursor.toDeliver, hheld, Bool.false_eq_true, if_true, if_false]
      exact Nat.add_comm 1 _
  | false =>
    rw [Cursor.nextLine_of_not_held hheld] at h
    cases ha : before.advance with
    | error fault =>
      rw [ha] at h
      cases h
    | ok next =>
      rw [ha] at h
      cases h
      have hlength := Cursor.length_ahead_advance ha
      apply read ha (reads_nextLine hheld ha) (by simp)
      simp only [Cursor.toDeliver, Cursor.held_advance ha, if_true]
      omega

theorem nextLine_in_vain (h : before.nextLine = none) :
    Passage 1 before before [⟨before, .nextLine⟩] := by
  have hr : Turn.isReading ⟨before, .nextLine⟩ = false := by
    apply Turn.isReading_of_not_delivery
    rw [Turn.isDelivery, Turn.result, Cursor.make, h]
  refine ⟨rfl, Nat.le_refl _, ?_, ascends_nil _ _, Nat.le_of_eq (Nat.add_comm 1 _)⟩
  rw [Nat.sub_self]
  simp [readNumbers, hr]

theorem handBack (h : before.advance = .ok after) :
    Passage 0 before after.hold [⟨before, .advance⟩, ⟨after, .hold⟩] := by
  have hread := advance h
  have hlength := Cursor.length_ahead_advance h
  have hle := hread.le
  refine ⟨hread.length, hle, hread.reads, ⟨List.pairwise_singleton _ _, ?_⟩, ?_⟩
  · intro number hn
    rw [show heldNumbers [⟨before, .advance⟩, ⟨after, .hold⟩] = [after.lineNumber] from rfl,
      List.mem_singleton] at hn
    have hlength' := hread.length
    have hnumber : after.lineNumber = before.lineNumber + 1 := by omega
    exact ⟨by omega, Nat.le_of_eq hn⟩
  · have hasks : Script.asks [⟨before, .advance⟩, ⟨after, .hold⟩] = 0 := rfl
    simp only [hasks, Cursor.toDeliver, Cursor.hold, if_true]
    omega

end Passage

theorem exists_readListWithin {cursor : Cursor} {rounds : Nat} (h : cursor.ahead.length < rounds) :
    ∃ turns, cursor.readListWithin rounds = some (turns, cursor.readList) ∧
      Passage 0 cursor cursor.readList.2 turns := by
  obtain ⟨rounds, rfl⟩ := Nat.exists_eq_add_one_of_ne_zero (Nat.ne_zero_of_lt h)
  fun_induction Cursor.readList cursor generalizing rounds with
  | case1 cursor fault ha =>
    refine ⟨_, ?_, .advance_in_vain ha⟩
    simp only [Cursor.readListWithin, ha]
  | case2 cursor line ha hpassed ih =>
    have hlength := Cursor.length_ahead_advance ha
    obtain ⟨rounds, rfl⟩ : ∃ less, rounds = less + 1 :=
      Nat.exists_eq_add_one_of_ne_zero (by omega)
    obtain ⟨turns, hlist, hturns⟩ := ih rounds (by omega)
    refine ⟨_, ?_, (Passage.advance ha).trans hturns⟩
    rw [Cursor.readListWithin]
    simp only [ha, hpassed, hlist, Option.map_some, if_true]
    rfl
  | case3 cursor line ha hpassed hcommand =>
    refine ⟨_, ?_, .handBack ha⟩
    simp only [Cursor.readListWithin, ha, hpassed, hcommand]
    rfl
  | case4 cursor line ha hpassed hcommand fault hfault =>
    refine ⟨_, ?_, .advance ha⟩
    simp only [Cursor.readListWithin, ha, hpassed, hcommand, hfault]
    rfl
  | case5 cursor line ha hpassed hcommand item after hitem items final hrest ih =>
    have hlength := Cursor.length_ahead_advance ha
    have hstay := Passage.consume hitem
    have hsame := hstay.length
    have hle := hstay.le
    obtain ⟨rounds, rfl⟩ : ∃ less, rounds = less + 1 :=
      Nat.exists_eq_add_one_of_ne_zero (by omega)
    obtain ⟨turns, hlist, hturns⟩ := ih rounds (by omega)
    rw [hrest] at hlist hturns
    refine ⟨_, ?_, (Passage.advance ha).trans (hstay.trans hturns)⟩
    rw [Cursor.readListWithin]
    simp only [ha, hpassed, hcommand, hitem, hlist, Option.map_some]
    rfl

/-- An action comes in so many rounds to what it comes to, by turns that lead to its cursor. -/
def Tracks {α : Type} (rounds : Nat) (tracked : Tracked α) (action : Action α) : Prop :=
  ∀ session, session.cursor.ahead.length < rounds →
    ∃ turns, tracked session = some (turns, action session) ∧
      Passage 0 session.cursor (action.final session).cursor turns

namespace Tracks

variable {α β : Type} {rounds : Nat}

theorem ofAction {action : Action α} (h : OwnLine action) :
    Tracks rounds (.ofAction action) action := by
  intro session _
  obtain ⟨index, hc⟩ := h.steady session
  refine ⟨[], rfl, ?_⟩
  rw [hc]
  exact .stay rfl rfl rfl

theorem bind {tracked : Tracked α} {action : Action α} {trackedNext : α → Tracked β}
    {next : α → Action β} (hfirst : Tracks rounds tracked action)
    (hsecond : ∀ value, Tracks rounds (trackedNext value) (next value)) :
    Tracks rounds (tracked >>= trackedNext) (action >>= next) := by
  intro session hr
  obtain ⟨turns, hturns, hpassage⟩ := hfirst session hr
  cases h : action session with
  | error failure after =>
    rw [h] at hturns
    rw [final, h] at hpassage
    refine ⟨turns, ?_, ?_⟩
    · simp only [Bind.bind, Tracked.bind, hturns, EStateM.bind, h]
    · simp only [final, Bind.bind, EStateM.bind, h]
      exact hpassage
  | ok value after =>
    rw [h] at hturns
    rw [final, h] at hpassage
    have hlength := hpassage.length
    have hle := hpassage.le
    dsimp only at hlength hle
    obtain ⟨later, hlater, hmore⟩ := hsecond value after (by omega)
    refine ⟨turns ++ later, ?_, ?_⟩
    · simp only [Bind.bind, Tracked.bind, hturns, hlater, EStateM.bind, h, Option.map_some]
    · simp only [final, Bind.bind, EStateM.bind, h]
      exact hpassage.trans hmore

theorem readList : Tracks rounds (.readList rounds) Action.readList := by
  intro session hr
  obtain ⟨turns, hlist, hpassage⟩ := exists_readListWithin hr
  refine ⟨turns, ?_, ?_⟩
  · rw [Tracked.readList, hlist, Option.map_some]
    rfl
  · simp only [final, Action.readList]
    cases session.cursor.readList.1 <;> exact hpassage

theorem directive (setup : Setup) (directive : Directive) :
    Tracks rounds (directive.runWithin setup rounds) (directive.run setup) := by
  cases directive with
  | aliasList =>
    exact bind (ofAction .consume) fun _ => bind readList fun _ => ofAction (.setState _)
  | includeList => exact bind readList fun _ => ofAction (.setState _)
  | excludeList => exact bind readList fun _ => ofAction (.setState _)
  | excludeRemove => exact bind readList fun _ => ofAction (.setState _)
  | _ => exact ofAction (.run setup rfl)

theorem runCommand (setup : Setup) :
    Tracks rounds (runCommandWithin setup rounds) (Script.runCommand setup) := by
  apply bind (ofAction .consume)
  intro token
  cases Directive.ofToken? token with
  | some directive => exact Tracks.directive setup directive
  | none => exact ofAction (.get_bind (fun _ => rfl) fun _ => .note _)

theorem runLine (setup : Setup) :
    Tracks rounds (runLineWithin setup rounds) (Script.runLine setup) := by
  intro session hr
  cases hc : session.cursor.isCommand with
  | true =>
    have hwithin : runLineWithin setup rounds session = runCommandWithin setup rounds session :=
      if_pos hc
    rw [hwithin, final, runLine_of_command hc]
    exact runCommand setup session hr
  | false =>
    have hwithin : runLineWithin setup rounds session = some ([], .ok () session) :=
      if_neg (Bool.eq_false_iff.mp hc)
    rw [hwithin, final, runLine_of_not_command hc]
    exact ⟨[], rfl, .stay rfl rfl rfl⟩

end Tracks

/-- The rounds suffice if there are more of them than lines to deliver; each of them asks for a
line, the last one in vain. -/
theorem exists_runFromWithin (setup : Setup) {listRounds rounds : Nat} (session : Session)
    (hl : session.cursor.toDeliver ≤ listRounds) (hr : session.cursor.toDeliver < rounds) :
    ∃ turns, runFromWithin setup listRounds rounds session =
        some (turns, runFrom setup session) ∧
      Passage 1 session.cursor (final (runFrom setup) session).cursor turns := by
  induction rounds generalizing session with
  | zero => omega
  | succ rounds ih =>
    cases hnext : session.cursor.nextLine with
    | none =>
      refine ⟨[⟨session.cursor, .nextLine⟩], ?_, ?_⟩
      · rw [runFromWithin]
        simp only [hnext, runFrom_of_end hnext]
      · unfold final
        rw [runFrom_of_end hnext]
        exact .nextLine_in_vain hnext
    | some cursor =>
      have hasked := Passage.nextLine hnext
      have hfewer := hasked.asks
      have hone : asks [⟨session.cursor, .nextLine⟩] = 1 := rfl
      have hahead : cursor.ahead.length ≤ cursor.toDeliver := Nat.le_add_right _ _
      obtain ⟨turns, hline, hturns⟩ :=
        Tracks.runLine setup { session with cursor := cursor }
          (show cursor.ahead.length < listRounds by omega)
      cases h : runLine setup { session with cursor := cursor } with
      | error failure after =>
        rw [h] at hline
        rw [final, h] at hturns
        refine ⟨⟨session.cursor, .nextLine⟩ :: turns, ?_, ?_⟩
        · rw [runFromWithin]
          simp only [hnext, hline, runFrom_of_error hnext h]
        · unfold final
          rw [runFrom_of_error hnext h]
          exact (hasked.trans hturns).mono (Nat.zero_le 1)
      | ok value after =>
        rw [h] at hline
        rw [final, h] at hturns
        have hless := hturns.asks
        dsimp only at hless
        obtain ⟨later, hlater, hmore⟩ := ih after (by omega) (by omega)
        refine ⟨⟨session.cursor, .nextLine⟩ :: turns ++ later, ?_, ?_⟩
        · rw [runFromWithin]
          simp only [hnext, hline, hlater, runFrom_of_ok hnext h, Option.map_some]
        · unfold final at hmore ⊢
          rw [runFrom_of_ok hnext h]
          exact (hasked.trans hturns).trans hmore

/-- The interpreter ends, and does so in linear work. Of a script of some number of lines its list
loops go round that often at most, and the loop over the lines once more, which is also how often a
line is asked for. The lines that are read are the first ones, each once, and each of them is handed
back once at most. -/
theorem exists_interpretWithin (setup : Setup) (lines : List String) (session : Session) :
    ∃ turns, interpretWithin setup lines.length (lines.length + 1) lines session =
        some (turns, interpret setup lines session) ∧
      readNumbers turns =
        List.range' 1 ((interpret setup lines).final session).cursor.lineNumber ∧
      (readNumbers turns).length ≤ lines.length ∧
      (heldNumbers turns).Nodup ∧
      asks turns ≤ lines.length + 1 := by
  let start : Session := { session with cursor := .ofLines lines setup.source }
  have hstart : start.cursor.toDeliver = lines.length := rfl
  obtain ⟨turns, hturns, hpassage⟩ := exists_runFromWithin setup start
    (Nat.le_of_eq hstart) (Nat.lt_succ_of_le (Nat.le_of_eq hstart))
  have hreads := hpassage.reads
  have hlength := hpassage.length
  have hasks := hpassage.asks
  refine ⟨turns, hturns, ?_, ?_, ?_, ?_⟩
  · exact hreads
  · rw [hreads, List.length_range']
    have hnone : start.cursor.lineNumber = 0 := rfl
    have hall : start.cursor.ahead.length = lines.length := rfl
    omega
  · exact hpassage.holds.pairwise.imp Nat.ne_of_lt
  · omega

end Authorship.Script
