import Authorship.Proofs.Script.Block

namespace Authorship.Script

open Authorship.Script.Action

def dispatchOf (cursor : Cursor) : List Cursor :=
  if cursor.isCommand then (cursor.consume.toOption.map Prod.snd).toList else []

def traceFrom (setup : Setup) (session : Session) :
    List Cursor × EStateM.Result Failure Session Unit :=
  match _next : session.cursor.nextLine with
  | none => ([], .ok () session)
  | some cursor =>
    match _done : runLine setup { session with cursor := cursor } with
    | .error failure after => (dispatchOf cursor, .error failure after)
    | .ok () after =>
      let (later, result) := traceFrom setup after
      (dispatchOf cursor ++ later, result)
termination_by session.cursor.pending
decreasing_by
  have delivered := Cursor.pending_nextLine _next
  have settled := Settles.runLine setup { session with cursor := cursor }
  simp only [Action.final, _done] at settled
  omega

/-- A run of the lines of a script with the cursors that its commands are dispatched with. -/
def trace (setup : Setup) (lines : List String) (session : Session) :
    List Cursor × EStateM.Result Failure Session Unit :=
  traceFrom setup { session with cursor := .ofLines lines setup.source }

theorem traceFrom_snd (setup : Setup) (session : Session) :
    (traceFrom setup session).2 = runFrom setup session := by
  fun_induction traceFrom setup session with
  | case1 session h => exact (runFrom_of_end h).symm
  | case2 session cursor h failure after hdone => exact (runFrom_of_error h hdone).symm
  | case3 session cursor h after hdone later result hrest ih =>
    rw [runFrom_of_ok h hdone, ← ih, hrest]

/-- A session without its place in a script. -/
def Session.offScript (session : Session) : Session :=
  { session with cursor := .ofLines [] "" }

def offScript {α : Type} : EStateM.Result Failure Session α → EStateM.Result Failure Session α
  | .ok value session => .ok value session.offScript
  | .error failure session => .error failure session.offScript

/-- The lines that a cursor has yet to deliver, after a number of others: those ahead, and before
them the latest one if it is held. -/
def Cursor.Delivers (cursor : Cursor) (source : String) (read : Nat) (lines : List String) : Prop :=
  cursor.source = source ∧
    ((cursor.held = false ∧ cursor.ahead = lines ∧ cursor.lineNumber = read) ∨
      (cursor.held = true ∧ cursor.lineNumber = read + 1 ∧ ∃ line,
        lines = line :: cursor.ahead ∧ cursor.tokens = Script.tokens line))

namespace Cursor.Delivers

variable {cursor : Cursor} {source : String} {read : Nat}

theorem nextLine_nil (h : cursor.Delivers source read []) : cursor.nextLine = none := by
  obtain ⟨-, ⟨hheld, ha, -⟩ | ⟨-, -, line, hl, -⟩⟩ := h
  · simp [nextLine, hheld, advance, ha, Except.toOption]
  · cases hl

theorem nextLine_cons {line : String} {rest : List String}
    (h : cursor.Delivers source read (line :: rest)) :
    cursor.nextLine = some ⟨rest, source, read + 1, Script.tokens line, 0, false⟩ := by
  obtain ⟨rfl, ⟨hheld, ha, rfl⟩ | ⟨hheld, hn, other, hl, ht⟩⟩ := h
  · simp [nextLine, hheld, advance, ha, Except.toOption]
  · cases hl
    simp [nextLine, hheld, hn, ht]

end Cursor.Delivers

/-- A command of the interpreter does what its block does, and goes on with what follows it: no
command line is passed over. -/
def Follows (source : String) (read : Nat) (rest : List String)
    (ran performed : EStateM.Result Failure Session Unit) : Prop :=
  offScript ran = offScript performed ∧ ∀ after, ran = .ok () after →
    ∃ skipped remaining, rest = skipped ++ remaining ∧
      (∀ other ∈ skipped, isCommandLine other = false) ∧
      after.cursor.Delivers source (read + skipped.length) remaining

variable {setup : Setup} {session : Session} {read : Nat} {rest : List String}

theorem follows_list {block : Block} {start : Cursor} (own : Cursor)
    (change : List String → State → State) (ha : start.ahead = rest)
    (hs : start.source = setup.source) (hn : start.lineNumber = read)
    (hi : block.items = itemsBefore rest) :
    Follows setup.source read rest
      ((readList >>= fun items => setState (change items)) { session with cursor := start })
      ((block.list setup (read + rest.length) >>= fun items => setState (change items))
        { session with cursor := own }) := by
  subst ha hn
  rcases start.reads_readList with
    ⟨skipped, line, remaining, hrest, hskipped, hline, hr⟩ | ⟨hall, final, hr⟩
  · have hitems : block.items = some (skipped.filterMap item?) := by
      rw [hi, hrest, itemsBefore_append hskipped hline]
    simp only [Bind.bind, EStateM.bind, Action.readList, hr, Block.list, hitems]
    refine ⟨rfl, fun after hafter => ?_⟩
    cases hafter
    exact ⟨skipped, line :: remaining, hrest, hskipped, hs, .inr ⟨rfl, rfl, line, rfl, rfl⟩⟩
  · have hitems : block.items = none := by rw [hi, itemsBefore_eq_none hall]
    simp only [Bind.bind, EStateM.bind, Action.readList, hr, Block.list, hitems, hs]
    refine ⟨rfl, fun after hafter => ?_⟩
    cases hafter

theorem offScript_atLastLine {α : Type} (result : EStateM.Result Failure Session α) :
    offScript (atLastLine result) = offScript result := by
  cases result <;> rfl

theorem follows_directive (block : Block) (directive : Directive) (hl : block.line = read)
    (hi : block.items = itemsBefore rest) :
    Follows setup.source read rest
      (directive.run setup { session with cursor := block.cursor setup.source rest })
      (directive.runWith setup (block.list setup (read + rest.length))
        { session with cursor := block.cursor setup.source [] }) := by
  cases hd : directive.hasList with
  | false =>
    have hown : OwnLine (directive.run setup) := .run setup hd
    rw [runWith_of_hasList _ hd]
    constructor
    · exact (offScript_atLastLine _).symm.trans (congrArg offScript (hown.blind _).symm)
    · intro after hafter
      obtain ⟨index, hc⟩ := hown.steady { session with cursor := block.cursor setup.source rest }
      rw [final, hafter] at hc
      refine ⟨[], rest, rfl, by simp, ?_⟩
      rw [show after.cursor = { block.cursor setup.source rest with index := index } from hc]
      exact ⟨rfl, .inl ⟨rfl, rfl, hl⟩⟩
  | true =>
    rw [← runWith_readList]
    cases directive with
    | aliasList =>
      cases ht : block.tokens[1]? with
      | none =>
        have hconsume (after : List String) : (block.cursor setup.source after).consume =
            .error ((block.cursor setup.source []).fault .missingArgument) := by
          simp only [Cursor.consume, Block.cursor, ht]
          rfl
        simp only [Directive.runWith, Bind.bind, EStateM.bind, Action.consume, hconsume]
        refine ⟨rfl, fun after hafter => ?_⟩
        cases hafter
      | some canonical =>
        have hconsume (after : List String) : (block.cursor setup.source after).consume =
            .ok (canonical, { block.cursor setup.source after with index := 2 }) := by
          simp only [Cursor.consume, Block.cursor, ht]
        simp only [Directive.runWith, Bind.bind, EStateM.bind, Action.consume, hconsume]
        exact follows_list _ _ rfl rfl hl hi
    | includeList => exact follows_list _ _ rfl rfl hl hi
    | excludeList => exact follows_list _ _ rfl rfl hl hi
    | excludeRemove => exact follows_list _ _ rfl rfl hl hi
    | _ => cases hd

theorem runLine_of_not_command {cursor : Cursor} (h : cursor.isCommand = false) :
    runLine setup { session with cursor := cursor } = .ok () { session with cursor := cursor } := by
  change (if cursor.isCommand = true then runCommand setup else pure ())
    { session with cursor := cursor } = _
  rw [h]
  rfl

theorem runLine_of_command {cursor : Cursor} (h : cursor.isCommand = true) :
    runLine setup { session with cursor := cursor } =
      runCommand setup { session with cursor := cursor } := by
  change (if cursor.isCommand = true then runCommand setup else pure ())
    { session with cursor := cursor } = _
  rw [h]
  rfl

/-- A command line does what its block does. -/
theorem follows_block (setup : Setup) (read : Nat) (rest : List String) {line : String}
    (hl : isCommandLine line = true) {session' : Session}
    (hs : session.offScript = session'.offScript) :
    Follows setup.source (read + 1) rest
      (runLine setup
        { session with cursor := ⟨rest, setup.source, read + 1, tokens line, 0, false⟩ })
      (Block.run setup (read + 1 + rest.length) ⟨read + 1, tokens line, itemsBefore rest⟩
        session') := by
  have hcommand :
      Cursor.isCommand ⟨rest, setup.source, read + 1, tokens line, 0, false⟩ = true := hl
  have hcursor (cursor : Cursor) :
      { session' with cursor := cursor } = { session with cursor := cursor } :=
    (congrArg (fun session => { session with cursor := cursor }) hs).symm
  obtain ⟨token, arguments, ht⟩ : ∃ token arguments, tokens line = token :: arguments := by
    cases ht : tokens line with
    | nil => simp [isCommandLine, ht] at hl
    | cons token arguments => exact ⟨token, arguments, rfl⟩
  rw [runLine_of_command hcommand]
  simp only [runCommand, Block.run, Block.perform, ht, List.headD_cons, Bind.bind, EStateM.bind,
    Action.consume, Cursor.consume, List.getElem?_cons_zero, hcursor]
  cases Directive.ofToken? token with
  | none =>
    refine ⟨rfl, fun after hafter => ?_⟩
    cases hafter
    exact ⟨[], rest, rfl, by simp, rfl, .inl ⟨rfl, rfl, rfl⟩⟩
  | some directive =>
    exact follows_directive ⟨read + 1, token :: arguments, itemsBefore rest⟩ directive rfl rfl

theorem dispatchOf_command {line : String} (hl : isCommandLine line = true) :
    dispatchOf ⟨rest, setup.source, read + 1, tokens line, 0, false⟩ =
      [Block.cursor setup.source rest ⟨read + 1, tokens line, itemsBefore rest⟩] := by
  have hcommand :
      Cursor.isCommand ⟨rest, setup.source, read + 1, tokens line, 0, false⟩ = true := hl
  rw [dispatchOf, if_pos hcommand]
  cases ht : tokens line with
  | nil => simp [isCommandLine, ht] at hl
  | cons token arguments => rfl

theorem eq_ok_of_offScript {result : EStateM.Result Failure Session Unit}
    (h : offScript (.ok () session) = offScript result) :
    ∃ other, result = .ok () other ∧ session.offScript = other.offScript := by
  cases result with
  | ok value other => exact ⟨other, rfl, (EStateM.Result.ok.inj h).2⟩
  | error failure other => cases h

theorem eq_error_of_offScript {failure : Failure} {result : EStateM.Result Failure Session Unit}
    (h : offScript (.error failure session) = offScript result) :
    ∃ other, result = .error failure other ∧ session.offScript = other.offScript := by
  cases result with
  | ok value other => cases h
  | error other after =>
    obtain ⟨rfl, hs⟩ := EStateM.Result.error.inj h
    exact ⟨after, rfl, hs⟩

theorem forM_of_ok {action : Block → Action Unit} {block : Block} {blocks : List Block}
    {after : Session} (h : action block session = .ok () after) :
    (block :: blocks).forM action session = blocks.forM action after := by
  simp only [List.forM, Bind.bind, EStateM.bind, h]

theorem forM_of_error {action : Block → Action Unit} {block : Block} {blocks : List Block}
    {failure : Failure} {after : Session} (h : action block session = .error failure after) :
    (block :: blocks).forM action session = .error failure after := by
  simp only [List.forM, Bind.bind, EStateM.bind, h]

theorem drop_succ {script : List String} {line : String} (hscript : script.drop read = line :: rest)
    (hlength : read + (line :: rest).length = script.length) :
    script.drop (read + 1) = rest ∧ read + 1 + rest.length = script.length := by
  constructor
  · rw [← List.tail_drop, hscript, List.tail_cons]
  · rw [← hlength, List.length_cons]
    omega

/-- A session in a script of which some lines have been read: the others are those that its cursor
has yet to deliver. -/
structure Session.InScript (setup : Setup) (script : List String) (read : Nat)
    (lines : List String) (session : Session) : Prop where
  drop_eq : script.drop read = lines
  length_eq : read + lines.length = script.length
  delivers : session.cursor.Delivers setup.source read lines

theorem not_isCommand {line : String} (hl : isCommandLine line = false) :
    Cursor.isCommand ⟨rest, setup.source, read + 1, tokens line, 0, false⟩ = false :=
  hl

theorem isCommandLine_of_error {line : String} {failure : Failure} {after : Session}
    (h : runLine setup
      { session with cursor := ⟨rest, setup.source, read + 1, tokens line, 0, false⟩ } =
        .error failure after) : isCommandLine line = true := by
  cases hl : isCommandLine line with
  | true => rfl
  | false =>
    rw [runLine_of_not_command (not_isCommand hl)] at h
    cases h

namespace Session.InScript

variable {script lines : List String} {cursor : Cursor} {line : String} {after : Session}

theorem eq_nil (h : session.InScript setup script read lines)
    (hn : session.cursor.nextLine = none) : lines = [] := by
  cases lines with
  | nil => rfl
  | cons line rest =>
    rw [h.delivers.nextLine_cons] at hn
    cases hn

theorem exists_cons (h : session.InScript setup script read lines)
    (hn : session.cursor.nextLine = some cursor) :
    ∃ line rest, lines = line :: rest ∧
      cursor = ⟨rest, setup.source, read + 1, tokens line, 0, false⟩ ∧
      script.drop (read + 1) = rest ∧ read + 1 + rest.length = script.length := by
  cases lines with
  | nil =>
    rw [h.delivers.nextLine_nil] at hn
    cases hn
  | cons line rest =>
    rw [h.delivers.nextLine_cons] at hn
    cases hn
    exact ⟨line, rest, rfl, rfl, drop_succ h.drop_eq h.length_eq⟩

theorem exists_after (h : session.InScript setup script read (line :: rest))
    (hr : runLine setup
      { session with cursor := ⟨rest, setup.source, read + 1, tokens line, 0, false⟩ } =
        .ok () after) :
    ∃ upto remaining, after.InScript setup script upto remaining ∧
      blocksAfter (read + 1) rest = blocksAfter upto remaining := by
  obtain ⟨hdrop, hlast⟩ := drop_succ h.drop_eq h.length_eq
  cases hl : isCommandLine line with
  | false =>
    rw [runLine_of_not_command (not_isCommand hl)] at hr
    cases hr
    exact ⟨read + 1, rest, ⟨hdrop, hlast, rfl, .inl ⟨rfl, rfl, rfl⟩⟩, rfl⟩
  | true =>
    obtain ⟨-, hgoes⟩ := follows_block setup read rest hl (Eq.refl session.offScript)
    obtain ⟨skipped, remaining, rfl, hskipped, hdelivers⟩ := hgoes after hr
    refine ⟨_, remaining, ⟨?_, ?_, hdelivers⟩, blocksAfter_append _ _ hskipped⟩
    · rw [← List.drop_drop, hdrop, List.drop_left]
    · rw [← hlast, List.length_append]
      omega

end Session.InScript

/-- From any place in a script on, the commands are those of the blocks that are left. -/
theorem traceFrom_eq_blocks (setup : Setup) (session session' : Session) {script lines : List String}
    (hscript : script.drop read = lines) (hlength : read + lines.length = script.length)
    (hdelivers : session.cursor.Delivers setup.source read lines)
    (hs : session.offScript = session'.offScript) :
    (traceFrom setup session).1 =
        (performed setup script.length (blocksAfter read lines) session').map
          (fun block => block.cursor setup.source (script.drop block.line)) ∧
      offScript (traceFrom setup session).2 =
        offScript ((blocksAfter read lines).forM (Block.run setup script.length) session') := by
  have hin : session.InScript setup script read lines := ⟨hscript, hlength, hdelivers⟩
  clear hscript hlength hdelivers
  fun_induction traceFrom setup session generalizing read lines session' with
  | case1 session h =>
    obtain rfl := hin.eq_nil h
    exact ⟨rfl, congrArg (EStateM.Result.ok ()) hs⟩
  | case2 session cursor h failure after hdone =>
    obtain ⟨line, rest, rfl, rfl, hdrop, hlast⟩ := hin.exists_cons h
    have hl := isCommandLine_of_error hdone
    obtain ⟨hsame, -⟩ := follows_block setup read rest hl hs
    rw [hdone, hlast] at hsame
    obtain ⟨after', hrun, hafter⟩ := eq_error_of_offScript hsame
    rw [blocksAfter, if_pos hl, performed, hrun, dispatchOf_command hl, forM_of_error hrun]
    refine ⟨by simp only [List.map_cons, List.map_nil, hdrop], ?_⟩
    exact congrArg (EStateM.Result.error failure) hafter
  | case3 session cursor h after hdone later result hrest ih =>
    obtain ⟨line, rest, rfl, rfl, hdrop, hlast⟩ := hin.exists_cons h
    obtain ⟨upto, remaining, hin', hblocks⟩ := hin.exists_after hdone
    rw [hrest] at ih
    cases hl : isCommandLine line with
    | false =>
      rw [runLine_of_not_command (not_isCommand hl)] at hdone
      cases hdone
      have hnone : dispatchOf ⟨rest, setup.source, read + 1, tokens line, 0, false⟩ = [] :=
        if_neg (Bool.eq_false_iff.mp hl)
      rw [blocksAfter, if_neg (Bool.eq_false_iff.mp hl), hnone, hblocks]
      exact ih _ hs hin'
    | true =>
      obtain ⟨hsame, -⟩ := follows_block setup read rest hl hs
      rw [hdone, hlast] at hsame
      obtain ⟨after', hrun, hafter⟩ := eq_ok_of_offScript hsame
      obtain ⟨htrace, hresult⟩ := ih _ hafter hin'
      rw [blocksAfter, if_pos hl, performed, hrun, dispatchOf_command hl, hblocks, forM_of_ok hrun]
      refine ⟨?_, hresult⟩
      rw [List.map_cons, hdrop, ← htrace]
      rfl

theorem offScript_interpret (setup : Setup) (lines : List String) (session : Session) :
    offScript (interpret setup lines session) =
      offScript ((blocks lines).forM (Block.run setup lines.length) session) := by
  have hdelivers : (Cursor.ofLines lines setup.source).Delivers setup.source 0 lines :=
    ⟨rfl, .inl ⟨rfl, rfl, rfl⟩⟩
  obtain ⟨-, hresult⟩ := traceFrom_eq_blocks setup
    { session with cursor := .ofLines lines setup.source } session List.drop_zero
    (Nat.zero_add lines.length) hdelivers rfl
  have hsame : (traceFrom setup { session with cursor := .ofLines lines setup.source }).2 =
      interpret setup lines session := traceFrom_snd setup _
  rwa [hsame] at hresult

/-- The interpreter refines the grammar: the commands that it dispatches, each with the cursor after
its first token, are the blocks of the script in order up to the first one that fails, and what they
do, a list being that of the block, is what the interpreter does. -/
theorem interpret_eq_blocks (setup : Setup) (lines : List String) (session : Session) :
    (trace setup lines session).2 = interpret setup lines session ∧
      (trace setup lines session).1 =
        (performed setup lines.length (blocks lines) session).map
          (fun block => block.cursor setup.source (lines.drop block.line)) ∧
      offScript (interpret setup lines session) =
        offScript ((blocks lines).forM (Block.run setup lines.length) session) := by
  have hsame : (trace setup lines session).2 = interpret setup lines session :=
    traceFrom_snd setup _
  have hdelivers : (Cursor.ofLines lines setup.source).Delivers setup.source 0 lines :=
    ⟨rfl, .inl ⟨rfl, rfl, rfl⟩⟩
  obtain ⟨htrace, hresult⟩ := traceFrom_eq_blocks setup
    { session with cursor := .ofLines lines setup.source } session List.drop_zero
    (Nat.zero_add lines.length) hdelivers rfl
  exact ⟨hsame, htrace, hsame ▸ hresult⟩

end Authorship.Script
