import Authorship.Proofs.Script.Deed
import Mathlib.Logic.Relation

namespace Authorship.Script

open Authorship.Script.Action

/-- A session at the start of a script. -/
def Session.onScript (setup : Setup) (lines : List String) (session : Session) : Session :=
  { session with cursor := .ofLines lines setup.source }

theorem Session.delivers_onScript (setup : Setup) (lines : List String) (session : Session) :
    (session.onScript setup lines).cursor.Delivers setup.source 0 lines :=
  ⟨rfl, .inl ⟨rfl, rfl, rfl⟩⟩

def Session.atLine (setup : Setup) (read : Nat) (line : String) (rest : List String)
    (session : Session) : Session :=
  { session with cursor := ⟨rest, setup.source, read + 1, tokens line, 0, false⟩ }

theorem Session.workOf_runLine_atLine (setup : Setup) (read : Nat) {line : String}
    (rest : List String) (hl : isCommandLine line = true) (session : Session) :
    workOf (runLine setup (session.atLine setup read line rest)) =
      Block.act setup (read + 1 + rest.length) ⟨read + 1, tokens line, itemsBefore rest⟩
        session.work := by
  obtain ⟨hsame, -⟩ := follows_block setup read rest hl (Eq.refl session.offScript)
  have hwork := congrArg workOf hsame
  rwa [workOf_offScript, workOf_offScript, workOf_run] at hwork

def Goes (setup : Setup) (session after : Session) : Prop :=
  ∃ cursor, session.cursor.nextLine = some cursor ∧
    runLine setup { session with cursor := cursor } = .ok () after

/-- The loop over the lines comes from one session to another. -/
def Reaches (setup : Setup) : Session → Session → Prop :=
  Relation.ReflTransGen (Goes setup)

/-- The blocks of lines that a command line follows, which ends the list of the last one. -/
def closedBlocks (read : Nat) : List String → List Block
  | [] => []
  | line :: rest =>
    if isCommandLine line then
      ⟨read + 1, tokens line, some ((rest.takeWhile (!isCommandLine ·)).filterMap item?)⟩ ::
        closedBlocks (read + 1) rest
    else closedBlocks (read + 1) rest

section Closed

variable {line : String}

theorem takeWhile_append_command (first rest : List String) (hl : isCommandLine line = true) :
    (first ++ line :: rest).takeWhile (!isCommandLine ·) =
      first.takeWhile (!isCommandLine ·) := by
  induction first with
  | nil => simp [hl]
  | cons other first ih => cases ho : isCommandLine other <;> simp [ho, ih]

theorem itemsBefore_append_command (first rest : List String) (hl : isCommandLine line = true) :
    itemsBefore (first ++ line :: rest) =
      some ((first.takeWhile (!isCommandLine ·)).filterMap item?) := by
  have hany : (first ++ line :: rest).any isCommandLine = true := by simp [hl]
  rw [itemsBefore, if_pos hany, takeWhile_append_command first rest hl]

theorem closedBlocks_append_command (read : Nat) (first rest : List String)
    (hl : isCommandLine line = true) :
    closedBlocks read (first ++ line :: rest) =
      closedBlocks read first ++ closedBlocks (read + first.length) (line :: rest) := by
  induction first generalizing read with
  | nil => rfl
  | cons other first ih =>
    have hread : read + 1 + first.length = read + (other :: first).length := by
      rw [List.length_cons]
      omega
    rw [List.cons_append, closedBlocks, closedBlocks, ih, hread,
      takeWhile_append_command first rest hl]
    split <;> rfl

theorem closedBlocks_append {skipped : List String} (read : Nat) (rest : List String)
    (hs : ∀ line ∈ skipped, isCommandLine line = false) :
    closedBlocks read (skipped ++ rest) = closedBlocks (read + skipped.length) rest := by
  induction skipped generalizing read with
  | nil => rfl
  | cons line skipped ih =>
    have hl : ¬ isCommandLine line = true := by simp [hs line List.mem_cons_self]
    rw [List.cons_append, closedBlocks, if_neg hl,
      ih (read + 1) fun other ho => hs other (List.mem_cons_of_mem _ ho), List.length_cons]
    congr 1
    omega

end Closed

theorem runFrom_of_reaches {setup : Setup} {session after : Session}
    (h : Reaches setup session after) : runFrom setup session = runFrom setup after := by
  induction h using Relation.ReflTransGen.head_induction_on with
  | refl => rfl
  | head hgoes _ ih =>
    obtain ⟨cursor, hnext, hdone⟩ := hgoes
    rw [runFrom_of_ok hnext hdone, ih]

section Places

variable {setup : Setup} {session between : Session} {length read : Nat} {line : String}
  {rest : List String}

theorem Cursor.Delivers.read_unique {cursor : Cursor} {source : String} {read' : Nat}
    {lines lines' : List String} (h : cursor.Delivers source read lines)
    (h' : cursor.Delivers source read' lines') : read = read' := by
  obtain ⟨-, ⟨hheld, -, hn⟩ | ⟨hheld, hn, -⟩⟩ := h <;>
    obtain ⟨-, ⟨hheld', -, hn'⟩ | ⟨hheld', hn', -⟩⟩ := h'
  · rw [← hn, hn']
  · rw [hheld] at hheld'
    cases hheld'
  · rw [hheld] at hheld'
    cases hheld'
  · omega

def Passes (setup : Setup) (length read : Nat) (line : String) (rest : List String)
    (work after : Work) : Prop :=
  if isCommandLine line then
    Block.act setup length ⟨read + 1, tokens line, itemsBefore rest⟩ work = .ok () after
  else after = work

theorem Goes.passes {after : Session} (h : Goes setup session after)
    (hd : session.cursor.Delivers setup.source read (line :: rest))
    (hlength : read + 1 + rest.length = length) :
    Passes setup length read line rest session.work after.work ∧
      ∃ skipped remaining, rest = skipped ++ remaining ∧
        (∀ other ∈ skipped, isCommandLine other = false) ∧
        after.cursor.Delivers setup.source (read + 1 + skipped.length) remaining := by
  obtain ⟨cursor, hnext, hdone⟩ := h
  rw [hd.nextLine_cons] at hnext
  cases hnext
  unfold Passes
  cases hl : isCommandLine line with
  | false =>
    rw [runLine_of_not_command (not_isCommand hl)] at hdone
    cases hdone
    exact ⟨rfl, [], rest, rfl, by simp, rfl, .inl ⟨rfl, rfl, rfl⟩⟩
  | true =>
    obtain ⟨-, hfollows⟩ := follows_block setup read rest hl (Eq.refl session.offScript)
    have hwork := session.workOf_runLine_atLine setup read rest hl
    rw [Session.atLine, hdone, hlength] at hwork
    exact ⟨hwork.symm, hfollows after hdone⟩

theorem exists_goes {work : Work}
    (hd : session.cursor.Delivers setup.source read (line :: rest))
    (hlength : read + 1 + rest.length = length)
    (h : Passes setup length read line rest session.work work) :
    ∃ after, Goes setup session after ∧ after.work = work := by
  unfold Passes at h
  cases hl : isCommandLine line with
  | false =>
    rw [hl] at h
    exact ⟨_, ⟨_, hd.nextLine_cons, runLine_of_not_command (not_isCommand hl)⟩, h.symm⟩
  | true =>
    have hwork := session.workOf_runLine_atLine setup read rest hl
    rw [if_pos hl] at h
    rw [hlength, h] at hwork
    cases hdone : runLine setup (session.atLine setup read line rest) with
    | ok value after =>
      rw [hdone] at hwork
      cases hwork
      exact ⟨after, ⟨_, hd.nextLine_cons, hdone⟩, rfl⟩
    | error failure after =>
      rw [hdone] at hwork
      cases hwork

theorem forM_closedBlocks_cons_iff {next : String} {first : List String} {work last : Work}
    (rest : List String) (hl : isCommandLine line = true) :
    (closedBlocks read (next :: first)).forM (Block.act setup length) work = .ok () last ↔
      ∃ after, Passes setup length read next (first ++ line :: rest) work after ∧
        (closedBlocks (read + 1) first).forM (Block.act setup length) after = .ok () last := by
  unfold Passes
  rw [closedBlocks, itemsBefore_append_command first rest hl]
  split
  · simp only [List.forM, Bind.bind, EStateM.bind]
    cases Block.act setup length _ work with
    | ok value after => simp
    | error failure after => simp
  · simp

theorem forM_act_of_reaches (script : List String) {upto : Nat} (h : Reaches setup session between)
    (hd : session.cursor.Delivers setup.source read (script.drop read))
    (hread : read ≤ script.length)
    (hb : between.cursor.Delivers setup.source upto (script.drop upto))
    (hrest : script.drop upto = line :: rest) (hl : isCommandLine line = true) :
    ∃ first, script.drop read = first ++ line :: rest ∧
      (closedBlocks read first).forM (Block.act setup script.length) session.work =
        .ok () between.work := by
  induction h using Relation.ReflTransGen.head_induction_on generalizing read with
  | refl =>
    obtain rfl := hd.read_unique hb
    exact ⟨[], hrest, rfl⟩
  | head hgoes _ ih =>
    have hlength : read + (script.drop read).length = script.length := by
      rw [List.length_drop]
      omega
    have hin : Session.InScript setup script read (script.drop read) _ := ⟨rfl, hlength, hd⟩
    have ⟨cursor, hnext, _⟩ := hgoes
    obtain ⟨next, later, hlines, -, hdrop, hlast⟩ := hin.exists_cons hnext
    rw [hlines] at hd ⊢
    obtain ⟨hpasses, skipped, remaining, hsplit, hskipped, hdelivers⟩ := hgoes.passes hd hlast
    have hdrop' : script.drop (read + 1 + skipped.length) = remaining := by
      rw [← List.drop_drop, hdrop, hsplit, List.drop_left]
    have hle : read + 1 + skipped.length ≤ script.length := by
      rw [hsplit, List.length_append] at hlast
      omega
    rw [← hdrop'] at hdelivers
    obtain ⟨first, hfirst, hforM⟩ := ih hdelivers hle
    have hlater : later = (skipped ++ first) ++ line :: rest := by
      rw [hsplit, ← hdrop', hfirst, List.append_assoc]
    refine ⟨next :: (skipped ++ first), by rw [hlater]; rfl, ?_⟩
    rw [hlater] at hpasses
    rw [forM_closedBlocks_cons_iff rest hl, closedBlocks_append _ _ hskipped]
    exact ⟨_, hpasses, hforM⟩

theorem exists_reaches_of_forM_act {first : List String} {work : Work}
    (hl : isCommandLine line = true)
    (hd : session.cursor.Delivers setup.source read (first ++ line :: rest))
    (hlength : read + (first ++ line :: rest).length = length)
    (h : (closedBlocks read first).forM (Block.act setup length) session.work = .ok () work) :
    ∃ after, Reaches setup session after ∧
      after.cursor.Delivers setup.source (read + first.length) (line :: rest) ∧
      after.work = work := by
  induction hcount : first.length using Nat.strongRecOn
    generalizing session read first with
  | ind count ih =>
    cases first with
    | nil =>
      cases h
      exact ⟨session, .refl, hcount ▸ hd, rfl⟩
    | cons next first =>
      obtain ⟨work', hpasses, hforM⟩ := (forM_closedBlocks_cons_iff rest hl).mp h
      have hlast : read + 1 + (first ++ line :: rest).length = length := by
        rw [List.cons_append, List.length_cons] at hlength
        omega
      obtain ⟨between, hgoes, rfl⟩ := exists_goes hd hlast hpasses
      obtain ⟨-, skipped, remaining, hsplit, hskipped, hdelivers⟩ := hgoes.passes hd hlast
      -- the command line is not among the lines that are passed over
      obtain ⟨later, rfl, rfl⟩ : ∃ later, first = skipped ++ later ∧
          remaining = later ++ line :: rest := by
        rcases List.append_eq_append_iff.mp hsplit with ⟨passed, rfl, hp⟩ | ⟨later, rfl, hr⟩
        · cases passed with
          | nil => exact ⟨[], by simp, hp.symm⟩
          | cons other passed =>
            cases hp
            have hno := hskipped line (by simp)
            rw [hl] at hno
            cases hno
        · exact ⟨later, rfl, hr⟩
      rw [closedBlocks_append _ _ hskipped] at hforM
      rw [List.append_assoc, List.length_append] at hlast
      rw [List.length_cons, List.length_append] at hcount
      obtain ⟨after, hreaches, hd', hwork⟩ :=
        ih later.length (by omega) hdelivers (by omega) hforM rfl
      have hread : read + 1 + skipped.length + later.length = read + count := by omega
      exact ⟨after, .head hgoes hreaches, hread ▸ hd', hwork⟩

theorem workOf_runFrom {lines : List String}
    (hd : session.cursor.Delivers setup.source read lines) :
    workOf (runFrom setup session) =
      (blocksAfter read lines).forM (Block.act setup (read + lines.length)) session.work := by
  let script := List.replicate read "" ++ lines
  have hscript : script.drop read = lines := List.drop_left' List.length_replicate
  have hlength : read + lines.length = script.length := by
    rw [List.length_append, List.length_replicate]
  obtain ⟨-, hresult⟩ := traceFrom_eq_blocks setup session session hscript hlength hd rfl
  rw [traceFrom_snd] at hresult
  have hwork := congrArg workOf hresult
  rwa [workOf_offScript, workOf_offScript, workOf_forM_run, ← hlength] at hwork

theorem forM_act_singleton (block : Block) :
    [block].forM (Block.act setup length) = block.act setup length :=
  bind_pure_unit

theorem forM_act_append_iff {blocks later : List Block} {work last : Work} :
    (blocks ++ later).forM (Block.act setup length) work = .ok () last ↔
      ∃ after, blocks.forM (Block.act setup length) work = .ok () after ∧
        later.forM (Block.act setup length) after = .ok () last := by
  have happend : (blocks ++ later).forM (Block.act setup length) work =
      (blocks.forM (Block.act setup length) >>= fun _ => later.forM (Block.act setup length)) work :=
    congrFun List.forM_append work
  rw [happend]
  simp only [Bind.bind, EStateM.bind]
  cases blocks.forM (Block.act setup length) work with
  | ok value after => simp
  | error failure after => simp

theorem forM_act_of_reaches_onScript {first : List String} (hl : isCommandLine line = true)
    (h : Reaches setup (session.onScript setup (first ++ line :: rest)) between)
    (hd : between.cursor.Delivers setup.source first.length (line :: rest)) :
    (closedBlocks 0 first).forM (Block.act setup (first ++ line :: rest).length) session.work =
      .ok () between.work := by
  have hrest : (first ++ line :: rest).drop first.length = line :: rest := List.drop_left
  obtain ⟨other, hother, hforM⟩ := forM_act_of_reaches (first ++ line :: rest) h
    (session.delivers_onScript setup _) (Nat.zero_le _) (hrest.symm ▸ hd) hrest hl
  rw [List.drop_zero] at hother
  rwa [← List.append_cancel_right hother] at hforM

theorem exists_reaches_onScript (setup : Setup) {first : List String} (rest : List String)
    {work : Work} (hl : isCommandLine line = true)
    (h : (closedBlocks 0 first).forM (Block.act setup (first ++ line :: rest).length)
      session.work = .ok () work) :
    ∃ after, Reaches setup (session.onScript setup (first ++ line :: rest)) after ∧
      after.cursor.Delivers setup.source first.length (line :: rest) ∧ after.work = work := by
  obtain ⟨after, hreaches, hd, hwork⟩ := exists_reaches_of_forM_act hl
    (session.delivers_onScript setup (first ++ line :: rest)) (Nat.zero_add _) h
  rw [Nat.zero_add] at hd
  exact ⟨after, hreaches, hd, hwork⟩

/-- The rest of a run is told by the blocks that are left where it has come to. -/
theorem workOf_interpret_of_reaches {lines later : List String}
    (h : Reaches setup (session.onScript setup lines) between)
    (hd : between.cursor.Delivers setup.source read later) :
    workOf (interpret setup lines session) =
      (blocksAfter read later).forM (Block.act setup (read + later.length)) between.work := by
  have hrun : interpret setup lines session = runFrom setup between := runFrom_of_reaches h
  rw [hrun, workOf_runFrom hd]

end Places

end Authorship.Script
