import Authorship.Proofs.Script.Recount

namespace Authorship

def Failure.later (lines : Nat) : Failure → Failure
  | .script fault => .script { fault with line := fault.line + lines }
  | failure => failure

/-- The lines of a script that stands after a number of other lines. -/
def Script.Recount.later (lines : Nat) : Script.Recount :=
  ⟨(· + lines), (· + lines)⟩

theorem Failure.recounted_later (lines : Nat) (failure : Failure) :
    failure.recounted (.later lines) = failure.later lines := by
  cases failure with
  | script fault =>
    simp only [Failure.recounted, Failure.later, Script.Recount.later, ite_self]
  | _ => rfl

namespace Script

open Authorship.Drawing Authorship.Script.Action

def Note.later (lines : Nat) : Note → Note
  | .unknownDirective token line => .unknownDirective token (line + lines)
  | note => note

theorem Note.recounted_later (lines : Nat) :
    Note.recounted (.later lines) = Note.later lines := by
  funext note
  cases note <;> rfl

def Block.later (lines : Nat) (block : Block) : Block :=
  { block with line := block.line + lines }

theorem blocksAfter_add (read lines : Nat) (script : List String) :
    blocksAfter (read + lines) script = (blocksAfter read script).map (Block.later lines) := by
  apply blocksAfter_recounted (.later lines)
  intro passed
  change read + passed + 1 + lines = read + lines + passed + 1
  omega

/-- Two sessions that went on from the same notes did the same, the second one after a number of
other lines. -/
def HappensLater (lines : Nat) (told : List Note) (session other : Session) : Prop :=
  other.work = session.work ∧
    ∃ made, session.notes = told ++ made ∧ other.notes = told ++ made.map (Note.later lines)

/-- Two results that went on from a session are the same, the second one after a number of other
lines. A failure that the backend refused a call with is the same in every line. -/
def FollowsLater (lines : Nat) (start : Session) :
    EStateM.Result Failure Session Unit → EStateM.Result Failure Session Unit → Prop
  | .ok _ session, .ok _ other => HappensLater lines start.notes session other
  | .error failure session, .error failure' other =>
    HappensLater lines start.notes session other ∧
      failure' = if refusals session.attempts = refusals start.attempts then failure.later lines
        else failure
  | _, _ => False

section Later

variable {lines : Nat} {start session other : Session}

theorem happensLater_iff {told : List Note} :
    HappensLater lines told session other ↔ HappensRecounted (.later lines) told session other := by
  rw [HappensLater, HappensRecounted, Note.recounted_later]

theorem followsLater_iff {result other : EStateM.Result Failure Session Unit} :
    FollowsLater lines start result other ↔ FollowsRecounted (.later lines) start result other := by
  cases result <;> cases other <;>
    simp only [FollowsLater, FollowsRecounted, happensLater_iff, Failure.recounted_later]

theorem followsLater_forM (setup : Setup) (length : Nat) (blocks : List Block)
    (h : HappensLater lines start.notes session other)
    (hr : refusals session.attempts = refusals start.attempts) :
    FollowsLater lines start (blocks.forM (Block.run setup length) session)
      ((blocks.map (Block.later lines)).forM (Block.run setup (length + lines)) other) :=
  followsLater_iff.mpr (followsRecounted_forM setup length blocks (happensLater_iff.mp h) hr)

theorem FollowsLater.of_offScript
    {result result' other other' : EStateM.Result Failure Session Unit}
    (h : FollowsLater lines start result other) (hresult : offScript result = offScript result')
    (hother : offScript other = offScript other') : FollowsLater lines start result' other' :=
  followsLater_iff.mpr ((followsLater_iff.mp h).of_offScript hresult hother)

end Later

/-- A block of a script that more lines follow: it has the list that it had, if it had one. -/
structure Block.Extends (block extended : Block) : Prop where
  line : extended.line = block.line
  tokens : extended.tokens = block.tokens
  items : ∀ items, block.items = some items → extended.items = some items

theorem itemsBefore_append_of_some {first items : List String} (second : List String)
    (h : itemsBefore first = some items) : itemsBefore (first ++ second) = some items := by
  induction first generalizing items with
  | nil => cases h
  | cons line rest ih =>
    rw [itemsBefore_cons] at h
    rw [List.cons_append, itemsBefore_cons]
    split at h
    · rename_i hcommand
      rw [if_pos hcommand, h]
    · rename_i hcommand
      obtain ⟨later, hlater, rfl⟩ := Option.map_eq_some_iff.mp h
      rw [if_neg hcommand, ih hlater]
      rfl

theorem exists_blocksAfter_append (read : Nat) (first second : List String) :
    ∃ extended, List.Forall₂ Block.Extends (blocksAfter read first) extended ∧
      blocksAfter read (first ++ second) =
        extended ++ blocksAfter (read + first.length) second := by
  induction first generalizing read with
  | nil => exact ⟨[], .nil, rfl⟩
  | cons line rest ih =>
    obtain ⟨extended, hextends, hblocks⟩ := ih (read + 1)
    have hread : read + 1 + rest.length = read + (line :: rest).length := by
      rw [List.length_cons]
      omega
    rw [List.cons_append, blocksAfter, blocksAfter, hblocks, hread]
    split
    · exact ⟨⟨read + 1, tokens line, itemsBefore (rest ++ second)⟩ :: extended,
        .cons ⟨rfl, rfl, fun _ => itemsBefore_append_of_some second⟩ hextends, rfl⟩
    · exact ⟨extended, hextends, rfl⟩

/-- A block asks for a list, and no command line follows it. -/
def Block.lacksEnd (block : Block) : Bool :=
  block.items.isNone && block.directive?.any Directive.hasList

def endOfScript (setup : Setup) (length : Nat) : Failure :=
  .script ⟨length, .endOfScript, setup.source⟩

def LacksEnd (setup : Setup) (lines : List String) (session : Session) : Prop :=
  ∃ block after, (performed setup lines.length (blocks lines) session).getLast? = some block ∧
    block.lacksEnd = true ∧
    interpret setup lines session = .error (endOfScript setup lines.length) after

section Extended

variable (setup : Setup) (length longer : Nat)

theorem runWith_endOfScript {directive : Directive} (hd : directive.hasList = true)
    (list list' : Action (List String)) (session : Session)
    (hlist : ∀ session, list session = .error (endOfScript setup length) session) :
    directive.runWith setup list' session = directive.runWith setup list session ∨
      ∃ after, directive.runWith setup list session = .error (endOfScript setup length) after := by
  have hbind (next : List String → Action Unit) (session : Session) :
      ∃ after, (list >>= next) session = .error (endOfScript setup length) after :=
    ⟨session, by simp only [Bind.bind, EStateM.bind, hlist]⟩
  cases directive with
  | aliasList =>
    cases hc : consume session with
    | ok canonical after =>
      obtain ⟨last, hlast⟩ := hbind (fun raws => setState fun state =>
        { state with aliases := state.aliases.register canonical raws }) after
      refine .inr ⟨last, ?_⟩
      simp only [Directive.runWith, Bind.bind, EStateM.bind, hc]
      exact hlast
    | error failure after =>
      refine .inl ?_
      simp only [Directive.runWith, Bind.bind, EStateM.bind, hc]
  | includeList => exact .inr (hbind _ session)
  | excludeList => exact .inr (hbind _ session)
  | excludeRemove => exact .inr (hbind _ session)
  | _ => cases hd

/-- A block does the same when more lines follow the script, unless its list lacks its end. -/
theorem Block.Extends.run {block extended : Block} (h : block.Extends extended)
    (session : Session) :
    extended.run setup longer session = block.run setup length session ∨
      block.lacksEnd = true ∧
        ∃ after, block.run setup length session = .error (endOfScript setup length) after := by
  obtain ⟨line, tokens, items⟩ := block
  obtain ⟨line', tokens', items'⟩ := extended
  obtain ⟨rfl, rfl, hitems⟩ := h
  simp only [Block.run, Block.perform]
  cases hd : Directive.ofToken? (tokens'.headD "") with
  | none => exact .inl rfl
  | some directive =>
    cases items with
    | some items =>
      obtain rfl := hitems items rfl
      exact .inl rfl
    | none =>
      cases hlist : directive.hasList with
      | false =>
        simp only [runWith_of_hasList _ hlist]
        exact .inl rfl
      | true =>
        rcases runWith_endOfScript setup length hlist
            (Block.list setup length ⟨line', tokens', none⟩)
            (Block.list setup longer ⟨line', tokens', items'⟩)
            { session with cursor := Block.cursor setup.source [] ⟨line', tokens', none⟩ }
            (fun _ => rfl) with hsame | hend
        · exact .inl hsame
        · have hlacks : Block.lacksEnd ⟨line', tokens', none⟩ = true := by
            simp only [Block.lacksEnd, Block.directive?, hd, Option.any_some, hlist]
            rfl
          exact .inr ⟨hlacks, hend⟩

/-- The blocks of a script do the same when more lines follow it, unless the list of the last one
that is run lacks its end. -/
theorem forM_extended {blocks extended : List Block}
    (h : List.Forall₂ Block.Extends blocks extended) (session : Session) :
    extended.forM (Block.run setup longer) session =
        blocks.forM (Block.run setup length) session ∨
      ∃ block after, (performed setup length blocks session).getLast? = some block ∧
        block.lacksEnd = true ∧
        blocks.forM (Block.run setup length) session = .error (endOfScript setup length) after := by
  induction h generalizing session with
  | nil => exact .inl rfl
  | @cons block block' rest rest' hblock hrest ih =>
    rcases hblock.run setup length longer session with hrun | ⟨hlacks, after, hrun⟩
    · cases hdone : block.run setup length session with
      | ok value after =>
        rw [forM_of_ok (hrun.trans hdone), forM_of_ok hdone]
        rcases ih after with hsame | ⟨last, final, hlast, hlacks, herror⟩
        · exact .inl hsame
        · refine .inr ⟨last, final, ?_, hlacks, herror⟩
          rw [performed, hdone]
          exact List.mem_getLast?_cons hlast
      | error failure after =>
        rw [forM_of_error (hrun.trans hdone), forM_of_error hdone]
        exact .inl rfl
    · refine .inr ⟨block, after, ?_, hlacks, forM_of_error hrun⟩
      rw [performed, hrun]
      rfl

end Extended

section Append

variable {action : Block → Action Unit} {blocks later : List Block} {session after : Session}

theorem forM_append_of_ok (h : blocks.forM action session = .ok () after) :
    (blocks ++ later).forM action session = later.forM action after := by
  have happend : (blocks ++ later).forM action session =
      (blocks.forM action >>= fun _ => later.forM action) session :=
    congrFun List.forM_append session
  rw [happend]
  simp only [Bind.bind, EStateM.bind, h]

theorem forM_append_of_error {failure : Failure}
    (h : blocks.forM action session = .error failure after) :
    (blocks ++ later).forM action session = .error failure after := by
  have happend : (blocks ++ later).forM action session =
      (blocks.forM action >>= fun _ => later.forM action) session :=
    congrFun List.forM_append session
  rw [happend]
  simp only [Bind.bind, EStateM.bind, h]

end Append

theorem offScript_interpret_append (setup : Setup) (first second : List String)
    (session : Session) :
    ∃ extended, List.Forall₂ Block.Extends (blocks first) extended ∧
      offScript (interpret setup (first ++ second) session) =
        offScript ((extended ++ (blocks second).map (Block.later first.length)).forM
          (Block.run setup (second.length + first.length)) session) := by
  obtain ⟨extended, hextends, hblocks⟩ := exists_blocksAfter_append 0 first second
  have hlater : blocks (first ++ second) =
      extended ++ (blocks second).map (Block.later first.length) := by
    rw [blocks, hblocks, blocksAfter_add]
    rfl
  have hlength : (first ++ second).length = second.length + first.length := by
    rw [List.length_append, Nat.add_comm]
  refine ⟨extended, hextends, ?_⟩
  rw [offScript_interpret, hlater, hlength]

/-- A script in pieces is the script. If the first piece succeeds, both pieces in one script do what
the second one does after the first, with the line numbers of the second moved; if it fails, other
than by a list that lacks its end, they fail as it does. -/
theorem interpret_append (setup : Setup) (first second : List String) (session : Session) :
    (∀ between, interpret setup first session = .ok () between →
      FollowsLater first.length between (interpret setup second between)
        (interpret setup (first ++ second) session)) ∧
    ∀ failure after, interpret setup first session = .error failure after →
      ¬ LacksEnd setup first session →
      offScript (interpret setup (first ++ second) session) = .error failure after.offScript := by
  obtain ⟨extended, hextends, hwhole⟩ := offScript_interpret_append setup first second session
  have hfirst := offScript_interpret setup first session
  have hpieces :=
    forM_extended setup first.length (second.length + first.length) hextends session
  constructor
  · intro between hdone
    rw [hdone] at hfirst
    obtain ⟨after, hok, hafter⟩ := eq_ok_of_offScript hfirst
    rcases hpieces with hsame | ⟨block, last, -, -, herror⟩
    · rw [forM_append_of_ok (hsame.trans hok)] at hwhole
      have hwork : after.work = between.work := (congrArg Session.work hafter.symm :)
      have hnotes : after.notes = between.notes := (congrArg Session.notes hafter.symm :)
      have hstart : HappensLater first.length between.notes between after :=
        ⟨hwork, [], (List.append_nil _).symm, hnotes.trans (List.append_nil _).symm⟩
      exact (followsLater_forM setup second.length (blocks second) hstart rfl).of_offScript
        (offScript_interpret setup second between).symm hwhole.symm
    · cases hok.symm.trans herror
  · intro failure after hfails hlacks
    rw [hfails] at hfirst
    obtain ⟨final, herror, hfinal⟩ := eq_error_of_offScript hfirst
    rcases hpieces with hsame | ⟨block, last, hlast, hend, hends⟩
    · rw [forM_append_of_error (hsame.trans herror)] at hwhole
      rw [hwhole, hfinal]
      rfl
    · cases herror.symm.trans hends
      exact (hlacks ⟨block, after, hlast, hend, hfails⟩).elim

def listScript : List String :=
  [":include", "*.py", ":title Ours", "# no list"]

def brokenScript : List String :=
  [":legend", ":days many"]

theorem interpret_append_listScript :
    (∃ between, interpret gridSetup listScript (.start gridSetup gridFiles none (some 0)) =
        .ok () between ∧
      FollowsLater listScript.length between (interpret gridSetup brokenScript between)
        (interpret gridSetup (listScript ++ brokenScript)
          (.start gridSetup gridFiles none (some 0)))) ∧
    ∃ failure after, interpret gridSetup brokenScript (.start gridSetup gridFiles none (some 0)) =
        .error failure after ∧
      ¬ LacksEnd gridSetup brokenScript (.start gridSetup gridFiles none (some 0)) ∧
      offScript (interpret gridSetup (brokenScript ++ listScript)
        (.start gridSetup gridFiles none (some 0))) = .error failure after.offScript := by
  constructor
  · have hdone : (failureOf? (interpret gridSetup listScript
        (.start gridSetup gridFiles none (some 0)))).isNone = true := by
      rw [← failureOf?_workOf, workOf_interpret]
      decide +kernel
    cases hr : interpret gridSetup listScript (.start gridSetup gridFiles none (some 0)) with
    | ok value between =>
      exact ⟨between, rfl, (interpret_append gridSetup listScript brokenScript _).1 between hr⟩
    | error failure after =>
      rw [hr] at hdone
      cases hdone
  · have hfails : failureOf? (interpret gridSetup brokenScript
        (.start gridSetup gridFiles none (some 0))) = some (.script ⟨2, .notNumber "many", ""⟩) := by
      rw [← failureOf?_workOf, workOf_interpret]
      rfl
    cases hr : interpret gridSetup brokenScript (.start gridSetup gridFiles none (some 0)) with
    | ok value after =>
      rw [hr] at hfails
      cases hfails
    | error failure after =>
      have hlacks :
          ¬ LacksEnd gridSetup brokenScript (.start gridSetup gridFiles none (some 0)) := by
        rintro ⟨block, last, -, -, hend⟩
        rw [hend] at hfails
        cases hfails
      exact ⟨failure, after, rfl, hlacks,
        (interpret_append gridSetup brokenScript listScript _).2 failure after hr hlacks⟩

end Script

end Authorship
