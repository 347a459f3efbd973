import Authorship.Drawing.Plotter
import Authorship.Proofs.Script.Place
import Authorship.Proofs.Script.Reach
import Authorship.Proofs.Script.Shown
import Authorship.Proofs.Script.Yield
import Authorship.Raster.Plotter

namespace Authorship.Drawing

def Backend.WritesImages (backend : Backend) : Prop :=
  ∀ attempts files request after, (∀ figure path, request ≠ .save figure path) →
    backend.answer attempts files request = .ok after → after = files

theorem Plotter.writesImages_backend (plotter : Plotter) (dpi : Option Int)
    (workDir : List String) : (plotter.backend dpi workDir).WritesImages := by
  intro attempts files request after hsave h
  cases dpi with
  | none => cases h
  | some dpi =>
    change plotter.answer dpi workDir attempts files request = .ok after at h
    unfold answer at h
    split at h
    · cases h
    · split at h
      · exact absurd rfl (hsave _ _)
      · cases h
        rfl

end Authorship.Drawing

namespace Authorship.Script

open Authorship.Drawing Authorship.Activity

inductive Part
  | aliases
  | history
  | days
  | skip
  | title
  | included
  | excluded
  | target

abbrev Part.Value : Part → Type
  | .aliases => Aliases
  | .history => Option History
  | .days => Option Number.Binary64
  | .skip => Option Int
  | .title => Option String
  | .included => List String
  | .excluded => List String
  | .target => Target

def State.update (state : State) : (part : Part) → (part.Value → part.Value) → State
  | .aliases, change => { state with aliases := change state.aliases }
  | .history, change => { state with history := change state.history }
  | .days, change => { state with days := change state.days }
  | .skip, change => { state with skip := change state.skip }
  | .title, change => { state with title := change state.title }
  | .included, change => { state with included := change state.included }
  | .excluded, change => { state with excluded := change state.excluded }
  | .target, change => { state with target := change state.target }

/-- The part of the state that a directive sets. -/
def Directive.part? : Directive → Option Part
  | .aliasList => some .aliases
  | .load => some .history
  | .days => some .days
  | .skipCommit => some .skip
  | .title => some .title
  | .includeList | .includeClear => some .included
  | .excludeList | .excludeClear | .excludeRemove => some .excluded
  | .figure => some .target
  | .subplot | .plot | .save => none

/-- Two directives set parts of the state that differ, and not the aliases and the history, which is
read with the aliases of the moment. -/
def Independent (first second : Directive) : Prop :=
  ∃ part other, first.part? = some part ∧ second.part? = some other ∧ part ≠ other ∧
    ¬ (part = .aliases ∧ other = .history) ∧ ¬ (part = .history ∧ other = .aliases)

/-- A deed that changes a part of the state and no other. A new target comes with calls. -/
inductive Deed.Updates : Part → Deed → Prop
  | set (part : Part) (change : part.Value → part.Value) :
      Updates part (.set fun state => state.update part change)
  | replace {creation : Call} {target : Figure → Target}
      (hc : ∀ figure path, creation ≠ .save figure path) :
      Updates .target (.replace creation target)

section Updates

variable {setup : Setup} {part other : Part}

theorem State.update_comm (state : State) (hp : part ≠ other) (change : part.Value → part.Value)
    (change' : other.Value → other.Value) :
    (state.update part change).update other change' =
      (state.update other change').update part change := by
  -- each part is a field of its own, so that only a part and itself do not commute
  cases part <;> cases other <;> first | rfl | exact absurd rfl hp

theorem State.target_update (state : State) (hp : part ≠ .target)
    (change : part.Value → part.Value) : (state.update part change).target = state.target := by
  cases part <;> first | rfl | exact absurd rfl hp

theorem State.aliases_update (state : State) (hp : part ≠ .aliases)
    (change : part.Value → part.Value) : (state.update part change).aliases = state.aliases := by
  cases part <;> first | rfl | exact absurd rfl hp

theorem Deed.act_set (change : State → State) (work : Work) :
    (Deed.set change).act setup work = .ok () { work with state := change work.state } :=
  rfl

theorem Work.call_eq_ok {request : Call} {work after : Work}
    (h : Work.call setup request work = .ok () after) :
    after.state = work.state ∧ ∀ state, Work.call setup request { work with state := state } =
      .ok () { after with state := state } := by
  unfold Work.call at h ⊢
  split at h
  · rename_i files ha
    cases h
    simp only [ha, true_and, implies_true]
  · cases h

theorem Work.close_eq_ok {figure? : Option Figure} {work after : Work}
    (h : Work.close setup figure? work = .ok () after) :
    after.state = work.state ∧ ∀ state, Work.close setup figure? { work with state := state } =
      .ok () { after with state := state } := by
  cases figure? with
  | none =>
    cases h
    exact ⟨rfl, fun _ => rfl⟩
  | some figure => exact Work.call_eq_ok h

theorem Work.exists_of_replace {creation : Call} {target : Figure → Target} {work after : Work}
    (h : Work.replace setup creation target work = .ok () after) :
    ∃ made closed, Work.call setup creation work = .ok () made ∧
      Work.close setup work.state.target.figure? made = .ok () closed ∧
      after = { closed with state :=
        { closed.state with target := target (nextFigure (granted work.attempts)) } } := by
  simp only [Work.replace, Bind.bind, EStateM.bind] at h
  split at h
  · rename_i made hmade
    split at h
    · rename_i closed hclosed
      cases h
      exact ⟨made, closed, hmade, hclosed, rfl⟩
    · cases h
  · cases h

theorem Work.replace_eq_ok {creation : Call} {target : Figure → Target} {work after : Work}
    (h : Work.replace setup creation target work = .ok () after) :
    ∃ value, after.state = work.state.update .target (fun _ => value) ∧
      ∀ state : State, state.target = work.state.target →
        Work.replace setup creation target { work with state := state } =
          .ok () { after with state := state.update .target fun _ => value } := by
  obtain ⟨made, closed, hmade, hclosed, rfl⟩ := Work.exists_of_replace h
  obtain ⟨hmadeState, hmade⟩ := Work.call_eq_ok hmade
  obtain ⟨hclosedState, hclosed⟩ := Work.close_eq_ok hclosed
  refine ⟨target (nextFigure (granted work.attempts)), ?_, fun state ht => ?_⟩
  · rw [hclosedState, hmadeState]
    rfl
  · simp only [Work.replace, Bind.bind, EStateM.bind, ht, hmade state, hclosed state]
    rfl

theorem Work.files_call (hb : setup.backend.WritesImages) {request : Call}
    (hr : ∀ figure path, request ≠ .save figure path) {work after : Work}
    (h : Work.call setup request work = .ok () after) : after.files = work.files := by
  unfold Work.call at h
  split at h
  · rename_i files ha
    cases h
    exact hb _ _ _ _ hr ha
  · cases h

theorem Work.files_replace (hb : setup.backend.WritesImages) {creation : Call}
    {target : Figure → Target} (hc : ∀ figure path, creation ≠ .save figure path)
    {work after : Work} (h : Work.replace setup creation target work = .ok () after) :
    after.files = work.files := by
  obtain ⟨made, closed, hmade, hclosed, rfl⟩ := Work.exists_of_replace h
  have hclose : closed.files = made.files := by
    cases hf : work.state.target.figure? with
    | none =>
      rw [hf] at hclosed
      cases hclosed
      rfl
    | some figure =>
      rw [hf] at hclosed
      exact Work.files_call hb (fun _ _ => Call.noConfusion) hclosed
  exact hclose.trans (Work.files_call hb hc hmade)

/-- Deeds that change different parts of the state may change places. -/
theorem Deed.Updates.act_comm {deed deed' : Deed} (hd : deed.Updates part)
    (hd' : deed'.Updates other) (hp : part ≠ other) {work between last : Work}
    (h : deed.act setup work = .ok () between) (h' : deed'.act setup between = .ok () last) :
    ∃ swapped, deed'.act setup work = .ok () swapped ∧ deed.act setup swapped = .ok () last := by
  cases hd with
  | set _ change =>
    obtain rfl := (EStateM.Result.ok.inj h).2
    cases hd' with
    | set _ change' =>
      obtain rfl := (EStateM.Result.ok.inj h').2
      refine ⟨_, rfl, ?_⟩
      simp only [Deed.act_set, work.state.update_comm hp]
    | replace hc =>
      obtain ⟨value, hstate, hall⟩ := Work.replace_eq_ok h'
      refine ⟨_, hall work.state (work.state.target_update hp change).symm, ?_⟩
      rw [Deed.act_set, ← work.state.update_comm hp, ← hstate]
  | replace hc =>
    cases hd' with
    | set _ change' =>
      obtain rfl := (EStateM.Result.ok.inj h').2
      obtain ⟨value, hstate, hall⟩ := Work.replace_eq_ok h
      refine ⟨_, rfl, (hall _ (work.state.target_update hp.symm change')).trans ?_⟩
      rw [work.state.update_comm hp.symm, ← hstate]
    | replace hc' => exact absurd rfl hp

end Updates

section Decisions

variable {setup : Setup} {length : Nat} {block : Block} {work other : Work}
  {directive : Directive} {part : Part} {deed : Deed}

theorem updates_of_decision (hp : directive.part? = some part)
    (h : block.decision setup length work directive = .ok deed) : deed.Updates part := by
  cases decides_of_decision h with
  | @aliasList canonical raws =>
    cases hp
    exact .set .aliases (·.register canonical raws)
  | @load text path content history =>
    cases hp
    exact .set .history fun _ => some history
  | @days text days =>
    cases hp
    exact .set .days fun _ => some days
  | @skipCommit text skip =>
    cases hp
    exact .set .skip fun _ => some skip
  | @includeList items =>
    cases hp
    exact .set .included (· ++ items)
  | includeClear =>
    cases hp
    exact .set .included fun _ => []
  | @excludeList items =>
    cases hp
    exact .set .excluded (· ++ items)
  | excludeClear =>
    cases hp
    exact .set .excluded fun _ => []
  | @excludeRemove items =>
    cases hp
    exact .set .excluded (List.filter (!items.contains ·))
  | figure =>
    cases hp
    obtain ⟨creation, target, he, hsize⟩ := exists_creation_of_declaring h
    cases he
    refine .replace fun figure path he => ?_
    rw [he] at hsize
    cases hsize
  | @title title =>
    cases hp
    exact .set .title fun _ => some title
  | subplot => cases hp
  | plot => cases hp
  | save => cases hp

/-- What a directive sets is decided without the state, but for the aliases that a log is loaded
with. -/
theorem decision_congr (hp : directive.part? = some part)
    (hl : part = .history → other.files = work.files ∧ other.state.aliases = work.state.aliases) :
    block.decision setup length other directive = block.decision setup length work directive := by
  cases directive with
  | load =>
    cases hp
    obtain ⟨hfiles, haliases⟩ := hl rfl
    simp only [Block.decision, Block.loading, hfiles, haliases]
  | subplot => cases hp
  | plot => cases hp
  | save => cases hp
  | _ => rfl

end Decisions

section Blocks

variable {setup : Setup} {length : Nat} {block : Block} {work after : Work}
  {directive first second : Directive} {part : Part} {deed : Deed}

theorem Deed.Updates.keeps (hd : deed.Updates part) (hp : part ≠ .aliases)
    (hb : part = .target → setup.backend.WritesImages) (h : deed.act setup work = .ok () after) :
    after.files = work.files ∧ after.state.aliases = work.state.aliases := by
  cases hd with
  | set _ change =>
    obtain rfl := (EStateM.Result.ok.inj h).2
    exact ⟨rfl, work.state.aliases_update hp change⟩
  | replace hc =>
    obtain ⟨value, hstate, -⟩ := Work.replace_eq_ok h
    exact ⟨Work.files_replace (hb rfl) hc h, by rw [hstate]; rfl⟩

theorem act_eq_ok_iff (hd : block.directive? = some directive) :
    block.act setup length work = .ok () after ↔ ∃ deed,
      block.decision setup length work directive = .ok deed ∧ deed.act setup work = .ok () after := by
  simp only [Block.act, hd, Work.follow]
  cases block.decision setup length work directive with
  | ok deed => simp
  | error failure => simp

theorem act_eq_ok_in (h : block.act setup length work = .ok () after) (line : Nat) :
    { block with line := line }.act setup length work = .ok () after := by
  have hwork (block : Block) := workOf_run setup length block (.ofWork work)
  have hrun := hwork block
  have hmoved := hwork { block with line := line }
  rw [Block.run_eq_inLine] at hrun hmoved
  change workOf _ = block.act setup length work at hrun
  change workOf _ = { block with line := line }.act setup length work at hmoved
  rw [h] at hrun
  rw [← hmoved]
  cases hbare : Block.run setup 0 { block with line := 0 }
      (.ofWork (Session.ofWork work).work) with
  | ok value session =>
    rw [hbare] at hrun
    exact hrun
  | error failure session =>
    rw [hbare] at hrun
    cases hrun

/-- Blocks of independent directives may change places. -/
theorem act_comm {a b : Block} {last : Work} (ha : a.directive? = some first)
    (hb : b.directive? = some second) (hi : Independent first second)
    (hw : first = .load ∧ second = .figure ∨ first = .figure ∧ second = .load →
      setup.backend.WritesImages)
    (h : a.act setup length work = .ok () after) (h' : b.act setup length after = .ok () last) :
    ∃ swapped, b.act setup length work = .ok () swapped ∧
      a.act setup length swapped = .ok () last := by
  obtain ⟨part, other, hp, ho, hne, hleft, hright⟩ := hi
  have hload {directive : Directive} (h : directive.part? = some .history) : directive = .load := by
    cases directive <;> first | rfl | cases h
  have hfigure {directive : Directive} (h : directive.part? = some .target) :
      directive = .figure := by
    cases directive <;> first | rfl | cases h
  obtain ⟨deed, hdecision, hact⟩ := (act_eq_ok_iff ha).mp h
  obtain ⟨deed', hdecision', hact'⟩ := (act_eq_ok_iff hb).mp h'
  have hupdates := updates_of_decision hp hdecision
  have hupdates' := updates_of_decision ho hdecision'
  obtain ⟨swapped, hfirst, hsecond⟩ := hupdates.act_comm hupdates' hne hact hact'
  -- each of them decides the same whether or not the other one has been done
  refine ⟨swapped, (act_eq_ok_iff hb).mpr ⟨deed', ?_, hfirst⟩,
    (act_eq_ok_iff ha).mpr ⟨deed, ?_, hsecond⟩⟩
  · rw [← hdecision']
    refine (decision_congr ho fun he => ?_).symm
    subst he
    exact hupdates.keeps (fun he => hleft ⟨he, rfl⟩)
      (fun he => hw (.inr ⟨hfigure (he ▸ hp), hload ho⟩)) hact
  · rw [← hdecision]
    refine decision_congr hp fun he => ?_
    subst he
    exact hupdates'.keeps (fun he => hright ⟨rfl, he⟩)
      (fun he => hw (.inl ⟨hload hp, hfigure (he ▸ ho)⟩)) hfirst

end Blocks

/-- Lines of a directive: its command line and others up to the next command line. -/
def Directive.Heads (directive : Directive) (lines : List String) : Prop :=
  ∃ line list, lines = line :: list ∧
    Directive.ofToken? ((tokens line).headD "") = some directive ∧
    ∀ other ∈ list, isCommandLine other = false

section Lines

variable {directive : Directive} {line : String} {lines : List String}

theorem isCommandLine_of_ofToken?
    (h : Directive.ofToken? ((tokens line).headD "") = some directive) :
    isCommandLine line = true := by
  cases ht : tokens line with
  | nil =>
    rw [ht] at h
    cases h
  | cons token rest =>
    have hcolon : token.toList.head? = some ':' := by
      rw [ht, List.headD_cons] at h
      unfold Directive.ofToken? at h
      split at h <;> first | rfl | cases h
    exact isCommandLine_of_tokens ht hcolon

theorem Directive.Heads.exists_block (h : directive.Heads lines) :
    ∃ block : Block, (∀ line, { block with line := line }.directive? = some directive) ∧
      ∀ read, closedBlocks read lines = [{ block with line := read + 1 }] := by
  obtain ⟨line, list, rfl, hdirective, hlist⟩ := h
  refine ⟨⟨0, tokens line, some (list.filterMap item?)⟩, fun _ => hdirective, fun read => ?_⟩
  have hall : list.takeWhile (!isCommandLine ·) = list :=
    List.takeWhile_eq_self_iff.mpr (by simpa using hlist)
  have hnone : closedBlocks (read + 1) list = [] := by
    rw [← list.append_nil, closedBlocks_append _ _ hlist, closedBlocks]
  rw [closedBlocks, if_pos (isCommandLine_of_ofToken? hdirective), hall, hnone]

theorem closedBlocks_append_of_heads (h : directive.Heads lines) (read : Nat)
    (before : List String) :
    closedBlocks read (before ++ lines) =
      closedBlocks read before ++ closedBlocks (read + before.length) lines := by
  obtain ⟨line, list, rfl, hdirective, -⟩ := h
  exact closedBlocks_append_command read before list (isCommandLine_of_ofToken? hdirective)

end Lines

/-- The blocks of two independent directives, next to each other and with a command line after them,
commute. If a run comes past them, then so does the run of the script in which they have changed
places; the state, the files and the calls are the same there, and so is what follows. -/
theorem exists_reaches_swapped {setup : Setup} {first second : Directive}
    {before a b rest : List String} {line : String} {session between : Session}
    (ha : first.Heads a) (hb : second.Heads b) (hi : Independent first second)
    (hw : first = .load ∧ second = .figure ∨ first = .figure ∧ second = .load →
      setup.backend.WritesImages)
    (hl : isCommandLine line = true)
    (h : Reaches setup (session.onScript setup (before ++ a ++ b ++ line :: rest)) between)
    (hd : between.cursor.Delivers setup.source (before ++ a ++ b).length (line :: rest)) :
    ∃ swapped, Reaches setup (session.onScript setup (before ++ b ++ a ++ line :: rest)) swapped ∧
      swapped.cursor.Delivers setup.source (before ++ b ++ a).length (line :: rest) ∧
      swapped.work = between.work ∧
      workOf (interpret setup (before ++ b ++ a ++ line :: rest) session) =
        workOf (interpret setup (before ++ a ++ b ++ line :: rest) session) := by
  obtain ⟨block, hblock, hones⟩ := ha.exists_block
  obtain ⟨block', hblock', hones'⟩ := hb.exists_block
  have hswap : (before ++ b ++ a).length = (before ++ a ++ b).length := by
    simp only [List.length_append]
    omega
  have hlength : (before ++ b ++ a ++ line :: rest).length =
      (before ++ a ++ b ++ line :: rest).length := by
    rw [List.length_append, hswap, ← List.length_append]
  have hforM := forM_act_of_reaches_onScript hl h hd
  rw [closedBlocks_append_of_heads hb, closedBlocks_append_of_heads ha, hones, hones'] at hforM
  obtain ⟨after, hforM, hact'⟩ := forM_act_append_iff.mp hforM
  obtain ⟨start, hbefore, hact⟩ := forM_act_append_iff.mp hforM
  rw [forM_act_singleton] at hact hact'
  obtain ⟨between', hfirst, hsecond⟩ := act_comm (hblock _) (hblock' _) hi hw hact hact'
  have hswapped : (closedBlocks 0 (before ++ b ++ a)).forM
      (Block.act setup (before ++ b ++ a ++ line :: rest).length) session.work =
        .ok () between.work := by
    rw [closedBlocks_append_of_heads ha, closedBlocks_append_of_heads hb, hones, hones', hlength,
      forM_act_append_iff]
    refine ⟨between', forM_act_append_iff.mpr ⟨start, hbefore, ?_⟩, ?_⟩ <;> rw [forM_act_singleton]
    · exact act_eq_ok_in hfirst _
    · exact act_eq_ok_in hsecond _
  obtain ⟨swapped, hreaches, hdelivers, hwork⟩ := exists_reaches_onScript setup rest hl hswapped
  refine ⟨swapped, hreaches, hdelivers, hwork, ?_⟩
  rw [workOf_interpret_of_reaches h hd, workOf_interpret_of_reaches hreaches hdelivers, hwork,
    hswap]

def imageSetup : Setup :=
  { gridSetup with backend := Raster.plotter.backend (some 100) [] }

def loadLines : List String := [":load log", "# of a year"]

def figureLines : List String := [":figure 2x1 1-2"]

def drawingAfter (first second : List String) : List String :=
  [":alias Ann", "a@x"] ++ first ++ second ++ ":subplot 1-2 bars author" :: [":save chart"]

theorem exists_reaches_swapped_figure_load :
    ∃ between, Reaches imageSetup
        (aliasStart.onScript imageSetup (drawingAfter loadLines figureLines)) between ∧
      ∃ swapped, Reaches imageSetup
          (aliasStart.onScript imageSetup (drawingAfter figureLines loadLines)) swapped ∧
        swapped.cursor.Delivers "" 5 [":subplot 1-2 bars author", ":save chart"] ∧
        swapped.work = between.work ∧
        workOf (interpret imageSetup (drawingAfter figureLines loadLines) aliasStart) =
          workOf (interpret imageSetup (drawingAfter loadLines figureLines) aliasStart) := by
  have hl : isCommandLine ":subplot 1-2 bars author" = true := by decide +kernel
  have hload : Directive.load.Heads loadLines := ⟨_, _, rfl, by decide +kernel, by decide +kernel⟩
  have hfigure : Directive.figure.Heads figureLines := ⟨_, _, rfl, by decide +kernel, by simp⟩
  have hi : Independent .load .figure :=
    ⟨.history, .target, rfl, rfl, Part.noConfusion, fun h => Part.noConfusion h.1,
      fun h => Part.noConfusion h.2⟩
  have hdone : (match (closedBlocks 0 ([":alias Ann", "a@x"] ++ loadLines ++ figureLines)).forM
        (Block.act imageSetup 7) aliasStart.work with
      | .ok _ _ => true
      | .error _ _ => false) = true := by decide +kernel
  cases hforM : (closedBlocks 0 ([":alias Ann", "a@x"] ++ loadLines ++ figureLines)).forM
      (Block.act imageSetup 7) aliasStart.work with
  | error failure work =>
    rw [hforM] at hdone
    cases hdone
  | ok value work =>
    obtain ⟨between, hreaches, hd, -⟩ :=
      exists_reaches_onScript imageSetup [":save chart"] hl hforM
    exact ⟨between, hreaches, exists_reaches_swapped hload hfigure hi
      (fun _ => Raster.plotter.writesImages_backend (some 100) []) hl hreaches hd⟩

end Authorship.Script
