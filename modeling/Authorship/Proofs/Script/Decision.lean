import Authorship.Proofs.Activity.Qualifying
import Authorship.Proofs.Script.Deed

namespace Authorship.Script

open Authorship.Drawing Authorship.Activity

structure Draws (setup : Setup) (state : State) (block : Block) (place : Nat) (chart : BarChart) :
    Prop where
  kind : block.tokens[place]? = some "bars"
  grouping : block.tokens[place + 1]? = some authorGrouping
  shown : ∃ history crunched stats, state.history = some history ∧
    AuthorChart.ofHistory (selection setup state) history = .ok crunched ∧
    chosenStats authorGrouping (block.tokens.drop (place + 2)) = .ok stats ∧
    chart = ⟨crunched.labels, stats.map crunched.series, state.title⟩

/-- Everything that a directive can decide to do. -/
inductive Decides (setup : Setup) (work : Work) (block : Block) : Directive → Deed → Prop
  | aliasList {canonical : String} {raws : List String} (ht : block.tokens[1]? = some canonical)
      (hi : block.items = some raws) :
      Decides setup work block .aliasList
        (.set fun state => { state with aliases := state.aliases.register canonical raws })
  | load {text : String} {path : Files.Path} {content : List UInt8} {history : History}
      (ht : block.tokens[1]? = some text) (hp : resolvePath setup text = .ok path)
      (hc : work.files.read setup.machine.workDir path = .ok content)
      (hh : Log.readContent setup.machine.dates work.state.aliases content =
        .ok history) :
      Decides setup work block .load (.set fun state => { state with history := some history })
  | days {text : String} {days : Number.Binary64} (ht : block.tokens[1]? = some text)
      (hn : readNumber text = .ok days) :
      Decides setup work block .days (.set fun state => { state with days := some days })
  | skipCommit {text : String} {skip : Int} (ht : block.tokens[1]? = some text)
      (hn : readWhole text = .ok skip) :
      Decides setup work block .skipCommit (.set fun state => { state with skip := some skip })
  | includeList {items : List String} (hi : block.items = some items) :
      Decides setup work block .includeList
        (.set fun state => { state with included := state.included ++ items })
  | includeClear :
      Decides setup work block .includeClear (.set fun state => { state with included := [] })
  | excludeList {items : List String} (hi : block.items = some items) :
      Decides setup work block .excludeList
        (.set fun state => { state with excluded := state.excluded ++ items })
  | excludeClear :
      Decides setup work block .excludeClear (.set fun state => { state with excluded := [] })
  | excludeRemove {items : List String} (hi : block.items = some items) :
      Decides setup work block .excludeRemove
        (.set fun state =>
          { state with excluded := state.excluded.filter (!items.contains ·) })
  | figure {creation : Call} {target : Figure → Target}
      (hc : ∀ figure cell chart, creation ≠ .bars figure cell chart) :
      Decides setup work block .figure (.replace creation target)
  | subplot {figure : Figure} {cell : Cell} {chart : BarChart}
      (hd : Draws setup work.state block 2 chart) :
      Decides setup work block .subplot (.call (.bars figure (some cell) chart))
  | plot {figure : Figure} {chart : BarChart} (hd : Draws setup work.state block 1 chart) :
      Decides setup work block .plot (.call (.bars figure none chart))
  | save {figure : Figure} {path : Files.Path} :
      Decides setup work block .save (.call (.save figure path))
  | title {title : String} (ht : block.tokens[1]? = some title) :
      Decides setup work block .title (.set fun state => { state with title := some title })

section Inversion

variable {setup : Setup} {block : Block} {deed : Deed}

theorem getElem?_of_argument {place : Nat} {token : String}
    (h : block.argument setup place = .ok token) : block.tokens[place]? = some token := by
  unfold Block.argument at h
  split at h
  · rename_i ht
    cases h
    exact ht
  · cases h

theorem eq_ok_of_orRefuse {α : Type} {result : Except Complaint α} {value : α}
    (h : block.orRefuse setup result = .ok value) : result = .ok value := by
  cases result with
  | ok other =>
    cases h
    rfl
  | error complaint => cases h

theorem items_of_listed {length : Nat} {items : List String}
    (h : block.listed setup length = .ok items) : block.items = some items := by
  unfold Block.listed at h
  split at h
  · rename_i hi
    cases h
    exact hi
  · cases h

theorem decides_of_loading {work : Work} (h : block.loading setup work = .ok deed) :
    Decides setup work block .load deed := by
  obtain ⟨text, ht, h⟩ := exists_of_bind_ok h
  obtain ⟨path, hp, h⟩ := exists_of_bind_ok h
  obtain ⟨isFile, -, h⟩ := exists_of_bind_ok h
  split at h
  · cases h
  · obtain ⟨content, hc, h⟩ := exists_of_bind_ok h
    obtain ⟨history, hh, h⟩ := exists_of_bind_ok h
    cases h
    exact .load (getElem?_of_argument ht) hp (eq_ok_of_mapError hc) (eq_ok_of_mapError hh)

theorem exists_creation_of_declaring (h : block.declaring setup = .ok deed) :
    ∃ creation target, deed = .replace creation target ∧ creation.newSize?.isSome = true := by
  obtain ⟨text, -, h⟩ := exists_of_bind_ok h
  obtain ⟨⟨width, height⟩, -, h⟩ := exists_of_bind_ok h
  dsimp only at h
  split at h
  · obtain ⟨text, -, h⟩ := exists_of_bind_ok h
    obtain ⟨⟨rows, cols⟩, -, h⟩ := exists_of_bind_ok h
    cases h
    exact ⟨_, _, rfl, rfl⟩
  · cases h
    exact ⟨_, _, rfl, rfl⟩

theorem decides_of_declaring {work : Work} (h : block.declaring setup = .ok deed) :
    Decides setup work block .figure deed := by
  obtain ⟨creation, target, rfl, hsize⟩ := exists_creation_of_declaring h
  refine .figure fun figure cell chart he => ?_
  rw [he] at hsize
  cases hsize

theorem draws_of_drawing {state : State} {place : Nat} {figure : Figure} {cell : Option Cell}
    (h : block.drawing setup state place figure cell = .ok deed) :
    ∃ chart, deed = .call (.bars figure cell chart) ∧ Draws setup state block place chart := by
  obtain ⟨kind, hk, h⟩ := exists_of_bind_ok h
  split at h
  · rename_i hbars
    obtain ⟨name, hn, h⟩ := exists_of_bind_ok h
    split at h
    · cases h
    · rename_i hname
      split at h
      · cases h
      · rename_i history hh
        obtain ⟨crunched, hc, h⟩ := exists_of_bind_ok h
        obtain ⟨stats, hs, h⟩ := exists_of_bind_ok h
        cases h
        have hgrouping : name = authorGrouping := by simpa using hname
        subst hgrouping
        refine ⟨_, rfl, ?_, getElem?_of_argument hn, history, crunched, stats, hh,
          eq_ok_of_mapError hc, eq_ok_of_orRefuse hs, rfl⟩
        rw [getElem?_of_argument hk, eq_of_beq hbars]
  · cases h

theorem decides_of_drawingCell {work : Work} (h : block.drawingCell setup work.state = .ok deed) :
    Decides setup work block .subplot deed := by
  obtain ⟨text, -, h⟩ := exists_of_bind_ok h
  obtain ⟨⟨row, col⟩, -, h⟩ := exists_of_bind_ok h
  dsimp only at h
  split at h
  · split at h
    · obtain ⟨chart, rfl, hd⟩ := draws_of_drawing h
      exact .subplot hd
    · cases h
  · cases h

theorem decides_of_drawingWhole {work : Work} (h : block.drawingWhole setup work.state = .ok deed) :
    Decides setup work block .plot deed := by
  unfold Block.drawingWhole at h
  split at h
  · obtain ⟨chart, rfl, hd⟩ := draws_of_drawing h
    exact .plot hd
  · cases h

theorem decides_of_saving {work : Work} (h : block.saving setup work.state = .ok deed) :
    Decides setup work block .save deed := by
  obtain ⟨text, -, h⟩ := exists_of_bind_ok h
  obtain ⟨path, -, h⟩ := exists_of_bind_ok h
  split at h
  · cases h
  · cases h
    exact .save

theorem decides_of_decision {length : Nat} {work : Work} {directive : Directive}
    (h : block.decision setup length work directive = .ok deed) :
    Decides setup work block directive deed := by
  cases directive with
  | aliasList =>
    obtain ⟨canonical, ht, h⟩ := exists_of_bind_ok h
    obtain ⟨raws, hi, h⟩ := exists_of_bind_ok h
    cases h
    exact .aliasList (getElem?_of_argument ht) (items_of_listed hi)
  | load => exact decides_of_loading h
  | days =>
    obtain ⟨text, ht, h⟩ := exists_of_bind_ok h
    obtain ⟨days, hn, h⟩ := exists_of_bind_ok h
    cases h
    exact .days (getElem?_of_argument ht) (eq_ok_of_orRefuse hn)
  | skipCommit =>
    obtain ⟨text, ht, h⟩ := exists_of_bind_ok h
    obtain ⟨skip, hn, h⟩ := exists_of_bind_ok h
    cases h
    exact .skipCommit (getElem?_of_argument ht) (eq_ok_of_orRefuse hn)
  | includeList =>
    obtain ⟨items, hi, h⟩ := exists_of_bind_ok h
    cases h
    exact .includeList (items_of_listed hi)
  | includeClear =>
    cases h
    exact .includeClear
  | excludeList =>
    obtain ⟨items, hi, h⟩ := exists_of_bind_ok h
    cases h
    exact .excludeList (items_of_listed hi)
  | excludeClear =>
    cases h
    exact .excludeClear
  | excludeRemove =>
    obtain ⟨items, hi, h⟩ := exists_of_bind_ok h
    cases h
    exact .excludeRemove (items_of_listed hi)
  | figure => exact decides_of_declaring h
  | subplot => exact decides_of_drawingCell h
  | plot => exact decides_of_drawingWhole h
  | save => exact decides_of_saving h
  | title =>
    obtain ⟨title, ht, h⟩ := exists_of_bind_ok h
    cases h
    exact .title (getElem?_of_argument ht)

end Inversion

section Outcome

variable {setup : Setup}

theorem Work.call_cases (setup : Setup) (request : Call) (work : Work) :
    (∃ files, Work.call setup request work =
      .ok () { work with files := files, attempts := work.attempts ++ [⟨request, true⟩] }) ∨
    (∃ failure, Work.call setup request work =
      .error failure { work with attempts := work.attempts ++ [⟨request, false⟩] }) := by
  unfold Work.call
  cases setup.backend.answer work.attempts work.files request with
  | ok files => exact .inl ⟨files, rfl⟩
  | error failure => exact .inr ⟨failure, rfl⟩

def Work.LeadsTo (work : Work) (made : List Attempt) (state : State)
    (result : EStateM.Result Failure Work Unit) : Prop :=
  (∃ files, result = .ok () ⟨state, files, work.attempts ++ made⟩) ∨
    ∃ failure files, result = .error failure ⟨work.state, files, work.attempts ++ made⟩

theorem Work.leadsTo_call (setup : Setup) (request : Call) (work : Work) :
    ∃ isGranted, work.LeadsTo [⟨request, isGranted⟩] work.state (Work.call setup request work) := by
  rcases Work.call_cases setup request work with ⟨files, h⟩ | ⟨failure, h⟩
  · exact ⟨true, .inl ⟨files, h⟩⟩
  · exact ⟨false, .inr ⟨failure, work.files, h⟩⟩

theorem Work.leadsTo_close (setup : Setup) (figure? : Option Figure) (work : Work) :
    ∃ made, (∀ attempt ∈ made, ∃ figure, attempt.call = .close figure) ∧
      work.LeadsTo made work.state (Work.close setup figure? work) := by
  cases figure? with
  | none => exact ⟨[], by simp, .inl ⟨work.files, by rw [List.append_nil]; rfl⟩⟩
  | some figure =>
    obtain ⟨isGranted, h⟩ := Work.leadsTo_call setup (.close figure) work
    refine ⟨[⟨.close figure, isGranted⟩], ?_, h⟩
    intro attempt ha
    exact ⟨figure, by rw [List.mem_singleton.mp ha]⟩

theorem Work.leadsTo_replace (setup : Setup) (creation : Call) (target : Figure → Target)
    (work : Work) :
    ∃ made, (∀ attempt ∈ made, attempt.call = creation ∨ ∃ figure, attempt.call = .close figure) ∧
      ∃ figure, work.LeadsTo made { work.state with target := target figure }
        (Work.replace setup creation target work) := by
  rcases Work.call_cases setup creation work with ⟨files, hc⟩ | ⟨failure, hc⟩
  · let between : Work :=
      { work with files := files, attempts := work.attempts ++ [⟨creation, true⟩] }
    obtain ⟨made, hm, hclose⟩ := Work.leadsTo_close setup work.state.target.figure? between
    refine ⟨⟨creation, true⟩ :: made, ?_, nextFigure (granted work.attempts), ?_⟩
    · intro attempt ha
      rcases List.mem_cons.mp ha with rfl | ha
      · exact .inl rfl
      · exact .inr (hm attempt ha)
    · have hmade : between.attempts ++ made = work.attempts ++ ⟨creation, true⟩ :: made := by
        rw [List.append_assoc, List.singleton_append]
      simp only [Work.replace, Bind.bind, EStateM.bind, hc]
      rcases hclose with ⟨files, hclose⟩ | ⟨failure, files, hclose⟩
      · rw [hclose, hmade]
        exact .inl ⟨files, rfl⟩
      · rw [hclose, hmade]
        exact .inr ⟨failure, files, rfl⟩
  · refine ⟨[⟨creation, false⟩], ?_, nextFigure (granted work.attempts), ?_⟩
    · intro attempt ha
      exact .inl (by rw [List.mem_singleton.mp ha])
    · simp only [Work.replace, Bind.bind, EStateM.bind, hc]
      exact .inr ⟨failure, work.files, rfl⟩

/-- The attempts that a deed makes, and the state that it leads to if they are granted. -/
def Deed.Makes (work : Work) (made : List Attempt) (state : State) : Deed → Prop
  | .set change => made = [] ∧ state = change work.state
  | .call request => (∃ isGranted, made = [⟨request, isGranted⟩]) ∧ state = work.state
  | .replace creation target =>
    (∀ attempt ∈ made, attempt.call = creation ∨ ∃ figure, attempt.call = .close figure) ∧
      ∃ figure, state = { work.state with target := target figure }

theorem Deed.leadsTo_act (setup : Setup) (deed : Deed) (work : Work) :
    ∃ made state, deed.Makes work made state ∧ work.LeadsTo made state (deed.act setup work) := by
  cases deed with
  | set change =>
    refine ⟨[], change work.state, ⟨rfl, rfl⟩, .inl ⟨work.files, ?_⟩⟩
    rw [List.append_nil]
    rfl
  | call request =>
    obtain ⟨isGranted, h⟩ := Work.leadsTo_call setup request work
    exact ⟨_, _, ⟨⟨isGranted, rfl⟩, rfl⟩, h⟩
  | replace creation target =>
    obtain ⟨made, hm, figure, h⟩ := Work.leadsTo_replace setup creation target work
    exact ⟨made, _, ⟨hm, figure, rfl⟩, h⟩

theorem Decides.of_bars {work : Work} {block : Block} {directive : Directive} {deed : Deed}
    {made : List Attempt} {state : State} {figure : Figure} {cell : Option Cell} {chart : BarChart}
    {isGranted : Bool} (h : Decides setup work block directive deed)
    (hm : deed.Makes work made state) (hb : ⟨.bars figure cell chart, isGranted⟩ ∈ made) :
    made = [⟨.bars figure cell chart, isGranted⟩] ∧
      ((directive = .subplot ∧ Draws setup work.state block 2 chart) ∨
        (directive = .plot ∧ Draws setup work.state block 1 chart)) := by
  have hset (h : made = []) : False := by
    rw [h] at hb
    cases hb
  cases h with
  | figure hc =>
    rcases hm.1 _ hb with he | ⟨other, he⟩
    · exact absurd he.symm (hc figure cell chart)
    · cases he
  | subplot hd =>
    obtain ⟨⟨other, rfl⟩, -⟩ := hm
    cases List.mem_singleton.mp hb
    exact ⟨rfl, .inl ⟨rfl, hd⟩⟩
  | plot hd =>
    obtain ⟨⟨other, rfl⟩, -⟩ := hm
    cases List.mem_singleton.mp hb
    exact ⟨rfl, .inr ⟨rfl, hd⟩⟩
  | save =>
    obtain ⟨⟨other, rfl⟩, -⟩ := hm
    cases List.mem_singleton.mp hb
  | _ => exact absurd hm.1 hset

end Outcome

end Authorship.Script
