import Authorship.Proofs.Script.Decision
import Authorship.Proofs.Script.Execution
import Authorship.Proofs.Script.Figures

namespace Authorship.Script

open Authorship.Drawing Authorship.Activity Authorship.Script.Action

structure Done where
  directive : Directive
  block : Block
  found : Session

namespace Done

def argument (command : Done) : String :=
  command.block.tokens.getD 1 ""

def items (command : Done) : List String :=
  command.block.items.getD []

end Done

def Execution.done? (execution : Execution) : Option Done :=
  if execution.isDone then
    execution.block.directive?.map fun directive => ⟨directive, execution.block, execution.found⟩
  else none

def doneIn (executions : List Execution) : List Done :=
  executions.filterMap Execution.done?

section Settings

variable {α : Type}

def lastArgument? (directive : Directive) (commands : List Done) : Option String :=
  (commands.filter (·.directive == directive)).getLast?.map Done.argument

/-- What the last command with a directive sets; without one it is as it was at first. -/
def lastValue (directive : Directive) (read : String → Except Complaint α) (first : Option α)
    (commands : List Done) : Option α :=
  match lastArgument? directive commands with
  | some text => (read text).toOption
  | none => first

def aliasesOf (commands : List Done) : Aliases :=
  (commands.filter (·.directive == .aliasList)).foldl
    (fun aliases command => aliases.register command.argument command.items) .empty

def includedOf (commands : List Done) : List String :=
  commands.foldl (fun included command =>
    match command.directive with
    | .includeList => included ++ command.items
    | .includeClear => []
    | _ => included) []

def excludedOf (commands : List Done) : List String :=
  commands.foldl (fun excluded command =>
    match command.directive with
    | .excludeList => excluded ++ command.items
    | .excludeClear => []
    | .excludeRemove => excluded.filter (!command.items.contains ·)
    | _ => excluded) []

/-- The history is what the last load has read, with the aliases of the commands before it. -/
def Loaded (setup : Setup) (commands : List Done) : Option History → Prop
  | none => ∀ command ∈ commands, command.directive ≠ .load
  | some history => ∃ before load after, commands = before ++ load :: after ∧
      load.directive = .load ∧ (∀ later ∈ after, later.directive ≠ .load) ∧
      ∃ path content, resolvePath setup load.argument = .ok path ∧
        load.found.files.read setup.machine.workDir path = .ok content ∧
        Log.readContent setup.machine.dates (aliasesOf before) content = .ok history

end Settings

/-- The settings are those that the commands have made of the first ones. -/
structure InForce (setup : Setup) (days : Option Number.Binary64) (skip : Option Int)
    (commands : List Done) (state : State) : Prop where
  aliases : state.aliases = aliasesOf commands
  included : state.included = includedOf commands
  excluded : state.excluded = excludedOf commands
  days : state.days = lastValue .days readNumber days commands
  skip : state.skip = lastValue .skipCommit readWhole skip commands
  title : state.title = lastArgument? .title commands
  history : Loaded setup commands state.history

section Concat

variable {α : Type} {setup : Setup} {commands : List Done} {command : Done}

theorem lastArgument?_concat (directive : Directive) (commands : List Done) (command : Done) :
    lastArgument? directive (commands ++ [command]) =
      if command.directive = directive then some command.argument
      else lastArgument? directive commands := by
  unfold lastArgument?
  by_cases h : command.directive = directive <;> simp [h]

theorem lastValue_concat (directive : Directive) (read : String → Except Complaint α)
    (first : Option α) (commands : List Done) (command : Done) :
    lastValue directive read first (commands ++ [command]) =
      if command.directive = directive then (read command.argument).toOption
      else lastValue directive read first commands := by
  unfold lastValue
  rw [lastArgument?_concat]
  by_cases h : command.directive = directive <;> simp [h]

theorem aliasesOf_concat (commands : List Done) (command : Done) :
    aliasesOf (commands ++ [command]) =
      if command.directive = .aliasList then
        (aliasesOf commands).register command.argument command.items
      else aliasesOf commands := by
  unfold aliasesOf
  by_cases h : command.directive = .aliasList <;> simp [h]

theorem includedOf_concat (commands : List Done) (command : Done) :
    includedOf (commands ++ [command]) =
      match command.directive with
      | .includeList => includedOf commands ++ command.items
      | .includeClear => []
      | _ => includedOf commands := by
  rw [includedOf, List.foldl_append]
  rfl

theorem excludedOf_concat (commands : List Done) (command : Done) :
    excludedOf (commands ++ [command]) =
      match command.directive with
      | .excludeList => excludedOf commands ++ command.items
      | .excludeClear => []
      | .excludeRemove => (excludedOf commands).filter (!command.items.contains ·)
      | _ => excludedOf commands := by
  rw [excludedOf, List.foldl_append]
  rfl

theorem Loaded.concat {history? : Option History} (h : Loaded setup commands history?)
    (hc : command.directive ≠ .load) : Loaded setup (commands ++ [command]) history? := by
  cases history? with
  | none =>
    intro other ho
    rcases List.mem_append.mp ho with ho | ho
    · exact h other ho
    · rw [List.mem_singleton.mp ho]
      exact hc
  | some history =>
    obtain ⟨before, load, after, rfl, hl, hafter, hread⟩ := h
    refine ⟨before, load, after ++ [command], by simp, hl, ?_, hread⟩
    intro later hlater
    rcases List.mem_append.mp hlater with hlater | hlater
    · exact hafter later hlater
    · rw [List.mem_singleton.mp hlater]
      exact hc

theorem argument_of_getElem? {text : String} (h : command.block.tokens[1]? = some text) :
    command.argument = text := by
  rw [Done.argument, List.getD_eq_getElem?_getD, h, Option.getD_some]

theorem items_of_eq_some {items : List String} (h : command.block.items = some items) :
    command.items = items := by
  rw [Done.items, h, Option.getD_some]

end Concat

section Step

variable {setup : Setup} {days : Option Number.Binary64} {skip : Option Int}
  {commands : List Done}

theorem inForce_start (setup : Setup) (days : Option Number.Binary64) (skip : Option Int) :
    InForce setup days skip [] (.start days skip) :=
  ⟨rfl, rfl, rfl, rfl, rfl, rfl, by simp [Loaded, State.start]⟩

theorem InForce.withTarget {state : State} (h : InForce setup days skip commands state)
    (target : Target) : InForce setup days skip commands { state with target := target } :=
  ⟨h.aliases, h.included, h.excluded, h.days, h.skip, h.title, h.history⟩

theorem InForce.concat_of {state : State} {command : Done}
    (h : InForce setup days skip commands state) {next : State}
    (ha : next.aliases = if command.directive = .aliasList then
      state.aliases.register command.argument command.items else state.aliases)
    (hi : next.included =
      match command.directive with
      | .includeList => state.included ++ command.items
      | .includeClear => []
      | _ => state.included)
    (he : next.excluded =
      match command.directive with
      | .excludeList => state.excluded ++ command.items
      | .excludeClear => []
      | .excludeRemove => state.excluded.filter (!command.items.contains ·)
      | _ => state.excluded)
    (hd : next.days = if command.directive = .days then (readNumber command.argument).toOption
      else state.days)
    (hs : next.skip = if command.directive = .skipCommit then
      (readWhole command.argument).toOption else state.skip)
    (ht : next.title = if command.directive = .title then some command.argument else state.title)
    (hh : Loaded setup (commands ++ [command]) next.history) :
    InForce setup days skip (commands ++ [command]) next where
  aliases := by rw [ha, aliasesOf_concat, h.aliases]
  included := by rw [hi, includedOf_concat, h.included]
  excluded := by rw [he, excludedOf_concat, h.excluded]
  days := by rw [hd, lastValue_concat, h.days]
  skip := by rw [hs, lastValue_concat, h.skip]
  title := by rw [ht, lastArgument?_concat, h.title]
  history := hh

/-- What a directive decides keeps the settings in force, once it is done. -/
theorem InForce.concat {command : Done} {deed : Deed} {made : List Attempt} {next : State}
    (h : InForce setup days skip commands command.found.state)
    (hd : Decides setup command.found.work command.block command.directive deed)
    (hm : deed.Makes command.found.work made next) :
    InForce setup days skip (commands ++ [command]) next := by
  obtain ⟨directive, block, found⟩ := command
  have hkept (hl : directive ≠ .load) :
      Loaded setup (commands ++ [⟨directive, block, found⟩]) found.state.history :=
    h.history.concat hl
  cases hd with
  | aliasList ht hi =>
    obtain ⟨-, rfl⟩ := hm
    refine h.concat_of ?_ rfl rfl rfl rfl rfl (hkept Directive.noConfusion)
    rw [argument_of_getElem? ht, items_of_eq_some hi]
    rfl
  | load ht hp hc hh =>
    obtain ⟨-, rfl⟩ := hm
    refine h.concat_of rfl rfl rfl rfl rfl rfl ⟨commands, _, [], rfl, rfl, by simp, ?_⟩
    rw [argument_of_getElem? ht, ← h.aliases]
    exact ⟨_, _, hp, hc, hh⟩
  | days ht hn =>
    obtain ⟨-, rfl⟩ := hm
    refine h.concat_of rfl rfl rfl ?_ rfl rfl (hkept Directive.noConfusion)
    rw [argument_of_getElem? ht, hn]
    rfl
  | skipCommit ht hn =>
    obtain ⟨-, rfl⟩ := hm
    refine h.concat_of rfl rfl rfl rfl ?_ rfl (hkept Directive.noConfusion)
    rw [argument_of_getElem? ht, hn]
    rfl
  | includeList hi =>
    obtain ⟨-, rfl⟩ := hm
    refine h.concat_of rfl ?_ rfl rfl rfl rfl (hkept Directive.noConfusion)
    rw [items_of_eq_some hi]
    rfl
  | includeClear =>
    obtain ⟨-, rfl⟩ := hm
    exact h.concat_of rfl rfl rfl rfl rfl rfl (hkept Directive.noConfusion)
  | excludeList hi =>
    obtain ⟨-, rfl⟩ := hm
    refine h.concat_of rfl rfl ?_ rfl rfl rfl (hkept Directive.noConfusion)
    rw [items_of_eq_some hi]
    rfl
  | excludeClear =>
    obtain ⟨-, rfl⟩ := hm
    exact h.concat_of rfl rfl rfl rfl rfl rfl (hkept Directive.noConfusion)
  | excludeRemove hi =>
    obtain ⟨-, rfl⟩ := hm
    refine h.concat_of rfl rfl ?_ rfl rfl rfl (hkept Directive.noConfusion)
    rw [items_of_eq_some hi]
    rfl
  | figure =>
    obtain ⟨-, figure, rfl⟩ := hm
    exact h.concat_of rfl rfl rfl rfl rfl rfl (hkept Directive.noConfusion)
  | subplot =>
    obtain ⟨-, rfl⟩ := hm
    exact h.concat_of rfl rfl rfl rfl rfl rfl (hkept Directive.noConfusion)
  | plot =>
    obtain ⟨-, rfl⟩ := hm
    exact h.concat_of rfl rfl rfl rfl rfl rfl (hkept Directive.noConfusion)
  | save =>
    obtain ⟨-, rfl⟩ := hm
    exact h.concat_of rfl rfl rfl rfl rfl rfl (hkept Directive.noConfusion)
  | title ht =>
    obtain ⟨-, rfl⟩ := hm
    refine h.concat_of rfl rfl rfl rfl rfl ?_ (hkept Directive.noConfusion)
    rw [argument_of_getElem? ht]
    rfl

end Step

end Authorship.Script
