import Authorship.Script.Interpreter

namespace Authorship.Script

open Authorship.Script.Action

def isCommandLine (line : String) : Bool :=
  (tokens line).head?.any fun token => token.toList.head? == some ':'

/-- The item that a line adds to a list: its first token, unless the line is a comment. -/
def item? (line : String) : Option String :=
  (tokens line).head?.filter fun token => token.toList.head? != some '#'

/-- The items of the lines before the next command line; none if no command line follows. -/
def itemsBefore (lines : List String) : Option (List String) :=
  if lines.any isCommandLine then
    some ((lines.takeWhile (!isCommandLine ·)).filterMap item?)
  else none

structure Block where
  /-- The number of the command line, counted from 1. -/
  line : Nat
  tokens : List String
  items : Option (List String)

/-- The blocks of lines that stand after a number of other lines. -/
def blocksAfter (read : Nat) : List String → List Block
  | [] => []
  | line :: rest =>
    if isCommandLine line then ⟨read + 1, tokens line, itemsBefore rest⟩ :: blocksAfter (read + 1) rest
    else blocksAfter (read + 1) rest

def blocks (lines : List String) : List Block :=
  blocksAfter 0 lines

/-- What a directive does if the given action tells its list. -/
def Directive.runWith (setup : Setup) (list : Action (List String)) : Directive → Action Unit
  | .aliasList => do
    let canonical ← consume
    let raws ← list
    setState fun state => { state with aliases := state.aliases.register canonical raws }
  | .includeList => do
    let items ← list
    setState fun state => { state with included := state.included ++ items }
  | .excludeList => do
    let items ← list
    setState fun state => { state with excluded := state.excluded ++ items }
  | .excludeRemove => do
    let items ← list
    setState fun state => { state with excluded := state.excluded.filter (!items.contains ·) }
  | directive => directive.run setup

namespace Block

def cursor (source : String) (after : List String) (block : Block) : Cursor :=
  ⟨after, source, block.line, block.tokens, 1, false⟩

/-- The list of a block. Without a command line after it the script of the given length ends. -/
def list (setup : Setup) (length : Nat) (block : Block) : Action (List String) :=
  match block.items with
  | some items => pure items
  | none => attempt (.error (.script ⟨length, .endOfScript, setup.source⟩))

def perform (setup : Setup) (length : Nat) (block : Block) : Action Unit :=
  let token := block.tokens.headD ""
  match Directive.ofToken? token with
  | some directive => directive.runWith setup (block.list setup length)
  | none => note (.unknownDirective token block.line)

def run (setup : Setup) (length : Nat) (block : Block) : Action Unit := fun session =>
  block.perform setup length { session with cursor := block.cursor setup.source [] }

end Block

/-- The blocks that are run: up to the first one that fails, with it. -/
def performed (setup : Setup) (length : Nat) : List Block → Session → List Block
  | [], _ => []
  | block :: rest, session =>
    match block.run setup length session with
    | .ok () after => block :: performed setup length rest after
    | .error _ _ => [block]

theorem runWith_readList (setup : Setup) (directive : Directive) :
    directive.runWith setup readList = directive.run setup := by
  cases directive <;> rfl

theorem runWith_of_hasList {setup : Setup} {directive : Directive} (list : Action (List String))
    (h : directive.hasList = false) : directive.runWith setup list = directive.run setup := by
  cases directive <;> first | rfl | cases h

theorem itemsBefore_cons (first : String) (rest : List String) :
    itemsBefore (first :: rest) =
      if isCommandLine first then some []
      else (itemsBefore rest).map ((item? first).toList ++ ·) := by
  cases hf : isCommandLine first with
  | true =>
    rw [itemsBefore, List.any_cons, hf, Bool.true_or, if_pos rfl, if_pos rfl,
      List.takeWhile_cons_of_neg (by simp [hf]), List.filterMap_nil]
  | false =>
    rw [itemsBefore, List.any_cons, hf, Bool.false_or, if_neg Bool.false_ne_true,
      List.takeWhile_cons_of_pos (by simp [hf]), itemsBefore]
    split
    · cases hi : item? first <;> simp [hi]
    · rfl

theorem itemsBefore_append {skipped rest : List String} {line : String}
    (hs : ∀ other ∈ skipped, isCommandLine other = false) (hl : isCommandLine line = true) :
    itemsBefore (skipped ++ line :: rest) = some (skipped.filterMap item?) := by
  have hany : (skipped ++ line :: rest).any isCommandLine = true := by simp [hl]
  have htake : (skipped ++ line :: rest).takeWhile (!isCommandLine ·) = skipped := by
    rw [List.takeWhile_append_of_pos (by simpa using hs), List.takeWhile_cons_of_neg (by simp [hl]),
      List.append_nil]
  rw [itemsBefore, if_pos hany, htake]

theorem itemsBefore_eq_none {lines : List String}
    (h : ∀ line ∈ lines, isCommandLine line = false) : itemsBefore lines = none := by
  have hany : ¬ lines.any isCommandLine = true := by simpa using h
  rw [itemsBefore, if_neg hany]

theorem blocksAfter_append {skipped : List String} (read : Nat) (rest : List String)
    (hs : ∀ line ∈ skipped, isCommandLine line = false) :
    blocksAfter read (skipped ++ rest) = blocksAfter (read + skipped.length) rest := by
  induction skipped generalizing read with
  | nil => rfl
  | cons line skipped ih =>
    have hl : ¬ isCommandLine line = true := by simp [hs line List.mem_cons_self]
    rw [List.cons_append, blocksAfter, if_neg hl,
      ih (read + 1) fun other ho => hs other (List.mem_cons_of_mem _ ho), List.length_cons]
    congr 1
    omega

namespace Cursor

theorem of_advance {cursor next : Cursor} (h : cursor.advance = .ok next) :
    ∃ line rest, cursor.ahead = line :: rest ∧ next =
      { cursor with
        ahead := rest
        lineNumber := cursor.lineNumber + 1
        tokens := Script.tokens line
        index := 0 } := by
  unfold advance at h
  split at h
  · cases h
  · rename_i line rest ha
    cases h
    exact ⟨line, rest, ha, rfl⟩

theorem passed_of_blank_or_comment {cursor : Cursor} {line : String}
    (ht : cursor.tokens = Script.tokens line) (h : (cursor.isBlank || cursor.isComment) = true) :
    isCommandLine line = false ∧ item? line = none := by
  simp only [isBlank, isComment, startsWith, ht, Bool.or_eq_true] at h
  unfold isCommandLine item?
  cases hl : Script.tokens line with
  | nil => exact ⟨rfl, rfl⟩
  | cons token rest =>
    rw [hl] at h
    have hc : token.toList.head? = some '#' := by simpa using h
    simp [hc]

theorem item_of_plain {cursor : Cursor} {line : String} (ht : cursor.tokens = Script.tokens line)
    (h0 : cursor.index = 0) (h : ¬ (cursor.isBlank || cursor.isComment) = true) :
    ∃ item, item? line = some item ∧ cursor.consume = .ok (item, { cursor with index := 1 }) := by
  simp only [isBlank, isComment, startsWith, ht] at h
  unfold item? consume
  rw [ht, h0]
  cases hl : Script.tokens line with
  | nil => simp [hl] at h
  | cons token rest =>
    rw [hl] at h
    have hc : token.toList.head? ≠ some '#' := by simpa using h
    exact ⟨token, by simp [hc], rfl⟩

/-- What the reading of a list comes to: the items before the next command line, which is held, or
the end of the script. -/
def Reads (cursor : Cursor) (result : Except Fault (List String) × Cursor) : Prop :=
  (∃ skipped line rest, cursor.ahead = skipped ++ line :: rest ∧
    (∀ other ∈ skipped, isCommandLine other = false) ∧ isCommandLine line = true ∧
    result = (.ok (skipped.filterMap item?),
      ⟨rest, cursor.source, cursor.lineNumber + skipped.length + 1, Script.tokens line, 0, true⟩)) ∨
  ((∀ line ∈ cursor.ahead, isCommandLine line = false) ∧ ∃ final, result =
    (.error ⟨cursor.lineNumber + cursor.ahead.length, .endOfScript, cursor.source⟩, final))

theorem Reads.cons {cursor next : Cursor} {result : Except Fault (List String) × Cursor}
    {first : String} (h : Reads next result) (ha : cursor.ahead = first :: next.ahead)
    (hn : next.lineNumber = cursor.lineNumber + 1) (hs : next.source = cursor.source)
    (hp : isCommandLine first = false) :
    Reads cursor (result.1.map ((item? first).toList ++ ·), result.2) := by
  rcases h with ⟨skipped, line, rest, hl, hskipped, hline, rfl⟩ | ⟨hall, final, rfl⟩
  · refine .inl ⟨first :: skipped, line, rest, by rw [ha, hl]; rfl, ?_, hline, ?_⟩
    · intro other ho
      rcases List.mem_cons.mp ho with rfl | ho
      · exact hp
      · exact hskipped other ho
    · have hnumber : next.lineNumber + skipped.length + 1 =
          cursor.lineNumber + (first :: skipped).length + 1 := by
        rw [hn, List.length_cons]
        omega
      have hitems : (item? first).toList ++ skipped.filterMap item? =
          (first :: skipped).filterMap item? := by
        cases hi : item? first <;> simp [hi]
      simp only [Except.map, hitems, hnumber, hs]
  · refine .inr ⟨?_, final, ?_⟩
    · intro line hl
      rw [ha] at hl
      rcases List.mem_cons.mp hl with rfl | hl
      · exact hp
      · exact hall line hl
    · have hnumber : next.lineNumber + next.ahead.length =
          cursor.lineNumber + cursor.ahead.length := by
        rw [hn, ha, List.length_cons]
        omega
      simp only [Except.map, hnumber, hs]

theorem reads_readList (cursor : Cursor) : cursor.Reads cursor.readList := by
  fun_induction readList cursor with
  | case1 cursor fault h =>
    unfold advance at h
    split at h
    · rename_i ha
      cases h
      exact .inr ⟨by simp [ha], cursor, by simp [ha, Cursor.fault]⟩
    · cases h
  | case2 cursor next h hpassed ih =>
    obtain ⟨first, rest, ha, rfl⟩ := of_advance h
    obtain ⟨hp, hi⟩ := passed_of_blank_or_comment rfl hpassed
    have hcons := ih.cons ha rfl rfl hp
    rw [hi] at hcons
    have hsame (result : Except Fault (List String)) :
        result.map ((none : Option String).toList ++ ·) = result := by
      cases result <;> rfl
    rwa [hsame] at hcons
  | case3 cursor next h _ hcommand =>
    obtain ⟨first, rest, ha, rfl⟩ := of_advance h
    exact .inl ⟨[], first, rest, ha, by simp, hcommand, rfl⟩
  | case4 cursor next h hplain _ fault hfault =>
    obtain ⟨first, rest, ha, rfl⟩ := of_advance h
    obtain ⟨item, -, hc⟩ := item_of_plain rfl rfl hplain
    rw [hc] at hfault
    cases hfault
  | case5 cursor next h hplain hcommand item after hitem items final hrest ih =>
    obtain ⟨first, rest, ha, rfl⟩ := of_advance h
    obtain ⟨item', hi, hc⟩ := item_of_plain rfl rfl hplain
    rw [hc] at hitem
    cases hitem
    have hcons := ih.cons ha rfl rfl (Bool.not_eq_true _ ▸ hcommand)
    rw [hi, hrest] at hcons
    exact hcons

end Cursor

end Authorship.Script
