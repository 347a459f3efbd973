import Authorship.Proofs.Script.Block
import Mathlib.Data.List.DropRight

namespace Authorship.Script

inductive Move
  | nextLine
  | advance
  | hold
  | look (offset : Int)
  | consume
deriving DecidableEq

inductive Reply
  | line (isDelivered : Bool)
  | tokens (tokens : List String)
  | token (token : String)
  | done

def Cursor.make (cursor : Cursor) : Move → Except Fault (Reply × Cursor)
  | .nextLine =>
    match cursor.nextLine with
    | some next => .ok (.line true, next)
    | none => .ok (.line false, cursor)
  | .advance => cursor.advance.map fun next => (.tokens next.tokens, next)
  | .hold => .ok (.done, cursor.hold)
  | .look offset => (cursor.look offset).map fun token => (.token token, cursor)
  | .consume => cursor.consume.map fun (token, next) => (.token token, next)

structure Turn where
  found : Cursor
  move : Move

namespace Turn

def result (turn : Turn) : Except Fault (Reply × Cursor) :=
  turn.found.make turn.move

/-- The cursor that goes on; a move that fails leaves it where it was. -/
def left (turn : Turn) : Cursor :=
  match turn.result with
  | .ok (_, next) => next
  | .error _ => turn.found

def isDelivery (turn : Turn) : Bool :=
  match turn.result with
  | .ok (.line isDelivered, _) => isDelivered
  | .ok (.tokens _, _) => true
  | _ => false

/-- Whether a line was read; the delivery of a held line reads none. -/
def isReading (turn : Turn) : Bool :=
  turn.isDelivery && !(turn.move == .nextLine && turn.found.held)

def taken? (turn : Turn) : Option String :=
  match turn.move, turn.result with
  | .consume, .ok (.token token, _) => some token
  | _, _ => none

theorem left_of_ok {turn : Turn} {reply : Reply} {next : Cursor}
    (h : turn.result = .ok (reply, next)) : turn.left = next := by
  rw [left, h]

theorem left_of_error {turn : Turn} {fault : Fault} (h : turn.result = .error fault) :
    turn.left = turn.found := by
  rw [left, h]

theorem isDelivery_of_error {turn : Turn} {fault : Fault} (h : turn.result = .error fault) :
    turn.isDelivery = false := by
  rw [isDelivery, h]

theorem isReading_of_not_delivery {turn : Turn} (h : turn.isDelivery = false) :
    turn.isReading = false := by
  rw [isReading, h, Bool.false_and]

end Turn

namespace Cursor

theorem nextLine_of_held {cursor : Cursor} (h : cursor.held = true) :
    cursor.nextLine = some { cursor with held := false, index := 0 } :=
  if_pos h

theorem nextLine_of_not_held {cursor : Cursor} (h : cursor.held = false) :
    cursor.nextLine = cursor.advance.toOption :=
  if_neg (Bool.eq_false_iff.mp h)

def turns (cursor : Cursor) : List Move → List Turn
  | [] => []
  | move :: moves => ⟨cursor, move⟩ :: (Turn.left ⟨cursor, move⟩).turns moves

def after (cursor : Cursor) : List Move → Cursor
  | [] => cursor
  | move :: moves => (Turn.left ⟨cursor, move⟩).after moves

end Cursor

structure Turn.Reads (turn : Turn) (next : Cursor) : Prop where
  left : turn.left = next
  isDelivery : turn.isDelivery = true
  isReading : turn.isReading = true

theorem reads_advance {cursor next : Cursor} (h : cursor.advance = .ok next) :
    Turn.Reads ⟨cursor, .advance⟩ next := by
  have hresult : Turn.result ⟨cursor, .advance⟩ = .ok (.tokens next.tokens, next) := by
    rw [Turn.result, Cursor.make, h]
    rfl
  have hd : Turn.isDelivery ⟨cursor, .advance⟩ = true := by rw [Turn.isDelivery, hresult]
  exact ⟨Turn.left_of_ok hresult, hd, by rw [Turn.isReading, hd]; rfl⟩

theorem reads_nextLine {cursor next : Cursor} (hheld : cursor.held = false)
    (h : cursor.advance = .ok next) : Turn.Reads ⟨cursor, .nextLine⟩ next := by
  have hresult : Turn.result ⟨cursor, .nextLine⟩ = .ok (.line true, next) := by
    rw [Turn.result, Cursor.make, Cursor.nextLine_of_not_held hheld, h]
    rfl
  have hd : Turn.isDelivery ⟨cursor, .nextLine⟩ = true := by rw [Turn.isDelivery, hresult]
  exact ⟨Turn.left_of_ok hresult, hd, by rw [Turn.isReading, hd, hheld]; rfl⟩

/-- The tokens that were taken since a line was delivered, in order. -/
def taken (turns : List Turn) : List String :=
  (turns.rtakeWhile (!·.isDelivery)).filterMap Turn.taken?

/-- The tokens of the line with a number; before the first line there are none. -/
def tokensAt (lines : List String) : Nat → List String
  | 0 => []
  | place + 1 => (lines[place]?.map tokens).getD []

/-- Where a cursor over lines stands after some turns. -/
structure Stands (lines : List String) (source : String) (turns : List Turn) (cursor : Cursor) :
    Prop where
  source : cursor.source = source
  lineNumber_le : cursor.lineNumber ≤ lines.length
  ahead : cursor.ahead = lines.drop cursor.lineNumber
  tokens : cursor.tokens = tokensAt lines cursor.lineNumber
  index_le : cursor.index ≤ cursor.tokens.length
  lineNumber : cursor.lineNumber = turns.countP Turn.isReading
  taken : taken turns = cursor.tokens.take cursor.index

section Taken

variable {turns : List Turn} {turn : Turn}

theorem taken_concat_delivery (h : turn.isDelivery = true) : taken (turns ++ [turn]) = [] := by
  rw [taken, List.rtakeWhile_concat_neg _ _ _ (by simp [h]), List.filterMap_nil]

theorem taken_concat (h : turn.isDelivery = false) :
    taken (turns ++ [turn]) = taken turns ++ turn.taken?.toList := by
  rw [taken, List.rtakeWhile_concat_pos _ _ _ (by simp [h]), List.filterMap_append]
  cases ht : turn.taken? <;> simp [taken, ht]

end Taken

namespace Stands

variable {lines : List String} {source : String} {turns : List Turn} {cursor next : Cursor}
  {turn : Turn}

theorem start (lines : List String) (source : String) :
    Stands lines source [] (.ofLines lines source) :=
  ⟨rfl, Nat.zero_le _, rfl, rfl, Nat.le_refl 0, rfl, rfl⟩

theorem rest (h : Stands lines source turns cursor) (held : Bool)
    (hd : turn.isDelivery = false) (ht : turn.taken? = none) :
    Stands lines source (turns ++ [turn]) { cursor with held := held } := by
  have hr := Turn.isReading_of_not_delivery hd
  refine ⟨h.source, h.lineNumber_le, h.ahead, h.tokens, h.index_le, ?_, ?_⟩
  · rw [List.countP_append, List.countP_singleton, hr]
    exact h.lineNumber
  · rw [taken_concat hd, ht]
    exact (List.append_nil _).trans h.taken

theorem again (h : Stands lines source turns cursor) (hd : turn.isDelivery = true)
    (hr : turn.isReading = false) :
    Stands lines source (turns ++ [turn]) { cursor with held := false, index := 0 } := by
  refine ⟨h.source, h.lineNumber_le, h.ahead, h.tokens, Nat.zero_le _, ?_, ?_⟩
  · rw [List.countP_append, List.countP_singleton, hr]
    exact h.lineNumber
  · rw [taken_concat_delivery hd, List.take_zero]

theorem read (h : Stands lines source turns cursor) (ha : cursor.advance = .ok next)
    (hr : turn.Reads next) : Stands lines source (turns ++ [turn]) turn.left := by
  obtain ⟨line, rest, hrest, rfl⟩ := Cursor.of_advance ha
  have hdrop : lines.drop cursor.lineNumber = line :: rest := h.ahead.symm.trans hrest
  have hlt : cursor.lineNumber < lines.length := by
    have hlength := congrArg List.length hdrop
    rw [List.length_drop, List.length_cons] at hlength
    omega
  have hline : lines[cursor.lineNumber]? = some line := by
    rw [← List.head?_drop, hdrop, List.head?_cons]
  rw [hr.left]
  refine ⟨h.source, hlt, ?_, ?_, Nat.zero_le _, ?_, ?_⟩
  · rw [← List.tail_drop, hdrop, List.tail_cons]
  · rw [tokensAt, hline]
    rfl
  · rw [List.countP_append, List.countP_singleton, hr.isReading]
    exact congrArg (· + 1) h.lineNumber
  · rw [taken_concat_delivery hr.isDelivery, List.take_zero]

theorem take {token : String} (h : Stands lines source turns cursor)
    (ht : cursor.tokens[cursor.index]? = some token) (hd : turn.isDelivery = false)
    (hk : turn.taken? = some token) :
    Stands lines source (turns ++ [turn]) { cursor with index := cursor.index + 1 } := by
  have hr := Turn.isReading_of_not_delivery hd
  obtain ⟨hlt, hget⟩ := List.getElem?_eq_some_iff.mp ht
  refine ⟨h.source, h.lineNumber_le, h.ahead, h.tokens, hlt, ?_, ?_⟩
  · rw [List.countP_append, List.countP_singleton, hr]
    exact h.lineNumber
  · rw [taken_concat hd, hk, h.taken, Option.toList_some, ← hget]
    exact List.take_append_getElem hlt

theorem failed {move : Move} {fault : Fault} (h : Stands lines source turns cursor)
    (hf : cursor.make move = .error fault) :
    Stands lines source (turns ++ [⟨cursor, move⟩]) (Turn.left ⟨cursor, move⟩) := by
  have hresult : Turn.result ⟨cursor, move⟩ = .error fault := hf
  have ht : Turn.taken? ⟨cursor, move⟩ = none := by
    rw [Turn.taken?, hresult]
    cases move <;> rfl
  rw [Turn.left_of_error hresult]
  exact h.rest cursor.held (Turn.isDelivery_of_error hresult) ht

/-- What a turn leaves: one case for each thing that a cursor can be asked for. -/
theorem step (h : Stands lines source turns cursor) (move : Move) :
    Stands lines source (turns ++ [⟨cursor, move⟩]) (Turn.left ⟨cursor, move⟩) := by
  cases move with
  | nextLine =>
    cases hheld : cursor.held with
    | true =>
      have hresult : Turn.result ⟨cursor, .nextLine⟩ =
          .ok (.line true, { cursor with held := false, index := 0 }) := by
        rw [Turn.result, Cursor.make, Cursor.nextLine_of_held hheld]
      have hd : Turn.isDelivery ⟨cursor, .nextLine⟩ = true := by rw [Turn.isDelivery, hresult]
      rw [Turn.left_of_ok hresult]
      exact h.again hd (by rw [Turn.isReading, hd, hheld]; rfl)
    | false =>
      cases ha : cursor.advance with
      | error fault =>
        have hresult : Turn.result ⟨cursor, .nextLine⟩ = .ok (.line false, cursor) := by
          rw [Turn.result, Cursor.make, Cursor.nextLine_of_not_held hheld, ha]
          rfl
        rw [Turn.left_of_ok hresult]
        exact h.rest cursor.held (by rw [Turn.isDelivery, hresult]) rfl
      | ok next => exact h.read ha (reads_nextLine hheld ha)
  | advance =>
    cases ha : cursor.advance with
    | error fault => exact h.failed (by rw [Cursor.make, ha]; rfl)
    | ok next => exact h.read ha (reads_advance ha)
  | hold => exact h.rest true rfl rfl
  | look offset =>
    cases hl : cursor.look offset with
    | error fault => exact h.failed (by rw [Cursor.make, hl]; rfl)
    | ok token =>
      have hresult : Turn.result ⟨cursor, .look offset⟩ = .ok (.token token, cursor) := by
        rw [Turn.result, Cursor.make, hl]
        rfl
      rw [Turn.left_of_ok hresult]
      exact h.rest cursor.held (by rw [Turn.isDelivery, hresult]) rfl
  | consume =>
    cases ht : cursor.tokens[cursor.index]? with
    | none =>
      have hc : cursor.consume = .error (cursor.fault .missingArgument) := by
        rw [Cursor.consume, ht]
      exact h.failed (by rw [Cursor.make, hc]; rfl)
    | some token =>
      have hc : cursor.consume = .ok (token, { cursor with index := cursor.index + 1 }) := by
        rw [Cursor.consume, ht]
      have hresult : Turn.result ⟨cursor, .consume⟩ =
          .ok (.token token, { cursor with index := cursor.index + 1 }) := by
        rw [Turn.result, Cursor.make, hc]
        rfl
      rw [Turn.left_of_ok hresult]
      exact h.take ht (by rw [Turn.isDelivery, hresult]) (by rw [Turn.taken?, hresult])

theorem run (h : Stands lines source turns cursor) (moves : List Move) :
    Stands lines source (turns ++ cursor.turns moves) (cursor.after moves) := by
  induction moves generalizing turns cursor with
  | nil =>
    rw [Cursor.turns, List.append_nil]
    exact h
  | cons move moves ih =>
    have hrun := ih (h.step move)
    rwa [List.append_assoc] at hrun

end Stands

structure Cursor.Tells (cursor : Cursor) : Prop where
  tokensLeft : cursor.index + cursor.tokensLeft = cursor.tokens.length
  hasToken : cursor.hasToken = true ↔ 0 < cursor.tokensLeft
  look : ∀ offset, (∃ token, cursor.look offset = .ok token) ↔
    0 ≤ cursor.index + offset ∧ cursor.index + offset < cursor.tokens.length
  consume : ∀ token, (∃ next, cursor.consume = .ok (token, next)) ↔ cursor.look 0 = .ok token
  nextLine : cursor.nextLine = none ↔ cursor.ahead = [] ∧ cursor.held = false

/-- A turn goes on by a line if it reads one; a failure is about the latest line and changes
nothing. -/
structure Turn.IsLawful (turn : Turn) : Prop where
  lineNumber : turn.left.lineNumber = turn.found.lineNumber + if turn.isReading then 1 else 0
  failure : ∀ fault, turn.result = .error fault → turn.left = turn.found ∧
    fault.line = turn.found.lineNumber ∧ fault.source = turn.found.source

namespace Cursor

variable {cursor : Cursor}

theorem look_eq_ok_iff {offset : Int} {token : String} : cursor.look offset = .ok token ↔
    0 ≤ cursor.index + offset ∧ cursor.tokens[(cursor.index + offset).toNat]? = some token := by
  unfold look
  by_cases hplace : 0 ≤ cursor.index + offset
  · simp only [hplace, if_true, true_and]
    cases cursor.tokens[(cursor.index + offset).toNat]? <;> simp
  · simp [hplace]

theorem exists_look_iff {offset : Int} : (∃ token, cursor.look offset = .ok token) ↔
    0 ≤ cursor.index + offset ∧ cursor.index + offset < cursor.tokens.length := by
  simp only [look_eq_ok_iff, List.getElem?_eq_some_iff, exists_and_left]
  constructor
  · rintro ⟨hplace, token, hlt, -⟩
    exact ⟨hplace, by omega⟩
  · rintro ⟨hplace, hlt⟩
    exact ⟨hplace, _, by omega, rfl⟩

theorem exists_consume_iff {token : String} :
    (∃ next, cursor.consume = .ok (token, next)) ↔ cursor.look 0 = .ok token := by
  rw [look_eq_ok_iff, Int.add_zero, Int.toNat_natCast, consume]
  cases cursor.tokens[cursor.index]? <;> simp

theorem advance_eq_error_iff {fault : Fault} :
    cursor.advance = .error fault ↔ cursor.ahead = [] ∧ fault = cursor.fault .endOfScript := by
  unfold advance
  cases cursor.ahead <;> simp [eq_comm]

theorem nextLine_eq_none_iff : cursor.nextLine = none ↔ cursor.ahead = [] ∧ cursor.held = false := by
  cases hheld : cursor.held with
  | true => simp [nextLine_of_held hheld]
  | false =>
    rw [nextLine_of_not_held hheld]
    cases ha : cursor.advance with
    | error fault => simp [Except.toOption, (advance_eq_error_iff.mp ha).1]
    | ok next =>
      obtain ⟨line, rest, hrest, -⟩ := of_advance ha
      simp [Except.toOption, hrest]

theorem of_make_eq_error {move : Move} {fault : Fault} (h : cursor.make move = .error fault) :
    fault.line = cursor.lineNumber ∧ fault.source = cursor.source := by
  cases move with
  | nextLine =>
    simp only [make] at h
    split at h <;> cases h
  | advance =>
    cases ha : cursor.advance with
    | ok next =>
      rw [make, ha] at h
      cases h
    | error other =>
      rw [make, ha] at h
      cases h
      obtain ⟨-, rfl⟩ := advance_eq_error_iff.mp ha
      exact ⟨rfl, rfl⟩
  | hold => cases h
  | look offset =>
    simp only [make, look] at h
    split at h
    · cases h
    · cases h
      exact ⟨rfl, rfl⟩
  | consume =>
    simp only [make, consume] at h
    split at h
    · cases h
    · cases h
      exact ⟨rfl, rfl⟩

end Cursor

namespace Stands

variable {lines : List String} {source : String} {turns : List Turn} {cursor : Cursor}

theorem tells (h : Stands lines source turns cursor) : cursor.Tells := by
  have hindex := h.index_le
  refine ⟨?_, ?_, fun _ => Cursor.exists_look_iff, fun _ => Cursor.exists_consume_iff,
    Cursor.nextLine_eq_none_iff⟩
  · rw [Cursor.tokensLeft]
    omega
  · rw [Cursor.hasToken, Cursor.tokensLeft, decide_eq_true_eq]
    omega

theorem isLawful (h : Stands lines source turns cursor) (move : Move) :
    Turn.IsLawful ⟨cursor, move⟩ := by
  constructor
  · rw [(h.step move).lineNumber, List.countP_append, List.countP_singleton, ← h.lineNumber]
  · intro fault hf
    exact ⟨Turn.left_of_error hf, Cursor.of_make_eq_error hf⟩

end Stands

/-- Whatever a cursor over lines was asked for, it stands in its place, tells what is left, and goes
on lawfully. -/
theorem stands_after (lines : List String) (source : String) (moves : List Move) (move : Move) :
    Stands lines source ((Cursor.ofLines lines source).turns moves)
        ((Cursor.ofLines lines source).after moves) ∧
      ((Cursor.ofLines lines source).after moves).Tells ∧
      Turn.IsLawful ⟨(Cursor.ofLines lines source).after moves, move⟩ := by
  have hstands := (Stands.start lines source).run moves
  exact ⟨hstands, hstands.tells, hstands.isLawful move⟩

end Authorship.Script
