import Authorship.Drawing.Backend
import Authorship.Drawing.Target
import Mathlib.Data.List.Nodup

namespace Authorship.Drawing

namespace Call

def closed? : Call → Option Figure
  | .close figure => some figure
  | _ => none

end Call

/-- The calls that made figures: the figure with a number was made by the call in this place. -/
def creations (attempts : List Attempt) : List Call :=
  (granted attempts).filter fun call => call.newSize?.isSome

def creationOf (attempts : List Attempt) (figure : Figure) : Option Call :=
  match figure.number with
  | 0 => none
  | place + 1 => (creations attempts)[place]?

def closed (attempts : List Attempt) : List Figure :=
  (granted attempts).filterMap Call.closed?

def IsOpenAfter (attempts : List Attempt) (figure : Figure) : Prop :=
  (creationOf attempts figure).isSome = true ∧ figure ∉ closed attempts

def IsOnlyOpenAfter (attempts : List Attempt) (figure : Figure) : Prop :=
  ∀ other, IsOpenAfter attempts other ↔ other = figure

/-- What a call may ask for after some attempts. -/
def Proper (attempts : List Attempt) : Call → Prop
  | .newFigure width height => 1 ≤ width ∧ 1 ≤ height
  | .newGrid width height rows cols => 1 ≤ width ∧ 1 ≤ height ∧ 1 ≤ rows ∧ 1 ≤ cols
  | .bars figure none _ => IsOnlyOpenAfter attempts figure ∧
      ∃ width height, creationOf attempts figure = some (.newFigure width height)
  | .bars figure (some cell) _ => IsOnlyOpenAfter attempts figure ∧
      ∃ width height rows cols,
        creationOf attempts figure = some (.newGrid width height rows cols) ∧
        0 ≤ cell.row ∧ cell.row < rows ∧ 0 ≤ cell.col ∧ cell.col < cols
  | .save figure _ => IsOnlyOpenAfter attempts figure
  | .close figure => IsOpenAfter attempts figure

/-- Some figures, and no others, are open after attempts that were all proper. -/
structure Kept (attempts : List Attempt) (held : List Figure) : Prop where
  isOpenAfter_iff : ∀ figure, IsOpenAfter attempts figure ↔ figure ∈ held
  closedOnce : (closed attempts).Nodup
  closedMade : ∀ figure ∈ closed attempts, (creationOf attempts figure).isSome = true
  proper : ∀ before attempt after, attempts = before ++ attempt :: after →
    Proper before attempt.call

def Target.IsMade (attempts : List Attempt) : Target → Prop
  | .absent => True
  | .whole figure => ∃ width height, creationOf attempts figure = some (.newFigure width height)
  | .grid figure rows cols =>
    ∃ width height, creationOf attempts figure = some (.newGrid width height rows cols)

structure Orderly (attempts : List Attempt) (target : Target) : Prop where
  kept : Kept attempts target.figure?.toList
  isMade : target.IsMade attempts

section Concat

variable {attempts : List Attempt} {call : Call}

theorem granted_refused : granted (attempts ++ [⟨call, false⟩]) = granted attempts := by
  simp [granted]

theorem granted_granted : granted (attempts ++ [⟨call, true⟩]) = granted attempts ++ [call] := by
  simp [granted]

theorem creationOf_of_eq {others : List Attempt} (h : creations others = creations attempts)
    (figure : Figure) : creationOf others figure = creationOf attempts figure := by
  unfold creationOf
  rw [h]

theorem creations_refused : creations (attempts ++ [⟨call, false⟩]) = creations attempts := by
  rw [creations, granted_refused, creations]

theorem creations_used (h : call.newSize? = none) :
    creations (attempts ++ [⟨call, true⟩]) = creations attempts := by
  simp [creations, granted_granted, h]

theorem creations_made {size : Nat × Nat} (h : call.newSize? = some size) :
    creations (attempts ++ [⟨call, true⟩]) = creations attempts ++ [call] := by
  simp [creations, granted_granted, h]

theorem closed_refused : closed (attempts ++ [⟨call, false⟩]) = closed attempts := by
  rw [closed, granted_refused, closed]

theorem closed_used (h : call.closed? = none) :
    closed (attempts ++ [⟨call, true⟩]) = closed attempts := by
  simp [closed, granted_granted, h]

theorem closed_close (figure : Figure) :
    closed (attempts ++ [⟨.close figure, true⟩]) = closed attempts ++ [figure] := by
  simp [closed, granted_granted, Call.closed?]

theorem length_creations (attempts : List Attempt) :
    (creations attempts).length = (figureSizes (granted attempts)).length := by
  rw [creations, figureSizes, ← List.countP_eq_length_filter, List.length_filterMap_eq_countP]

theorem creationOf_made {size : Nat × Nat} (h : call.newSize? = some size) (figure : Figure) :
    creationOf (attempts ++ [⟨call, true⟩]) figure =
      if figure = nextFigure (granted attempts) then some call else creationOf attempts figure := by
  obtain ⟨number⟩ := figure
  unfold creationOf
  rw [creations_made h]
  cases number with
  | zero => simp [nextFigure]
  | succ place =>
    simp only [nextFigure, Figure.mk.injEq, Nat.add_right_cancel_iff, ← length_creations]
    by_cases hp : place = (creations attempts).length
    · rw [if_pos hp, hp]
      exact List.getElem?_concat_length
    · rw [if_neg hp]
      by_cases hlt : place < (creations attempts).length
      · exact List.getElem?_append_left hlt
      · rw [List.getElem?_eq_none, List.getElem?_eq_none]
        · omega
        · rw [List.length_append, List.length_singleton]
          omega

theorem creationOf_nextFigure (attempts : List Attempt) :
    creationOf attempts (nextFigure (granted attempts)) = none := by
  unfold creationOf nextFigure
  exact List.getElem?_eq_none (Nat.le_of_eq (length_creations attempts))

theorem proper_concat {isGranted : Bool}
    (h : ∀ before attempt after, attempts = before ++ attempt :: after →
      Proper before attempt.call) (hp : Proper attempts call) :
    ∀ before attempt after, attempts ++ [⟨call, isGranted⟩] = before ++ attempt :: after →
      Proper before attempt.call := by
  intro before attempt after he
  rcases List.eq_nil_or_concat after with rfl | ⟨rest, last, rfl⟩
  · obtain ⟨rfl, hlast⟩ := List.append_inj' he rfl
    cases hlast
    exact hp
  · rw [List.concat_eq_append, ← List.cons_append, ← List.append_assoc] at he
    exact h before attempt rest (List.append_inj' he rfl).1

end Concat

namespace Kept

variable {attempts : List Attempt} {held : List Figure} {call : Call}

theorem of_same {others : List Attempt} (h : Kept attempts held)
    (hc : creations others = creations attempts) (hd : closed others = closed attempts)
    (hp : ∀ before attempt after, others = before ++ attempt :: after →
      Proper before attempt.call) : Kept others held := by
  refine ⟨?_, ?_, ?_, hp⟩
  · intro figure
    rw [IsOpenAfter, creationOf_of_eq hc, hd]
    exact h.isOpenAfter_iff figure
  · rw [hd]
    exact h.closedOnce
  · intro figure hm
    rw [creationOf_of_eq hc]
    exact h.closedMade figure (hd ▸ hm)

theorem refused (h : Kept attempts held) (hp : Proper attempts call) :
    Kept (attempts ++ [⟨call, false⟩]) held :=
  h.of_same creations_refused closed_refused (proper_concat h.proper hp)

theorem used (h : Kept attempts held) (hp : Proper attempts call) (hn : call.newSize? = none)
    (hc : call.closed? = none) : Kept (attempts ++ [⟨call, true⟩]) held :=
  h.of_same (creations_used hn) (closed_used hc) (proper_concat h.proper hp)

theorem made {size : Nat × Nat} (h : Kept attempts held) (hp : Proper attempts call)
    (hn : call.newSize? = some size) :
    Kept (attempts ++ [⟨call, true⟩]) (held ++ [nextFigure (granted attempts)]) := by
  have hclosed : closed (attempts ++ [⟨call, true⟩]) = closed attempts := by
    apply closed_used
    cases call <;> first | rfl | cases hn
  have hfresh : nextFigure (granted attempts) ∉ closed attempts := by
    intro hm
    have hmade := h.closedMade _ hm
    rw [creationOf_nextFigure] at hmade
    cases hmade
  refine ⟨?_, ?_, ?_, proper_concat h.proper hp⟩
  · intro figure
    rw [IsOpenAfter, creationOf_made hn, hclosed, List.mem_append, List.mem_singleton, ← h.isOpenAfter_iff]
    split
    · rename_i he
      subst he
      simp [hfresh]
    · rename_i hne
      simp [IsOpenAfter, hne]
  · rw [hclosed]
    exact h.closedOnce
  · intro figure hm
    rw [creationOf_made hn]
    split
    · rfl
    · exact h.closedMade figure (hclosed ▸ hm)

theorem close {figure : Figure} {rest : List Figure} (h : Kept attempts held)
    (hm : figure ∈ held) (hr : ∀ other, other ∈ rest ↔ other ∈ held ∧ other ≠ figure) :
    Kept (attempts ++ [⟨.close figure, true⟩]) rest := by
  obtain ⟨hmade, hnot⟩ := (h.isOpenAfter_iff figure).mpr hm
  have hcreation (other : Figure) :
      creationOf (attempts ++ [⟨.close figure, true⟩]) other = creationOf attempts other :=
    creationOf_of_eq (creations_used rfl) other
  refine ⟨?_, ?_, ?_, proper_concat h.proper ⟨hmade, hnot⟩⟩
  · intro other
    rw [hr, ← h.isOpenAfter_iff, IsOpenAfter, IsOpenAfter, hcreation, closed_close, List.mem_append,
      List.mem_singleton, not_or, and_assoc]
  · rw [closed_close]
    exact h.closedOnce.append (List.nodup_singleton figure) (by simpa using hnot)
  · intro other ho
    rw [closed_close] at ho
    rw [hcreation]
    rcases List.mem_append.mp ho with ho | ho
    · exact h.closedMade other ho
    · rwa [List.mem_singleton.mp ho]

theorem count_closed (h : Kept attempts []) {figure : Figure}
    (hm : (creationOf attempts figure).isSome = true) : (closed attempts).count figure = 1 := by
  apply List.count_eq_one_of_mem h.closedOnce
  by_contra hnot
  exact List.not_mem_nil ((h.isOpenAfter_iff figure).mp ⟨hm, hnot⟩)

end Kept

theorem Target.isMade_of_same {attempts others : List Attempt} {target : Target}
    (h : target.IsMade attempts) (hc : creations others = creations attempts) :
    target.IsMade others := by
  cases target with
  | absent => trivial
  | whole figure =>
    obtain ⟨width, height, hw⟩ := h
    exact ⟨width, height, (creationOf_of_eq hc figure).trans hw⟩
  | grid figure rows cols =>
    obtain ⟨width, height, hg⟩ := h
    exact ⟨width, height, (creationOf_of_eq hc figure).trans hg⟩

namespace Orderly

variable {attempts : List Attempt} {target : Target} {call : Call}

theorem refused (h : Orderly attempts target) (hp : Proper attempts call) :
    Orderly (attempts ++ [⟨call, false⟩]) target :=
  ⟨h.kept.refused hp, Target.isMade_of_same h.isMade creations_refused⟩

theorem used (h : Orderly attempts target) (hp : Proper attempts call)
    (hn : call.newSize? = none) (hc : call.closed? = none) :
    Orderly (attempts ++ [⟨call, true⟩]) target :=
  ⟨h.kept.used hp hn hc, Target.isMade_of_same h.isMade (creations_used hn)⟩

theorem isOnlyOpenAfter {figure : Figure} (h : Orderly attempts target)
    (hf : target.figure? = some figure) : IsOnlyOpenAfter attempts figure := by
  intro other
  rw [h.kept.isOpenAfter_iff, hf]
  exact List.mem_singleton

end Orderly

theorem orderly_nil : Orderly [] .absent := by
  refine ⟨⟨?_, List.nodup_nil, by simp [closed, granted], by simp⟩, trivial⟩
  rintro ⟨number⟩
  cases number <;> simp [IsOpenAfter, creationOf, creations, granted, Target.figure?]

end Authorship.Drawing
