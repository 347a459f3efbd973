import Authorship.Proofs.Files.Tree
import Authorship.Proofs.Script.Execution
import Authorship.Proofs.Script.Token

namespace Authorship.Script

open Authorship.Drawing Authorship.Activity Authorship.Text

def Yields (setup : Setup) (length : Nat) (lines : List String) (work : Work)
    (result : EStateM.Result Failure Work Unit) : Prop :=
  ∀ read, (blocksAfter read lines).forM (Block.act setup length) work = result

theorem isCommandLine_of_tokens {line command : String} {rest : List String}
    (h : tokens line = command :: rest) (hc : command.toList.head? = some ':') :
    isCommandLine line = true := by
  rw [isCommandLine, h]
  simp [hc]

variable {setup : Setup} {length : Nat} {work : Work} {result : EStateM.Result Failure Work Unit}

theorem Yields.cons {line : String} {rest : List String} {after : Work}
    (h : Yields setup length rest after result) (hl : isCommandLine line = true)
    (hact : ∀ block : Block, block.tokens = tokens line → block.items = itemsBefore rest →
      block.act setup length work = .ok () after) :
    Yields setup length (line :: rest) work result := by
  intro read
  rw [blocksAfter, if_pos hl]
  simp only [List.forM, Bind.bind, EStateM.bind]
  rw [hact ⟨read + 1, tokens line, itemsBefore rest⟩ rfl rfl]
  exact h (read + 1)

theorem Yields.skip {items rest : List String} (h : Yields setup length rest work result)
    (hi : ∀ item ∈ items, isCommandLine item = false) :
    Yields setup length (items ++ rest) work result := by
  intro read
  rw [blocksAfter_append read rest hi]
  exact h (read + items.length)

/-- A text that can stand between quotes as an item of a list. -/
structure Item where
  text : String
  noQuote : '"' ∉ text.toList
  noCommand : text.toList.head? ≠ some ':'
  noComment : text.toList.head? ≠ some '#'

namespace Item

def line (item : Item) : String :=
  quoteMarks item.text

end Item

section Acts

variable {block : Block}

section Plots

variable {figure : Figure} {history : History}

end Plots

end Acts

end Authorship.Script
