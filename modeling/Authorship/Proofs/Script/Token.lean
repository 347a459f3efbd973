import Authorship.Proofs.Text.Word
import Authorship.Script.Token

namespace Authorship.Script

open Authorship.Text

def quoteMarks (text : String) : String :=
  String.ofList ('"' :: (text.toList ++ ['"']))

structure IsWord (text : String) : Prop where
  ne_nil : text.toList ≠ []
  noBlank : ∀ c ∈ text.toList, isBlank c = false
  noQuote : '"' ∉ text.toList

instance (text : String) : Decidable (IsWord text) :=
  decidable_of_iff (text.toList ≠ [] ∧ text.toList.all (!isBlank ·) = true ∧ '"' ∉ text.toList)
    ⟨fun ⟨hne, hb, hq⟩ => ⟨hne, by simpa using hb, hq⟩,
      fun h => ⟨h.ne_nil, by simpa using h.noBlank, h.noQuote⟩⟩

end Authorship.Script
