import Authorship.Proofs.Script.Scanner

namespace Authorship.Script

open Authorship.Text

def IsGap (gap : List Char) : Prop :=
  ∀ c ∈ gap, isBlank c = true

/-- The texts that are written one after the other on the rest of a line; `afterBare` says that a
bare word ends where this rest starts. -/
inductive Writing : (afterBare : Bool) → List String → List Char → Prop
  | done {afterBare : Bool} {gap : List Char} (hg : IsGap gap) : Writing afterBare [] gap
  | bare {afterBare : Bool} {gap rest : List Char} {text : String} {texts : List String}
      (hg : IsGap gap) (hapart : afterBare = true → gap ≠ []) (hw : IsWord text)
      (h : Writing true texts rest) : Writing afterBare (text :: texts) (gap ++ (text.toList ++ rest))
  | quoted {afterBare : Bool} {gap rest : List Char} {text : String} {texts : List String}
      (hg : IsGap gap) (hq : '"' ∉ text.toList) (h : Writing false texts rest) :
      Writing afterBare (text :: texts) (gap ++ '"' :: (text.toList ++ '"' :: rest))
  /-- The quote that closes the last token may be left out at the end of the line. -/
  | unclosed {afterBare : Bool} {gap : List Char} {text : String} (hg : IsGap gap)
      (hq : '"' ∉ text.toList) : Writing afterBare [text] (gap ++ '"' :: text.toList)

/-- The lines on which texts can be written. -/
def Written (texts : List String) (line : String) : Prop :=
  Writing false texts line.toList

/-- Whether a bare word can end before the rest of a line. -/
def EndsWord (rest : List Char) : Prop :=
  ∀ c ∈ rest.head?, c = '"' ∨ isBlank c = true

theorem IsGap.not_mem {gap : List Char} (h : IsGap gap) : '"' ∉ gap := by
  intro hm
  exact absurd (h '"' hm) (by decide)

theorem IsGap.words_append {gap : List Char} (h : IsGap gap) (text : List Char) :
    words (gap ++ text) = words text := by
  induction gap with
  | nil => rfl
  | cons c gap ih =>
    rw [List.cons_append, words_cons_of_blank _ (h c List.mem_cons_self)]
    exact ih fun d hd => h d (List.mem_cons_of_mem c hd)

theorem IsGap.endsWord {gap rest : List Char} (h : IsGap gap) (hr : EndsWord rest) :
    EndsWord (gap ++ rest) := by
  cases gap with
  | nil => exact hr
  | cons c gap =>
    intro d hd
    cases hd
    exact .inr (h c List.mem_cons_self)

theorem Writing.endsWord {texts : List String} {rest : List Char} (h : Writing true texts rest) :
    EndsWord rest := by
  have hquote (after : List Char) : EndsWord ('"' :: after) := by
    intro c hc
    cases hc
    exact .inl rfl
  cases h with
  | done hg =>
    have hnone : EndsWord [] := fun _ hc => absurd hc (Option.not_mem_none _)
    have hend := hg.endsWord hnone
    rwa [List.append_nil] at hend
  | @bare _ gap _ _ _ hg hapart _ _ =>
    obtain ⟨c, gap, rfl⟩ := List.exists_cons_of_ne_nil (hapart rfl)
    intro d hd
    cases hd
    exact .inr (hg c List.mem_cons_self)
  | quoted hg _ _ => exact hg.endsWord (hquote _)
  | unclosed hg _ => exact hg.endsWord (hquote _)

def tokensOf (rest : List Char) : List (List Char) :=
  tokensOutside (rest.splitOnP (· == '"'))

theorem exists_tokensOf_append (rest : List Char) :
    ∃ piece others, ∀ before, '"' ∉ before →
      tokensOf (before ++ rest) = words (before ++ piece) ++ tokensInside others := by
  obtain ⟨piece, others, hrest⟩ :=
    List.exists_cons_of_ne_nil (List.splitOnP_ne_nil (· == '"') rest)
  refine ⟨piece, others, fun before hb => ?_⟩
  rw [tokensOf, splitOnP_append_of_not_mem rest hb, hrest, List.modifyHead_cons, tokensOutside]

theorem IsGap.tokensOf_append {gap : List Char} (h : IsGap gap) (rest : List Char) :
    tokensOf (gap ++ rest) = tokensOf rest := by
  obtain ⟨piece, others, hrest⟩ := exists_tokensOf_append rest
  have hnone := hrest [] List.not_mem_nil
  rw [List.nil_append, List.nil_append] at hnone
  rw [hrest gap h.not_mem, h.words_append, hnone]

theorem splitOnP_quote (rest : List Char) :
    ('"' :: rest).splitOnP (· == '"') = [] :: rest.splitOnP (· == '"') :=
  splitOnP_append_cons_of_not_mem rest List.not_mem_nil

theorem tokensOf_quoted {text : List Char} (h : '"' ∉ text) (rest : List Char) :
    tokensOf ('"' :: (text ++ '"' :: rest)) = text :: tokensOf rest := by
  rw [tokensOf, splitOnP_quote, splitOnP_append_cons_of_not_mem rest h]
  rfl

theorem tokensOf_unclosed {text : List Char} (h : '"' ∉ text) : tokensOf ('"' :: text) = [text] := by
  rw [tokensOf, splitOnP_quote, splitOnP_of_not_mem h]
  rfl

theorem tokensOf_word {text : String} (hw : IsWord text) {rest : List Char} (he : EndsWord rest) :
    tokensOf (text.toList ++ rest) = text.toList :: tokensOf rest := by
  have hwords := words_of_forall_false hw.ne_nil hw.noBlank
  cases rest with
  | nil =>
    rw [List.append_nil, tokensOf, splitOnP_of_not_mem hw.noQuote, tokensOutside, hwords]
    rfl
  | cons c rest =>
    rcases he c rfl with rfl | hb
    · rw [tokensOf, tokensOf, splitOnP_append_cons_of_not_mem rest hw.noQuote, splitOnP_quote,
        tokensOutside, tokensOutside, hwords]
      rfl
    · have hblank : IsGap [c] := by
        intro d hd
        rwa [List.mem_singleton.mp hd]
      have hmark : '"' ∉ text.toList ++ [c] := by
        rw [List.mem_append, not_or]
        exact ⟨hw.noQuote, hblank.not_mem⟩
      obtain ⟨piece, others, hrest⟩ := exists_tokensOf_append rest
      have hafter := hrest [c] hblank.not_mem
      rw [List.singleton_append, List.singleton_append, words_cons_of_blank piece hb] at hafter
      rw [List.append_cons, hrest _ hmark, ← List.append_cons,
        words_append_cons piece hw.ne_nil hw.noBlank hb, hafter, List.cons_append]

theorem Writing.tokensOf_eq {afterBare : Bool} {texts : List String} {rest : List Char}
    (h : Writing afterBare texts rest) : (tokensOf rest).map String.ofList = texts := by
  induction h with
  | done hg =>
    have hgap := hg.tokensOf_append []
    rw [List.append_nil] at hgap
    rw [hgap]
    rfl
  | bare hg _ hw h ih =>
    rw [hg.tokensOf_append, tokensOf_word hw h.endsWord, List.map_cons, ih, String.ofList_toList]
  | quoted hg hq _ ih =>
    rw [hg.tokensOf_append, tokensOf_quoted hq, List.map_cons, ih, String.ofList_toList]
  | unclosed hg hq =>
    rw [hg.tokensOf_append, tokensOf_unclosed hq, List.map_singleton, String.ofList_toList]

theorem exists_gap (line : List Char) :
    ∃ gap rest, line = gap ++ rest ∧ IsGap gap ∧ ∀ c ∈ rest.head?, isBlank c = false := by
  refine ⟨line.takeWhile isBlank, line.dropWhile isBlank, ?_, ?_, ?_⟩
  · exact List.takeWhile_append_dropWhile.symm
  · exact fun c hc => List.mem_takeWhile_imp hc
  · intro c hc
    have hhead := List.head?_dropWhile_not isBlank line
    rw [Option.mem_def.mp hc] at hhead
    simpa using hhead

def isBare (c : Char) : Bool :=
  !isBlank c && c != '"'

theorem isBare_iff {c : Char} : isBare c = true ↔ isBlank c = false ∧ c ≠ '"' := by
  simp [isBare]

theorem exists_word {c : Char} (rest : List Char) (hc : isBare c = true) :
    ∃ text after, c :: rest = String.toList text ++ after ∧ IsWord text ∧ EndsWord after := by
  refine ⟨String.ofList ((c :: rest).takeWhile isBare), (c :: rest).dropWhile isBare, ?_, ?_, ?_⟩
  · rw [String.toList_ofList]
    exact List.takeWhile_append_dropWhile.symm
  · constructor <;> rw [String.toList_ofList]
    · rw [List.takeWhile_cons_of_pos hc]
      exact List.cons_ne_nil c _
    · exact fun d hd => (isBare_iff.mp (List.mem_takeWhile_imp hd)).1
    · exact fun hm => (isBare_iff.mp (List.mem_takeWhile_imp hm)).2 rfl
  · intro d hd
    have hhead := List.head?_dropWhile_not isBare (c :: rest)
    rw [Option.mem_def.mp hd] at hhead
    by_contra hnone
    obtain ⟨hquote, hblank⟩ := not_or.mp hnone
    exact absurd (isBare_iff.mpr ⟨Bool.eq_false_iff.mpr hblank, hquote⟩) (Bool.eq_false_iff.mp hhead)

theorem exists_writing (afterBare : Bool) (line : List Char)
    (he : afterBare = true → EndsWord line) : ∃ texts, Writing afterBare texts line := by
  induction hn : line.length using Nat.strong_induction_on generalizing afterBare line with
  | _ n ih =>
    subst hn
    obtain ⟨gap, rest, rfl, hg, hhead⟩ := exists_gap line
    cases rest with
    | nil =>
      rw [List.append_nil]
      exact ⟨[], .done hg⟩
    | cons c rest =>
      have hb := hhead c rfl
      by_cases hc : c = '"'
      · subst hc
        by_cases hm : '"' ∈ rest
        · obtain ⟨text, after, rfl, ht⟩ := List.eq_append_cons_of_mem hm
          obtain ⟨texts, hafter⟩ := ih after.length (by simp; omega) false after (by simp) rfl
          rw [← String.toList_ofList (l := text)] at ht ⊢
          exact ⟨_, .quoted hg ht hafter⟩
        · rw [← String.toList_ofList (l := rest)] at hm ⊢
          exact ⟨_, .unclosed hg hm⟩
      · obtain ⟨text, after, hrest, hw, hend⟩ := exists_word rest (isBare_iff.mpr ⟨hb, hc⟩)
        rw [hrest] at ih he ⊢
        have hshort : after.length < (gap ++ (text.toList ++ after)).length := by
          have hpos := List.length_pos_iff.mpr hw.ne_nil
          rw [List.length_append, List.length_append]
          omega
        obtain ⟨texts, hafter⟩ := ih after.length hshort true after (fun _ => hend) rfl
        refine ⟨_, .bare hg ?_ hw hafter⟩
        -- Right after a bare word the line starts with white space, as its next token is bare.
        rintro hbare rfl
        rw [← hrest, List.nil_append] at he
        rcases he hbare c rfl with hquote | hblank
        · exact hc hquote
        · rw [hb] at hblank
          cases hblank

theorem Writing.noQuote {afterBare : Bool} {texts : List String} {rest : List Char}
    (h : Writing afterBare texts rest) : ∀ text ∈ texts, '"' ∉ text.toList := by
  induction h with
  | done => exact fun _ hm => absurd hm List.not_mem_nil
  | bare _ _ hw _ ih => exact List.forall_mem_cons.mpr ⟨hw.noQuote, ih⟩
  | quoted _ hq _ ih => exact List.forall_mem_cons.mpr ⟨hq, ih⟩
  | unclosed _ hq => exact List.forall_mem_cons.mpr ⟨hq, fun _ hm => absurd hm List.not_mem_nil⟩

theorem exists_writing_of_noQuote {texts : List String} (h : ∀ text ∈ texts, '"' ∉ text.toList) :
    ∃ rest, Writing false texts rest := by
  have hnone : IsGap [] := fun _ hc => absurd hc List.not_mem_nil
  induction texts with
  | nil => exact ⟨[], .done hnone⟩
  | cons text texts ih =>
    obtain ⟨ht, hothers⟩ := List.forall_mem_cons.mp h
    obtain ⟨rest, hrest⟩ := ih hothers
    exact ⟨_, .quoted hnone ht hrest⟩

/-- The tokens of a line are the texts that are written on it, in whatever way they are written;
and every list of texts without quotes can be written. -/
theorem tokens_eq_iff_written (texts : List String) :
    (∀ line, tokens line = texts ↔ Written texts line) ∧
      ((∃ line, Written texts line) ↔ ∀ text ∈ texts, '"' ∉ text.toList) := by
  refine ⟨fun line => ⟨?_, fun h => h.tokensOf_eq⟩, ?_, ?_⟩
  · rintro rfl
    obtain ⟨texts, h⟩ := exists_writing false line.toList (by simp)
    rw [tokens, ← tokensOf, h.tokensOf_eq]
    exact h
  · rintro ⟨line, h⟩
    exact h.noQuote
  · intro h
    obtain ⟨rest, hrest⟩ := exists_writing_of_noQuote h
    exact ⟨String.ofList rest, by rwa [Written, String.toList_ofList]⟩

end Authorship.Script
