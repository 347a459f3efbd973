import Authorship.Proofs.Script.Token
import Mathlib.Data.List.Induction

namespace Authorship.Script

open Authorship.Text

/-- A pass over a line: the tokens that are complete, the one at hand, and whether that one stands
between quotes. -/
structure Scanner where
  found : List (List Char)
  current : List Char
  quoted : Bool

namespace Scanner

def start : Scanner := ⟨[], [], false⟩

/-- Completes the token at hand. Outside of quotes there is none if it has no character. -/
def complete (scanner : Scanner) : List (List Char) :=
  if scanner.quoted || !scanner.current.isEmpty then scanner.found ++ [scanner.current]
  else scanner.found

/-- A quote ends the token at hand, and so does white space outside of quotes; any other character
belongs to it. -/
def step (scanner : Scanner) (c : Char) : Scanner :=
  if c = '"' then ⟨scanner.complete, [], !scanner.quoted⟩
  else if scanner.quoted = false ∧ isBlank c = true then ⟨scanner.complete, [], false⟩
  else { scanner with current := scanner.current ++ [c] }

def scan (line : List Char) : List (List Char) :=
  (line.foldl step start).complete

end Scanner

/-- Whether what follows some characters stands between quotes: of these an odd number came before. -/
def isQuoted (before : List Char) : Bool :=
  before.count '"' % 2 == 1

/-- A line without its quotes and without the white space that is not between quotes. -/
def kept (line : List Char) : List Char :=
  (line.zipIdx.filter fun (c, i) => c != '"' && (isQuoted (line.take i) || !isBlank c)).map Prod.fst

theorem isQuoted_concat_quote (before : List Char) :
    isQuoted (before ++ ['"']) = !isQuoted before := by
  have hcount : (before ++ ['"']).count '"' = before.count '"' + 1 := by
    rw [List.count_append, List.count_singleton_self]
  rw [isQuoted, isQuoted, hcount, Bool.eq_iff_iff]
  simp only [beq_iff_eq, Bool.not_eq_true', beq_eq_false_iff_ne]
  omega

theorem isQuoted_concat_of_ne {c : Char} (before : List Char) (h : c ≠ '"') :
    isQuoted (before ++ [c]) = isQuoted before := by
  have hcount : (before ++ [c]).count '"' = before.count '"' := by
    rw [List.count_append, List.count_singleton, if_neg (by simpa using h), Nat.add_zero]
  rw [isQuoted, isQuoted, hcount]

theorem kept_concat (line : List Char) (c : Char) :
    kept (line ++ [c]) =
      kept line ++ if c != '"' && (isQuoted line || !isBlank c) then [c] else [] := by
  unfold kept
  rw [List.zipIdx_append, List.filter_append, List.map_append]
  congr 1
  · congr 1
    apply List.filter_congr
    rintro ⟨d, i⟩ hd
    have hlt := (List.mem_zipIdx hd).2.1
    have ht : (line ++ [c]).take i = line.take i := List.take_append_of_le_length (by omega)
    simp only [ht]
  · simp only [List.zipIdx_cons, List.zipIdx_nil, Nat.zero_add, List.take_left,
      List.filter_cons, List.filter_nil]
    split <;> rfl

structure Scanned (read : List Char) (scanner : Scanner) : Prop where
  quoted : scanner.quoted = isQuoted read
  kept : scanner.found.flatten ++ scanner.current = kept read
  found : ∀ token ∈ scanner.found, '"' ∉ token
  current : '"' ∉ scanner.current
  bare : scanner.quoted = false → ∀ c ∈ scanner.current, isBlank c = false

namespace Scanned

variable {read : List Char} {scanner : Scanner}

theorem flatten_complete (h : Scanned read scanner) :
    scanner.complete.flatten = Script.kept read := by
  rw [← h.kept, Scanner.complete]
  split
  · rw [List.flatten_append, List.flatten_singleton]
  · rename_i hnone
    have hempty : scanner.current = [] := by
      simp only [Bool.or_eq_true, Bool.not_eq_true', not_or, Bool.not_eq_false] at hnone
      exact List.isEmpty_iff.mp hnone.2
    rw [hempty, List.append_nil]

theorem not_mem_of_mem_complete (h : Scanned read scanner) {token : List Char}
    (ht : token ∈ scanner.complete) : '"' ∉ token := by
  rw [Scanner.complete] at ht
  split at ht
  · rcases List.mem_append.mp ht with ht | ht
    · exact h.found token ht
    · rw [List.mem_singleton.mp ht]
      exact h.current
  · exact h.found token ht

/-- Every character keeps what was said of those before it. -/
theorem step (h : Scanned read scanner) (c : Char) :
    Scanned (read ++ [c]) (scanner.step c) := by
  unfold Scanner.step
  split
  · rename_i hc
    subst hc
    refine ⟨?_, ?_, fun _ => h.not_mem_of_mem_complete, List.not_mem_nil, by simp⟩
    · rw [isQuoted_concat_quote, h.quoted]
    · rw [kept_concat, h.flatten_complete]
      rfl
  · rename_i hc
    have hquoted := isQuoted_concat_of_ne read hc
    split
    · rename_i hblank
      refine ⟨?_, ?_, fun _ => h.not_mem_of_mem_complete, List.not_mem_nil, by simp⟩
      · rw [hquoted, ← h.quoted, hblank.1]
      · rw [kept_concat, h.flatten_complete, ← h.quoted, hblank.1, hblank.2]
        simp
    · rename_i hplain
      have hkept : (c != '"' && (isQuoted read || !isBlank c)) = true := by
        rw [← h.quoted]
        cases hq : scanner.quoted <;> simp_all
      refine ⟨?_, ?_, h.found, ?_, ?_⟩
      · rw [hquoted, ← h.quoted]
      · rw [kept_concat, if_pos hkept, ← h.kept, List.append_assoc]
      · simp only [List.mem_append, List.mem_singleton, not_or]
        exact ⟨h.current, Ne.symm hc⟩
      · intro hbare d hd
        rcases List.mem_append.mp hd with hd | hd
        · exact h.bare hbare d hd
        · rw [List.mem_singleton.mp hd]
          exact Bool.eq_false_iff.mpr fun hb => hplain ⟨hbare, hb⟩

theorem start : Scanned [] Scanner.start :=
  ⟨rfl, rfl, by simp [Scanner.start], List.not_mem_nil, by simp [Scanner.start]⟩

theorem foldl (line : List Char) : Scanned line (line.foldl Scanner.step Scanner.start) := by
  induction line using List.reverseRecOn with
  | nil => exact start
  | append_singleton line c ih =>
    rw [List.foldl_append]
    exact ih.step c

end Scanned

/-- The tokens of a line of which a pass has yet to read the rest, by the pieces between the
quotes. -/
def Scanner.ahead (scanner : Scanner) (rest : List Char) : List (List Char) :=
  let pieces := (scanner.current ++ rest).splitOnP (· == '"')
  scanner.found ++ if scanner.quoted then tokensInside pieces else tokensOutside pieces

namespace Scanned

variable {read : List Char} {scanner : Scanner}

theorem complete_eq (h : Scanned read scanner) : scanner.complete = scanner.ahead [] := by
  rw [Scanner.ahead, List.append_nil, splitOnP_of_not_mem h.current, Scanner.complete]
  cases hq : scanner.quoted with
  | true => rfl
  | false =>
    simp only [tokensOutside, tokensInside, words_of_not_blank (h.bare hq)]
    cases scanner.current <;> simp

theorem ahead_quote (h : Scanned read scanner) (rest : List Char) :
    scanner.ahead ('"' :: rest) =
      Scanner.ahead ⟨scanner.complete, [], !scanner.quoted⟩ rest := by
  rw [h.complete_eq, Scanner.ahead, Scanner.ahead, Scanner.ahead, List.append_nil,
    splitOnP_append_cons_of_not_mem rest h.current, splitOnP_of_not_mem h.current]
  cases scanner.quoted <;> simp [tokensInside, tokensOutside]

theorem ahead_blank (h : Scanned read scanner) (hq : scanner.quoted = false) {c : Char}
    (hb : isBlank c = true) (rest : List Char) :
    scanner.ahead (c :: rest) = Scanner.ahead ⟨scanner.complete, [], false⟩ rest := by
  have hc : '"' ∉ scanner.current ++ [c] := by
    rw [List.mem_append, List.mem_singleton, not_or]
    refine ⟨h.current, ?_⟩
    rintro rfl
    exact absurd hb (by decide)
  obtain ⟨piece, others, hrest⟩ := List.exists_cons_of_ne_nil (List.splitOnP_ne_nil (· == '"') rest)
  have hpieces : (scanner.current ++ c :: rest).splitOnP (· == '"') =
      (scanner.current ++ c :: piece) :: others := by
    rw [List.append_cons, splitOnP_append_of_not_mem rest hc, hrest, List.modifyHead_cons,
      ← List.append_cons]
  have hwords := words_append_blank piece (h.bare hq) hb
  simp only [Scanner.ahead, hpieces, List.nil_append, hrest, tokensOutside, hwords,
    Scanner.complete, hq]
  cases scanner.current <;> simp

theorem ahead_step (h : Scanned read scanner) (c : Char) (rest : List Char) :
    (scanner.step c).ahead rest = scanner.ahead (c :: rest) := by
  unfold Scanner.step
  split
  · rename_i hc
    subst hc
    exact (h.ahead_quote rest).symm
  · split
    · rename_i hblank
      exact (h.ahead_blank hblank.1 hblank.2 rest).symm
    · rw [Scanner.ahead, Scanner.ahead, List.append_assoc]
      rfl

theorem complete_foldl (h : Scanned read scanner) (rest : List Char) :
    (rest.foldl Scanner.step scanner).complete = scanner.ahead rest := by
  induction rest generalizing read scanner with
  | nil => exact h.complete_eq
  | cons c rest ih => rw [List.foldl_cons, ih (h.step c), h.ahead_step]

end Scanned

/-- One pass over a line finds its tokens. No token has a quote in it, and together they are the line
without its quotes and without the white space outside of them. -/
theorem tokens_eq_scan (line : String) :
    tokens line = (Scanner.scan line.toList).map String.ofList ∧
      (∀ token ∈ tokens line, '"' ∉ token.toList) ∧
      (tokens line).flatMap String.toList = kept line.toList := by
  have hscan : tokensOutside (line.toList.splitOnP (· == '"')) = Scanner.scan line.toList :=
    (Scanned.start.complete_foldl line.toList).symm
  have htokens : tokens line = (Scanner.scan line.toList).map String.ofList := by
    rw [tokens, hscan]
  have hscanned := Scanned.foldl line.toList
  refine ⟨htokens, ?_, ?_⟩
  · intro token ht
    rw [htokens] at ht
    obtain ⟨chars, hc, rfl⟩ := List.mem_map.mp ht
    rw [String.toList_ofList]
    exact hscanned.not_mem_of_mem_complete hc
  · rw [htokens, List.flatMap_map, ← hscanned.flatten_complete]
    simp [List.flatMap, Scanner.scan]

/-- Quotes at words, an empty text between quotes, and a quote without a partner. -/
example : tokens "a\"b \"\"\"c \" d" = ["a", "b ", "", "c", " d"] := by
  decide +kernel

end Authorship.Script
