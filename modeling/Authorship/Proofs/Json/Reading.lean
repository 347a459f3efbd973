import Authorship.Json.Reading
import Mathlib

namespace Authorship.Json

/-- The number of brackets and braces in a text that open a list or an object. -/
def openings (text : List Char) : Nat :=
  text.countP fun c => c == '[' || c == '\x7b'

theorem openings_le_of_suffix {rest text : List Char} (h : rest <:+ text) :
    openings rest ≤ openings text :=
  h.sublist.countP_le

/-- What a reader does that may go down a number of values: it gives an end of the text, and for
more it needs more openings. -/
def Reads {α : Type} (depth : Nat) (text : List Char) : Except Fault (α × List Char) → Prop
  | .ok (_, rest) => rest <:+ text
  | .error (.tooDeep _) => depth < openings text
  | .error _ => True

section Reads

variable {α β : Type} {depth : Nat} {text : List Char} {outcome : Except Fault (α × List Char)}

theorem Reads.of_suffix {rest : List Char} (hs : rest <:+ text)
    (h : Reads depth rest outcome) : Reads depth text outcome := by
  match outcome with
  | .ok (_, _) => exact List.IsSuffix.trans h hs
  | .error (.tooDeep _) => exact Nat.lt_of_lt_of_le h (openings_le_of_suffix hs)
  | .error (.malformed _ _) => trivial
  | .error (.tooManyDigits _) => trivial

theorem Reads.map (h : Reads depth text outcome) (f : α → β) :
    Reads depth text (outcome.map fun (a, rest) => (f a, rest)) := by
  match outcome with
  | .ok (_, _) => exact h
  | .error (.tooDeep _) => exact h
  | .error (.malformed _ _) => trivial
  | .error (.tooManyDigits _) => trivial

theorem Reads.bind {next : α × List Char → Except Fault (β × List Char)}
    (h : Reads depth text outcome)
    (hn : ∀ a rest, rest <:+ text → Reads depth text (next (a, rest))) :
    Reads depth text (outcome >>= next) := by
  match outcome with
  | .ok (a, rest) => exact hn a rest h
  | .error (.tooDeep _) => exact h
  | .error (.malformed _ _) => trivial
  | .error (.tooManyDigits _) => trivial

theorem Reads.opened {c : Char} {rest : List Char} (hc : (c == '[' || c == '\x7b') = true)
    (hs : text <:+ rest) (h : Reads depth text outcome) :
    Reads (depth + 1) (c :: rest) outcome := by
  have hopenings : openings (c :: rest) = openings rest + 1 := List.countP_cons_of_pos hc
  match outcome with
  | .ok (_, _) => exact List.IsSuffix.trans h (hs.trans (List.suffix_cons _ _))
  | .error (.tooDeep _) =>
    have hle := openings_le_of_suffix hs
    change depth < openings text at h
    change depth + 1 < openings (c :: rest)
    omega
  | .error (.malformed _ _) => trivial
  | .error (.tooManyDigits _) => trivial

end Reads

variable {depth : Nat}

theorem skipSpace_suffix (text : List Char) : skipSpace text <:+ text :=
  List.dropWhile_suffix _

theorem suffix_of_skipSpace {text rest after : List Char} {c : Char}
    (h : skipSpace rest = c :: after) (hs : rest <:+ text) : after <:+ text := by
  have hspace := skipSpace_suffix rest
  rw [h] at hspace
  exact (List.suffix_cons c after).trans (hspace.trans hs)

theorem readCode_error {text : List Char} {fault : Fault} (h : readCode text = .error fault) :
    ∃ remaining, fault = .malformed .badHexEscape remaining := by
  unfold readCode at h
  repeat' split at h
  all_goals cases h
  all_goals exact ⟨_, rfl⟩

theorem reads_readSymbols (opening : Nat) (text : List Char) :
    Reads depth text (readSymbols opening text) := by
  fun_induction readSymbols opening text with
  | case1 => trivial
  | case2 => exact List.suffix_cons _ _
  | case3 => trivial
  | case4 rest fault h =>
    obtain ⟨remaining, rfl⟩ := readCode_error h
    trivial
  | case5 rest symbol size h ih =>
    apply (ih.map _).of_suffix
    exact (List.drop_suffix _ _).trans ((List.suffix_cons _ _).trans (List.suffix_cons _ _))
  | case6 => trivial
  | case7 letter rest _ _ _ ih =>
    apply (ih.map _).of_suffix
    exact (List.suffix_cons _ _).trans (List.suffix_cons _ _)
  | case8 => trivial
  | case9 c rest _ _ _ _ _ ih => exact (ih.map _).of_suffix (List.suffix_cons _ _)

theorem takeWhole_suffix (text : List Char) : (takeWhole text).2 <:+ text := by
  unfold takeWhole
  split
  · exact List.suffix_cons _ _
  · rw [List.span_eq_takeWhile_dropWhile]
    exact List.dropWhile_suffix _

theorem takeFraction_suffix (text : List Char) : (takeFraction text).2 <:+ text := by
  unfold takeFraction
  split
  · dsimp only
    split
    · exact List.suffix_rfl
    · exact (List.dropWhile_suffix _).trans (List.suffix_cons _ _)
  · exact List.suffix_rfl

theorem takeExponent_suffix (text : List Char) : (takeExponent text).2 <:+ text := by
  unfold takeExponent
  split
  · exact List.suffix_rfl
  · split
    · dsimp only
      split
      · exact List.suffix_rfl
      · exact (List.dropWhile_suffix _).trans
          ((List.drop_suffix _ _).trans (List.suffix_cons _ _))
    · exact List.suffix_rfl

theorem reads_readNumber (text : List Char) : Reads depth text (readNumber text) := by
  have hminus : (text.span (· == '-')).2 <:+ text := by
    rw [List.span_eq_takeWhile_dropWhile]
    exact List.dropWhile_suffix _
  have hwhole := takeWhole_suffix (text.span (· == '-')).2
  have hfraction := takeFraction_suffix (takeWhole (text.span (· == '-')).2).2
  have hexponent := takeExponent_suffix (takeFraction (takeWhole (text.span (· == '-')).2).2).2
  unfold readNumber
  dsimp only
  repeat' split
  all_goals first
    | exact trivial
    | exact hexponent.trans (hfraction.trans (hwhole.trans hminus))

theorem reads_readPlain (text : List Char) : Reads depth text (readPlain text) := by
  unfold readPlain
  split
  · exact List.drop_suffix _ _
  · exact reads_readNumber text

section Items

variable {readItem : List Char → Outcome Json}

theorem reads_readItems (hr : ∀ text, Reads depth text (readItem text)) (bound : Nat)
    (text : List Char) : Reads depth text (readItems readItem bound text) := by
  induction bound generalizing text with
  | zero => trivial
  | succ bound ih =>
    rw [readItems]
    apply (hr text).bind
    intro item rest hs
    dsimp only
    split
    · rename_i after heq
      exact suffix_of_skipSpace heq hs
    · rename_i after heq
      have hafter := (skipSpace_suffix after).trans (suffix_of_skipSpace heq hs)
      apply ((ih _).of_suffix hafter).bind
      intro items rest hs
      exact hs
    · trivial

theorem reads_readMembers (hr : ∀ text, Reads depth text (readItem text)) (bound : Nat)
    (members : List (List Text.Symbol × Json)) (text : List Char) :
    Reads depth text (readMembers readItem members bound text) := by
  induction bound generalizing members text with
  | zero => trivial
  | succ bound ih =>
    rw [readMembers.eq_def]
    dsimp only
    split
    · rename_i start
      apply ((reads_readSymbols _ start).of_suffix (List.suffix_cons _ _)).bind
      intro name rest hs
      dsimp only
      split
      · rename_i after heq
        have hvalue := (skipSpace_suffix after).trans (suffix_of_skipSpace heq hs)
        apply ((hr _).of_suffix hvalue).bind
        intro value rest hs
        dsimp only
        split
        · rename_i after heq
          exact suffix_of_skipSpace heq hs
        · rename_i after heq
          apply (ih _ _).of_suffix
          exact (skipSpace_suffix after).trans (suffix_of_skipSpace heq hs)
        · trivial
      · trivial
    · trivial

end Items

theorem reads_readText (text : List Char) :
    Reads depth ('"' :: text)
      ((readText text).map fun (value, after) => (Json.string value, after)) :=
  ((reads_readSymbols _ text).map _).of_suffix (List.suffix_cons _ _)

theorem reads_readValue (depth : Nat) (text : List Char) :
    Reads depth text (readValue depth text) := by
  induction depth generalizing text with
  | zero =>
    rw [readValue.eq_def]
    split
    · exact reads_readText _
    · exact List.countP_pos_iff.mpr ⟨_, List.mem_cons_self, rfl⟩
    · exact List.countP_pos_iff.mpr ⟨_, List.mem_cons_self, rfl⟩
    · exact reads_readPlain _
  | succ depth ih =>
    rw [readValue.eq_def]
    split
    · exact reads_readText _
    · rename_i rest
      dsimp only
      split
      · rename_i after heq
        exact suffix_of_skipSpace heq (List.suffix_cons _ _)
      · exact ((reads_readItems ih _ _).map _).opened rfl (skipSpace_suffix rest)
    · rename_i rest
      dsimp only
      split
      · rename_i after heq
        exact suffix_of_skipSpace heq (List.suffix_cons _ _)
      · exact ((reads_readMembers ih _ _ _).map _).opened rfl (skipSpace_suffix rest)
    · exact reads_readPlain _

/-- A document that is too deep opens more lists and objects than may stand inside each other. -/
theorem depthLimit_lt_openings {document : List Char} {kind : Nesting}
    (h : read document = .error (.tooDeep kind)) : depthLimit < openings document := by
  unfold read at h
  split at h
  · cases h
  · have hvalue : Reads depthLimit document (readValue depthLimit (skipSpace document)) :=
      (reads_readValue _ _).of_suffix (skipSpace_suffix document)
    cases hr : readValue depthLimit (skipSpace document) with
    | error fault =>
      rw [hr] at h hvalue
      cases h
      exact hvalue
    | ok pair =>
      obtain ⟨value, rest⟩ := pair
      rw [hr] at h
      dsimp only [bind, Except.bind] at h
      split at h <;> cases h

theorem readValue_brackets (depth : Nat) (rest : List Char) :
    readValue depth (List.replicate (depth + 1) '[' ++ rest) = .error (.tooDeep .list) := by
  induction depth with
  | zero => rfl
  | succ depth ih =>
    have hinside (tail : List Char) : readValue (depth + 1) ('[' :: '[' :: tail) =
        (readItems (readValue depth) (tail.length + 1 + 1) ('[' :: tail)).map
          fun pair => (.list pair.1, pair.2) := rfl
    rw [List.replicate_succ, List.cons_append] at ih
    rw [List.replicate_succ, List.replicate_succ, List.cons_append, List.cons_append, hinside,
      readItems, ih]
    rfl

/-- What starts with more brackets than may stand inside each other is too deep. -/
theorem read_brackets {count : Nat} (h : depthLimit < count) (rest : List Char) :
    read (List.replicate count '[' ++ rest) = .error (.tooDeep .list) := by
  obtain ⟨more, rfl⟩ := Nat.exists_eq_add_of_lt h
  have hsplit : List.replicate (depthLimit + more + 1) '[' ++ rest =
      List.replicate (depthLimit + 1) '[' ++ (List.replicate more '[' ++ rest) := by
    rw [← List.append_assoc, ← List.replicate_add]
    congr 2
    omega
  have hspace (tail : List Char) : skipSpace (List.replicate (depthLimit + 1) '[' ++ tail) =
      List.replicate (depthLimit + 1) '[' ++ tail := rfl
  rw [hsplit, read, hspace, readValue_brackets]
  rfl

end Authorship.Json
