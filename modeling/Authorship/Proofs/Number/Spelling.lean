import Authorship.Proofs.Number.Integer
import Mathlib.Data.List.Basic
import Mathlib.Data.Nat.Digits.Defs

namespace Authorship.Number

open Authorship.Text

/-- The digits that a text spells, with single underscores between them. -/
inductive SpellsDigits : List Char → List Nat → Prop
  | last {c : Char} {digit : Nat} (h : digitValue? c = some digit) : SpellsDigits [c] [digit]
  | next {c : Char} {digit : Nat} {text : List Char} {digits : List Nat}
      (h : digitValue? c = some digit) (hs : SpellsDigits text digits) :
      SpellsDigits (c :: text) (digit :: digits)
  | apart {c : Char} {digit : Nat} {text : List Char} {digits : List Nat}
      (h : digitValue? c = some digit) (hs : SpellsDigits text digits) :
      SpellsDigits (c :: '_' :: text) (digit :: digits)

/-- White space that may stand around a number: all but the control separators. -/
def isMargin (c : Char) : Bool :=
  isBlank c && !(28 ≤ c.toNat && c.toNat ≤ 31)

inductive Sign
  | none
  | plus
  | minus

namespace Sign

def text : Sign → List Char
  | none => []
  | plus => ['+']
  | minus => ['-']

def isMinus : Sign → Bool
  | minus => true
  | _ => false

def apply (sign : Sign) (n : Nat) : Int :=
  if sign.isMinus then -(n : Int) else n

end Sign

inductive Spells : List Char → Int → Prop
  | intro {before body after : List Char} {digits : List Nat} (sign : Sign)
      (hbefore : ∀ c ∈ before, isMargin c = true) (hbody : SpellsDigits body digits)
      (hafter : ∀ c ∈ after, isMargin c = true) (hshort : digits.length ≤ digitLimit) :
      Spells (before ++ (sign.text ++ body) ++ after) (sign.apply (Nat.ofDigits 10 digits.reverse))

section Characters

variable {c : Char} {digit : Nat}

theorem isBlank_of_digitZeros : ∀ start ∈ digitZeros, ∀ digit ≤ 9,
    isBlank (Char.ofNat (start + digit)) = false := by
  decide +kernel

theorem not_blank_of_digitValue? (hc : 128 ≤ c.toNat) (h : digitValue? c = some digit) :
    digit ≤ 9 ∧ isBlank c = false := by
  rw [digitValue?, if_neg (by omega)] at h
  obtain ⟨start, hfound, hdigit⟩ := Option.map_eq_some_iff.mp h
  have hin := List.find?_some hfound
  simp only [Bool.and_eq_true, decide_eq_true_eq] at hin
  have hle : digit ≤ 9 := by omega
  have hblank := isBlank_of_digitZeros start (List.mem_of_find?_eq_some hfound) digit hle
  rw [show start + digit = c.toNat by omega, Char.ofNat_toNat] at hblank
  exact ⟨hle, hblank⟩

theorem toNat_digit : ∀ digit ≤ 9, (Char.ofNat (48 + digit)).toNat = 48 + digit := by
  decide

theorem eq_digit_iff (h : digit ≤ 9) : c = Char.ofNat (48 + digit) ↔ c.toNat = 48 + digit := by
  rw [← Char.toNat_inj, toNat_digit digit h]

theorem isDigit_iff_exists : c.isDigit = true ↔ ∃ digit ≤ 9, c = Char.ofNat (48 + digit) := by
  rw [isDigit_iff]
  constructor
  · rintro ⟨hlow, hhigh⟩
    exact ⟨c.toNat - 48, by omega, (eq_digit_iff (by omega)).mpr (by omega)⟩
  · rintro ⟨digit, hle, rfl⟩
    rw [toNat_digit digit hle]
    omega

theorem plainChar_of_not_lt (h : ¬ c.toNat < 127) :
    (digitValue? c = none ∧ plainChar c = if isBlank c then ' ' else '?') ∨
    ∃ digit ≤ 9, isBlank c = false ∧ digitValue? c = some digit ∧
      plainChar c = Char.ofNat (48 + digit) := by
  rw [plainChar, if_neg h]
  cases hd : digitValue? c with
  | none => exact .inl ⟨rfl, rfl⟩
  | some digit =>
    have hc : 128 ≤ c.toNat := by
      by_contra hlow
      rw [digitValue?, if_pos (by omega), if_neg] at hd
      · cases hd
      · rw [isDigit_iff]
        omega
    obtain ⟨hle, hb⟩ := not_blank_of_digitValue? hc hd
    exact .inr ⟨digit, hle, hb, rfl, by rw [hb]; rfl⟩

theorem digitValue?_eq_some_iff :
    digitValue? c = some digit ↔ digit ≤ 9 ∧ plainChar c = Char.ofNat (48 + digit) := by
  by_cases hlow : c.toNat < 127
  · rw [plainChar_of_lt hlow, digitValue?, if_pos (by omega)]
    split
    · rename_i hd
      rw [isDigit_iff] at hd
      rw [Option.some_inj]
      constructor
      · rintro rfl
        exact ⟨by omega, (eq_digit_iff (by omega)).mpr (by omega)⟩
      · rintro ⟨hle, hc⟩
        rw [eq_digit_iff hle] at hc
        omega
    · rename_i hd
      simp only [reduceCtorEq, false_iff]
      rintro ⟨hle, hc⟩
      exact hd (isDigit_iff_exists.mpr ⟨digit, hle, hc⟩)
  · rcases plainChar_of_not_lt hlow with ⟨hd, hp⟩ | ⟨other, ho, -, hd, hp⟩
    · simp only [hd, reduceCtorEq, false_iff]
      rintro ⟨hle, hc⟩
      rw [eq_digit_iff hle, hp] at hc
      split at hc
      · have hspace : 32 = 48 + digit := hc
        omega
      · have hmark : 63 = 48 + digit := hc
        omega
    · rw [hd, hp, Option.some_inj]
      constructor
      · rintro rfl
        exact ⟨ho, rfl⟩
      · rintro ⟨hle, hc⟩
        rw [eq_digit_iff hle, toNat_digit other ho] at hc
        omega

theorem isDigit_plainChar_iff :
    (plainChar c).isDigit = true ↔ ∃ digit, digitValue? c = some digit := by
  simp only [isDigit_iff_exists, digitValue?_eq_some_iff]

theorem isNumeralSpace_iff :
    isNumeralSpace c = true ↔ (9 ≤ c.toNat ∧ c.toNat ≤ 13) ∨ c.toNat = 32 := by
  have hspace : c = ' ' ↔ c.toNat = 32 := by
    rw [← Char.toNat_inj]
    rfl
  simp only [isNumeralSpace, Bool.or_eq_true, Bool.and_eq_true, decide_eq_true_eq, beq_iff_eq,
    hspace]

theorem isMargin_of_lt (h : c.toNat < 127) :
    isMargin c = true ↔ (9 ≤ c.toNat ∧ c.toNat ≤ 13) ∨ c.toNat = 32 := by
  simp only [isMargin, isBlank, Bool.or_eq_true, Bool.and_eq_true, Bool.not_eq_true',
    Bool.and_eq_false_iff, decide_eq_true_eq, decide_eq_false_iff_not, beq_iff_eq]
  omega

theorem isNumeralSpace_plainChar : isNumeralSpace (plainChar c) = isMargin c := by
  rw [Bool.eq_iff_iff]
  by_cases hlow : c.toNat < 127
  · rw [plainChar_of_lt hlow, isNumeralSpace_iff, isMargin_of_lt hlow]
  · have hmargin : isMargin c = isBlank c := by
      rw [isMargin, decide_eq_false (by omega : ¬ c.toNat ≤ 31), Bool.and_false]
      exact Bool.and_true _
    rw [hmargin]
    rcases plainChar_of_not_lt hlow with ⟨-, hp⟩ | ⟨digit, hle, hb, -, hp⟩
    · rw [hp]
      cases isBlank c <;> decide
    · have hdigit := toNat_digit digit hle
      rw [hp, hb, isNumeralSpace_iff]
      simp only [Bool.false_eq_true, iff_false]
      omega

theorem isMargin_of_digitValue? (h : digitValue? c = some digit) : isMargin c = false := by
  obtain ⟨hle, hp⟩ := digitValue?_eq_some_iff.mp h
  have hdigit := toNat_digit digit hle
  rw [← isNumeralSpace_plainChar, ← Bool.not_eq_true, hp, isNumeralSpace_iff]
  omega

theorem plainChar_eq_iff {mark : Char} (hlow : 63 < mark.toNat ∨ mark.toNat < 48)
    (hhigh : mark.toNat < 127) (hspace : mark.toNat ≠ 32) : plainChar c = mark ↔ c = mark := by
  by_cases hc : c.toNat < 127
  · rw [plainChar_of_lt hc]
  · have hne : c ≠ mark := by
      rintro rfl
      exact hc hhigh
    simp only [hne, iff_false]
    rintro rfl
    rcases plainChar_of_not_lt hc with ⟨-, hp⟩ | ⟨digit, hle, -, -, hp⟩
    · rw [hp] at hlow hspace
      revert hlow hspace
      cases isBlank c <;> decide
    · rw [hp, toNat_digit digit hle] at hlow
      omega

end Characters

def asciiDigits (digits : List Nat) : List Char :=
  digits.map fun digit => Char.ofNat (48 + digit)

namespace SpellsDigits

variable {body : List Char} {digits : List Nat}

theorem exists_cons (h : SpellsDigits body digits) :
    ∃ c rest digit, body = c :: rest ∧ digitValue? c = some digit := by
  cases h with
  | last h => exact ⟨_, _, _, rfl, h⟩
  | next h => exact ⟨_, _, _, rfl, h⟩
  | apart h => exact ⟨_, _, _, rfl, h⟩

theorem ne_nil (h : SpellsDigits body digits) : digits ≠ [] := by
  cases h <;> exact List.cons_ne_nil _ _

theorem le_nine (h : SpellsDigits body digits) : ∀ digit ∈ digits, digit ≤ 9 := by
  induction h with
  | last h => exact List.forall_mem_singleton.mpr (digitValue?_eq_some_iff.mp h).1
  | next h _ ih => exact List.forall_mem_cons.mpr ⟨(digitValue?_eq_some_iff.mp h).1, ih⟩
  | apart h _ ih => exact List.forall_mem_cons.mpr ⟨(digitValue?_eq_some_iff.mp h).1, ih⟩

theorem isMargin_eq_false (h : SpellsDigits body digits) : ∀ c ∈ body, isMargin c = false := by
  induction h with
  | last h => exact List.forall_mem_singleton.mpr (isMargin_of_digitValue? h)
  | next h _ ih => exact List.forall_mem_cons.mpr ⟨isMargin_of_digitValue? h, ih⟩
  | apart h _ ih =>
    exact List.forall_mem_cons.mpr ⟨isMargin_of_digitValue? h, List.forall_mem_cons.mpr ⟨rfl, ih⟩⟩

end SpellsDigits

section DigitRun

variable {digitBefore : Bool} {c : Char} {digit : Nat}

theorem digitRun?_of_digit (h : digitValue? c = some digit) (rest : List Char) :
    digitRun? digitBefore (plainChar c :: rest) =
      (digitRun? true rest).map fun (run, after) => (Char.ofNat (48 + digit) :: run, after) := by
  have hd : (plainChar c).isDigit = true := isDigit_plainChar_iff.mpr ⟨digit, h⟩
  rw [digitRun?.eq_def]
  dsimp only
  rw [if_pos hd, (digitValue?_eq_some_iff.mp h).2]

theorem digitRun?_of_underscore (h : digitValue? c = some digit) (rest : List Char) :
    digitRun? true ('_' :: plainChar c :: rest) = digitRun? false (plainChar c :: rest) := by
  have hd : (plainChar c).isDigit = true := isDigit_plainChar_iff.mpr ⟨digit, h⟩
  rw [digitRun?.eq_def]
  simp [hd]

end DigitRun

theorem SpellsDigits.digitRun? {body : List Char} {digits : List Nat} (h : SpellsDigits body digits)
    (digitBefore : Bool) :
    Number.digitRun? digitBefore (body.map plainChar) = some (asciiDigits digits, []) := by
  induction h generalizing digitBefore with
  | last h =>
    rw [List.map_singleton, digitRun?_of_digit h]
    rfl
  | next h hs ih =>
    rw [List.map_cons, digitRun?_of_digit h, ih]
    rfl
  | apart h hs ih =>
    obtain ⟨c, rest, digit, rfl, hc⟩ := hs.exists_cons
    have hrest := ih false
    rw [List.map_cons] at hrest
    rw [List.map_cons, List.map_cons, List.map_cons, digitRun?_of_digit h,
      show plainChar '_' = '_' from rfl, digitRun?_of_underscore hc, hrest]
    rfl

theorem digitRun?_of_not_digit {digitBefore : Bool} {c : Char} {rest run : List Char}
    (hd : ¬ c.isDigit = true) (h : digitRun? digitBefore (c :: rest) = some (run, [])) :
    c = '_' ∧ digitBefore = true ∧ rest ≠ [] ∧ digitRun? false rest = some (run, []) := by
  rw [digitRun?.eq_def] at h
  dsimp only at h
  rw [if_neg hd] at h
  split at h
  · rename_i hunderscore
    split at h
    · cases h
    · rename_i next after
      split at h
      · rename_i hnext
        exact ⟨beq_iff_eq.mp hunderscore, (Bool.and_eq_true_iff.mp hnext).1,
          List.cons_ne_nil next after, h⟩
      · cases h
  · cases h

theorem spellsDigits_of_digitRun? {digitBefore : Bool} {body run : List Char} (hbody : body ≠ [])
    (h : digitRun? digitBefore (body.map plainChar) = some (run, [])) :
    ∃ digits, run = asciiDigits digits ∧ (SpellsDigits body digits ∨
      digitBefore = true ∧ ∃ rest, body = '_' :: rest ∧ SpellsDigits rest digits) := by
  -- After a digit the rest may start with an underscore, which spells nothing by itself.
  induction body generalizing digitBefore run with
  | nil => exact absurd rfl hbody
  | cons c body ih =>
    rw [List.map_cons] at h
    by_cases hd : (plainChar c).isDigit = true
    · obtain ⟨digit, hc⟩ := isDigit_plainChar_iff.mp hd
      rw [digitRun?_of_digit hc] at h
      obtain ⟨⟨others, after⟩, hrun, hsame⟩ := Option.map_eq_some_iff.mp h
      cases hsame
      by_cases hlast : body = []
      · subst hlast
        cases hrun
        exact ⟨[digit], rfl, .inl (.last hc)⟩
      · rcases ih hlast hrun with ⟨digits, rfl, hs | ⟨-, rest, rfl, hs⟩⟩
        · exact ⟨digit :: digits, rfl, .inl (.next hc hs)⟩
        · exact ⟨digit :: digits, rfl, .inl (.apart hc hs)⟩
    · obtain ⟨hunderscore, hbefore, hrest, hrun⟩ := digitRun?_of_not_digit hd h
      rw [plainChar_eq_iff (by decide) (by decide) (by decide)] at hunderscore
      have hlater : body ≠ [] := fun hnil => hrest (by rw [hnil]; rfl)
      rcases ih hlater hrun with ⟨digits, hdigits, hs | ⟨hfalse, -⟩⟩
      · exact ⟨digits, hdigits, .inr ⟨hbefore, body, by rw [hunderscore], hs⟩⟩
      · cases hfalse

theorem digitRun?_eq_some_iff {body run : List Char} (hbody : body ≠ []) :
    digitRun? false (body.map plainChar) = some (run, []) ↔
      ∃ digits, run = asciiDigits digits ∧ SpellsDigits body digits := by
  constructor
  · intro h
    obtain ⟨digits, hdigits, hs | ⟨hfalse, -⟩⟩ := spellsDigits_of_digitRun? hbody h
    · exact ⟨digits, hdigits, hs⟩
    · cases hfalse
  · rintro ⟨digits, rfl, hs⟩
    exact hs.digitRun? false

theorem ofDigits_asciiDigits {digits : List Nat} (h : ∀ digit ∈ digits, digit ≤ 9) :
    ofDigits (asciiDigits digits) = Nat.ofDigits 10 digits.reverse := by
  rw [Nat.ofDigits_eq_foldr, List.foldr_reverse, ofDigits, asciiDigits, List.foldl_map]
  apply List.foldl_ext
  intro value digit hd
  rw [digitOf, toNat_digit digit (h digit hd), Nat.cast_id]
  omega

theorem plainNumeral_eq (text : List Char) :
    plainNumeral text = (trimOf isMargin text).map plainChar := by
  have hsame : isNumeralSpace ∘ plainChar = isMargin := funext fun _ => isNumeralSpace_plainChar
  rw [plainNumeral, trimOf, trimOf, dropEnd, dropEnd, List.dropWhile_map, hsame, ← List.map_reverse,
    List.dropWhile_map, hsame, ← List.map_reverse]

theorem Sign.isMargin_of_mem (sign : Sign) : ∀ c ∈ sign.text, isMargin c = false := by
  cases sign with
  | none => exact fun _ hc => absurd hc List.not_mem_nil
  | plus => exact List.forall_mem_singleton.mpr rfl
  | minus => exact List.forall_mem_singleton.mpr rfl

theorem exists_takeSign (core : List Char) :
    ∃ (sign : Sign) (body : List Char), core = sign.text ++ body ∧
      takeSign (core.map plainChar) = (sign.isMinus, body.map plainChar) := by
  cases hcore : core.map plainChar with
  | nil => exact ⟨.none, [], List.map_eq_nil_iff.mp hcore, rfl⟩
  | cons p rest =>
    obtain ⟨c, body, rfl, rfl, rfl⟩ := List.map_eq_cons_iff.mp hcore
    by_cases hm : plainChar c = '-'
    · have hc : c = '-' := (plainChar_eq_iff (by decide) (by decide) (by decide)).mp hm
      exact ⟨.minus, body, by rw [hc]; rfl, by rw [hm]; rfl⟩
    · by_cases hp : plainChar c = '+'
      · have hc : c = '+' := (plainChar_eq_iff (by decide) (by decide) (by decide)).mp hp
        exact ⟨.plus, body, by rw [hc]; rfl, by rw [hp]; rfl⟩
      · exact ⟨.none, c :: body, rfl, takeSign_cons_of_ne hm hp _⟩

theorem SpellsDigits.takeSign {body : List Char} {digits : List Nat} (h : SpellsDigits body digits)
    (sign : Sign) :
    Number.takeSign ((sign.text ++ body).map plainChar) = (sign.isMinus, body.map plainChar) := by
  cases sign with
  | minus => rfl
  | plus => rfl
  | none =>
    obtain ⟨c, rest, digit, rfl, hc⟩ := h.exists_cons
    exact takeSign_cons_of_isDigit (isDigit_plainChar_iff.mpr ⟨digit, hc⟩) _

theorem readInteger_of_takeSign {text body : List Char} {negative : Bool} {n : Int}
    (hsign : takeSign (plainNumeral text) = (negative, body)) :
    readInteger text = .ok n ↔ ∃ run, digitRun? false body = some (run, []) ∧ run ≠ [] ∧
      run.length ≤ digitLimit ∧ n = if negative then -(ofDigits run : Int) else ofDigits run := by
  simp only [readInteger, hsign]
  cases hrun : digitRun? false body with
  | none => simp
  | some found =>
    obtain ⟨run, after⟩ := found
    by_cases hlong : digitLimit < run.length
    · simp [hlong]
    · simp only [hlong, if_false, Option.some.injEq, Prod.mk.injEq]
      split
      · rename_i hrest
        simp only [reduceCtorEq, false_iff]
        rintro ⟨_, ⟨rfl, rfl⟩, hne, -⟩
        simp [hne] at hrest
      · rename_i hrest
        simp only [Bool.or_eq_true, List.isEmpty_iff, Bool.not_eq_true', List.isEmpty_eq_false_iff,
          not_or, not_not] at hrest
        rw [Except.ok.injEq, eq_comm]
        constructor
        · rintro rfl
          exact ⟨run, ⟨rfl, hrest.2⟩, hrest.1, Nat.not_lt.mp hlong, rfl⟩
        · rintro ⟨_, ⟨rfl, -⟩, -, -, rfl⟩
          rfl

theorem Spells.readInteger {text : List Char} {n : Int} (h : Spells text n) :
    Number.readInteger text = .ok n := by
  cases h with
  | @intro before body after digits sign hb hs ha hshort =>
    have hbody : body ≠ [] := by
      obtain ⟨c, rest, digit, rfl, -⟩ := hs.exists_cons
      exact List.cons_ne_nil c rest
    have hcore : trimOf isMargin (before ++ (sign.text ++ body) ++ after) = sign.text ++ body := by
      apply trimOf_append_append (List.append_ne_nil_of_right_ne_nil _ hbody) hb _ ha
      intro c hc
      rcases List.mem_append.mp hc with hc | hc
      · exact sign.isMargin_of_mem c hc
      · exact hs.isMargin_eq_false c hc
    have hsign : takeSign (plainNumeral (before ++ (sign.text ++ body) ++ after)) =
        (sign.isMinus, body.map plainChar) := by
      rw [plainNumeral_eq, hcore, hs.takeSign]
    have hrun := (digitRun?_eq_some_iff hbody).mpr ⟨digits, rfl, hs⟩
    refine (readInteger_of_takeSign hsign).mpr ⟨asciiDigits digits, hrun, ?_, ?_, ?_⟩
    · exact fun hnil => hs.ne_nil (List.map_eq_nil_iff.mp hnil)
    · rwa [asciiDigits, List.length_map]
    · rw [ofDigits_asciiDigits hs.le_nine]
      rfl

theorem spells_of_readInteger {text : List Char} {n : Int} (h : readInteger text = .ok n) :
    Spells text n := by
  obtain ⟨before, after, htext, hb, ha⟩ := exists_trimOf isMargin text
  obtain ⟨sign, body, hcore, hsign⟩ := exists_takeSign (trimOf isMargin text)
  rw [← plainNumeral_eq] at hsign
  obtain ⟨run, hrun, hne, hshort, rfl⟩ := (readInteger_of_takeSign hsign).mp h
  have hbody : body ≠ [] := by
    rintro rfl
    cases hrun
    exact hne rfl
  obtain ⟨digits, rfl, hs⟩ := (digitRun?_eq_some_iff hbody).mp hrun
  rw [asciiDigits, List.length_map] at hshort
  rw [htext, hcore, ofDigits_asciiDigits hs.le_nine]
  exact .intro sign hb hs ha hshort

/-- Exactly the texts that spell an integer are read, each as the integer that it spells. -/
theorem readInteger_eq_ok_iff {text : List Char} {n : Int} :
    readInteger text = .ok n ↔ Spells text n :=
  ⟨spells_of_readInteger, Spells.readInteger⟩

end Authorship.Number
