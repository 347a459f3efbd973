import Authorship.Number.Integer
import Authorship.Proofs.Text.Piece

namespace Authorship.Number

open Authorship.Text

structure IsDecimal (digits : List Char) : Prop where
  ne_nil : digits ≠ []
  digit : ∀ c ∈ digits, c.isDigit = true
  short : digits.length ≤ digitLimit

instance (digits : List Char) : Decidable (IsDecimal digits) :=
  decidable_of_iff
    (digits ≠ [] ∧ digits.all Char.isDigit = true ∧ digits.length ≤ digitLimit)
    ⟨fun ⟨hne, hd, hs⟩ => ⟨hne, List.all_eq_true.mp hd, hs⟩,
      fun h => ⟨h.ne_nil, List.all_eq_true.mpr h.digit, h.short⟩⟩

theorem isDigit_iff {c : Char} : c.isDigit = true ↔ 48 ≤ c.toNat ∧ c.toNat ≤ 57 :=
  Char.isDigit_iff_toNat

theorem toNat_of_isDigit {c : Char} (h : c.isDigit = true) : 48 ≤ c.toNat ∧ c.toNat ≤ 57 :=
  isDigit_iff.mp h

theorem plainChar_of_lt {c : Char} (h : c.toNat < 127) : plainChar c = c := by
  rw [plainChar, if_pos h]

theorem plainNumeral_of_forall {text : List Char} (h : ∀ c ∈ text, 32 < c.toNat ∧ c.toNat < 127) :
    plainNumeral text = text := by
  have hmap : text.map plainChar = text.map id :=
    List.map_congr_left fun c hc => plainChar_of_lt (h c hc).2
  have hspace : ∀ c ∈ text, isNumeralSpace c = false := by
    intro c hc
    have hlow := (h c hc).1
    have hne : c ≠ ' ' := by
      rintro rfl
      exact absurd hlow (by decide)
    simp only [isNumeralSpace, Bool.or_eq_false_iff, Bool.and_eq_false_iff, decide_eq_false_iff_not,
      beq_eq_false_iff_ne]
    exact ⟨.inr (by omega), hne⟩
  rw [plainNumeral, hmap, List.map_id, trimOf_of_forall_false hspace]

theorem digitRun?_of_forall {digits : List Char} (digitBefore : Bool)
    (h : ∀ c ∈ digits, c.isDigit = true) : digitRun? digitBefore digits = some (digits, []) := by
  induction digits generalizing digitBefore with
  | nil => rfl
  | cons c digits ih =>
    rw [digitRun?.eq_def]
    dsimp only
    rw [if_pos (h c List.mem_cons_self),
      ih true fun other ho => h other (List.mem_cons_of_mem c ho)]
    rfl

theorem takeSign_cons_of_ne {c : Char} (hm : c ≠ '-') (hp : c ≠ '+') (rest : List Char) :
    takeSign (c :: rest) = (false, c :: rest) := by
  unfold takeSign
  split
  · rename_i hc
    exact absurd (List.head_eq_of_cons_eq hc) hm
  · rename_i hc
    exact absurd (List.head_eq_of_cons_eq hc) hp
  · rfl

theorem takeSign_cons_of_isDigit {c : Char} (h : c.isDigit = true) (rest : List Char) :
    takeSign (c :: rest) = (false, c :: rest) := by
  apply takeSign_cons_of_ne
  · rintro rfl
    cases h
  · rintro rfl
    cases h

theorem takeSign_of_isDigit {digits : List Char} (h : ∀ c ∈ digits, c.isDigit = true) :
    takeSign digits = (false, digits) := by
  cases digits with
  | nil => rfl
  | cons c digits => exact takeSign_cons_of_isDigit (h c List.mem_cons_self) digits

namespace IsDecimal

variable {digits : List Char}

theorem printable (h : IsDecimal digits) : ∀ c ∈ digits, 32 < c.toNat ∧ c.toNat < 127 := by
  intro c hc
  have hc := toNat_of_isDigit (h.digit c hc)
  omega

theorem readInteger (h : IsDecimal digits) : Number.readInteger digits = .ok (ofDigits digits) := by
  have hempty : digits.isEmpty = false := by simpa using h.ne_nil
  simp only [Number.readInteger, plainNumeral_of_forall h.printable, takeSign_of_isDigit h.digit,
    digitRun?_of_forall false h.digit, Nat.not_lt.mpr h.short, hempty]
  rfl

theorem readInteger_negative (h : IsDecimal digits) :
    Number.readInteger ('-' :: digits) = .ok (-(ofDigits digits : Int)) := by
  have hempty : digits.isEmpty = false := by simpa using h.ne_nil
  have hprintable : ∀ c ∈ '-' :: digits, 32 < c.toNat ∧ c.toNat < 127 := by
    intro c hc
    rcases List.mem_cons.mp hc with rfl | hc
    · decide
    · exact h.printable c hc
  simp only [Number.readInteger, plainNumeral_of_forall hprintable, takeSign,
    digitRun?_of_forall false h.digit, Nat.not_lt.mpr h.short, hempty]
  rfl

end IsDecimal

theorem ofDigits_toDigits (n : Nat) : ofDigits (Nat.toDigits 10 n) = n := by
  have hfold (digits : List Char) : ofDigits digits = Nat.ofDigitChars 10 digits 0 := by
    rw [Nat.ofDigitChars_eq_foldl, ofDigits]
    congr 1
    funext value c
    rw [Nat.mul_comm]
    rfl
  rw [hfold, Nat.ofDigitChars_ten_toDigits]

theorem length_toDigits_le {n k : Nat} (h : n < Nat.pow 10 k) (hk : k ≠ 0) :
    (Nat.toDigits 10 n).length ≤ k :=
  (Nat.length_toDigits_le_iff (by decide) (Nat.pos_of_ne_zero hk)).mpr h

theorem lt_length_toDigits {n k : Nat} (h : Nat.pow 10 k ≤ n) (hk : k ≠ 0) :
    k < (Nat.toDigits 10 n).length :=
  Nat.lt_of_not_le fun hle =>
    Nat.not_lt.mpr h ((Nat.length_toDigits_le_iff (by decide) (Nat.pos_of_ne_zero hk)).mp hle)

theorem isDecimal_toDigits {n : Nat} (h : n < Nat.pow 10 digitLimit) :
    IsDecimal (Nat.toDigits 10 n) where
  ne_nil := Nat.toDigits_ne_nil
  digit _ hc := Nat.isDigit_of_mem_toDigits (by decide) (by decide) hc
  short := length_toDigits_le h (by decide)

theorem isUnwritable_of_natAbs_lt {n : Int} (k : Nat) (h : n.natAbs < Nat.pow 10 k)
    (hk : k ≤ digitLimit) : isUnwritable n = false := by
  have hpow {limit : Nat} (hlimit : k ≤ limit) : Nat.pow 10 k ≤ Nat.pow 10 limit :=
    Nat.pow_le_pow_right (by decide) hlimit
  exact decide_eq_false (Nat.not_le.mpr (Nat.lt_of_lt_of_le h (hpow hk)))

theorem isUnwritable_of_length_le {m : Nat} (h : (toString m).length ≤ digitLimit) :
    isUnwritable m = false := by
  rw [show toString m = m.repr from rfl, Nat.repr_eq_ofList_toDigits, String.length_ofList] at h
  have hlt : m < Nat.pow 10 digitLimit :=
    Nat.lt_of_not_le fun hle => Nat.not_lt.mpr h (lt_length_toDigits hle (by decide))
  exact isUnwritable_of_natAbs_lt digitLimit (by rwa [Int.natAbs_natCast]) (Nat.le_refl _)

theorem toList_toString_ofNat (m : Nat) :
    (toString (Int.ofNat m)).toList = Nat.toDigits 10 m := by
  rw [show toString (Int.ofNat m) = m.repr from rfl, Nat.repr_eq_ofList_toDigits,
    String.toList_ofList]

theorem toList_toString_negSucc (m : Nat) :
    (toString (Int.negSucc m)).toList = '-' :: Nat.toDigits 10 (m + 1) := by
  rw [show toString (Int.negSucc m) = "-" ++ (m + 1).repr from rfl, String.toList_append,
    Nat.repr_eq_ofList_toDigits, String.toList_ofList, String.toList_ofList]
  exact List.singleton_append

theorem readInteger_toString {n : Int} (h : isUnwritable n = false) :
    readInteger (toString n).toList = .ok n := by
  have hdecimal := isDecimal_toDigits (Nat.not_le.mp (of_decide_eq_false h))
  cases n with
  | ofNat m =>
    rw [toList_toString_ofNat]
    refine hdecimal.readInteger.trans ?_
    rw [ofDigits_toDigits]
    rfl
  | negSucc m =>
    rw [toList_toString_negSucc]
    refine hdecimal.readInteger_negative.trans ?_
    rw [ofDigits_toDigits]
    rfl

end Authorship.Number
