import Authorship.Proofs.Number.Spelling
import Authorship.Script.Argument
import Authorship.Script.Session

namespace Authorship.Script

open Authorship.Number Authorship.Text

structure Parts (mark : Char) (text first second : String) : Prop where
  once : text.toList.count mark = 1
  toList_eq : text.toList = first.toList ++ mark :: second.toList

/-- A text that spells two positive integers with the mark between them. -/
def SpellsPair (mark : Char) (text : String) (a b : Nat) : Prop :=
  ∃ first second, Parts mark text first second ∧
    Spells first.toList a ∧ Spells second.toList b ∧ 1 ≤ a ∧ 1 ≤ b

/-- What is wrong with a text that is no pair; the first part is read before the second. -/
inductive Mistakes (mark : Char) (form text : String) : Complaint → Prop
  | marks (h : text.toList.count mark ≠ 1) : Mistakes mark form text (.notPair form text)
  | first {first second : String} (hp : Parts mark text first second)
      (h : ∀ n, ¬ Spells first.toList n) : Mistakes mark form text (.notInteger first)
  | second {first second : String} {n : Int} (hp : Parts mark text first second)
      (hn : Spells first.toList n) (h : ∀ m, ¬ Spells second.toList m) :
      Mistakes mark form text (.notInteger second)
  | small {first second : String} {n m : Int} (hp : Parts mark text first second)
      (hn : Spells first.toList n) (hm : Spells second.toList m) (h : n < 1 ∨ m < 1) :
      Mistakes mark form text (.notPositive form text)

theorem parts_iff {mark : Char} {text first second : String} :
    Parts mark text first second ↔ text.toList = first.toList ++ mark :: second.toList ∧
      mark ∉ first.toList ∧ mark ∉ second.toList := by
  have hcount : (first.toList ++ mark :: second.toList).count mark = 1 ↔
      mark ∉ first.toList ∧ mark ∉ second.toList := by
    rw [List.count_append, List.count_cons_self, ← List.count_eq_zero, ← List.count_eq_zero]
    omega
  constructor
  · rintro ⟨honce, htext⟩
    rw [htext] at honce
    exact ⟨htext, hcount.mp honce⟩
  · rintro ⟨htext, hparts⟩
    exact ⟨by rw [htext]; exact hcount.mpr hparts, htext⟩

theorem halves?_eq_some_iff {mark : Char} {text first second : String} :
    halves? [mark] text.toList = some (first, second) ↔ Parts mark text first second := by
  rw [parts_iff, halves?]
  constructor
  · intro h
    split at h
    · cases h
    · rename_i before after hcut
      obtain ⟨hbefore, htext⟩ := cutAt?_eq_some_iff.mp hcut
      split at h
      · cases h
      · rename_i hafter
        rw [isSome_cutAt?_iff] at hafter
        cases h
        rw [String.toList_ofList, String.toList_ofList]
        exact ⟨htext, hbefore, hafter⟩
  · rintro ⟨htext, hfirst, hsecond⟩
    simp only [htext, cutAt?_append_cons _ hfirst, cutAt?_of_not_mem hsecond, String.ofList_toList]
    rfl

theorem exists_parts {mark : Char} {text : String} (h : text.toList.count mark = 1) :
    ∃ first second, Parts mark text first second := by
  have hmem : mark ∈ text.toList := List.count_pos_iff.mp (by omega)
  obtain ⟨before, after, htext, -⟩ := List.eq_append_cons_of_mem hmem
  refine ⟨String.ofList before, String.ofList after, h, ?_⟩
  rw [String.toList_ofList, String.toList_ofList, htext]

theorem count_ne_one_of_halves? {mark : Char} {text : String}
    (h : halves? [mark] text.toList = none) : text.toList.count mark ≠ 1 := by
  intro honce
  obtain ⟨first, second, hp⟩ := exists_parts honce
  rw [halves?_eq_some_iff.mpr hp] at h
  cases h

theorem readWhole_eq_ok_iff {text : String} {n : Int} :
    readWhole text = .ok n ↔ Spells text.toList n := by
  rw [← readInteger_eq_ok_iff, readWhole]
  cases readInteger text.toList <;> simp

theorem readWhole_eq_error {text : String} {complaint : Complaint}
    (h : readWhole text = .error complaint) :
    complaint = .notInteger text ∧ ∀ n, ¬ Spells text.toList n := by
  refine ⟨?_, fun n hn => ?_⟩
  · unfold readWhole at h
    split at h <;> cases h
    rfl
  · rw [readWhole_eq_ok_iff.mpr hn] at h
    cases h

section Pair

variable {mark : String} {c : Char} {form text : String} {a b : Nat}

theorem readPair_of_spellsPair (hmark : mark.toList = [c]) (h : SpellsPair c text a b) :
    readPair mark form text = .ok (a, b) := by
  obtain ⟨first, second, hp, hfirst, hsecond, ha, hb⟩ := h
  have hsmall : ¬ (decide ((a : Int) < 1) || decide ((b : Int) < 1)) = true := by
    simp only [Bool.or_eq_true, decide_eq_true_eq]
    omega
  simp only [readPair, hmark, halves?_eq_some_iff.mpr hp, readWhole_eq_ok_iff.mpr hfirst,
    readWhole_eq_ok_iff.mpr hsecond, Bind.bind, Except.bind, if_neg hsmall, Int.toNat_natCast]

theorem exists_mistake (hmark : mark.toList = [c]) (form : String)
    (h : ∀ a b, ¬ SpellsPair c text a b) :
    ∃ complaint, readPair mark form text = .error complaint ∧ Mistakes c form text complaint := by
  rw [readPair, hmark]
  cases hhalves : halves? [c] text.toList with
  | none => exact ⟨_, rfl, .marks (count_ne_one_of_halves? hhalves)⟩
  | some halves =>
    obtain ⟨first, second⟩ := halves
    have hp := halves?_eq_some_iff.mp hhalves
    cases hfirst : readWhole first with
    | error complaint =>
      obtain ⟨rfl, hn⟩ := readWhole_eq_error hfirst
      exact ⟨_, by simp only [hfirst]; rfl, .first hp hn⟩
    | ok n =>
      have hn := readWhole_eq_ok_iff.mp hfirst
      cases hsecond : readWhole second with
      | error complaint =>
        obtain ⟨rfl, hm⟩ := readWhole_eq_error hsecond
        exact ⟨_, by simp only [hfirst, hsecond]; rfl, .second hp hn hm⟩
      | ok m =>
        have hm := readWhole_eq_ok_iff.mp hsecond
        have hsmall : n < 1 ∨ m < 1 := by
          by_contra hpositive
          obtain ⟨a, rfl⟩ := Int.eq_ofNat_of_zero_le (by omega : 0 ≤ n)
          obtain ⟨b, rfl⟩ := Int.eq_ofNat_of_zero_le (by omega : 0 ≤ m)
          exact h a b ⟨first, second, hp, hn, hm, by omega, by omega⟩
        have hif : (decide (n < 1) || decide (m < 1)) = true := by
          rwa [Bool.or_eq_true, decide_eq_true_eq, decide_eq_true_eq]
        exact ⟨_, by simp only [hfirst, hsecond, Bind.bind, Except.bind, if_pos hif],
          .small hp hn hm hsmall⟩

/-- Exactly the texts that spell two positive integers with the mark between them are pairs. -/
theorem readPair_eq_ok_iff (hmark : mark.toList = [c]) :
    readPair mark form text = .ok (a, b) ↔ SpellsPair c text a b := by
  refine ⟨fun h => ?_, readPair_of_spellsPair hmark⟩
  by_cases hpair : ∃ a b, SpellsPair c text a b
  · obtain ⟨a', b', hpair⟩ := hpair
    rw [readPair_of_spellsPair hmark hpair] at h
    cases h
    exact hpair
  · obtain ⟨complaint, herror, -⟩ :=
      exists_mistake hmark form fun a b hp => hpair ⟨a, b, hp⟩
    rw [herror] at h
    cases h

theorem mistakes_of_readPair {complaint : Complaint} (hmark : mark.toList = [c])
    (h : readPair mark form text = .error complaint) : Mistakes c form text complaint := by
  have hnone : ∀ a b, ¬ SpellsPair c text a b := by
    intro a b hpair
    rw [readPair_of_spellsPair hmark hpair] at h
    cases h
  obtain ⟨other, herror, hmistakes⟩ := exists_mistake hmark form hnone
  rw [herror] at h
  cases h
  exact hmistakes

theorem one_le_of_readPair (hmark : mark.toList = [c])
    (h : readPair mark form text = .ok (a, b)) : 1 ≤ a ∧ 1 ≤ b := by
  obtain ⟨first, second, -, -, -, ha, hb⟩ := (readPair_eq_ok_iff hmark).mp h
  exact ⟨ha, hb⟩

theorem readPair_toString {row col : Int} (hmark : mark.toList = [c]) (hc : c.isDigit = false)
    (hrow : 1 ≤ row) (hcol : 1 ≤ col) (hr : isUnwritable row = false)
    (hl : isUnwritable col = false) :
    readPair mark form (toString row ++ mark ++ toString col) = .ok (row.toNat, col.toNat) := by
  have hdigits {n : Int} (hn : 1 ≤ n) : c ∉ (toString n).toList := by
    obtain ⟨k, rfl⟩ := Int.eq_ofNat_of_zero_le (by omega : 0 ≤ n)
    rw [show (k : Int) = Int.ofNat k from rfl, toList_toString_ofNat]
    intro hm
    rw [Nat.isDigit_of_mem_toDigits (by decide) (by decide) hm] at hc
    cases hc
  have hspells {n : Int} (hn : 1 ≤ n) (hw : isUnwritable n = false) :
      Spells (toString n).toList (n.toNat : Int) := by
    rw [Int.toNat_of_nonneg (by omega), ← readInteger_eq_ok_iff, readInteger_toString hw]
  have htext : (toString row ++ mark ++ toString col).toList =
      (toString row).toList ++ c :: (toString col).toList := by
    rw [String.toList_append, String.toList_append, hmark, List.append_assoc]
    rfl
  have hparts := parts_iff.mpr ⟨htext, hdigits hrow, hdigits hcol⟩
  exact readPair_of_spellsPair hmark
    ⟨_, _, hparts, hspells hrow hr, hspells hcol hl, by omega, by omega⟩

theorem ofComplaint_eq_ok_iff {α : Type} {result : Except Complaint α} {value : α}
    {session after : Session} :
    Action.ofComplaint result session = .ok value after ↔ result = .ok value ∧ after = session := by
  cases result with
  | error complaint =>
    constructor
    · intro h
      cases h
    · rintro ⟨h, -⟩
      cases h
  | ok other =>
    constructor
    · intro h
      cases h
      exact ⟨rfl, rfl⟩
    · rintro ⟨h, rfl⟩
      cases h
      rfl

/-- Two positive integers in full, none of them longer than the limit, with a mark between them that
is no digit are read as these integers. A text is read as a pair exactly if it spells one, and as the
pair that it spells; any other text is refused for what is wrong with it, with a complaint about the
latest line, and nothing else happens. -/
theorem decodes_pair (hmark : mark.toList = [c]) (hc : c.isDigit = false) (form : String)
    (session : Session) :
    (∀ a b : Nat, 1 ≤ a → 1 ≤ b → (toString a).length ≤ digitLimit →
      (toString b).length ≤ digitLimit →
      Action.ofComplaint (readPair mark form (toString a ++ mark ++ toString b)) session =
        .ok (a, b) session) ∧
    (∀ text a b after, Action.ofComplaint (readPair mark form text) session = .ok (a, b) after ↔
      SpellsPair c text a b ∧ after = session) ∧
    ∀ text, (∀ a b, ¬ SpellsPair c text a b) → ∃ complaint, Mistakes c form text complaint ∧
      Action.ofComplaint (readPair mark form text) session =
        .error (.script ⟨session.cursor.lineNumber, complaint, session.cursor.source⟩) session := by
  refine ⟨fun a b ha hb hla hlb => ?_, fun text a b after => ?_, fun text hnone => ?_⟩
  · have hread : readPair mark form (toString (a : Int) ++ mark ++ toString (b : Int)) =
        .ok ((a : Int).toNat, (b : Int).toNat) :=
      readPair_toString hmark hc (by omega) (by omega) (isUnwritable_of_length_le hla)
        (isUnwritable_of_length_le hlb)
    rw [Int.toNat_natCast, Int.toNat_natCast] at hread
    change Action.ofComplaint (readPair mark form (toString (a : Int) ++ mark ++ toString (b : Int)))
      session = _
    rw [hread]
    rfl
  · rw [ofComplaint_eq_ok_iff, readPair_eq_ok_iff hmark]
  · obtain ⟨complaint, hread, hmistakes⟩ := exists_mistake hmark form hnone
    refine ⟨complaint, hmistakes, ?_⟩
    rw [hread]
    rfl

def cellLine : Session :=
  ⟨.start none none, ⟨[], "charts", 7, [":subplot", "12-3"], 2, false⟩, ⟨[]⟩, [], []⟩

theorem decodes_pair_cellLine :
    "-".toList = ['-'] ∧ '-'.isDigit = false ∧
    Action.ofComplaint (readPair "-" "row-col" (toString 12 ++ "-" ++ toString 3)) cellLine =
      .ok (12, 3) cellLine ∧
    Action.ofComplaint (readPair "-" "row-col" "\u00a0\u0661_2-+3") cellLine =
      .ok (12, 3) cellLine ∧
    ∃ complaint, Mistakes '-' "row-col" "2--3" complaint ∧
      Action.ofComplaint (readPair "-" "row-col" "2--3") cellLine =
        .error (.script ⟨7, complaint, "charts"⟩) cellLine := by
  have hmark : "-".toList = ['-'] := rfl
  have hdigit : '-'.isDigit = false := rfl
  obtain ⟨hfull, hspelled, hrefused⟩ := decodes_pair hmark hdigit "row-col" cellLine
  have hparts : Parts '-' "\u00a0\u0661_2-+3" "\u00a0\u0661_2" "+3" := ⟨by decide, by decide⟩
  have hpair : SpellsPair '-' "\u00a0\u0661_2-+3" 12 3 :=
    ⟨_, _, hparts, readInteger_eq_ok_iff.mp (by decide +kernel),
      readInteger_eq_ok_iff.mp (by decide +kernel), by decide, by decide⟩
  have hnone : ∀ a b, ¬ SpellsPair '-' "2--3" a b := by
    rintro a b ⟨first, second, hp, -⟩
    exact absurd hp.once (by decide)
  exact ⟨hmark, hdigit, hfull 12 3 (by decide) (by decide) (by decide) (by decide),
    (hspelled _ 12 3 _).mpr ⟨hpair, rfl⟩, hrefused _ hnone⟩

end Pair

end Authorship.Script
