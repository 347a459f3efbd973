import Authorship.Proofs.History.Record
import Mathlib.Data.List.Basic
import Mathlib.Data.List.Induction

namespace Authorship.Log

open Authorship.Calendar Authorship.Text

def isBlankLine (line : String) : Bool :=
  line.toList.all isBlank

def kindOf (line : String) : RecordKind :=
  RecordKind.ofLine (withoutNewline line)

def dateOf (line : List Char) : String :=
  field ((line.splitOnP (· == '\x00')).getD 2 [])

/-- Whether the date of a summary is read or refused. -/
def isDated (dates : DateReader) (line : String) : Bool :=
  match dates (dateOf (withoutNewline line)) with
  | .ok _ => true
  | .error fault => fault.isRefusal

inductive Flaw (dates : DateReader) (before : List String) (line : List Char) : LineFault → Prop
  | tooFewSummaryFields (hk : RecordKind.ofLine line = .summary)
      (hn : line.count '\x00' + 1 < 5) :
      Flaw dates before line (.tooFewSummaryFields (line.count '\x00' + 1))
  | date {fault : DateFault} (hk : RecordKind.ofLine line = .summary)
      (hn : 5 ≤ line.count '\x00' + 1) (hd : dates (dateOf line) = .error fault) :
      Flaw dates before line (.date fault)
  | noCommit (hk : RecordKind.ofLine line = .lineCount)
      (hb : ∀ earlier ∈ before, kindOf earlier = .lineCount) :
      Flaw dates before line .noCommit
  | tooFewCountFields (hk : RecordKind.ofLine line = .lineCount)
      (hb : ∃ earlier ∈ before, kindOf earlier = .summary) (hn : line.count '\t' + 1 < 3) :
      Flaw dates before line (.tooFewCountFields (line.count '\t' + 1))

def Flawed (dates : DateReader) (before : List String) (line : String) (flaw : LineFault) : Prop :=
  isBlankLine line = false ∧ Flaw dates before (withoutNewline line) flaw

def IsBad (dates : DateReader) (before : List String) (line : String) : Prop :=
  ∃ flaw, Flawed dates before line flaw

/-- No line is bad. -/
def IsSound (dates : DateReader) (lines : List String) : Prop :=
  ∀ before line after, lines = before ++ line :: after → ¬ IsBad dates before line

/-- A fault of a log into which more lines are put after the given place. -/
def Fault.pushed (place count : Nat) : Fault → Fault
  | .malformed line kind fault =>
    .malformed (if place < line then line + count else line) kind fault
  | fault => fault

section Line

variable {dates : DateReader} {before : List String}

theorem isEmpty_trim_withoutNewline (line : String) :
    (trim (withoutNewline line)).isEmpty = isBlankLine line := by
  have hnewline (c : Char) (hc : (c == '\r' || c == '\n') = true) : isBlank c = true := by
    rcases Bool.or_eq_true_iff.mp hc with hc | hc <;> rw [eq_of_beq hc] <;> decide
  rw [Bool.eq_iff_iff, List.isEmpty_iff, trim_eq_nil_iff, isBlankLine, List.all_eq_true]
  exact forall_mem_dropEnd hnewline

theorem kindOf_of_blank {line : String} (h : isBlankLine line = true) :
    kindOf line = .lineCount := by
  have hall : ∀ c ∈ withoutNewline line, isBlank c = true := by
    rw [← isEmpty_trim_withoutNewline, List.isEmpty_iff, trim_eq_nil_iff] at h
    exact h
  rw [kindOf, RecordKind.ofLine, if_neg]
  intro hk
  have hc := hall _ (List.mem_of_head? (beq_iff_eq.mp hk))
  exact absurd hc (by decide)

theorem Flaw.summary_cases {line : List Char} {flaw : LineFault} (h : Flaw dates before line flaw)
    (hk : RecordKind.ofLine line = .summary) :
    (line.count '\x00' + 1 < 5 ∧ flaw = .tooFewSummaryFields (line.count '\x00' + 1)) ∨
      (5 ≤ line.count '\x00' + 1 ∧ ∃ fault, dates (dateOf line) = .error fault ∧
        flaw = .date fault) := by
  cases h with
  | tooFewSummaryFields _ hn => exact .inl ⟨hn, rfl⟩
  | date _ hn hd => exact .inr ⟨hn, _, hd, rfl⟩
  | noCommit hk' => cases hk.symm.trans hk'
  | tooFewCountFields hk' => cases hk.symm.trans hk'

theorem Flaw.lineCount_cases {line : List Char} {flaw : LineFault}
    (h : Flaw dates before line flaw) (hk : RecordKind.ofLine line = .lineCount) :
    ((∀ earlier ∈ before, kindOf earlier = .lineCount) ∧ flaw = .noCommit) ∨
      ((∃ earlier ∈ before, kindOf earlier = .summary) ∧ line.count '\t' + 1 < 3 ∧
        flaw = .tooFewCountFields (line.count '\t' + 1)) := by
  cases h with
  | tooFewSummaryFields hk' => cases hk.symm.trans hk'
  | date hk' => cases hk.symm.trans hk'
  | noCommit _ hb => exact .inl ⟨hb, rfl⟩
  | tooFewCountFields _ hb hn => exact .inr ⟨hb, hn, rfl⟩

theorem ofLine?_of_few_fields {line : List Char} (hn : line.count '\x00' + 1 < 5) :
    Summary.ofLine? dates line = .error (.tooFewSummaryFields (line.count '\x00' + 1)) := by
  have hlength : (line.splitOnP (· == '\x00')).length = line.count '\x00' + 1 :=
    length_splitOnP _ line
  unfold Summary.ofLine?
  split
  · rename_i hfields
    simp only [hfields, List.length_cons] at hlength
    omega
  · rw [hlength]

theorem ofLine?_of_five_fields {line : List Char} (hn : 5 ≤ line.count '\x00' + 1) :
    ∃ email hash subject, Summary.ofLine? dates line =
      ((dates (dateOf line)).mapError .date).map
        (⟨email, ·, hash, subject⟩) := by
  have hlength : (line.splitOnP (· == '\x00')).length = line.count '\x00' + 1 :=
    length_splitOnP _ line
  unfold Summary.ofLine? dateOf
  rcases hfields : line.splitOnP (· == '\x00') with
    _ | ⟨_, _ | ⟨email, _ | ⟨date, _ | ⟨hash, _ | ⟨subject, more⟩⟩⟩⟩⟩
  case cons.cons.cons.cons.cons =>
    refine ⟨field email, field hash, field subject, ?_⟩
    simp only [List.getD_cons_succ, List.getD_cons_zero]
    cases dates (field date) <;> rfl
  all_goals
    simp only [hfields, List.length_cons, List.length_nil] at hlength
    omega

theorem map_eq_error_iff {ε α β : Type} {f : α → β} {result : Except ε α} {fault : ε} :
    result.map f = .error fault ↔ result = .error fault := by
  cases result <;> simp [Except.map]

theorem mapError_eq_error_iff {ε ε' α : Type} {wrap : ε → ε'} {result : Except ε α} {fault : ε'} :
    result.mapError wrap = .error fault ↔ ∃ cause, result = .error cause ∧ fault = wrap cause := by
  cases result <;> simp [Except.mapError, eq_comm]

theorem summary_eq_error_iff {line : List Char} {flaw : LineFault}
    (hk : RecordKind.ofLine line = .summary) :
    Summary.ofLine? dates line = .error flaw ↔ Flaw dates before line flaw := by
  by_cases hn : line.count '\x00' + 1 < 5
  · rw [ofLine?_of_few_fields hn]
    constructor
    · intro h
      cases h
      exact .tooFewSummaryFields hk hn
    · intro h
      rcases h.summary_cases hk with ⟨-, rfl⟩ | ⟨hn', -⟩
      · rfl
      · exact absurd hn (not_lt.mpr hn')
  · obtain ⟨email, hash, subject, hline⟩ := @ofLine?_of_five_fields dates line (not_lt.mp hn)
    rw [hline, map_eq_error_iff]
    constructor
    · intro h
      cases hd : dates (dateOf line) with
      | ok timestamp =>
        rw [hd] at h
        cases h
      | error fault =>
        rw [hd] at h
        cases h
        exact .date hk (not_lt.mp hn) hd
    · intro h
      rcases h.summary_cases hk with ⟨hn', -⟩ | ⟨-, fault, hd, rfl⟩
      · exact absurd hn' hn
      · rw [hd]
        rfl

theorem ofLine?_of_few_counts {line : List Char} (hn : line.count '\t' + 1 < 3) :
    LineCount.ofLine? line = .error (.tooFewCountFields (line.count '\t' + 1)) := by
  have hlength := length_cutAtFirst '\t' 2 line
  rw [Nat.min_eq_right (by omega)] at hlength
  unfold LineCount.ofLine?
  split
  · rename_i hfields
    simp only [hfields, List.length_cons, List.length_nil] at hlength
    omega
  · rw [hlength]

theorem ofLine?_of_three_counts {line : List Char} (hn : 3 ≤ line.count '\t' + 1) :
    ∃ count, LineCount.ofLine? line = .ok count := by
  have hlength := length_cutAtFirst '\t' 2 line
  rw [Nat.min_eq_left (by omega)] at hlength
  obtain ⟨adds, deletes, path, hfields⟩ := List.length_eq_three.mp hlength
  unfold LineCount.ofLine?
  rw [hfields]
  exact ⟨_, rfl⟩

theorem lineCount_eq_error_iff {line : List Char} {flaw : LineFault}
    (hk : RecordKind.ofLine line = .lineCount)
    (hb : ∃ earlier ∈ before, kindOf earlier = .summary) :
    LineCount.ofLine? line = .error flaw ↔ Flaw dates before line flaw := by
  have hcases (h : Flaw dates before line flaw) :
      line.count '\t' + 1 < 3 ∧ flaw = .tooFewCountFields (line.count '\t' + 1) := by
    rcases h.lineCount_cases hk with ⟨hnone, -⟩ | ⟨-, hfew⟩
    · obtain ⟨earlier, he, hs⟩ := hb
      cases hs.symm.trans (hnone earlier he)
    · exact hfew
  by_cases hn : line.count '\t' + 1 < 3
  · rw [ofLine?_of_few_counts hn]
    constructor
    · intro h
      cases h
      exact .tooFewCountFields hk hb hn
    · intro h
      rw [(hcases h).2]
  · obtain ⟨count, hline⟩ := ofLine?_of_three_counts (not_lt.mp hn)
    rw [hline]
    constructor
    · intro h
      cases h
    · intro h
      exact absurd (hcases h).1 hn

/-- A line is refused exactly for what is wrong with it. -/
theorem readLine_eq_error_iff {aliases : Aliases} {progress : Progress} {line : List Char}
    {flaw : LineFault}
    (hc : progress.current.isSome = true ↔ ∃ earlier ∈ before, kindOf earlier = .summary) :
    progress.readLine dates aliases line = .error flaw ↔ Flaw dates before line flaw := by
  unfold Progress.readLine
  cases hk : RecordKind.ofLine line with
  | summary => exact map_eq_error_iff.trans (summary_eq_error_iff hk)
  | lineCount =>
    cases hcurrent : progress.current with
    | some commit =>
      rw [hcurrent] at hc
      exact map_eq_error_iff.trans (lineCount_eq_error_iff hk (hc.mp rfl))
    | none =>
      rw [hcurrent] at hc
      constructor
      · intro h
        cases h
        refine .noCommit hk fun earlier he => ?_
        cases hs : kindOf earlier with
        | lineCount => rfl
        | summary => cases hc.mpr ⟨earlier, he, hs⟩
      · intro h
        rcases h.lineCount_cases hk with ⟨-, rfl⟩ | ⟨hb, -⟩
        · rfl
        · cases hc.mpr hb

end Line

section Reading

variable {dates : DateReader} {aliases : Aliases}

theorem readFrom_append (progress : Progress) (number : Nat) (before after : List String) :
    readFrom dates aliases progress number (before ++ after) =
      (readFrom dates aliases progress number before).bind
        fun middle => readFrom dates aliases middle (number + before.length) after := by
  induction before generalizing progress number with
  | nil => rfl
  | cons line before ih =>
    have hnumber : number + (line :: before).length = number + 1 + before.length := by
      rw [List.length_cons]
      omega
    rw [List.cons_append, readFrom, readFrom, hnumber]
    split
    · exact ih progress (number + 1)
    · cases progress.readLine dates aliases (withoutNewline line) with
      | ok next => exact ih next (number + 1)
      | error flaw => rfl

theorem readFrom_singleton (progress : Progress) (number : Nat) (line : String) :
    readFrom dates aliases progress number [line] =
      if isBlankLine line = true then .ok progress
      else (progress.readLine dates aliases (withoutNewline line)).mapError
        (.ofLine number (kindOf line)) := by
  rw [readFrom, isEmpty_trim_withoutNewline]
  split
  · rfl
  · cases progress.readLine dates aliases (withoutNewline line) <;> rfl

theorem isSome_current_of_readLine {progress next : Progress} {line : List Char}
    (h : progress.readLine dates aliases line = .ok next) :
    next.current.isSome = (progress.current.isSome || RecordKind.ofLine line == .summary) := by
  obtain ⟨record, hsays, hr⟩ := says_of_readLine h
  cases hsays with
  | summary =>
    cases hr
    exact (Bool.or_true _).symm
  | lineCount hk =>
    obtain ⟨commit, hc, rfl⟩ := Option.map_eq_some_iff.mp hr
    rw [RecordKind.ofLine, if_neg fun h => hk (beq_iff_eq.mp h), hc]
    exact congrArg Option.isSome hc

theorem isSome_current_of_readFrom {progress final : Progress} {number : Nat}
    {lines : List String} (h : readFrom dates aliases progress number lines = .ok final) :
    final.current.isSome =
      (progress.current.isSome || lines.any fun line => kindOf line == .summary) := by
  induction lines generalizing progress number with
  | nil =>
    cases h
    rw [List.any_nil, Bool.or_false]
  | cons line lines ih =>
    rw [← List.singleton_append, readFrom_append, readFrom_singleton] at h
    split at h
    · rename_i hb
      rw [ih h, List.any_cons, kindOf_of_blank hb]
      rfl
    · cases hl : progress.readLine dates aliases (withoutNewline line) with
      | error flaw =>
        rw [hl] at h
        cases h
      | ok next =>
        rw [hl] at h
        rw [ih h, isSome_current_of_readLine hl, List.any_cons, Bool.or_assoc]
        rfl

theorem readFrom_singleton_eq_error_iff {progress : Progress} {before : List String}
    {line : String} {number : Nat} {fault : Fault}
    (h : readFrom dates aliases .start 1 before = .ok progress) :
    readFrom dates aliases progress number [line] = .error fault ↔
      ∃ flaw, Flawed dates before line flaw ∧ fault = .ofLine number (kindOf line) flaw := by
  have hc : progress.current.isSome = true ↔ ∃ earlier ∈ before, kindOf earlier = .summary := by
    rw [isSome_current_of_readFrom h]
    simp [Progress.start]
  rw [readFrom_singleton]
  split
  · rename_i hb
    simp [Flawed, hb]
  · rename_i hb
    rw [mapError_eq_error_iff]
    apply exists_congr
    intro flaw
    rw [readLine_eq_error_iff hc, Flawed, Bool.eq_false_iff.mpr hb]
    simp

theorem isSound_nil : IsSound dates [] := by
  intro before line after h
  simp at h

theorem isSound_concat {lines : List String} {line : String} :
    IsSound dates (lines ++ [line]) ↔ IsSound dates lines ∧ ¬ IsBad dates lines line := by
  constructor
  · intro h
    refine ⟨fun before other after hsplit => h before other (after ++ [line]) ?_,
      h lines line [] rfl⟩
    rw [hsplit, List.append_assoc, List.cons_append]
  · rintro ⟨hlines, hline⟩ before other after hsplit
    rcases List.eq_nil_or_concat' after with rfl | ⟨after, last, rfl⟩
    · obtain ⟨rfl, h⟩ := List.append_inj' hsplit rfl
      cases h
      exact hline
    · rw [← List.cons_append, ← List.append_assoc] at hsplit
      obtain ⟨rfl, -⟩ := List.append_inj' hsplit rfl
      exact hlines before other after rfl

theorem exists_readFrom_iff {lines : List String} :
    (∃ final, readFrom dates aliases .start 1 lines = .ok final) ↔ IsSound dates lines := by
  induction lines using List.reverseRecOn with
  | nil => exact ⟨fun _ => isSound_nil, fun _ => ⟨_, rfl⟩⟩
  | append_singleton lines line ih =>
    rw [isSound_concat, ← ih, readFrom_append]
    cases hr : readFrom dates aliases .start 1 lines with
    | error fault => simp [Except.bind]
    | ok middle =>
      have hline (fault : Fault) :
          readFrom dates aliases middle (1 + lines.length) [line] = .error fault ↔
            ∃ flaw, Flawed dates lines line flaw ∧
              fault = .ofLine (1 + lines.length) (kindOf line) flaw :=
        readFrom_singleton_eq_error_iff hr
      simp only [Except.bind, Except.ok.injEq, exists_eq', true_and, IsBad]
      constructor
      · rintro ⟨final, hf⟩ ⟨flaw, hflaw⟩
        cases hf.symm.trans ((hline _).mpr ⟨flaw, hflaw, rfl⟩)
      · intro hgood
        cases hl : readFrom dates aliases middle (1 + lines.length) [line] with
        | ok final => exact ⟨final, rfl⟩
        | error fault =>
          obtain ⟨flaw, hflaw, -⟩ := (hline fault).mp hl
          exact (hgood ⟨flaw, hflaw⟩).elim

/-- A log is refused exactly for its first bad line. -/
theorem readFrom_eq_error_iff {lines : List String} {fault : Fault} :
    readFrom dates aliases .start 1 lines = .error fault ↔
      ∃ before line after flaw, lines = before ++ line :: after ∧ IsSound dates before ∧
        Flawed dates before line flaw ∧
        fault = .ofLine (before.length + 1) (kindOf line) flaw := by
  constructor
  · intro h
    induction lines using List.reverseRecOn with
    | nil => cases h
    | append_singleton lines line ih =>
      rw [readFrom_append] at h
      cases hr : readFrom dates aliases .start 1 lines with
      | error first =>
        rw [hr] at h
        cases h
        obtain ⟨before, other, after, flaw, rfl, hrest⟩ := ih hr
        exact ⟨before, other, after ++ [line], flaw, by simp, hrest⟩
      | ok middle =>
        rw [hr] at h
        obtain ⟨flaw, hflaw, rfl⟩ := (readFrom_singleton_eq_error_iff hr).mp h
        exact ⟨lines, line, [], flaw, rfl, exists_readFrom_iff.mp ⟨middle, hr⟩, hflaw,
          by rw [Nat.add_comm]⟩
  · rintro ⟨before, line, after, flaw, rfl, hsound, hflaw, rfl⟩
    obtain ⟨middle, hr⟩ : ∃ middle, readFrom dates aliases .start 1 before = .ok middle :=
      exists_readFrom_iff.mpr hsound
    have hline : readFrom dates aliases middle (1 + before.length) [line] =
        .error (.ofLine (1 + before.length) (kindOf line) flaw) :=
      (readFrom_singleton_eq_error_iff hr).mpr ⟨flaw, hflaw, rfl⟩
    rw [readFrom_append, hr, ← List.singleton_append, Except.bind, readFrom_append, hline,
      Nat.add_comm]
    rfl

theorem read_eq_error_iff {lines : List String} {fault : Fault} :
    read dates aliases lines = .error fault ↔
      ∃ before line after flaw, lines = before ++ line :: after ∧ IsSound dates before ∧
        Flawed dates before line flaw ∧
        fault = .ofLine (before.length + 1) (kindOf line) flaw :=
  map_eq_error_iff.trans readFrom_eq_error_iff

theorem exists_read_eq_error_iff {lines : List String} :
    (∃ fault, read dates aliases lines = .error fault) ↔
      ∃ before line after, lines = before ++ line :: after ∧ IsBad dates before line := by
  constructor
  · rintro ⟨fault, h⟩
    obtain ⟨before, line, after, flaw, hsplit, -, hflaw, -⟩ := read_eq_error_iff.mp h
    exact ⟨before, line, after, hsplit, flaw, hflaw⟩
  · rintro ⟨before, line, after, hsplit, hbad⟩
    cases hr : readFrom dates aliases .start 1 lines with
    | error fault => exact ⟨fault, map_eq_error_iff.mpr hr⟩
    | ok final => exact (exists_readFrom_iff.mp ⟨final, hr⟩ before line after hsplit hbad).elim

end Reading

section Blank

variable {dates : DateReader} {aliases : Aliases} {place : Nat}

theorem readFrom_of_blank {blanks : List String} (progress : Progress) (number : Nat)
    (h : ∀ line ∈ blanks, isBlankLine line = true) :
    readFrom dates aliases progress number blanks = .ok progress := by
  induction blanks generalizing number with
  | nil => rfl
  | cons line blanks ih =>
    obtain ⟨hline, hblanks⟩ := List.forall_mem_cons.mp h
    rw [← List.singleton_append, readFrom_append, readFrom_singleton, if_pos hline]
    exact ih _ hblanks

theorem Fault.pushed_ofLine_of_lt {number : Nat} (count : Nat) (kind : RecordKind)
    (flaw : LineFault) (h : place < number) :
    (Fault.ofLine number kind flaw).pushed place count = .ofLine (number + count) kind flaw := by
  unfold Fault.ofLine
  split <;> simp [Fault.pushed, h]

theorem Fault.pushed_ofLine_of_le {number : Nat} (count : Nat) (kind : RecordKind)
    (flaw : LineFault) (h : number ≤ place) :
    (Fault.ofLine number kind flaw).pushed place count = .ofLine number kind flaw := by
  unfold Fault.ofLine
  split <;> simp [Fault.pushed, not_lt.mpr h]

theorem readFrom_add (count : Nat) (progress : Progress) {number : Nat} (lines : List String)
    (h : place < number) :
    readFrom dates aliases progress (number + count) lines =
      (readFrom dates aliases progress number lines).mapError (.pushed place count) := by
  induction lines generalizing progress number with
  | nil => rfl
  | cons line lines ih =>
    have hnumber : number + count + 1 = number + 1 + count := Nat.add_right_comm number count 1
    rw [readFrom, readFrom, hnumber]
    split
    · exact ih progress (Nat.lt_succ_of_lt h)
    · cases progress.readLine dates aliases (withoutNewline line) with
      | ok next => exact ih next (Nat.lt_succ_of_lt h)
      | error flaw =>
        exact congrArg Except.error (Fault.pushed_ofLine_of_lt count (kindOf line) flaw h).symm

theorem read_insert_blank (before after : List String) {blanks : List String}
    (h : ∀ line ∈ blanks, isBlankLine line = true) :
    read dates aliases (before ++ blanks ++ after) =
      (read dates aliases (before ++ after)).mapError (.pushed before.length blanks.length) := by
  have hread : readFrom dates aliases .start 1 (before ++ blanks ++ after) =
      (readFrom dates aliases .start 1 (before ++ after)).mapError
        (.pushed before.length blanks.length) := by
    rw [List.append_assoc, readFrom_append, readFrom_append _ _ before after]
    cases hr : readFrom dates aliases .start 1 before with
    | error fault =>
      obtain ⟨earlier, line, later, flaw, rfl, -, -, rfl⟩ := readFrom_eq_error_iff.mp hr
      have hplace : earlier.length + 1 ≤ (earlier ++ line :: later).length := by
        rw [List.length_append, List.length_cons]
        omega
      exact congrArg Except.error (Fault.pushed_ofLine_of_le _ _ flaw hplace).symm
    | ok middle =>
      have hblanks : readFrom dates aliases middle (1 + before.length) blanks = .ok middle :=
        readFrom_of_blank middle (1 + before.length) h
      simp only [Except.bind, readFrom_append _ _ blanks, hblanks]
      exact readFrom_add blanks.length middle after (by omega)
  rw [read, read, hread]
  cases readFrom dates aliases .start 1 (before ++ after) <;> rfl

end Blank

theorem ofLine_of_isDated {dates : DateReader} {before : List String} {line : String} {number : Nat}
    {flaw : LineFault} (h : Flawed dates before line flaw)
    (hd : kindOf line = .summary → isDated dates line = true) :
    Fault.ofLine number (kindOf line) flaw = .malformed number (kindOf line) flaw := by
  cases h.2 with
  | @date fault hk hn hread =>
    have hfault := hd hk
    rw [isDated, hread] at hfault
    cases fault with
    | refused message => rfl
    | failed message => cases hfault
  | tooFewSummaryFields => rfl
  | noCommit => rfl
  | tooFewCountFields => rfl

/-- Exactly the logs with a bad line are refused, for the first one: its number, its kind and what is
wrong with it are told, whatever follows it. Blank lines count and make no other difference. -/
theorem refuses_first_bad (dates : DateReader) (aliases : Aliases) (lines : List String)
    (hd : ∀ line ∈ lines, kindOf line = .summary → isDated dates line = true) :
    ((∃ fault, read dates aliases lines = .error fault) ↔
      ∃ before line after, lines = before ++ line :: after ∧ IsBad dates before line) ∧
    (∀ fault, read dates aliases lines = .error fault ↔
      ∃ before line after flaw, lines = before ++ line :: after ∧ IsSound dates before ∧
        Flawed dates before line flaw ∧
        fault = .malformed (before.length + 1) (kindOf line) flaw) ∧
    ∀ before blanks after, lines = before ++ after →
      (∀ line ∈ blanks, isBlankLine line = true) →
      read dates aliases (before ++ blanks ++ after) =
        (read dates aliases lines).mapError (.pushed before.length blanks.length) := by
  refine ⟨exists_read_eq_error_iff, fun fault => ?_, ?_⟩
  · have hnamed {before after : List String} {line : String} {flaw : LineFault}
        (hsplit : lines = before ++ line :: after) (hflaw : Flawed dates before line flaw) :
        Fault.ofLine (before.length + 1) (kindOf line) flaw =
          .malformed (before.length + 1) (kindOf line) flaw := by
      apply ofLine_of_isDated hflaw
      apply hd
      rw [hsplit]
      exact List.mem_append_right _ List.mem_cons_self
    rw [read_eq_error_iff]
    constructor
    · rintro ⟨before, line, after, flaw, hsplit, hsound, hflaw, rfl⟩
      exact ⟨before, line, after, flaw, hsplit, hsound, hflaw, hnamed hsplit hflaw⟩
    · rintro ⟨before, line, after, flaw, hsplit, hsound, hflaw, rfl⟩
      exact ⟨before, line, after, flaw, hsplit, hsound, hflaw, (hnamed hsplit hflaw).symm⟩
  · rintro before blanks after rfl hblank
    exact read_insert_blank before after hblank

def twoBadLines : List String :=
  ["\x00a@x\x002025-01-01\x00h1\x00first\n", " \t\r\n", "-\tmany\tp.py\n", "1\t2\n",
    "\x00b@x\n"]

theorem refuses_first_bad_twoBadLines :
    (∀ line ∈ twoBadLines, kindOf line = .summary → isDated sampleDates line = true) ∧
      read sampleDates .empty twoBadLines =
        .error (.malformed 4 .lineCount (.tooFewCountFields 2)) ∧
      ∃ before line after flaw, twoBadLines = before ++ line :: after ∧
        IsSound sampleDates before ∧ Flawed sampleDates before line flaw ∧
        Fault.malformed 4 .lineCount (.tooFewCountFields 2) =
          .malformed (before.length + 1) (kindOf line) flaw := by
  have hdates : ∀ line ∈ twoBadLines, kindOf line = .summary →
      isDated sampleDates line = true := by
    decide +kernel
  have hfault : (read sampleDates .empty twoBadLines).map (fun _ => ()) =
      .error (.malformed 4 .lineCount (.tooFewCountFields 2)) := by
    decide +kernel
  have hread := map_eq_error_iff.mp hfault
  exact ⟨hdates, hread, ((refuses_first_bad _ .empty twoBadLines hdates).2.1 _).mp hread⟩

end Authorship.Log
