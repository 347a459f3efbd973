import Authorship.Text.Blank
import Authorship.Text.Piece
import Mathlib.Data.List.TakeWhile

namespace Authorship.Text

theorem splitOnP_eq_cons {p : Char → Bool} {text piece : List Char} {rest : List (List Char)}
    (h : text.splitOnP p = piece :: rest) :
    (∀ c ∈ piece, p c = false) ∧ ((rest = [] ∧ text = piece) ∨
      ∃ mark after, p mark = true ∧ text = piece ++ mark :: after ∧ after.splitOnP p = rest) := by
  induction text generalizing piece with
  | nil =>
    rw [List.splitOnP_nil] at h
    cases h
    exact ⟨by simp, .inl ⟨rfl, rfl⟩⟩
  | cons c text ih =>
    rw [List.splitOnP_cons_eq_if_modifyHead] at h
    split at h
    · rename_i hc
      cases h
      exact ⟨by simp, .inr ⟨c, text, hc, rfl, rfl⟩⟩
    · rename_i hc
      cases hs : text.splitOnP p with
      | nil => exact absurd hs (List.splitOnP_ne_nil p text)
      | cons first others =>
        rw [hs] at h
        cases h
        obtain ⟨hn, hcut⟩ := ih hs
        constructor
        · intro d hd
          rcases List.mem_cons.mp hd with rfl | hd
          · simpa using hc
          · exact hn d hd
        · rcases hcut with ⟨hr, rfl⟩ | ⟨mark, after, hm, rfl, ha⟩
          · exact .inl ⟨hr, rfl⟩
          · exact .inr ⟨mark, after, hm, rfl, ha⟩

theorem forall_mem_of_splitOnP {p : Char → Bool} {text : List Char} {pieces : List (List Char)}
    (h : text.splitOnP p = pieces) : ∀ piece ∈ pieces, ∀ c ∈ piece, p c = false := by
  induction pieces generalizing text with
  | nil => simp
  | cons first rest ih =>
    obtain ⟨hfirst, hcut⟩ := splitOnP_eq_cons h
    intro piece hm
    rcases List.mem_cons.mp hm with rfl | hm
    · exact hfirst
    · rcases hcut with ⟨rfl, -⟩ | ⟨-, after, -, -, hrest⟩
      · cases hm
      · exact ih hrest piece hm

theorem splitOnP_eq_cons_cons {mark : Char} {text piece next : List Char}
    {rest : List (List Char)} (h : text.splitOnP (· == mark) = piece :: next :: rest) :
    ∃ after, text = piece ++ mark :: after ∧ mark ∉ piece ∧
      after.splitOnP (· == mark) = next :: rest := by
  obtain ⟨hp, ⟨hr, -⟩ | ⟨c, after, hc, rfl, ha⟩⟩ := splitOnP_eq_cons h
  · cases hr
  · rw [eq_of_beq hc]
    refine ⟨after, rfl, ?_, ha⟩
    intro hm
    simpa using hp mark hm

theorem eq_append_of_splitOnP {mark : Char} {text piece : List Char} {rest : List (List Char)}
    (h : text.splitOnP (· == mark) = piece :: rest) :
    mark ∉ piece ∧ ∃ tail, text = piece ++ tail ∧ (tail = [] ∨ ∃ more, tail = mark :: more) := by
  obtain ⟨hp, hcut⟩ := splitOnP_eq_cons h
  constructor
  · intro hm
    simpa using hp mark hm
  · rcases hcut with ⟨-, rfl⟩ | ⟨c, after, hc, rfl, -⟩
    · exact ⟨[], (List.append_nil _).symm, .inl rfl⟩
    · rw [eq_of_beq hc]
      exact ⟨mark :: after, rfl, .inr ⟨after, rfl⟩⟩

theorem cutAtFirst_succ {mark : Char} {text : List Char} (count : Nat) (h : mark ∈ text) :
    ∃ before after, text = before ++ mark :: after ∧ mark ∉ before ∧
      cutAtFirst mark (count + 1) text = before :: cutAtFirst mark count after := by
  have hparts := List.takeWhile_append_dropWhile (p := (· != mark)) (l := text)
  cases hd : text.dropWhile (· != mark) with
  | nil =>
    rw [hd, List.append_nil] at hparts
    rw [← hparts] at h
    simpa using List.mem_takeWhile_imp h
  | cons c after =>
    have hc : c = mark := by
      have := List.head?_dropWhile_not (· != mark) text
      simpa [hd] using this
    subst c
    refine ⟨text.takeWhile (· != mark), after, ?_, ?_, by simp only [cutAtFirst, hd]⟩
    · rw [← hd, hparts]
    · intro hm
      simpa using List.mem_takeWhile_imp hm

theorem cutAtFirst_of_not_mem {mark : Char} {text : List Char} (count : Nat) (h : mark ∉ text) :
    cutAtFirst mark count text = [text] := by
  cases count with
  | zero => rfl
  | succ count =>
    have hd : text.dropWhile (· != mark) = [] := by
      rw [List.dropWhile_eq_nil_iff]
      intro c hc
      rw [bne_iff_ne]
      rintro rfl
      exact h hc
    simp only [cutAtFirst, hd]

theorem occursIn_iff {part text : List Char} : occursIn part text = true ↔ part <:+: text := by
  induction text with
  | nil => simp [occursIn]
  | cons c text ih =>
    rw [occursIn, Bool.or_eq_true, List.isPrefixOf_iff_prefix, ih, List.infix_cons_iff]

theorem contains_iff {text part : String} :
    contains text part = true ↔ part.toList <:+: text.toList :=
  occursIn_iff

theorem dropEnd_eq_nil_iff {drop : Char → Bool} {text : List Char} :
    dropEnd drop text = [] ↔ ∀ c ∈ text, drop c = true := by
  simp [dropEnd, List.dropWhile_eq_nil_iff]

theorem dropEnd_prefix (drop : Char → Bool) (text : List Char) : dropEnd drop text <+: text := by
  rw [dropEnd, ← List.reverse_suffix, List.reverse_reverse]
  exact List.dropWhile_suffix drop

theorem head?_dropEnd {drop : Char → Bool} {mark : Char} {text : List Char}
    (h : drop mark = false) :
    (dropEnd drop text).head? = some mark ↔ text.head? = some mark := by
  obtain ⟨tail, htext⟩ := dropEnd_prefix drop text
  constructor
  · intro hd
    rw [← htext, List.head?_append, hd, Option.some_or]
  · intro ht
    cases hd : dropEnd drop text with
    | nil =>
      have hmark := dropEnd_eq_nil_iff.mp hd mark (List.mem_of_head? ht)
      rw [h] at hmark
      cases hmark
    | cons c rest =>
      rw [← htext, hd, List.cons_append, List.head?_cons] at ht
      rw [List.head?_cons, ht]

theorem trim_eq_nil_iff {text : List Char} : trim text = [] ↔ ∀ c ∈ text, isBlank c = true := by
  rw [trim, trimOf, dropEnd_eq_nil_iff]
  constructor
  · intro h
    have hd : text.dropWhile isBlank = [] := by
      cases hd : text.dropWhile isBlank with
      | nil => rfl
      | cons c rest =>
        have hn := List.head?_dropWhile_not isBlank text
        have hc := h c (by simp [hd])
        simp [hd, hc] at hn
    exact List.dropWhile_eq_nil_iff.mp hd
  · intro h c hc
    exact h c ((List.dropWhile_suffix isBlank).subset hc)

theorem isBlank_of_printable {c : Char} (hlow : 32 < c.toNat) (hhigh : c.toNat < 127) :
    isBlank c = false := by
  simp only [isBlank, Bool.or_eq_false_iff, Bool.and_eq_false_iff, decide_eq_false_iff_not,
    beq_eq_false_iff_ne]
  omega

theorem dropEnd_of_forall_false {drop : Char → Bool} {text : List Char}
    (h : ∀ c ∈ text, drop c = false) : dropEnd drop text = text := by
  rw [dropEnd]
  cases hr : text.reverse with
  | nil => rw [List.dropWhile_nil, ← hr, List.reverse_reverse]
  | cons c rest =>
    have hc : c ∈ text := List.mem_reverse.mp (hr ▸ List.mem_cons_self)
    rw [List.dropWhile_cons_of_neg (by simp [h c hc]), ← hr, List.reverse_reverse]

theorem dropWhile_of_forall_false {drop : Char → Bool} {text : List Char}
    (h : ∀ c ∈ text, drop c = false) : text.dropWhile drop = text := by
  cases text with
  | nil => rfl
  | cons c rest => exact List.dropWhile_cons_of_neg (by simp [h c List.mem_cons_self])

theorem trimOf_of_forall_false {drop : Char → Bool} {text : List Char}
    (h : ∀ c ∈ text, drop c = false) : trimOf drop text = text := by
  rw [trimOf, dropWhile_of_forall_false h, dropEnd_of_forall_false h]

theorem exists_dropEnd (drop : Char → Bool) (text : List Char) :
    ∃ after, text = dropEnd drop text ++ after ∧ ∀ c ∈ after, drop c = true := by
  refine ⟨(text.reverse.takeWhile drop).reverse, ?_, ?_⟩
  · rw [dropEnd, ← List.reverse_append, List.takeWhile_append_dropWhile, List.reverse_reverse]
  · intro c hc
    exact List.mem_takeWhile_imp (List.mem_reverse.mp hc)

theorem exists_trimOf (drop : Char → Bool) (text : List Char) :
    ∃ before after, text = before ++ trimOf drop text ++ after ∧
      (∀ c ∈ before, drop c = true) ∧ ∀ c ∈ after, drop c = true := by
  obtain ⟨after, hafter, hdropped⟩ := exists_dropEnd drop (text.dropWhile drop)
  refine ⟨text.takeWhile drop, after, ?_, fun c hc => List.mem_takeWhile_imp hc, hdropped⟩
  rw [trimOf, List.append_assoc, ← hafter, List.takeWhile_append_dropWhile]

theorem trimOf_append_append {drop : Char → Bool} {before core after : List Char}
    (hcore : core ≠ []) (hb : ∀ c ∈ before, drop c = true) (hc : ∀ c ∈ core, drop c = false)
    (ha : ∀ c ∈ after, drop c = true) : trimOf drop (before ++ core ++ after) = core := by
  have hstart : (before ++ core ++ after).dropWhile drop = core ++ after := by
    obtain ⟨c, rest, rfl⟩ := List.exists_cons_of_ne_nil hcore
    rw [List.append_assoc, List.dropWhile_append_of_pos hb]
    exact List.dropWhile_cons_of_neg (Bool.eq_false_iff.mp (hc c List.mem_cons_self))
  have hreverse : ∀ c ∈ after.reverse, drop c = true := fun c hm => ha c (List.mem_reverse.mp hm)
  rw [trimOf, hstart, dropEnd, List.reverse_append, List.dropWhile_append_of_pos hreverse]
  exact dropEnd_of_forall_false hc

theorem cutAtFirst_append_cons {mark : Char} {before : List Char} (count : Nat) (after : List Char)
    (h : mark ∉ before) :
    cutAtFirst mark (count + 1) (before ++ mark :: after) = before :: cutAtFirst mark count after := by
  have hbefore : ∀ c ∈ before, (c != mark) = true := by
    intro c hc
    rw [bne_iff_ne]
    rintro rfl
    exact h hc
  have hafter : (before ++ mark :: after).dropWhile (· != mark) = mark :: after := by
    rw [List.dropWhile_append_of_pos hbefore]
    exact List.dropWhile_cons_of_neg (by simp)
  have hpiece : (before ++ mark :: after).takeWhile (· != mark) = before := by
    rw [List.takeWhile_append_of_pos hbefore]
    exact (congrArg (before ++ ·) (List.takeWhile_cons_of_neg (by simp))).trans
      (List.append_nil before)
  simp only [cutAtFirst, hafter, hpiece]

theorem splitOnP_append_cons_of_not_mem {mark : Char} {piece : List Char} (rest : List Char)
    (h : mark ∉ piece) :
    (piece ++ mark :: rest).splitOnP (· == mark) = piece :: rest.splitOnP (· == mark) := by
  apply List.splitOnP_append_cons_of_forall_mem
  · intro c hc
    rw [beq_eq_false_iff_ne]
    rintro rfl
    exact h hc
  · exact beq_self_eq_true mark

theorem splitOnP_of_not_mem {mark : Char} {piece : List Char} (h : mark ∉ piece) :
    piece.splitOnP (· == mark) = [piece] := by
  apply List.splitOnP_eq_singleton
  intro c hc
  rw [beq_eq_false_iff_ne]
  rintro rfl
  exact h hc

theorem splitOnP_append_of_not_mem {mark : Char} {before : List Char} (rest : List Char)
    (h : mark ∉ before) :
    (before ++ rest).splitOnP (· == mark) =
      (rest.splitOnP (· == mark)).modifyHead (before ++ ·) := by
  induction before with
  | nil => exact (List.modifyHead_id ▸ rfl)
  | cons c before ih =>
    have hc : ¬ (c == mark) = true := by
      rw [beq_iff_eq]
      rintro rfl
      exact h List.mem_cons_self
    rw [List.cons_append, List.splitOnP_cons_eq_if_modifyHead, if_neg hc,
      ih fun hm => h (List.mem_cons_of_mem c hm), List.modifyHead_modifyHead]
    rfl

theorem length_splitOnP (p : Char → Bool) (text : List Char) :
    (text.splitOnP p).length = text.countP p + 1 := by
  induction text with
  | nil => rfl
  | cons c text ih =>
    rw [List.splitOnP_cons_eq_if_modifyHead, List.countP_cons]
    split
    · rw [List.length_cons, ih]
    · rw [List.length_modifyHead, ih, Nat.add_zero]

theorem length_cutAtFirst (mark : Char) (count : Nat) (text : List Char) :
    (cutAtFirst mark count text).length = min count (text.count mark) + 1 := by
  induction count generalizing text with
  | zero => simp [cutAtFirst]
  | succ count ih =>
    by_cases h : mark ∈ text
    · obtain ⟨before, after, rfl, hb, hcut⟩ := cutAtFirst_succ count h
      rw [hcut, List.length_cons, ih, List.count_append, List.count_eq_zero_of_not_mem hb,
        List.count_cons_self]
      omega
    · rw [cutAtFirst_of_not_mem _ h, List.count_eq_zero_of_not_mem h, Nat.min_zero]
      rfl

theorem forall_mem_dropEnd {drop : Char → Bool} {P : Char → Prop} {text : List Char}
    (h : ∀ c, drop c = true → P c) : (∀ c ∈ dropEnd drop text, P c) ↔ ∀ c ∈ text, P c := by
  have hparts := List.takeWhile_append_dropWhile (p := drop) (l := text.reverse)
  simp only [dropEnd, List.mem_reverse]
  constructor
  · intro hall c hc
    rw [← List.mem_reverse, ← hparts, List.mem_append] at hc
    rcases hc with hc | hc
    · exact h c (List.mem_takeWhile_imp hc)
    · exact hall c hc
  · intro hall c hc
    exact hall c (List.mem_reverse.mp ((List.dropWhile_suffix drop).subset hc))

theorem cutAt?_cons (mark c : Char) (rest : List Char) :
    cutAt? [mark] (c :: rest) =
      if c = mark then some ([], rest)
      else (cutAt? [mark] rest).map fun (before, after) => (c :: before, after) := by
  have hprefix : [mark].isPrefixOf (c :: rest) = true ↔ c = mark := by
    rw [List.isPrefixOf, List.isPrefixOf_nil_left, Bool.and_true, beq_iff_eq]
    exact eq_comm
  simp only [cutAt?, hprefix]
  rfl

theorem cutAt?_of_not_mem {mark : Char} {text : List Char} (h : mark ∉ text) :
    cutAt? [mark] text = none := by
  induction text with
  | nil => rfl
  | cons c text ih =>
    have hc : ¬ c = mark := by
      rintro rfl
      exact h List.mem_cons_self
    rw [cutAt?_cons, if_neg hc, ih fun hm => h (List.mem_cons_of_mem c hm)]
    rfl

theorem cutAt?_append_cons {mark : Char} {before : List Char} (after : List Char)
    (h : mark ∉ before) : cutAt? [mark] (before ++ mark :: after) = some (before, after) := by
  induction before with
  | nil => rw [List.nil_append, cutAt?_cons, if_pos rfl]
  | cons c before ih =>
    have hc : ¬ c = mark := by
      rintro rfl
      exact h List.mem_cons_self
    rw [List.cons_append, cutAt?_cons, if_neg hc, ih fun hm => h (List.mem_cons_of_mem c hm)]
    rfl

theorem cutAt?_eq_some_iff {mark : Char} {text before after : List Char} :
    cutAt? [mark] text = some (before, after) ↔
      mark ∉ before ∧ text = before ++ mark :: after := by
  constructor
  · intro h
    by_cases hm : mark ∈ text
    · obtain ⟨front, back, rfl, hfront⟩ := List.eq_append_cons_of_mem hm
      rw [cutAt?_append_cons back hfront] at h
      cases h
      exact ⟨hfront, rfl⟩
    · rw [cutAt?_of_not_mem hm] at h
      cases h
  · rintro ⟨hm, rfl⟩
    exact cutAt?_append_cons after hm

theorem isSome_cutAt?_iff {mark : Char} {text : List Char} :
    (cutAt? [mark] text).isSome = true ↔ mark ∈ text := by
  constructor
  · intro h
    obtain ⟨⟨before, after⟩, hcut⟩ := Option.isSome_iff_exists.mp h
    rw [(cutAt?_eq_some_iff.mp hcut).2]
    simp
  · intro hm
    obtain ⟨front, back, rfl, hfront⟩ := List.eq_append_cons_of_mem hm
    rw [cutAt?_append_cons back hfront]
    rfl

end Authorship.Text
