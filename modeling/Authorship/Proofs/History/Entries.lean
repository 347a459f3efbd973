import Authorship.Proofs.History.Accounts

namespace Authorship.Log

/-- A summary and the line counts that follow it. -/
structure Entry where
  summary : Summary
  counts : List LineCount

def Entry.records (entry : Entry) : List Record :=
  .summary entry.summary :: entry.counts.map .lineCount

def Entry.account (entry : Entry) : Account :=
  ⟨some entry.summary.timestamp, ↑entry.counts⟩

theorem exists_applyRecords {progress : Progress} (aliases : Aliases) (records : List Record)
    (h : progress.current.isSome = true) :
    ∃ final, records.foldlM (fun progress record => progress.applyRecord aliases record) progress =
      some final := by
  induction records generalizing progress with
  | nil => exact ⟨progress, rfl⟩
  | cons record records ih =>
    obtain ⟨next, hr, hn⟩ : ∃ next, progress.applyRecord aliases record = some next ∧
        next.current.isSome = true := by
      cases record with
      | summary summary => exact ⟨_, rfl, rfl⟩
      | lineCount count =>
        obtain ⟨commit, hc⟩ := Option.isSome_iff_exists.mp h
        exact ⟨progress.applyLineCount commit count, by rw [Progress.applyRecord, hc]; rfl, h⟩
    rw [List.foldlM_cons, hr]
    exact ih hn

theorem exists_progress (aliases : Aliases) (entries : List Entry) :
    ∃ final, (entries.flatMap Entry.records).foldlM
      (fun progress record => progress.applyRecord aliases record) Progress.start = some final := by
  cases entries with
  | nil => exact ⟨Progress.start, rfl⟩
  | cons entry entries =>
    rw [List.flatMap_cons, Entry.records, List.cons_append, List.foldlM_cons]
    exact exists_applyRecords aliases _ rfl

theorem nearest?_append_lineCounts (before : List Record) (summary : Summary)
    (counts : List LineCount) :
    nearest? (before ++ .summary summary :: counts.map .lineCount) = some summary := by
  induction counts using List.reverseRecOn with
  | nil => exact nearest?_concat_summary before summary
  | append_singleton counts count ih =>
    rw [List.map_append, ← List.cons_append, ← List.append_assoc]
    exact (nearest?_concat_lineCount _ count).trans ih

theorem countsOf_append_entry (hash : String) (before : List Record) (summary : Summary)
    (counts : List LineCount) :
    countsOf hash (before ++ .summary summary :: counts.map .lineCount) =
      countsOf hash before ++ if summary.hash = hash then counts else [] := by
  -- from the end, since a line count belongs to the nearest summary before it
  induction counts using List.reverseRecOn with
  | nil =>
    rw [ite_self, List.append_nil]
    exact countsOf_concat_summary hash before summary
  | append_singleton counts count ih =>
    have hlast := countsOf_concat hash (before ++ .summary summary :: counts.map .lineCount)
      (.lineCount count)
    rw [nearest?_append_lineCounts, ih] at hlast
    rw [List.map_append, ← List.cons_append, ← List.append_assoc]
    refine hlast.trans ?_
    simp only [Option.any_some, beq_iff_eq, Record.lineCount?, Option.toList_some]
    split <;> simp

theorem countsOf_entries (hash : String) (entries : List Entry) :
    countsOf hash (entries.flatMap Entry.records) =
      entries.flatMap fun entry => if entry.summary.hash = hash then entry.counts else [] := by
  induction entries using List.reverseRecOn with
  | nil => rfl
  | append_singleton entries entry ih =>
    have hlast := countsOf_append_entry hash (entries.flatMap Entry.records) entry.summary
      entry.counts
    rw [ih] at hlast
    simp only [List.flatMap_append, List.flatMap_cons, List.flatMap_nil, List.append_nil]
    exact hlast

theorem summaries_entries (entries : List Entry) :
    summaries (entries.flatMap Entry.records) = entries.map Entry.summary := by
  induction entries with
  | nil => rfl
  | cons entry entries ih =>
    have hcounts : summaries (entry.counts.map .lineCount) = [] := by
      simp [summaries, Record.summary?, Function.comp_def]
    rw [List.flatMap_cons, summaries_append, ih, List.map_cons, Entry.records]
    change entry.summary :: summaries _ ++ _ = _
    rw [hcounts]
    rfl

theorem lineCounts_entries (entries : List Entry) :
    lineCounts (entries.flatMap Entry.records) = entries.flatMap Entry.counts := by
  induction entries with
  | nil => rfl
  | cons entry entries ih =>
    have hcounts : lineCounts (entry.counts.map .lineCount) = entry.counts := by
      simp [lineCounts, Record.lineCount?, Function.comp_def]
    rw [List.flatMap_cons, lineCounts_append, ih, List.flatMap_cons, Entry.records]
    exact congrArg (· ++ _) hcounts

theorem flatMap_of_nodup {α β : Type} {key : α → String} {list : List α} {a : α} (f : α → List β)
    (hn : (list.map key).Nodup) (ha : a ∈ list) :
    (list.flatMap fun b => if key b = key a then f b else []) = f a := by
  have hnone {rest : List α} (h : key a ∉ rest.map key) :
      (rest.flatMap fun b => if key b = key a then f b else []) = [] := by
    rw [List.flatMap_eq_nil_iff]
    intro b hb
    apply if_neg
    intro he
    rw [← he] at h
    exact h (List.mem_map_of_mem hb)
  induction list with
  | nil => cases ha
  | cons first rest ih =>
    obtain ⟨hfirst, hrest⟩ := List.nodup_cons.mp hn
    rw [List.flatMap_cons]
    rcases List.mem_cons.mp ha with rfl | ha
    · rw [if_pos rfl, hnone hfirst, List.append_nil]
    · have hne : key first ≠ key a := by
        intro he
        exact hfirst (he.symm ▸ List.mem_map_of_mem ha)
      rw [if_neg hne, List.nil_append, ih hrest ha]

section Distinct

variable {entries : List Entry}

theorem lastOf?_entries {entry : Entry} (hn : (entries.map (·.summary.hash)).Nodup)
    (he : entry ∈ entries) :
    lastOf? (entries.flatMap Entry.records) entry.summary.hash = some entry.summary := by
  obtain ⟨before, after, rfl⟩ := List.append_of_mem he
  rw [List.flatMap_append, List.flatMap_cons, Entry.records, List.cons_append]
  apply lastOf?_eq_some
  intro later hl
  have hafter : later ∈ after.map Entry.summary := by
    rw [← summaries_entries]
    rw [summaries_append] at hl
    rcases List.mem_append.mp hl with hl | hl
    · simp [summaries, Record.summary?, Function.comp_def] at hl
    · exact hl
  obtain ⟨other, ho, rfl⟩ := List.mem_map.mp hafter
  rw [List.map_append, List.map_cons] at hn
  intro heq
  have hnot := (List.nodup_cons.mp (List.nodup_append.mp hn).2.1).1
  exact hnot (heq ▸ List.mem_map_of_mem ho)

theorem accountOf_entries {entry : Entry} (hn : (entries.map (·.summary.hash)).Nodup)
    (he : entry ∈ entries) :
    accountOf (entries.flatMap Entry.records) entry.summary.hash = entry.account := by
  rw [accountOf, lastOf?_entries hn he, countsOf_entries, flatMap_of_nodup Entry.counts hn he]
  rfl

theorem hashesOf_entries (hn : (entries.map (·.summary.hash)).Nodup) :
    hashesOf (entries.flatMap Entry.records) = entries.map (·.summary.hash) := by
  have hmap : (entries.map Entry.summary).map Summary.hash = entries.map (·.summary.hash) :=
    List.map_map
  rw [hashesOf, summaries_entries, hmap, eraseDups_of_nodup hn]

theorem Meaning.accountsOf_entries {aliases : Aliases} {history : History}
    (h : Meaning aliases (entries.flatMap Entry.records) history)
    (hn : (entries.map (·.summary.hash)).Nodup) (name : String) :
    history.accountsOf name =
      (entries.filter fun entry => aliases.resolve entry.summary.email == name).map
        Entry.account := by
  rw [h.accountsOf_eq, hashesOf_entries hn, List.filter_map, List.map_map]
  have hfilter : entries.filter ((fun hash => (lastOf? (entries.flatMap Entry.records) hash).any
      (aliases.resolve ·.email == name)) ∘ (·.summary.hash)) =
        entries.filter fun entry => aliases.resolve entry.summary.email == name := by
    apply List.filter_congr
    intro entry he
    rw [Function.comp_apply, lastOf?_entries hn he, Option.any_some]
  rw [hfilter]
  apply List.map_congr_left
  intro entry he
  exact accountOf_entries hn (List.mem_of_mem_filter he)

end Distinct

end Authorship.Log
