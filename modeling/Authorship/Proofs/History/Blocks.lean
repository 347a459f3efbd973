import Authorship.Proofs.History.Build
import Authorship.Proofs.History.Entries
import Mathlib.Data.List.Perm.Basic

namespace Authorship.Log

open Authorship.Calendar Authorship.Text

structure Block where
  summary : List Char
  counts : List (List Char)

namespace Block

def lines (block : Block) : List (List Char) :=
  block.summary :: block.counts

structure IsProper (block : Block) : Prop where
  summary : RecordKind.ofLine block.summary = .summary
  counts : ∀ line ∈ block.counts, RecordKind.ofLine line = .lineCount

/-- The hash of a block: the fourth field of its summary, without the blanks around it. -/
def hash? (block : Block) : Option String :=
  ((block.summary.splitOnP (· == '\x00'))[3]?).map field

structure Means (dates : DateReader) (block : Block) (entry : Entry) : Prop where
  summary : Says dates block.summary (.summary entry.summary)
  counts : List.Forall₂ (fun line count => Says dates line (.lineCount count)) block.counts
    entry.counts

end Block

variable {dates : DateReader} {aliases : Aliases}

theorem Says.exists_summary {line : List Char} {record : Record} (h : Says dates line record)
    (hk : RecordKind.ofLine line = .summary) : ∃ summary, record = .summary summary := by
  cases h with
  | summary => exact ⟨_, rfl⟩
  | lineCount hhead =>
    rw [RecordKind.ofLine, if_neg fun h => hhead (beq_iff_eq.mp h)] at hk
    cases hk

theorem Says.exists_lineCount {line : List Char} {record : Record} (h : Says dates line record)
    (hk : RecordKind.ofLine line = .lineCount) : ∃ count, record = .lineCount count := by
  cases h with
  | summary => cases hk
  | lineCount => exact ⟨_, rfl⟩

theorem Says.hash {line : List Char} {summary : Summary} (h : Says dates line (.summary summary)) :
    ((line.splitOnP (· == '\x00'))[3]?).map field = some summary.hash := by
  cases h with
  | @summary email date hash subject rest timestamp he hd hh hs hr ht =>
    have hfirst (text : List Char) :
        ('\x00' :: text).splitOnP (· == '\x00') = [] :: text.splitOnP (· == '\x00') :=
      splitOnP_append_cons_of_not_mem text List.not_mem_nil
    rw [hfirst, splitOnP_append_cons_of_not_mem _ he, splitOnP_append_cons_of_not_mem _ hd,
      splitOnP_append_cons_of_not_mem _ hh]
    rfl

theorem Block.Means.hash? {block : Block} {entry : Entry} (h : block.Means dates entry) :
    block.hash? = some entry.summary.hash :=
  h.summary.hash

theorem exists_lineCounts {lines : List (List Char)} {records : List Record}
    (hk : ∀ line ∈ lines, RecordKind.ofLine line = .lineCount)
    (h : List.Forall₂ (Says dates) lines records) :
    ∃ counts : List LineCount, records = counts.map .lineCount ∧
      List.Forall₂ (fun line count => Says dates line (.lineCount count)) lines counts := by
  induction h with
  | nil => exact ⟨[], rfl, .nil⟩
  | cons hline _ ih =>
    obtain ⟨hfirst, hrest⟩ := List.forall_mem_cons.mp hk
    obtain ⟨count, rfl⟩ := hline.exists_lineCount hfirst
    obtain ⟨counts, rfl, hall⟩ := ih hrest
    exact ⟨count :: counts, rfl, .cons hline hall⟩

theorem exists_entry {block : Block} {records : List Record} (hp : block.IsProper)
    (h : List.Forall₂ (Says dates) block.lines records) :
    ∃ entry, block.Means dates entry ∧ records = entry.records := by
  cases h with
  | cons hline hcounts =>
    obtain ⟨summary, rfl⟩ := hline.exists_summary hp.summary
    obtain ⟨counts, rfl, hall⟩ := exists_lineCounts hp.counts hcounts
    exact ⟨⟨summary, counts⟩, ⟨hline, hall⟩, rfl⟩

theorem exists_entries {blocks : List Block} {records : List Record}
    (hp : ∀ block ∈ blocks, block.IsProper)
    (h : List.Forall₂ (Says dates) (blocks.flatMap Block.lines) records) :
    ∃ entries, List.Forall₂ (Block.Means dates) blocks entries ∧
      records = entries.flatMap Entry.records := by
  induction blocks generalizing records with
  | nil =>
    cases h
    exact ⟨[], .nil, rfl⟩
  | cons block blocks ih =>
    obtain ⟨hblock, hblocks⟩ := List.forall_mem_cons.mp hp
    rw [List.flatMap_cons] at h
    obtain ⟨entry, hmeans, hown⟩ :=
      exists_entry hblock (List.forall₂_take_append _ _ _ h.flip).flip
    obtain ⟨entries, hall, hrest⟩ := ih hblocks (List.forall₂_drop_append _ _ _ h.flip).flip
    refine ⟨entry :: entries, .cons hmeans hall, ?_⟩
    rw [List.flatMap_cons, ← hown, ← hrest, List.take_append_drop]

theorem says_of_means {blocks : List Block} {entries : List Entry}
    (h : List.Forall₂ (Block.Means dates) blocks entries) :
    List.Forall₂ (Says dates) (blocks.flatMap Block.lines) (entries.flatMap Entry.records) := by
  apply List.rel_flatMap h
  intro block entry hm
  exact .cons hm.summary (List.forall₂_map_right_iff.mpr hm.counts)

/-- The same blocks in another order, each with its counts in another order. -/
def Rearranged (blocks others : List Block) : Prop :=
  ∃ moved : List Block, blocks.Perm moved ∧
    List.Forall₂ (fun a b => a.summary = b.summary ∧ a.counts.Perm b.counts) moved others

theorem exists_entries_of_same {blocks others : List Block} {entries : List Entry}
    (hs : List.Forall₂ (fun a b => a.summary = b.summary ∧ a.counts.Perm b.counts) blocks others)
    (h : List.Forall₂ (Block.Means dates) blocks entries) :
    ∃ otherEntries : List Entry, List.Forall₂ (Block.Means dates) others otherEntries ∧
      List.Forall₂ (fun a b => a.summary = b.summary ∧ a.counts.Perm b.counts) entries
        otherEntries := by
  induction h generalizing others with
  | nil =>
    cases hs
    exact ⟨[], .nil, .nil⟩
  | @cons block entry _ _ hm _ ih =>
    cases hs with
    | cons hb hrest =>
      obtain ⟨otherEntries, hothers, hsame⟩ := ih hrest
      obtain ⟨counts, hcounts, hc⟩ := List.perm_comp_forall₂ hb.2.symm hm.counts
      have hsummary := hm.summary
      rw [hb.1] at hsummary
      exact ⟨⟨entry.summary, counts⟩ :: otherEntries, .cons ⟨hsummary, hcounts⟩ hothers,
        .cons ⟨rfl, hc.symm⟩ hsame⟩

theorem exists_entries_of_rearranged {blocks others : List Block} {entries : List Entry}
    (hr : Rearranged blocks others) (h : List.Forall₂ (Block.Means dates) blocks entries) :
    ∃ moved otherEntries : List Entry, entries.Perm moved ∧
      List.Forall₂ (Block.Means dates) others otherEntries ∧
      List.Forall₂ (fun a b => a.summary = b.summary ∧ a.counts.Perm b.counts) moved
        otherEntries := by
  obtain ⟨movedBlocks, hperm, hsame⟩ := hr
  obtain ⟨moved, hmoved, hp⟩ := List.perm_comp_forall₂ hperm.symm h
  obtain ⟨otherEntries, hothers, hsame'⟩ := exists_entries_of_same hsame hmoved
  exact ⟨moved, otherEntries, hp.symm, hothers, hsame'⟩

theorem map_summary_of_same {entries others : List Entry}
    (h : List.Forall₂ (fun a b => a.summary = b.summary ∧ a.counts.Perm b.counts) entries others) :
    entries.map Entry.summary = others.map Entry.summary := by
  induction h with
  | nil => rfl
  | cons hab _ ih => rw [List.map_cons, List.map_cons, ih, hab.1]

theorem map_hash?_of_means {blocks : List Block} {entries : List Entry}
    (h : List.Forall₂ (Block.Means dates) blocks entries) :
    blocks.map Block.hash? = (entries.map (·.summary.hash)).map some := by
  induction h with
  | nil => rfl
  | cons hm _ ih => rw [List.map_cons, List.map_cons, List.map_cons, ih, hm.hash?]

theorem map_account_of_same {entries others : List Entry} (takes : Summary → Bool)
    (h : List.Forall₂ (fun a b => a.summary = b.summary ∧ a.counts.Perm b.counts) entries others) :
    (entries.filter (takes ·.summary)).map Entry.account =
      (others.filter (takes ·.summary)).map Entry.account := by
  induction h with
  | nil => rfl
  | @cons a b _ _ hab _ ih =>
    have haccount : a.account = b.account := by
      rw [Entry.account, Entry.account, hab.1, Multiset.coe_eq_coe.mpr hab.2]
    rw [List.filter_cons, List.filter_cons, hab.1]
    split
    · rw [List.map_cons, List.map_cons, ih, haccount]
    · exact ih

theorem exists_read_rearranged {lines otherLines : List String} {blocks others : List Block}
    {history : History} (hread : read dates aliases lines = .ok history)
    (hl : recordLines lines = blocks.flatMap Block.lines)
    (ho : recordLines otherLines = others.flatMap Block.lines)
    (hp : ∀ block ∈ blocks, block.IsProper) (hn : (blocks.map Block.hash?).Nodup)
    (hr : Rearranged blocks others) :
    ∃ otherHistory, read dates aliases otherLines = .ok otherHistory ∧
      history.authors.keys.Perm otherHistory.authors.keys ∧
      ∀ name, (history.accountsOf name).Perm (otherHistory.accountsOf name) := by
  obtain ⟨records, hlines, hm⟩ := meaning_of_read hread
  rw [hl] at hlines
  obtain ⟨entries, hmeans, rfl⟩ := exists_entries hp hlines
  obtain ⟨moved, otherEntries, hperm, hothers, hsame⟩ := exists_entries_of_rearranged hr hmeans
  obtain ⟨final, hfinal⟩ := exists_progress aliases otherEntries
  have hothers' := says_of_means hothers
  rw [← ho] at hothers'
  have hm' : Meaning aliases (otherEntries.flatMap Entry.records) final.history :=
    ((reached_start aliases).run hfinal).meaning
  have hsummaries : (entries.map Entry.summary).Perm (otherEntries.map Entry.summary) :=
    (hperm.map _).trans (.of_eq (map_summary_of_same hsame))
  have hdistinct : (entries.map (·.summary.hash)).Nodup := by
    rw [map_hash?_of_means hmeans] at hn
    exact List.Nodup.of_map some hn
  have hdistinct' : (otherEntries.map (·.summary.hash)).Nodup := by
    have hhashes := hsummaries.map Summary.hash
    rw [List.map_map, List.map_map] at hhashes
    exact hhashes.nodup_iff.mp hdistinct
  refine ⟨final.history, ?_, ?_, fun name => ?_⟩
  · rw [read, readFrom_eq_ok 1 hothers' hfinal]
    rfl
  · rw [hm.names, hm'.names, summaries_entries, summaries_entries]
    apply (List.perm_ext_iff_of_nodup (nodup_eraseDups _) (nodup_eraseDups _)).mpr
    intro name
    rw [List.mem_eraseDups, List.mem_eraseDups, (hsummaries.map _).mem_iff]
  · rw [hm.accountsOf_entries hdistinct, hm'.accountsOf_entries hdistinct',
      ← map_account_of_same (aliases.resolve ·.email == name) hsame]
    exact (hperm.filter _).map Entry.account

end Authorship.Log
