import Authorship.Proofs.Files.Tree
import Authorship.Proofs.History.Meaning
import Authorship.Proofs.Text.Utf8
import Authorship.Repository.Dump

namespace Authorship

namespace Log

open Authorship.Calendar Authorship.Text

def summaryLines (content : List UInt8) : List (List Char) :=
  (recordLines (fileLines content)).filter (RecordKind.ofLine · == .summary)

def hashIn (line : List Char) : String :=
  field ((line.splitOnP (· == '\x00')).getD 3 [])

theorem isSummary_withoutNewline (text : List Char) :
    ((RecordKind.ofLine (withoutNewline (String.ofList text)) == .summary) &&
      (withoutNewline (String.ofList text)).any fun c => !isBlank c) =
        (text.head? == some '\x00') := by
  have hhead : (withoutNewline (String.ofList text)).head? = some '\x00' ↔
      text.head? = some '\x00' := by
    rw [withoutNewline, String.toList_ofList]
    exact head?_dropEnd rfl
  rw [Bool.eq_iff_iff, Bool.and_eq_true, beq_iff_eq, beq_iff_eq, ← hhead]
  constructor
  · rintro ⟨hk, -⟩
    by_contra hne
    rw [RecordKind.ofLine, if_neg (by simpa using hne)] at hk
    cases hk
  · intro h
    refine ⟨by rw [RecordKind.ofLine, if_pos (by simpa using h)], ?_⟩
    exact List.any_eq_true.mpr ⟨'\x00', List.mem_of_head? h, rfl⟩

theorem length_summaryLines (content : List UInt8) :
    (summaryLines content).length = Repository.summaryCount content := by
  rw [summaryLines, recordLines, fileLines, List.filter_filter, List.filter_map, List.filter_map,
    List.length_map, List.length_map, Repository.summaryCount]
  congr 1
  apply List.filter_congr
  intro text _
  exact isSummary_withoutNewline text

theorem hashIn_of_says {dates : DateReader} {line : List Char} {record : Record}
    (h : Says dates line record) :
    (RecordKind.ofLine line = .summary ∧
        ∃ summary, record = .summary summary ∧ hashIn line = summary.hash) ∨
      (RecordKind.ofLine line = .lineCount ∧ ∃ count, record = .lineCount count) := by
  cases h with
  | @summary email date hash subject rest timestamp he hd hh hs hr ht =>
    refine .inl ⟨rfl, _, rfl, ?_⟩
    have hsplit := splitOnP_append_cons_of_not_mem
      (email ++ '\x00' :: (date ++ '\x00' :: (hash ++ '\x00' :: (subject ++ rest))))
      (List.not_mem_nil (a := '\x00'))
    rw [List.nil_append, splitOnP_append_cons_of_not_mem _ he,
      splitOnP_append_cons_of_not_mem _ hd, splitOnP_append_cons_of_not_mem _ hh] at hsplit
    rw [hashIn, hsplit]
    rfl
  | lineCount hk ha hd hm hn =>
    refine .inr ⟨?_, _, rfl⟩
    rw [RecordKind.ofLine, if_neg (by simpa using hk)]

theorem map_hashIn_of_says {dates : DateReader} {lines : List (List Char)} {records : List Record}
    (h : List.Forall₂ (Says dates) lines records) :
    (lines.filter (RecordKind.ofLine · == .summary)).map hashIn =
      (summaries records).map Summary.hash := by
  induction h with
  | nil => rfl
  | @cons line record lines records hline hrest ih =>
    rcases hashIn_of_says hline with ⟨hk, summary, rfl, hh⟩ | ⟨hk, count, rfl⟩
    · rw [List.filter_cons_of_pos (by simp [hk]), List.map_cons, ih, hh]
      rfl
    · rw [List.filter_cons_of_neg (by simp [hk]), ih]
      rfl

theorem size_of_readContent {dates : DateReader} {aliases : Aliases} {content : List UInt8}
    {history : History} (h : readContent dates aliases content = .ok history) :
    history.commits.size = ((summaryLines content).map hashIn).eraseDups.length := by
  obtain ⟨records, hall, hm⟩ := meaning_of_read h
  rw [summaryLines, map_hashIn_of_says hall, ← hm.hashes, Registry.keys, List.length_map,
    Registry.size]

end Log

namespace Repository

open Authorship.Text Authorship.Repository.Action

namespace Action

variable {α β : Type} {desk after : Desk}

theorem bind_eq_ok_iff {action : Action α} {next : α → Action β} {value : β} :
    (action >>= next) desk = .ok value after ↔
      ∃ first mid, action desk = .ok first mid ∧ next first mid = .ok value after := by
  simp only [Bind.bind, EStateM.bind]
  cases action desk with
  | ok first mid => simp
  | error fault mid => simp

theorem setFiles_eq_ok_iff {result : Files.Tree → Except Files.Fault Files.Tree} :
    setFiles result desk = .ok () after ↔
      ∃ files, result desk.files = .ok files ∧ after = { desk with files := files } := by
  have hrun : setFiles result desk =
      (attempt ((result desk.files).mapError .files) >>= fun files =>
        modify fun desk => { desk with files := files }) desk := rfl
  rw [hrun, bind_eq_ok_iff]
  cases result desk.files with
  | error fault =>
    simp [attempt, Except.mapError]
  | ok files =>
    constructor
    · rintro ⟨_, _, hf, hm⟩
      cases hf
      cases hm
      exact ⟨files, rfl, rfl⟩
    · rintro ⟨_, hf, rfl⟩
      cases hf
      exact ⟨files, desk, rfl, rfl⟩

theorem textOf_eq_ok_iff {output : List UInt8} {value : List Char} :
    textOf output desk = .ok value after ↔
      (∃ text, Utf8.decode? output = .ok text ∧ value = unifyNewlines text) ∧ after = desk := by
  unfold textOf attempt
  cases Utf8.decode? output with
  | error malformed => simp [Except.map, Except.mapError]
  | ok text => simp [Except.map, Except.mapError, eq_comm]

theorem files_of_ask {directory : Files.Path} {arguments : List String} {reply : Reply}
    (h : ask directory arguments desk = .ok reply after) :
    after.files = desk.files ∧ after.workDir = desk.workDir ∧
      ∃ answer place, desk.git.answer? = some answer ∧ reply = answer place arguments := by
  unfold ask at h
  split at h
  · cases h
  dsimp only at h
  split at h
  · cases h
  rename_i place hplace
  split at h
  · cases h
  · split at h
    · cases h
    · rename_i answer hanswer
      cases h
      exact ⟨rfl, rfl, answer, place, hanswer, rfl⟩
  · cases h

end Action

/-- What has to go well for a log to be dumped: its file can be made, the version control system
answers with the code of success, and what it complains of is a text. -/
structure Answers (top out : Files.Path) (allRefs includeMerges : Bool) (desk : Desk)
    (reply : Reply) : Prop where
  asked : ∃ made opened later, desk.files.makeDirectories desk.workDir out.parent = .ok made ∧
    made.write desk.workDir out (.file []) = .ok opened ∧
    ask top ((logCommand allRefs includeMerges).drop 1) { desk with files := opened } =
      .ok reply later
  code : reply.code = 0
  complaint : ∃ text, Utf8.decode? reply.err = .ok text

variable {top out : Files.Path} {allRefs includeMerges : Bool} {desk after : Desk}

theorem dumpLog_eq (top out : Files.Path) (allRefs includeMerges : Bool) (desk : Desk) :
    dumpLog top out allRefs includeMerges desk =
      (setFiles (·.makeDirectories desk.workDir out.parent) >>= fun _ =>
        setFiles (·.write desk.workDir out (.file [])) >>= fun _ =>
        ask top ((logCommand allRefs includeMerges).drop 1) >>= fun reply =>
        setFiles (·.write desk.workDir out (.file reply.out)) >>= fun _ =>
        textOf reply.err >>= fun complaint =>
        if reply.code != 0 then
          attempt (.error (.logFailed reply.code
            (String.ofList ((trim complaint).take complaintLimit))))
        else pure (summaryCount reply.out)) desk :=
  rfl

theorem exists_answers_of_dumpLog {count : Nat}
    (h : dumpLog top out allRefs includeMerges desk = .ok count after) :
    ∃ reply, Answers top out allRefs includeMerges desk reply := by
  rw [dumpLog_eq] at h
  obtain ⟨_, _, hmake, h⟩ := bind_eq_ok_iff.mp h
  obtain ⟨made, hmade, rfl⟩ := setFiles_eq_ok_iff.mp hmake
  obtain ⟨_, _, hopen, h⟩ := bind_eq_ok_iff.mp h
  obtain ⟨opened, hopened, rfl⟩ := setFiles_eq_ok_iff.mp hopen
  obtain ⟨reply, later, hask, h⟩ := bind_eq_ok_iff.mp h
  obtain ⟨_, _, hfill, h⟩ := bind_eq_ok_iff.mp h
  obtain ⟨complaint, _, htext, h⟩ := bind_eq_ok_iff.mp h
  obtain ⟨⟨text, hdecode, -⟩, -⟩ := textOf_eq_ok_iff.mp htext
  refine ⟨reply, ⟨made, opened, later, hmade, hopened, hask⟩, ?_, text, hdecode⟩
  by_contra hcode
  rw [if_pos (by simpa using hcode)] at h
  cases h

theorem Answers.exists_dumpLog {reply : Reply}
    (h : Answers top out allRefs includeMerges desk reply) :
    ∃ after, dumpLog top out allRefs includeMerges desk = .ok (summaryCount reply.out) after ∧
      after.files.read desk.workDir out = .ok reply.out := by
  obtain ⟨made, opened, later, hmade, hopened, hask⟩ := h.asked
  obtain ⟨text, hdecode⟩ := h.complaint
  obtain ⟨hfiles, -, -⟩ := files_of_ask hask
  obtain ⟨filled, hfilled⟩ :=
    Files.Tree.exists_write_of_write hopened Files.Node.noConfusion (.file reply.out)
  refine ⟨{ later with files := filled }, ?_, Files.Tree.read_of_write hfilled⟩
  rw [dumpLog_eq]
  refine bind_eq_ok_iff.mpr ⟨(), _, setFiles_eq_ok_iff.mpr ⟨made, hmade, rfl⟩, ?_⟩
  refine bind_eq_ok_iff.mpr ⟨(), _, setFiles_eq_ok_iff.mpr ⟨opened, hopened, rfl⟩, ?_⟩
  refine bind_eq_ok_iff.mpr ⟨reply, later, hask, ?_⟩
  refine bind_eq_ok_iff.mpr ⟨(), _, setFiles_eq_ok_iff.mpr ⟨filled, ?_, rfl⟩, ?_⟩
  · rw [hfiles]
    exact hfilled
  · refine bind_eq_ok_iff.mpr ⟨_, _, textOf_eq_ok_iff.mpr ⟨⟨text, hdecode, rfl⟩, rfl⟩, ?_⟩
    rw [if_neg (by simp [h.code])]
    rfl

/-- Whatever bytes are answered, the count of a dump is the number of summaries that a reader finds
in the file, and a history that is read from it has at most as many commits: just as many if no two
summaries have the same hash. -/
theorem count_of_dumpLog (top out : Files.Path) (allRefs includeMerges : Bool) (desk : Desk) :
    (∀ reply, Answers top out allRefs includeMerges desk reply →
      ∃ count after, dumpLog top out allRefs includeMerges desk = .ok count after ∧
        after.files.read desk.workDir out = .ok reply.out) ∧
    ∀ count after, dumpLog top out allRefs includeMerges desk = .ok count after →
      ∃ content, after.files.read desk.workDir out = .ok content ∧
        (∃ reply, Answers top out allRefs includeMerges desk reply ∧ reply.out = content) ∧
        count = (Log.summaryLines content).length ∧
        ∀ dates aliases history, Log.readContent dates aliases content = .ok history →
          history.commits.size ≤ count ∧
            (history.commits.size = count ↔
              ((Log.summaryLines content).map Log.hashIn).Nodup) := by
  refine ⟨?_, ?_⟩
  · intro reply hanswers
    obtain ⟨after, hdump, hread⟩ := hanswers.exists_dumpLog
    exact ⟨_, after, hdump, hread⟩
  · intro count after hdump
    obtain ⟨reply, hanswers⟩ := exists_answers_of_dumpLog hdump
    obtain ⟨other, hother, hread⟩ := hanswers.exists_dumpLog
    rw [hdump] at hother
    cases hother
    have hcount := Log.length_summaryLines reply.out
    refine ⟨reply.out, hread, ⟨reply, hanswers, rfl⟩, hcount.symm, ?_⟩
    intro dates aliases history hhistory
    have hsize := Log.size_of_readContent hhistory
    rw [← hcount, hsize, ← List.length_map (f := Log.hashIn)]
    exact ⟨(subperm_eraseDups _).length_le, length_eraseDups_eq_iff⟩

/-- Two summaries of one commit, with bytes that are no UTF-8, newlines of all kinds and a blank
line. -/
def strayContent : List UInt8 :=
  Utf8.encode "\x00a@x\x002025-01-01\x00h1\x00first".toList ++ [0xC3, 0x0D, 0x0A] ++
    Utf8.encode "1\t2\tp.py\r \t\r\n\x00b@x\x002025-01-02\x00 h1 \x00again\r-\t3\tq".toList

def strayDesk : Desk :=
  ⟨⟨some fun _ _ => ⟨strayContent, [], 0⟩⟩, [], ⟨[]⟩, []⟩

theorem count_of_dumpLog_strayDesk :
    ∃ after, dumpLog ⟨.slash, []⟩ ⟨.relative, ["log"]⟩ false false strayDesk = .ok 2 after ∧
      ∃ content, after.files.read [] ⟨.relative, ["log"]⟩ = .ok content ∧
        2 = (Log.summaryLines content).length ∧
        ∃ history, Log.readContent Log.sampleDates .empty content = .ok history ∧
          history.commits.size ≤ 2 ∧
          (history.commits.size = 2 ↔ ((Log.summaryLines content).map Log.hashIn).Nodup) := by
  have hanswers : Answers ⟨.slash, []⟩ ⟨.relative, ["log"]⟩ false false strayDesk
      ⟨strayContent, [], 0⟩ :=
    ⟨⟨_, _, _, rfl, rfl, rfl⟩, rfl, [], Utf8.decode?_encode []⟩
  have hcounted : summaryCount strayContent = 2 := by decide +kernel
  have htold : (Log.readContent Log.sampleDates .empty strayContent).isOk = true := by
    decide +kernel
  obtain ⟨hdumps, hcounts⟩ :=
    count_of_dumpLog ⟨.slash, []⟩ ⟨.relative, ["log"]⟩ false false strayDesk
  obtain ⟨count, after, hdump, hread⟩ := hdumps _ hanswers
  obtain ⟨content, hcontent, -, hcount, hread'⟩ := hcounts count after hdump
  obtain rfl : strayContent = content := Except.ok.inj (hread.symm.trans hcontent)
  rw [Log.length_summaryLines, hcounted] at hcount
  subst hcount
  cases hh : Log.readContent Log.sampleDates .empty strayContent with
  | error fault =>
    rw [hh] at htold
    cases htold
  | ok history =>
    refine ⟨after, hdump, strayContent, hcontent, ?_, history, hh, hread' _ _ _ hh⟩
    rw [Log.length_summaryLines, hcounted]

end Repository

end Authorship
