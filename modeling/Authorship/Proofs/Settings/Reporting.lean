import Authorship.Proofs.Json.Reading
import Authorship.Proofs.Number.Order
import Authorship.Settings.Basic

namespace Authorship

namespace Files.Path

variable {home? : String → Option Path} {path : Path}

def IsHomeless (home? : String → Option Path) (path : Path) : Prop :=
  ∃ (first : String) (user : List Char) (rest : List String), path = ⟨.relative, first :: rest⟩ ∧
    first.toList = '~' :: user ∧ '\x00' ∉ user ∧ home? (String.ofList user) = none

theorem noHome_or_embeddedNul {fault : Fault} (h : path.expandHome home? = .error fault) :
    fault = .noHome ∨ fault = .embeddedNul := by
  unfold expandHome at h
  dsimp only at h
  repeat' split at h
  all_goals cases h
  · exact .inr rfl
  · exact .inl rfl

theorem expandHome_of_tilde {first : String} {user : List Char} (rest : List String)
    (h : first.toList = '~' :: user) :
    expandHome home? ⟨.relative, first :: rest⟩ =
      if user.contains '\x00' then .error .embeddedNul
      else
        match home? (String.ofList user) with
        | none => .error .noHome
        | some home => .ok { home with parts := home.parts ++ rest } := by
  have hstarts : first.startsWith "~" = true := by
    rw [String.startsWith_string_iff, h]
    exact ⟨user, rfl⟩
  have huser : first.toList.drop 1 = user := by rw [h, List.drop_one, List.tail_cons]
  unfold expandHome
  dsimp only
  rw [hstarts, huser]
  rfl

theorem expandHome_eq_noHome_iff :
    path.expandHome home? = .error .noHome ↔ path.IsHomeless home? := by
  constructor
  · intro h
    have hopen := h
    unfold expandHome at h
    split at h
    · rename_i first rest hroot hparts
      have hpath : path = ⟨.relative, first :: rest⟩ := by rw [← hroot, ← hparts]
      split at h
      · cases h
      · rename_i hstarts
        rw [Bool.not_eq_true', Bool.not_eq_false, String.startsWith_string_iff] at hstarts
        obtain ⟨user, huser⟩ := hstarts
        have hfirst : first.toList = '~' :: user := huser.symm
        rw [hpath, expandHome_of_tilde rest hfirst] at hopen
        refine ⟨first, user, rest, hpath, hfirst, ?_⟩
        split at hopen
        · cases hopen
        · rename_i hnul
          rw [List.contains_iff_mem] at hnul
          split at hopen
          · exact ⟨hnul, by assumption⟩
          · cases hopen
    · cases h
  · rintro ⟨first, user, rest, rfl, hfirst, hnul, hhome⟩
    rw [expandHome_of_tilde rest hfirst, if_neg (by rwa [List.contains_iff_mem]), hhome]

end Files.Path

namespace Settings

open Authorship.Number Authorship.Text

section Steps

variable {ε α β : Type} {x : Except ε α} {f : α → Except ε β}

theorem bind_eq_error_iff {e : ε} :
    x >>= f = .error e ↔ x = .error e ∨ ∃ a, x = .ok a ∧ f a = .error e := by
  cases x with
  | error e' => simp [bind, Except.bind]
  | ok a => simp [bind, Except.bind]

theorem exists_bind_ok_iff : (∃ b, x >>= f = .ok b) ↔ ∃ a, x = .ok a ∧ ∃ b, f a = .ok b := by
  cases x with
  | error e' => simp [bind, Except.bind]
  | ok a => simp [bind, Except.bind]

end Steps

variable {home? : String → Option Files.Path} {baseDir : Option Files.Path} {config value : Json}
  {fault : Fault}

theorem isReported_of_toInteger (h : toInteger value = .error fault) :
    fault.isReported = false ↔ ∃ negative, value = .number (.infinite negative) := by
  cases value with
  | null => cases h; simp [Fault.isReported]
  | bool b => cases h
  | integer n => cases h
  | number x =>
    cases x with
    | nan => cases h; simp [Fault.isReported]
    | infinite negative => cases h; simp [Fault.isReported]
    | finite value => cases h
    | negativeZero => cases h
  | string text =>
    unfold toInteger at h
    dsimp only at h
    split at h
    · cases h
    · cases h; simp [Fault.isReported]
    · cases h; simp [Fault.isReported]
  | list items => cases h; simp [Fault.isReported]
  | object members => cases h; simp [Fault.isReported]

theorem isReported_of_toNumber (h : toNumber value = .error fault) :
    fault.isReported = false ↔ ∃ n, value = .integer n ∧ Binary64.limit ≤ n.natAbs := by
  cases value with
  | null => cases h; simp [Fault.isReported]
  | bool b => cases h
  | integer n =>
    unfold toNumber at h
    dsimp only at h
    split at h
    · cases h
    · rename_i hnone
      cases h
      have hlarge : Binary64.limit ≤ n.natAbs := by
        rw [← not_lt, ← Binary64.exists_ofInt?_iff, hnone]
        simp
      simp [Fault.isReported, hlarge]
  | number x => cases h
  | string text =>
    unfold toNumber at h
    dsimp only at h
    split at h
    · cases h
    · cases h; simp [Fault.isReported]
  | list items => cases h; simp [Fault.isReported]
  | object members => cases h; simp [Fault.isReported]

section Script

variable {script : Json}

/-- A script is named whose path starts at the home of a user who has none. -/
structure StandsInNoHome (home? : String → Option Files.Path) (script : Json) : Prop where
  isPresent : script.isPresent = true
  encodable : unencodableUser? script = none
  isHomeless : (Files.Path.ofText script.shown).IsHomeless home?

def HasScript (home? : String → Option Files.Path) (config : Json) : Prop :=
  ∀ script, config.member? "script" = some script → script.isPresent = true →
    unencodableUser? script = none ∧
      ∃ path, (Files.Path.ofText script.shown).expandHome home? = .ok path

theorem expandHome_defaultScript (home? : String → Option Files.Path) :
    (Files.Path.ofText defaultScript).expandHome home? = .ok (.ofText defaultScript) := by
  have hpath : Files.Path.ofText defaultScript = ⟨.relative, ["gista.cfg"]⟩ := by decide +kernel
  have hstarts : "gista.cfg".startsWith "~" = false := by decide +kernel
  simp only [hpath, Files.Path.expandHome, hstarts, Bool.not_false, if_true]

theorem unencodableUser?_of_not_isPresent (h : script.isPresent = false) :
    unencodableUser? script = none := by
  cases script with
  | string path =>
    have hnil : path = [] := by simpa [Json.isPresent] using h
    rw [hnil]
    rfl
  | _ => rfl

theorem exists_scriptOf_of_default (h : ∀ script, config.member? "script" = some script →
    script.isPresent = false) : ∃ path, scriptOf home? baseDir config = .ok path := by
  unfold scriptOf
  cases hg : config.member? "script" with
  | none =>
    simp only [Option.bind_none, expandHome_defaultScript]
    cases baseDir <;> exact ⟨_, rfl⟩
  | some script =>
    have hp := h script hg
    simp only [Option.bind_some, unencodableUser?_of_not_isPresent hp, hp, Bool.false_eq_true,
      if_false, expandHome_defaultScript]
    cases baseDir <;> exact ⟨_, rfl⟩

theorem scriptOf_of_unencodable {half : Unencodable} (hg : config.member? "script" = some script)
    (hu : unencodableUser? script = some half) :
    scriptOf home? baseDir config = .error (.encoding (.unencodable half)) := by
  simp only [scriptOf, hg, Option.bind_some, hu]

theorem scriptOf_of_isPresent (hg : config.member? "script" = some script)
    (hp : script.isPresent = true) (hu : unencodableUser? script = none) :
    scriptOf home? baseDir config =
      (((Files.Path.ofText script.shown).expandHome home?).mapError .files).map
        fun path => baseDir.elim path (·.join path) := by
  simp only [scriptOf, hg, Option.bind_some, hu, hp, if_true]
  cases (Files.Path.ofText script.shown).expandHome home? with
  | error fault => rfl
  | ok path => cases baseDir <;> rfl

theorem exists_scriptOf_iff :
    (∃ path, scriptOf home? baseDir config = .ok path) ↔ HasScript home? config := by
  constructor
  · rintro ⟨path, h⟩ script hg hp
    cases hu : unencodableUser? script with
    | some half =>
      rw [scriptOf_of_unencodable hg hu] at h
      cases h
    | none =>
      refine ⟨rfl, ?_⟩
      rw [scriptOf_of_isPresent hg hp hu] at h
      cases he : (Files.Path.ofText script.shown).expandHome home? with
      | error fault =>
        rw [he] at h
        cases h
      | ok path => exact ⟨path, rfl⟩
  · intro h
    by_cases hdefault : ∀ script, config.member? "script" = some script → script.isPresent = false
    · exact exists_scriptOf_of_default hdefault
    · push Not at hdefault
      obtain ⟨script, hg, hp⟩ := hdefault
      rw [Bool.ne_false_iff] at hp
      obtain ⟨hu, path, he⟩ := h script hg hp
      rw [scriptOf_of_isPresent hg hp hu, he]
      exact ⟨_, rfl⟩

theorem isReported_of_scriptOf (h : scriptOf home? baseDir config = .error fault) :
    fault.isReported = false ↔
      ∃ script, config.member? "script" = some script ∧ StandsInNoHome home? script := by
  obtain ⟨script, hg, hp⟩ : ∃ script, config.member? "script" = some script ∧
      script.isPresent = true := by
    by_contra hnone
    push Not at hnone
    obtain ⟨path, hok⟩ : ∃ path, scriptOf home? baseDir config = .ok path :=
      exists_scriptOf_of_default fun script hg => Bool.eq_false_iff.mpr (hnone script hg)
    rw [h] at hok
    cases hok
  have honly : (∃ other, config.member? "script" = some other ∧ StandsInNoHome home? other) ↔
      StandsInNoHome home? script := by
    simp only [hg, Option.some.injEq, exists_eq_left']
  rw [honly]
  cases hu : unencodableUser? script with
  | some half =>
    rw [scriptOf_of_unencodable hg hu] at h
    cases h
    refine ⟨fun hr => (by cases hr), fun hs => ?_⟩
    rw [hs.encodable] at hu
    cases hu
  | none =>
    rw [scriptOf_of_isPresent hg hp hu] at h
    cases he : (Files.Path.ofText script.shown).expandHome home? with
    | ok path =>
      rw [he] at h
      cases h
    | error reason =>
      rw [he] at h
      cases h
      rcases Files.Path.noHome_or_embeddedNul he with rfl | rfl
      · exact ⟨fun _ => ⟨hp, hu, Files.Path.expandHome_eq_noHome_iff.mp he⟩, fun _ => rfl⟩
      · refine ⟨fun hr => (by cases hr), fun hs => ?_⟩
        rw [Files.Path.expandHome_eq_noHome_iff.mpr hs.isHomeless] at he
        cases he

end Script

section Members

variable {α : Type} {convert : Json → Except Fault α} {name : String} {standard : α}

def Converts (convert : Json → Except Fault α) (member : Option Json) : Prop :=
  ∀ value, member = some value → ∃ a, convert value = .ok a

theorem exists_memberOr_iff :
    (∃ a, memberOr config name convert standard = .ok a) ↔
      Converts convert (config.member? name) := by
  rw [memberOr, Converts]
  cases config.member? name with
  | none => simp
  | some value => simp

theorem memberOr_eq_error_iff :
    memberOr config name convert standard = .error fault ↔
      ∃ value, config.member? name = some value ∧ convert value = .error fault := by
  rw [memberOr]
  cases config.member? name with
  | none => simp
  | some value => simp

end Members

structure Usable (home? : String → Option Files.Path) (config : Json) : Prop where
  script : HasScript home? config
  dpi : Converts toInteger (config.member? "dpi")
  days : Converts toNumber (config.member? "days")
  skip : Converts toInteger (config.member? "skip_commits")

/-- A configuration of which the first value that does not convert is not reported: a script in no
one's home, an infinity for an integer, or an integer that is too large for a number. -/
inductive Escapes (home? : String → Option Files.Path) (config : Json) : Prop
  | script {script : Json} (hg : config.member? "script" = some script)
      (hs : StandsInNoHome home? script)
  | dpi {negative : Bool} (hscript : HasScript home? config)
      (hg : config.member? "dpi" = some (.number (.infinite negative)))
  | days {n : Int} (hscript : HasScript home? config)
      (hdpi : Converts toInteger (config.member? "dpi"))
      (hg : config.member? "days" = some (.integer n)) (hn : Binary64.limit ≤ n.natAbs)
  | skip {negative : Bool} (hscript : HasScript home? config)
      (hdpi : Converts toInteger (config.member? "dpi"))
      (hdays : Converts toNumber (config.member? "days"))
      (hg : config.member? "skip_commits" = some (.number (.infinite negative)))

theorem exists_ofJson_iff :
    (∃ settings, ofJson home? baseDir config = .ok settings) ↔ Usable home? config := by
  simp only [ofJson, exists_bind_ok_iff, exists_and_right, exists_eq', and_true,
    exists_scriptOf_iff, exists_memberOr_iff, Except.ok.injEq]
  exact ⟨fun ⟨hscript, hdpi, hdays, hskip⟩ => ⟨hscript, hdpi, hdays, hskip⟩,
    fun h => ⟨h.script, h.dpi, h.days, h.skip⟩⟩

theorem ofJson_eq_error_iff :
    ofJson home? baseDir config = .error fault ↔
      scriptOf home? baseDir config = .error fault ∨ HasScript home? config ∧
        (memberOr config "dpi" toInteger standard.dpi = .error fault ∨
          Converts toInteger (config.member? "dpi") ∧
            (memberOr config "days" toNumber standard.days = .error fault ∨
              Converts toNumber (config.member? "days") ∧
                memberOr config "skip_commits" toInteger standard.skip = .error fault)) := by
  simp only [ofJson, bind_eq_error_iff, exists_and_right, reduceCtorEq, and_false, exists_false,
    or_false, exists_scriptOf_iff, exists_memberOr_iff]

theorem exists_unreported_iff :
    (∃ fault, ofJson home? baseDir config = .error fault ∧ fault.isReported = false) ↔
      Escapes home? config := by
  simp only [ofJson_eq_error_iff]
  constructor
  · rintro ⟨fault, h, hr⟩
    rcases h with hscript | ⟨hscript, hdpi | ⟨hdpi, hdays | ⟨hdays, hskip⟩⟩⟩
    · obtain ⟨script, hg, hs⟩ := (isReported_of_scriptOf hscript).mp hr
      exact .script hg hs
    · obtain ⟨value, hg, hv⟩ := memberOr_eq_error_iff.mp hdpi
      obtain ⟨negative, rfl⟩ := (isReported_of_toInteger hv).mp hr
      exact .dpi hscript hg
    · obtain ⟨value, hg, hv⟩ := memberOr_eq_error_iff.mp hdays
      obtain ⟨n, rfl, hn⟩ := (isReported_of_toNumber hv).mp hr
      exact .days hscript hdpi hg hn
    · obtain ⟨value, hg, hv⟩ := memberOr_eq_error_iff.mp hskip
      obtain ⟨negative, rfl⟩ := (isReported_of_toInteger hv).mp hr
      exact .skip hscript hdpi hdays hg
  · intro h
    cases h with
    | script hg hs =>
      refine ⟨.files .noHome, .inl ?_, rfl⟩
      rw [scriptOf_of_isPresent hg hs.isPresent hs.encodable,
        Files.Path.expandHome_eq_noHome_iff.mpr hs.isHomeless]
      rfl
    | dpi hscript hg =>
      exact ⟨_, .inr ⟨hscript, .inl (memberOr_eq_error_iff.mpr ⟨_, hg, rfl⟩)⟩, rfl⟩
    | @days n hscript hdpi hg hn =>
      have hnone : Binary64.ofInt? n = none := by
        rw [Option.eq_none_iff_forall_ne_some]
        intro number hsome
        exact absurd (Binary64.exists_ofInt?_iff.mp ⟨number, hsome⟩) (not_lt.mpr hn)
      have hlarge : toNumber (.integer n) = .error .tooLarge := by
        simp only [toNumber, hnone]
      exact ⟨_, .inr ⟨hscript, .inr ⟨hdpi, .inl (memberOr_eq_error_iff.mpr ⟨_, hg, hlarge⟩)⟩⟩, rfl⟩
    | skip hscript hdpi hdays hg =>
      exact ⟨_, .inr ⟨hscript, .inr ⟨hdpi, .inr ⟨hdays,
        memberOr_eq_error_iff.mpr ⟨_, hg, rfl⟩⟩⟩⟩, rfl⟩

section Content

variable {content : List UInt8} {name : String}

/-- The configuration that a content holds: the object of its document. -/
def Holds (content : List UInt8) (config : Json) : Prop :=
  ∃ text members, Utf8.decode? content = .ok text ∧
    Json.read (unifyNewlines text) = .ok (.object members) ∧ config = .object members

/-- A content whose document has more values inside each other than can be read. -/
def IsTooDeep (content : List UInt8) : Prop :=
  ∃ text kind, Utf8.decode? content = .ok text ∧
    Json.read (unifyNewlines text) = .error (.tooDeep kind)

theorem depthLimit_lt_of_isTooDeep (h : IsTooDeep content) :
    ∃ text, Utf8.decode? content = .ok text ∧
      Json.depthLimit < Json.openings (unifyNewlines text) := by
  obtain ⟨text, kind, hd, hr⟩ := h
  exact ⟨text, hd, Json.depthLimit_lt_openings hr⟩

theorem isTooDeep_of_brackets {text rest : List Char} {count : Nat}
    (hd : Utf8.decode? content = .ok text)
    (ht : unifyNewlines text = List.replicate count '[' ++ rest) (hc : Json.depthLimit < count) :
    IsTooDeep content :=
  ⟨text, .list, hd, by rw [ht, Json.read_brackets hc]⟩

theorem objectOf_eq_ok_iff : objectOf name content = .ok config ↔ Holds content config := by
  unfold objectOf Holds
  cases Utf8.decode? content with
  | error fault => simp
  | ok text =>
    simp only [Except.ok.injEq, exists_and_left, exists_eq_left']
    cases Json.read (unifyNewlines text) with
    | error fault => simp
    | ok value => cases value <;> simp [eq_comm]

theorem holds_of_member? {text : List Char} {member : String}
    (hd : Utf8.decode? content = .ok text) (hr : Json.read (unifyNewlines text) = .ok config)
    (hm : config.member? member = some value) : Holds content config := by
  cases config with
  | object members => exact ⟨text, members, hd, hr, rfl⟩
  | _ => cases hm

theorem isReported_of_objectOf (h : objectOf name content = .error fault) :
    fault.isReported = false ↔ IsTooDeep content := by
  unfold objectOf at h
  unfold IsTooDeep
  cases hd : Utf8.decode? content with
  | error malformed =>
    rw [hd] at h
    cases h
    simp [Fault.isReported]
  | ok text =>
    rw [hd] at h
    simp only [Except.ok.injEq, exists_and_left, exists_eq_left']
    cases hr : Json.read (unifyNewlines text) with
    | error problem =>
      simp only [hr] at h
      cases h
      cases problem <;> simp [Fault.isReported]
    | ok value =>
      simp only [hr] at h
      cases value <;> cases h <;> simp [Fault.isReported]

/-- A content that gives settings. -/
def IsUsable (home? : String → Option Files.Path) (content : List UInt8) : Prop :=
  ∃ config, Holds content config ∧ Usable home? config

/-- A content whose fault is not reported. -/
def IsUnreported (home? : String → Option Files.Path) (content : List UInt8) : Prop :=
  IsTooDeep content ∨ ∃ config, Holds content config ∧ Escapes home? config

/-- Where a file can be read, its settings depend on its content alone. -/
theorem ofFile_eq {files : Files.Tree} {workDir : List String} {path : Files.Path}
    (h : files.read workDir path = .ok content) :
    ofFile home? files workDir path =
      (objectOf path.text content >>=
        ofJson home? (some (path.absolute ⟨.slash, workDir⟩).parent)) := by
  have hread := h
  unfold Files.Tree.read at h
  split at h
  · cases h
  · rename_i hnul
    have hfind : ∃ node, files.find workDir path = .ok (some node) := by
      unfold Files.Tree.find
      rw [if_neg hnul]
      cases hl : files.look workDir path with
      | ok node => exact ⟨node, rfl⟩
      | error reason =>
        rw [hl] at h
        cases h
    obtain ⟨node, hfind⟩ := hfind
    rw [ofFile, load, hfind, hread]
    simp only [hnul]
    rfl

/-- The settings of a file that can be read are there just when its content gives some, and their
fault is reported unless it is of the few that are not. -/
theorem ofFile_cases {files : Files.Tree} {workDir : List String} {path : Files.Path}
    (h : files.read workDir path = .ok content) :
    ((∃ settings, ofFile home? files workDir path = .ok settings) ↔ IsUsable home? content) ∧
      ((∃ fault, ofFile home? files workDir path = .error fault ∧ fault.isReported = false) ↔
        IsUnreported home? content) := by
  rw [ofFile_eq h]
  constructor
  · simp only [exists_bind_ok_iff, objectOf_eq_ok_iff, exists_ofJson_iff, IsUsable]
  · rw [IsUnreported]
    constructor
    · rintro ⟨fault, hf, hr⟩
      rcases bind_eq_error_iff.mp hf with hobject | ⟨config, hc, hf⟩
      · exact .inl ((isReported_of_objectOf hobject).mp hr)
      · exact .inr ⟨config, objectOf_eq_ok_iff.mp hc, exists_unreported_iff.mp ⟨fault, hf, hr⟩⟩
    · rintro (hdeep | ⟨config, hc, he⟩)
      · cases hobject : objectOf path.text content with
        | error fault =>
          exact ⟨fault, rfl, (isReported_of_objectOf hobject).mpr hdeep⟩
        | ok config =>
          obtain ⟨text, members, hd, hr, -⟩ := objectOf_eq_ok_iff.mp hobject
          obtain ⟨text', kind, hd', hr'⟩ := hdeep
          rw [hd] at hd'
          cases hd'
          rw [hr] at hr'
          cases hr'
      · obtain ⟨fault, hf, hr⟩ := exists_unreported_iff.mpr he
        exact ⟨fault, bind_eq_error_iff.mpr (.inr ⟨config, objectOf_eq_ok_iff.mpr hc, hf⟩), hr⟩

end Content

end Settings

end Authorship
