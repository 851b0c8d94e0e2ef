import Mathlib.Data.List.TakeWhile
import MarkdownPreview.Proofs.Config.Discovery

/-!
What a configuration is loaded from, whatever decodes the text of its file. A configuration file
counts if it is named, or if it is found; it must be there, hold a text that decodes and give no
blank title. Settings of the run go before what the file gives, and that before the defaults, and
the title that is left must not be blank either.
-/

namespace MarkdownPreview.Config

open Machine (Runs Reads host)

/-- A title has something besides white space, if it is given. -/
def ShowsTitle (title : Option String) : Prop :=
  ∀ text, title = some text → Text.trim text.toList ≠ []

/-- The configuration file that counts on a machine, where one may be named. -/
inductive Uses (s : Machine) : (named used : Option String) → Prop
  | named {path : String} : s.files.isPresent s.workingDirectory path →
      Uses s (some path) (some path)
  | nearest {found : List String} : s.files.lookup? s.workingDirectory = some .directory →
      Nearest (s.files.isPresent s.workingDirectory) s.workingDirectory found →
      Uses s none (some (pathIn found))
  | nothing : (s.files.lookup? s.workingDirectory = some .directory →
      ∀ above, above <+: s.workingDirectory →
        s.files.isPresent s.workingDirectory (pathIn above) = false) → Uses s none none

/-- What the configuration file that counts gives. -/
inductive Gives (decode : Decoder) (s : Machine) : (used : Option String) → Settings → Prop
  | file {path text : String} {content : List UInt8} {given : Settings} :
      s.files.read s.workingDirectory path = .ok content →
      Text.decodeStrict? content = some text → decode text = .ok given →
      ShowsTitle given.title → Gives decode s (some path) given
  | nothing : Gives decode s none {}

variable {decode : Decoder} {s s' : Machine} {config : Config} {path : String}

/-! ### Loading only reads -/

theorem reads_loadFile (decode : Decoder) (path : String) :
    Reads (loadFile host decode path) := by
  refine (Machine.reads_readFile path).bind fun content => ?_
  cases content <;> exact Reads.pure _

theorem reads_discoverHere : Reads (discoverHere host) := by
  refine Machine.reads_workingDirectory.bind fun directory => ?_
  cases directory with
  | none => exact Reads.pure _
  | some directory => exact fun s => ⟨_, runs_discoverUp s directory.reverse⟩

theorem reads_loadBase (decode : Decoder) (path : Option String) :
    Reads (loadBase host decode path) := by
  cases path with
  | none =>
    refine reads_discoverHere.bind fun found => ?_
    cases found with
    | none => exact Reads.pure _
    | some path => exact reads_loadFile decode path
  | some path =>
    refine (Machine.reads_isPresent path).bind fun present => ?_
    cases present
    · exact Reads.pure _
    · exact reads_loadFile decode path

/-- Loading a configuration changes nothing, also where it fails. -/
theorem reads_load (decode : Decoder) (path : Option String) (settings : Option Settings) :
    Reads (load host decode path settings) := by
  refine (reads_loadBase decode path).bind fun result => ?_
  cases result <;> cases settings <;> exact Reads.pure _

/-! ### Titles -/

theorem trim_eq_nil_iff {cs : List Char} :
    Text.trim cs = [] ↔ ∀ c ∈ cs, Text.isWhiteSpace c := by
  rw [Text.trim, Text.trimEnd, List.reverse_eq_nil_iff, List.dropWhile_eq_nil_iff]
  simp only [List.mem_reverse]
  induction cs with
  | nil => rfl
  | cons c cs ih =>
    rw [Text.trimStart, List.dropWhile_cons]
    split
    case isTrue hc => exact ih.trans (by simp [hc])
    case isFalse => exact Iff.rfl

theorem isBlank_iff {text : String} : isBlank text ↔ Text.trim text.toList = [] := by
  rw [isBlank, List.all_eq_true, trim_eq_nil_iff]

theorem any_isBlank_iff {title : Option String} : title.any isBlank ↔ ¬ShowsTitle title := by
  unfold ShowsTitle
  cases title with
  | none => simp
  | some text => simp [isBlank_iff]

theorem validate_eq_ok_iff {config' : Config} :
    config.validate = .ok config' ↔ ShowsTitle config.title ∧ config' = config := by
  unfold validate
  split
  case isTrue hblank => simp [any_isBlank_iff.mp hblank]
  case isFalse hblank =>
    rw [any_isBlank_iff, not_not] at hblank
    rw [Except.ok.injEq, eq_comm, and_iff_right hblank]

/-! ### Settings over settings -/

/-- The configuration that settings of the run make over those of the file that counts. -/
def settled (own given : Settings) (used : Option String) : Config where
  theme := (own.theme.or given.theme).getD .auto
  standalone := (own.standalone.or given.standalone).getD false
  title := own.title.or given.title
  path := used

theorem override_default {given : Settings} {used : Option String} :
    { override {} given with path := used } = settled {} given used := by
  rw [override, settled, Option.or_none]
  rfl

theorem override_settled {own given : Settings} {used : Option String} :
    (settled {} given used).override own = settled own given used := by
  simp only [override, settled, Option.getD_or, Option.none_or]

theorem validate_settled_iff {own given : Settings} {used : Option String} :
    (settled own given used).validate = .ok config ↔
      ShowsTitle (own.title.or given.title) ∧ config = settled own given used :=
  validate_eq_ok_iff

/-! ### Files -/

theorem ofBytes_eq_ok_iff {content : List UInt8} :
    ofBytes decode path content = .ok config ↔
      ∃ text given, Text.decodeStrict? content = some text ∧ decode text = .ok given ∧
        ShowsTitle given.title ∧ config = settled {} given (some path) := by
  unfold ofBytes
  constructor
  · intro h
    split at h
    case h_1 => cases h
    case h_2 text htext =>
      split at h
      case h_1 => cases h
      case h_2 given hgiven =>
        rw [override_default] at h
        exact ⟨text, given, htext, hgiven, validate_settled_iff.mp h⟩
  · rintro ⟨text, given, htext, hgiven, hconfig⟩
    rw [htext]
    dsimp only
    rw [hgiven]
    dsimp only
    rw [override_default]
    exact validate_settled_iff.mpr hconfig

theorem gives_some_iff {given : Settings} :
    Gives decode s (some path) given ↔
      ∃ content text, s.files.read s.workingDirectory path = .ok content ∧
        Text.decodeStrict? content = some text ∧ decode text = .ok given ∧
        ShowsTitle given.title := by
  constructor
  · rintro ⟨hread, htext, hgiven, htitle⟩
    exact ⟨_, _, hread, htext, hgiven, htitle⟩
  · rintro ⟨content, text, hread, htext, hgiven, htitle⟩
    exact .file hread htext hgiven htitle

theorem runs_loadFile_ok_iff :
    Runs (loadFile host decode path) s (.ok config) s ↔
      ∃ given, Gives decode s (some path) given ∧ config = settled {} given (some path) := by
  have hread : Runs (host.readFile path) s (s.files.read s.workingDirectory path) s := rfl
  rw [loadFile, hread.bind_iff]
  constructor
  · intro h
    split at h
    case h_1 => cases (Runs.pure_iff.mp h).1
    case h_2 content hcontent =>
      obtain ⟨text, given, htext, hgiven, htitle, hconfig⟩ :=
        ofBytes_eq_ok_iff.mp (Runs.pure_iff.mp h).1.symm
      exact ⟨given, .file hcontent htext hgiven htitle, hconfig⟩
  · rintro ⟨given, hgives, hconfig⟩
    obtain ⟨content, text, hcontent, htext, hgiven, htitle⟩ := gives_some_iff.mp hgives
    rw [hcontent]
    exact Runs.pure_iff.mpr
      ⟨(ofBytes_eq_ok_iff.mpr ⟨text, given, htext, hgiven, htitle, hconfig⟩).symm, rfl⟩

/-! ### The file that counts -/

/-- In a directory that is there, the file that counts is the one that is found from there. -/
theorem uses_none_iff (h : s.files.lookup? s.workingDirectory = some .directory)
    {used : Option String} :
    Uses s none used ↔
      discover (m := Id) (s.files.isPresent s.workingDirectory) s.workingDirectory = used := by
  cases used with
  | none =>
    rw [discover_eq_none_iff]
    constructor
    · rintro (_ | _ | hnone)
      exact hnone h
    · exact fun hnone => .nothing fun _ => hnone
  | some path =>
    rw [discover_eq_some_iff]
    constructor
    · rintro (_ | ⟨-, hnearest⟩ | _)
      exact ⟨_, hnearest, rfl⟩
    · rintro ⟨found, hnearest, rfl⟩
      exact .nearest h hnearest

theorem runs_discoverHere_iff {used : Option String} :
    Runs (discoverHere host) s used s ↔ Uses s none used := by
  have hdirectory : Runs host.workingDirectory s
      (if s.files.lookup? s.workingDirectory = some .directory then some s.workingDirectory
        else none) s := rfl
  rw [discoverHere, hdirectory.bind_iff]
  by_cases hthere : s.files.lookup? s.workingDirectory = some .directory
  · rw [if_pos hthere, uses_none_iff hthere]
    have hfound := runs_discoverUp s s.workingDirectory.reverse
    exact hfound.eq_iff.trans eq_comm
  · -- a directory that is gone leads to no file
    rw [if_neg hthere, Runs.pure_iff, and_iff_left rfl]
    constructor
    · rintro rfl
      exact .nothing fun h => absurd h hthere
    · rintro (_ | ⟨h, -⟩ | _)
      · exact absurd h hthere
      · rfl

theorem uses_some_iff {used : Option String} :
    Uses s (some path) used ↔
      s.files.isPresent s.workingDirectory path ∧ used = some path := by
  constructor
  · rintro ⟨hpresent⟩
    exact ⟨hpresent, rfl⟩
  · rintro ⟨hpresent, rfl⟩
    exact .named hpresent

theorem gives_none_iff {given : Settings} : Gives decode s none given ↔ given = {} := by
  constructor
  · rintro ⟨⟩
    rfl
  · rintro rfl
    exact .nothing

/-- Before any settings of the run, the configuration is what the file that counts gives. -/
theorem runs_loadBase_ok_iff {named : Option String} :
    Runs (loadBase host decode named) s (.ok config) s ↔
      ∃ used given, Uses s named used ∧ Gives decode s used given ∧ config = settled {} given used := by
  cases named with
  | some path =>
    have hpresent : Runs (host.isPresent path) s (s.files.isPresent s.workingDirectory path) s :=
      rfl
    simp only [loadBase, hpresent.bind_iff, uses_some_iff]
    cases s.files.isPresent s.workingDirectory path with
    | false => simp [Runs.pure_iff]
    | true => simp [runs_loadFile_ok_iff]
  | none =>
    obtain ⟨found, hfound⟩ := reads_discoverHere s
    simp only [loadBase, hfound.bind_iff, ← runs_discoverHere_iff, hfound.eq_iff]
    cases found with
    | none => simp [Runs.pure_iff, gives_none_iff, settled]
    | some path => simp [runs_loadFile_ok_iff]

theorem shows_title_of_gives {used : Option String} {given : Settings}
    (h : Gives decode s used given) : ShowsTitle given.title := by
  cases h with
  | file _ _ _ htitle => exact htitle
  | nothing => exact fun _ h => nomatch h

theorem runs_load_none_ok_iff {named : Option String} :
    Runs (load host decode named none) s (.ok config) s ↔
      Runs (loadBase host decode named) s (.ok config) s := by
  obtain ⟨result, hresult⟩ := reads_loadBase decode named s
  simp only [load, hresult.bind_iff, hresult.eq_iff]
  cases result <;> simp [Runs.pure_iff]

theorem runs_load_some_ok_iff {named : Option String} {own : Settings} :
    Runs (load host decode named (some own)) s (.ok config) s ↔
      ∃ base, Runs (loadBase host decode named) s (.ok base) s ∧
        (base.override own).validate = .ok config := by
  obtain ⟨result, hresult⟩ := reads_loadBase decode named s
  simp only [load, hresult.bind_iff, hresult.eq_iff]
  cases result with
  | error e => simp [Runs.pure_iff]
  | ok base => simp [Runs.pure_iff, eq_comm]

theorem runs_load_ok_iff {named : Option String} {settings : Option Settings} :
    Runs (load host decode named settings) s (.ok config) s ↔
      ∃ used given, Uses s named used ∧ Gives decode s used given ∧
        (∀ own, settings = some own → ShowsTitle (own.title.or given.title)) ∧
        config = settled (settings.getD {}) given used := by
  cases settings with
  | none => simp [runs_load_none_ok_iff, runs_loadBase_ok_iff]
  | some own =>
    rw [runs_load_some_ok_iff]
    constructor
    · rintro ⟨base, hbase, hvalid⟩
      obtain ⟨used, given, huses, hgives, rfl⟩ := runs_loadBase_ok_iff.mp hbase
      rw [override_settled, validate_settled_iff] at hvalid
      exact ⟨used, given, huses, hgives, fun _ h => Option.some.inj h ▸ hvalid.1, hvalid.2⟩
    · rintro ⟨used, given, huses, hgives, htitle, hconfig⟩
      refine ⟨_, runs_loadBase_ok_iff.mpr ⟨used, given, huses, hgives, rfl⟩, ?_⟩
      rw [override_settled, validate_settled_iff]
      exact ⟨htitle own rfl, hconfig⟩

/-- A configuration is loaded if the file that counts can be read and gives no blank title, even
where the run has a title of its own, and if the title that is left is not blank either. -/
theorem load_ok_iff_and_shows_title (decode : Decoder) (s : Machine) (named : Option String)
    (settings : Option Settings) :
    (∀ config s', Runs (load host decode named settings) s (.ok config) s' ↔
      s' = s ∧ ∃ used given, Uses s named used ∧ Gives decode s used given ∧
        (∀ own, settings = some own → ShowsTitle (own.title.or given.title)) ∧
        config = settled (settings.getD {}) given used) ∧
    ∀ config s', Runs (load host decode named settings) s (.ok config) s' →
      ShowsTitle config.title := by
  have hsame : ∀ config s', Runs (load host decode named settings) s (.ok config) s' → s' = s :=
    fun _ _ => (reads_load decode named settings).eq
  constructor
  · intro config s'
    rw [← and_iff_right_of_imp (hsame config s')]
    refine and_congr_right ?_
    rintro rfl
    exact runs_load_ok_iff
  · intro config s' h
    cases hsame config s' h
    obtain ⟨used, given, -, hgives, htitle, rfl⟩ := runs_load_ok_iff.mp h
    cases settings with
    | none => exact shows_title_of_gives hgives
    | some own => exact htitle own rfl

end MarkdownPreview.Config
