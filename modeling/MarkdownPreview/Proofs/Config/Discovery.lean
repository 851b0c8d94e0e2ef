import Mathlib.Data.List.Induction
import MarkdownPreview.Config.Load
import MarkdownPreview.Proofs.Files.Host

/-!
Where a configuration file is found: in the nearest of the directories that lead to a directory,
itself and the root among them, in which there is something of the file's name.
-/

namespace MarkdownPreview.Config

open Machine (Runs host)

/-- The nearest directory on the way to `directory` with something of the file's name in it. -/
structure Nearest (isPresent : String → Bool) (directory found : List String) : Prop where
  leads : found <+: directory
  present : isPresent (pathIn found)
  absent : ∀ nearer, nearer <+: directory → found.length < nearer.length →
    isPresent (pathIn nearer) = false

section

variable {isPresent : String → Bool} {directory found : List String}

/-! ### One directory after the other -/

theorem discover_nil (isPresent : String → Bool) :
    discover (m := Id) isPresent [] = if isPresent (pathIn []) then some (pathIn []) else none :=
  rfl

/-- Where there is nothing, the directory above is next. -/
theorem discover_concat (isPresent : String → Bool) (directory : List String) (name : String) :
    discover (m := Id) isPresent (directory ++ [name]) =
      if isPresent (pathIn (directory ++ [name])) then some (pathIn (directory ++ [name]))
      else discover (m := Id) isPresent directory := by
  rw [discover, List.reverse_concat, discoverUp, ← List.reverse_concat, List.reverse_reverse]
  rfl

theorem nearest_nil_iff : Nearest isPresent [] found ↔ found = [] ∧ isPresent (pathIn []) := by
  constructor
  · rintro ⟨hleads, hpresent, -⟩
    obtain rfl := List.prefix_nil.mp hleads
    exact ⟨rfl, hpresent⟩
  · rintro ⟨rfl, hpresent⟩
    refine ⟨List.prefix_rfl, hpresent, fun nearer hleads hlength => ?_⟩
    obtain rfl := List.prefix_nil.mp hleads
    exact absurd hlength (Nat.lt_irrefl 0)

theorem nearest_concat_iff {name : String} :
    Nearest isPresent (directory ++ [name]) found ↔
      if isPresent (pathIn (directory ++ [name])) then found = directory ++ [name]
      else Nearest isPresent directory found := by
  constructor
  · rintro ⟨hleads, hpresent, habsent⟩
    rcases List.prefix_concat_iff.mp hleads with rfl | hleads
    · rw [if_pos hpresent]
    · have hlength := hleads.length_le
      have hnone := habsent _ List.prefix_rfl (by rw [List.length_append]; simp; omega)
      rw [if_neg (by simp [hnone])]
      exact ⟨hleads, hpresent, fun nearer h => habsent nearer (h.trans (List.prefix_append _ _))⟩
  · intro h
    split at h
    case isTrue hpresent =>
      subst h
      refine ⟨List.prefix_rfl, hpresent, fun nearer hleads hlength => ?_⟩
      exact absurd hleads.length_le (Nat.not_le.mpr hlength)
    case isFalse hpresent =>
      refine ⟨h.leads.trans (List.prefix_append _ _), h.present, fun nearer hleads hlength => ?_⟩
      rcases List.prefix_concat_iff.mp hleads with rfl | hleads
      · exact Bool.eq_false_iff.mpr hpresent
      · exact h.absent nearer hleads hlength

theorem discover_eq_some_iff {path : String} :
    discover (m := Id) isPresent directory = some path ↔
      ∃ found, Nearest isPresent directory found ∧ path = pathIn found := by
  induction directory using List.reverseRecOn with
  | nil =>
    rw [discover_nil]
    simp only [nearest_nil_iff]
    split
    case isTrue hpresent =>
      rw [Option.some_inj, eq_comm]
      simp [hpresent]
    case isFalse hpresent => simp [hpresent]
  | append_singleton directory name ih =>
    rw [discover_concat]
    simp only [nearest_concat_iff]
    split
    case isTrue => rw [Option.some_inj, eq_comm, exists_eq_left]
    case isFalse => exact ih

theorem discover_eq_none_iff :
    discover (m := Id) isPresent directory = none ↔
      ∀ above, above <+: directory → isPresent (pathIn above) = false := by
  induction directory using List.reverseRecOn with
  | nil =>
    rw [discover_nil]
    simp
  | append_singleton directory name ih =>
    rw [discover_concat]
    simp only [List.prefix_concat_iff, forall_eq_or_imp]
    split
    case isTrue hpresent => simp [hpresent]
    case isFalse hpresent => simp [hpresent, ih]

end

/-! ### On a machine -/

theorem runs_discoverUp (s : Machine) (names : List String) :
    Runs (discoverUp host.isPresent names) s
      (discoverUp (m := Id) (s.files.isPresent s.workingDirectory) names) s := by
  have hpresent (path : String) :
      Runs (host.isPresent path) s (s.files.isPresent s.workingDirectory path) s := rfl
  induction names with
  | nil =>
    refine (hpresent _).bind ?_
    rw [discoverUp]
    cases s.files.isPresent s.workingDirectory (pathIn [].reverse) <;> exact Runs.pure _ s
  | cons name up ih =>
    refine (hpresent _).bind ?_
    rw [discoverUp]
    cases s.files.isPresent s.workingDirectory (pathIn (name :: up).reverse) with
    | true => exact Runs.pure _ s
    | false => exact ih

/-- There is something where a path leads if it leads to an entry, of whatever kind. -/
theorem isPresent_iff {t : FileTree} {workingDirectory : List String} {path : String} :
    t.isPresent workingDirectory path ↔
      ∃ place entry, t.locate workingDirectory path = .ok place ∧ t.lookup? place = some entry := by
  rw [FileTree.isPresent]
  cases t.locate workingDirectory path with
  | error e => simp
  | ok place => simp [Option.isSome_iff_exists]

/-- The search from a directory finds the file of the nearest directory on its way up to the root
in which there is something of the file's name, and nothing if there is nothing in any of them. On a
machine, what there is are entries of any kind. -/
theorem discover_nearest (directory : List String) :
    (∀ isPresent : String → Bool,
      (∀ path, discover (m := Id) isPresent directory = some path ↔
        ∃ found, Nearest isPresent directory found ∧ path = pathIn found) ∧
      (discover (m := Id) isPresent directory = none ↔
        ∀ above, above <+: directory → isPresent (pathIn above) = false)) ∧
    ∀ s : Machine,
      Runs (discover host.isPresent directory) s
        (discover (m := Id) (s.files.isPresent s.workingDirectory) directory) s ∧
      ∀ path, s.files.isPresent s.workingDirectory path ↔
        ∃ place entry, s.files.locate s.workingDirectory path = .ok place ∧
          s.files.lookup? place = some entry :=
  ⟨fun _ => ⟨fun _ => discover_eq_some_iff, discover_eq_none_iff⟩,
    fun s => ⟨runs_discoverUp s directory.reverse, fun _ => isPresent_iff⟩⟩

end MarkdownPreview.Config
