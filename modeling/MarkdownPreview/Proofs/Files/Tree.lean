import MarkdownPreview.Files.Tree

/-!
What is where a path leads, after the path was opened for writing. A walk over names and links ends
where it ended before, since no directory and no link gives way to a file.
-/

namespace MarkdownPreview.FileTree

variable {t t' : FileTree} {place : List String} {path : String} {workingDirectory : List String}
  {bytes : List UInt8}

/-- The content of the file where a path leads, whether or not it can be read. -/
def content? (t : FileTree) (workingDirectory : List String) (path : String) :
    Option (List UInt8) :=
  match (t.locate workingDirectory path).toOption.bind t.lookup? with
  | some (.file number) => some (t.content number)
  | _ => none

/-- There is a device where a path leads. -/
def LeadsToDevice (t : FileTree) (workingDirectory : List String) (path : String) : Prop :=
  ∃ place device, t.locate workingDirectory path = .ok place ∧
    t.lookup? place = some (.device device)

theorem exists_of_bind_eq_ok {α β : Type} {x : Except FileError α} {f : α → Except FileError β}
    {b : β} (h : x.bind f = .ok b) : ∃ a, x = .ok a ∧ f a = .ok b := by
  cases x with
  | error e => cases h
  | ok a => exact ⟨a, rfl, h⟩

theorem content?_of_locate {number : Nat} (h : t.locate workingDirectory path = .ok place)
    (hentry : t.lookup? place = some (.file number)) :
    t.content? workingDirectory path = some (t.content number) := by
  rw [content?, h, Except.toOption, Option.bind_some, hentry]

/-! ### Contents -/

theorem content_setContent (t : FileTree) (number other : Nat) (bytes : List UInt8) :
    (t.setContent number bytes).content other =
      if other = number then bytes else t.content other := rfl

theorem append_nil (t : FileTree) (number : Nat) : t.append number [] = t := by
  have hcontent : (fun other => if other = number then t.content number ++ [] else t.content other) =
      t.content := by
    funext other
    split
    case isTrue h => rw [h, List.append_nil]
    case isFalse => rfl
  rw [append, setContent, hcontent]

theorem append_append (t : FileTree) (number : Nat) (bytes more : List UInt8) :
    (t.append number bytes).append number more = t.append number (bytes ++ more) := by
  have hcontent : (fun other => if other = number then
        (if number = number then t.content number ++ bytes else t.content number) ++ more
        else if other = number then t.content number ++ bytes else t.content other) =
      fun other => if other = number then t.content number ++ (bytes ++ more)
        else t.content other := by
    funext other
    split
    case isTrue => rw [if_pos rfl, List.append_assoc]
    case isFalse => rfl
  exact congrArg (fun content => { t with content }) hcontent

/-! ### Places -/

theorem lookup?_addFile (t : FileTree) (place names : List String) (bytes : List UInt8) :
    (t.addFile place bytes).lookup? names =
      if names = place then some (.file t.next) else t.lookup? names := rfl

/-- What there is stays where it is when a file is made where there is nothing. -/
theorem lookup?_addFile_of_some (hplace : t.lookup? place = none) {names : List String}
    {entry : FileEntry} (h : t.lookup? names = some entry) :
    (t.addFile place bytes).lookup? names = some entry := by
  rw [lookup?_addFile, if_neg, h]
  rintro rfl
  rw [hplace] at h
  cases h

theorem followBy_addFile (hplace : t.lookup? place = none)
    {onLink onLink' : List String → List String → Except FileError (List String)}
    (hlink : ∀ from' names last, onLink from' names = .ok last → onLink' from' names = .ok last)
    {first last names : List String} (h : t.followBy onLink first names = .ok last) :
    (t.addFile place bytes).followBy onLink' first names = .ok last := by
  induction names generalizing first with
  | nil => exact h
  | cons name rest ih =>
    rw [followBy] at h
    split at h
    case h_1 hdirectory hsearch =>
      have hsearch' : (t.addFile place bytes).searchFault? first name = none := hsearch
      rw [followBy, lookup?_addFile_of_some hplace hdirectory, hsearch']
      split at h
      case h_1 target htarget =>
        rw [lookup?_addFile_of_some hplace htarget]
        exact hlink _ _ _ h
      case h_2 hnone =>
        -- a file that is new here is no link either
        have hnone' : ∀ target, (t.addFile place bytes).lookup? (enter first name) ≠
            some (.link target) := by
          intro target
          rw [lookup?_addFile]
          split
          · nofun
          · exact hnone target
        dsimp only
        split
        case h_1 target htarget => exact absurd htarget (hnone' target)
        case h_2 => exact ih h
    all_goals cases h

/-- A walk passes only directories and links, so a new file does not change where it leads. -/
theorem followWithin_addFile (hplace : t.lookup? place = none) {links : Nat}
    {first last names : List String} (h : t.followWithin links first names = .ok last) :
    (t.addFile place bytes).followWithin links first names = .ok last := by
  induction links generalizing first last names with
  | zero => exact followBy_addFile hplace (fun _ _ _ h => h) h
  | succ links ih => exact followBy_addFile hplace (fun _ _ _ => ih) h

theorem locate_addFile (hplace : t.lookup? place = none)
    (h : t.locate workingDirectory path = .ok place) :
    (t.addFile place bytes).locate workingDirectory path = .ok place := by
  rw [locate] at h ⊢
  split at h
  case isTrue => cases h
  case isFalse hpath =>
    rw [if_neg hpath]
    exact followWithin_addFile hplace h

theorem followBy_setContent (t : FileTree) (number : Nat) (bytes : List UInt8)
    (onLink : List String → List String → Except FileError (List String)) :
    (t.setContent number bytes).followBy onLink = t.followBy onLink := by
  funext first names
  induction names generalizing first with
  | nil => rfl
  | cons name rest ih =>
    rw [followBy, followBy]
    simp only [ih]
    rfl

/-- A walk does not look into files. -/
theorem followWithin_setContent (t : FileTree) (number : Nat) (bytes : List UInt8) (links : Nat) :
    (t.setContent number bytes).followWithin links = t.followWithin links := by
  induction links with
  | zero => exact followBy_setContent ..
  | succ links ih => rw [followWithin, followWithin, ih, followBy_setContent]

theorem locate_setContent (t : FileTree) (number : Nat) (bytes : List UInt8)
    (workingDirectory : List String) (path : String) :
    (t.setContent number bytes).locate workingDirectory path = t.locate workingDirectory path := by
  rw [locate, locate, followWithin_setContent]

theorem locate_of_locateNew (h : t.locateNew workingDirectory path = .ok place) :
    t.locate workingDirectory path = .ok place := by
  rw [locateNew] at h
  split at h
  case h_1 => cases h
  case h_2 =>
    obtain ⟨-, -, h⟩ := exists_of_bind_eq_ok h
    split at h
    case isTrue => cases h
    case isFalse => exact h

/-! ### Opening for writing -/

/-- A file is made where there is nothing, or emptied if it is there; a device stays as it is. -/
theorem create_eq_ok {sink : Sink} (h : t.create workingDirectory path = .ok (t', sink)) :
    ∃ place, t.locate workingDirectory path = .ok place ∧
      (t.lookup? place = none ∧ t' = t.addFile place [] ∧ sink = .file t.next ∨
        (∃ number, t.lookup? place = some (.file number) ∧ t' = t.setContent number [] ∧
          sink = .file number) ∨
        ∃ device, t.lookup? place = some (.device device)) := by
  obtain ⟨place, hplace, h⟩ := exists_of_bind_eq_ok h
  refine ⟨place, locate_of_locateNew hplace, ?_⟩
  split at h <;> cases h
  case h_4 hentry _ => exact .inl ⟨hentry, rfl, rfl⟩
  case h_5 hentry _ => exact .inr (.inl ⟨_, hentry, rfl, rfl⟩)
  case h_6 hentry _ => exact .inr (.inr ⟨_, hentry⟩)

/-- Where a path leads to no device, what is written after it was opened is all that is in the file
there. -/
theorem content?_append_of_create {sink : Sink}
    (h : t.create workingDirectory path = .ok (t', sink))
    (hdevice : ¬t.LeadsToDevice workingDirectory path) :
    ∃ number, sink = .file number ∧ ∀ bytes,
      (t'.append number bytes).content? workingDirectory path = some bytes := by
  obtain ⟨place, hplace, hcases⟩ := create_eq_ok h
  obtain ⟨number, rfl, hlocate, hentry, hempty⟩ : ∃ number, sink = .file number ∧
      t'.locate workingDirectory path = .ok place ∧ t'.lookup? place = some (.file number) ∧
      t'.content number = [] := by
    rcases hcases with ⟨hentry, rfl, rfl⟩ | ⟨number, hentry, rfl, rfl⟩ | ⟨device, hentry⟩
    · exact ⟨_, rfl, locate_addFile hentry hplace, if_pos rfl, if_pos rfl⟩
    · refine ⟨number, rfl, ?_, hentry, if_pos rfl⟩
      rwa [locate_setContent]
    · exact absurd ⟨place, device, hplace, hentry⟩ hdevice
  refine ⟨number, rfl, fun bytes => ?_⟩
  have hlocate' : (t'.append number bytes).locate workingDirectory path = .ok place := by
    rwa [append, locate_setContent]
  have hentry' : (t'.append number bytes).lookup? place = some (.file number) := hentry
  rw [content?_of_locate hlocate' hentry', append, content_setContent, if_pos rfl, hempty,
    List.nil_append]

end MarkdownPreview.FileTree
