import MarkdownPreview.Files.Host

/-!
Running actions on a machine that is a value: what an action gives and what it leaves behind.
-/

namespace MarkdownPreview.Machine

variable {α β ε : Type} {s s' s'' : Machine} {a : α} {b : β}

/-- An action gives a result on a machine, and leaves a machine behind. -/
def Runs (action : StateM Machine α) (s : Machine) (a : α) (s' : Machine) : Prop :=
  action s = (a, s')

theorem exists_runs (action : StateM Machine α) (s : Machine) :
    ∃ a s', Runs action s a s' := ⟨_, _, rfl⟩

namespace Runs

theorem unique {x : StateM Machine α} {a' : α} (h : Runs x s a s') (h' : Runs x s a' s'') :
    a = a' ∧ s' = s'' :=
  Prod.mk.inj (h.symm.trans h')

theorem eq_iff {x : StateM Machine α} (h : Runs x s a s') {a' : α} : Runs x s a' s' ↔ a' = a :=
  ⟨fun h' => (h'.unique h).1, fun ha => ha ▸ h⟩

theorem pure (a : α) (s : Machine) : Runs (pure a) s a s := rfl

theorem bind {x : StateM Machine α} (h : Runs x s a s') {f : α → StateM Machine β}
    (hf : Runs (f a) s' b s'') : Runs (x >>= f) s b s'' := by
  change f (x s).1 (x s).2 = (b, s'')
  rw [h]
  exact hf

/-- After an action that gives a result, all depends on what follows. -/
theorem bind_iff {x : StateM Machine α} (h : Runs x s a s') {f : α → StateM Machine β} :
    Runs (x >>= f) s b s'' ↔ Runs (f a) s' b s'' := by
  change f (x s).1 (x s).2 = (b, s'') ↔ _
  rw [h]
  rfl

theorem pure_iff {a' : α} : Runs (Pure.pure a) s a' s' ↔ a' = a ∧ s' = s := by
  constructor
  · intro h
    obtain ⟨rfl, rfl⟩ := (Runs.pure a s).unique h
    exact ⟨rfl, rfl⟩
  · rintro ⟨rfl, rfl⟩
    exact Runs.pure _ _

theorem map {x : StateM Machine α} (h : Runs x s a s') (f : α → β) : Runs (f <$> x) s (f a) s' := by
  change (f (x s).1, (x s).2) = (f a, s')
  rw [h]

/-! ### Actions that may fail -/

theorem bind_ok {x : ExceptT ε (StateM Machine) α} (h : Runs x.run s (.ok a) s')
    {f : α → ExceptT ε (StateM Machine) β} {result : Except ε β}
    (hf : Runs (f a).run s' result s'') : Runs (x >>= f).run s result s'' := by
  rw [ExceptT.run_bind]
  exact h.bind hf

theorem bind_error {x : ExceptT ε (StateM Machine) α} {e : ε} (h : Runs x.run s (.error e) s')
    (f : α → ExceptT ε (StateM Machine) β) : Runs (x >>= f).run s (.error e) s' := by
  rw [ExceptT.run_bind]
  exact h.bind (Runs.pure _ s')

theorem lift {x : StateM Machine α} (h : Runs x s a s') :
    Runs (ExceptT.lift x : ExceptT ε (StateM Machine) α).run s (.ok a) s' :=
  h.map Except.ok

end Runs

/-- An action that leaves the machine as it is. -/
def Reads (action : StateM Machine α) : Prop := ∀ s, ∃ a, Runs action s a s

namespace Reads

theorem eq {x : StateM Machine α} (h : Reads x) (hx : Runs x s a s') : s' = s := by
  obtain ⟨a', ha'⟩ := h s
  exact (hx.unique ha').2

theorem pure (a : α) : Reads (pure a) := fun s => ⟨a, Runs.pure a s⟩

theorem bind {x : StateM Machine α} (hx : Reads x) {f : α → StateM Machine β}
    (hf : ∀ a, Reads (f a)) : Reads (x >>= f) := fun s => by
  obtain ⟨a, ha⟩ := hx s
  obtain ⟨b, hb⟩ := hf a s
  exact ⟨b, ha.bind hb⟩

end Reads

theorem reads_workingDirectory : Reads host.workingDirectory := fun _ => ⟨_, rfl⟩

theorem reads_isPresent (path : String) : Reads (host.isPresent path) := fun _ => ⟨_, rfl⟩

theorem reads_readFile (path : String) : Reads (host.readFile path) := fun _ => ⟨_, rfl⟩

/-- A machine with one file, in its working directory. -/
def withFile (name content : String) : Machine where
  files := FileTree.bare.addFile [name] (bytesOf content)
  workingDirectory := []

/-! ### The actions of a machine -/

theorem runs_createFile_ok {path : String} {files : FileTree} {sink : Sink}
    (h : s.files.create s.workingDirectory path = .ok (files, sink)) :
    Runs (host.createFile path) s (.ok (blocks sink s.blockSize).writer)
      { s with files, kept := [] } := by
  simp only [Runs, host, modifyGet, MonadStateOf.modifyGet, StateT.modifyGet, h]
  rfl

theorem runs_createFile_error {path : String} {e : FileError}
    (h : s.files.create s.workingDirectory path = .error e) :
    Runs (host.createFile path) s (.error e) s := by
  simp only [Runs, host, modifyGet, MonadStateOf.modifyGet, StateT.modifyGet, h]
  rfl

end MarkdownPreview.Machine
