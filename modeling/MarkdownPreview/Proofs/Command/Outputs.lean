import MarkdownPreview.Command.Standard
import MarkdownPreview.Proofs.Command.Run

/-!
The outputs of a request. A file gets exactly the bytes that are printed without it, also where it
is the file of the input or of the configuration, since both are read before it is emptied. A page
has the fragment in it that is printed where no page is wanted. All this holds where no write fails
and where the path of the file leads to no device.
-/

namespace MarkdownPreview.Command

open Machine (Runs host)

variable {program : Program} {s s' : Machine} {r : Request} {config : Config}
  {markdown : List UInt8} {arguments : List String}

/-- A request that is carried out had a configuration and an input. -/
theorem exists_prepared (harguments : program.readArguments arguments = .ok r)
    (h : Runs (run program host arguments) s 0 s') :
    ∃ config markdown, r.Prepared program s config markdown := by
  obtain ⟨config | config, s₁, hconfig⟩ :=
    Machine.exists_runs (Config.load host program.decode r.config r.settings) s
  · have hfails := runs_run_error harguments (runs_execute_of_config_error hconfig)
    exact absurd (h.unique hfails).1 (by decide)
  obtain ⟨markdown | markdown, s₂, hmarkdown⟩ :=
    Machine.exists_runs (readMarkdown host r.inputFile?) s
  · have hfails := runs_run_error harguments (runs_execute_of_input_error hconfig hmarkdown)
    exact absurd (h.unique hfails).1 (by decide)
  · exact ⟨config, markdown, ⟨s₁, hconfig⟩, s₂, hmarkdown⟩

theorem accepts_standardOutput : Sink.standardOutput.Accepts := nofun

theorem accepts_file (number : Nat) : (Sink.file number).Accepts := nofun

/-- A request without a file for its output leaves all files as they are. If it is carried out, it
prints its HTML: a page in any case, and a fragment where no write fails. -/
theorem exists_runs_run_print (harguments : program.readArguments arguments = .ok r)
    (houtput : r.output = none) (hprepared : r.Prepared program s config markdown) :
    ∃ code t, Runs (run program host arguments) s code t ∧
      (code = 0 → t.files = s.files ∧
        ∃ html, program.html config r.inputFile? markdown = .ok html ∧
          (s.NoWriteFails t ∨ config.standalone = true →
            t.printed = s.printed ++ bytesOf html)) ∧
      (s.NoWriteFails t → (∃ html, program.html config r.inputFile? markdown = .ok html) →
        code = 0) := by
  have hopen (reports : List Report) (input : List UInt8) :
      Runs (openOutput host r.output) { s with reports, input }
        (.ok (Machine.lines .standardOutput s.lineSize).writer)
        { s with kept := [], reports, input } := by
    rw [houtput]
    rfl
  obtain ⟨code, t, hruns, hsent, hsure⟩ := exists_runs_run_of_open (t := { s with kept := [] })
    harguments hprepared hopen (Machine.carries_lines .standardOutput s.lineSize) rfl
  refine ⟨code, t, hruns, fun hcode => ?_, fun hall => hsure hall accepts_standardOutput⟩
  obtain ⟨sent, html, hfiles, hprinted, hhtml, hwhole⟩ := hsent hcode
  refine ⟨hfiles, html, hhtml, fun h => ?_⟩
  rw [hprinted, hwhole (h.imp_left fun hall => ⟨hall, accepts_standardOutput⟩)]
  rfl

/-- A request with a file for its output prints nothing if it is carried out. It sends its HTML to
the file: a page in any case, and a fragment where no write fails. -/
theorem exists_runs_run_file {path : String} {files : FileTree} {number : Nat}
    (harguments : program.readArguments arguments = .ok r) (houtput : r.output = some path)
    (hprepared : r.Prepared program s config markdown)
    (hfiles : s.files.create s.workingDirectory path = .ok (files, .file number)) :
    ∃ code s', Runs (run program host arguments) s code s' ∧
      (code = 0 → s'.printed = s.printed ∧
        ∃ sent html, s'.files = files.append number sent ∧
          program.html config r.inputFile? markdown = .ok html ∧
          (s.NoWriteFails s' ∨ config.standalone = true → sent = bytesOf html)) ∧
      (s.NoWriteFails s' → (∃ html, program.html config r.inputFile? markdown = .ok html) →
        code = 0) := by
  have hopen (reports : List Report) (input : List UInt8) :
      Runs (openOutput host r.output) { s with reports, input }
        (.ok (Machine.blocks (.file number) s.blockSize).writer)
        { s with files, kept := [], reports, input } := by
    rw [houtput]
    exact Machine.runs_createFile_ok hfiles
  obtain ⟨code, s', hruns, hsent, hsure⟩ :=
    exists_runs_run_of_open (t := { s with files, kept := [] }) harguments hprepared hopen
      (Machine.carries_blocks (.file number) s.blockSize) rfl
  refine ⟨code, s', hruns, fun hcode => ?_, fun hall => hsure hall (accepts_file number)⟩
  obtain ⟨sent, html, hput, hprinted, hhtml, hwhole⟩ := hsent hcode
  exact ⟨hprinted, sent, html, hput, hhtml,
    fun h => hwhole (h.imp_left fun hall => ⟨hall, accepts_file number⟩)⟩

/-- A request whose output cannot be opened is not carried out. -/
theorem exists_runs_run_of_create_error {path : String} {e : FileError}
    (harguments : program.readArguments arguments = .ok r) (houtput : r.output = some path)
    (hprepared : r.Prepared program s config markdown)
    (hfiles : s.files.create s.workingDirectory path = .error e) :
    ∃ s', Runs (run program host arguments) s 1 s' := by
  obtain ⟨input, hexecute⟩ := runs_execute_of_prepared hprepared
  have hopen : Runs (openOutput host r.output)
      { s with reports := s.reports ++ program.logged r config, input } (.error e)
      { s with reports := s.reports ++ program.logged r config, input } := by
    rw [houtput]
    exact Machine.runs_createFile_error hfiles
  have hdeliver := runs_deliver_of_open_error hopen program config markdown
  exact ⟨_, runs_run_error harguments (hexecute _ _ hdeliver)⟩

/-- A request that is carried out with a file for its output prints nothing, and its HTML is all
that is in the file: a page in any case, and a fragment where no write fails. -/
theorem content?_of_runs_run_file {path : String}
    (harguments : program.readArguments arguments = .ok r) (houtput : r.output = some path)
    (hdevice : ¬s.files.LeadsToDevice s.workingDirectory path)
    (hprepared : r.Prepared program s config markdown)
    (h : Runs (run program host arguments) s 0 s') :
    s'.printed = s.printed ∧
      ∃ html, program.html config r.inputFile? markdown = .ok html ∧
        (s.NoWriteFails s' ∨ config.standalone = true →
          s'.files.content? s.workingDirectory path = some (bytesOf html)) := by
  cases hfiles : s.files.create s.workingDirectory path with
  | error e =>
    obtain ⟨s'', hfails⟩ := exists_runs_run_of_create_error harguments houtput hprepared hfiles
    exact absurd (h.unique hfails).1 (by decide)
  | ok made =>
    obtain ⟨files, sink⟩ := made
    obtain ⟨number, rfl, hcontent⟩ := FileTree.content?_append_of_create hfiles hdevice
    obtain ⟨code, s'', hruns, hcarried, -⟩ :=
      exists_runs_run_file harguments houtput hprepared hfiles
    obtain ⟨rfl, rfl⟩ := h.unique hruns
    obtain ⟨hprinted, sent, html, hput, hhtml, hall⟩ := hcarried rfl
    refine ⟨hprinted, html, hhtml, fun hsure => ?_⟩
    rw [hput, hcontent, hall hsure]

/-- Where the path of a file for the output leads to no device, a request that is carried out with
it prints nothing, and without it the request touches no file. What is printed then are the bytes
that the file gets, whatever the file was before: for a page if both are carried out, and for a
fragment if no write fails. If a page is wanted, the bytes are the page around the fragment that any
request prints that has the same input and theme and wants no page. -/
theorem runs_run_file_and_print {path : String} {arguments' : List String}
    (hprint : program.readArguments arguments = .ok { r with output := none })
    (hfile : program.readArguments arguments' = .ok { r with output := some path })
    (hdevice : ¬s.files.LeadsToDevice s.workingDirectory path)
    (h : Runs (run program host arguments') s 0 s') :
    ∃ config markdown html, r.Prepared program s config markdown ∧
      s'.printed = s.printed ∧
      (s.NoWriteFails s' ∨ config.standalone = true →
        s'.files.content? s.workingDirectory path = some (bytesOf html)) ∧
      (∀ code t, Runs (run program host arguments) s code t →
        (s.NoWriteFails t → code = 0) ∧
        (code = 0 → t.files = s.files ∧
          (s.NoWriteFails t ∨ config.standalone = true →
            t.printed = s.printed ++ bytesOf html))) ∧
      (config.standalone = true → ∃ fragment,
        Page.render program.sheets
          (config.title.getD ((r.inputFile?.bind Path.fileName?).getD "stdin"))
          config.theme fragment = .ok html ∧
        ∀ u plain config' arguments'' code u',
          program.readArguments arguments'' = .ok plain → plain.output = none →
          plain.Prepared program u config' markdown →
          config'.standalone = false → config'.theme = config.theme →
          Runs (run program host arguments'') u code u' → u.NoWriteFails u' →
          code = 0 ∧ u'.printed = u.printed ++ bytesOf fragment) := by
  obtain ⟨config, markdown, hprepared⟩ := exists_prepared hfile h
  obtain ⟨hprinted, html, hhtml, hcontent⟩ :=
    content?_of_runs_run_file hfile rfl hdevice hprepared h
  refine ⟨config, markdown, html, ⟨hprepared.config, hprepared.markdown⟩, hprinted, hcontent,
    fun code t ht => ?_, fun hstandalone => ?_⟩
  · obtain ⟨code', t', ht', hcarried, hsure⟩ :=
      exists_runs_run_print hprint rfl ⟨hprepared.config, hprepared.markdown⟩
    obtain ⟨rfl, rfl⟩ := ht.unique ht'
    refine ⟨fun hall => hsure hall ⟨html, hhtml⟩, fun hcode => ?_⟩
    obtain ⟨hfiles, html', hhtml', hbytes⟩ := hcarried hcode
    cases hhtml.symm.trans hhtml'
    exact ⟨hfiles, hbytes⟩
  · rw [Program.html, if_pos hstandalone] at hhtml
    refine ⟨_, hhtml, ?_⟩
    intro u plain config' arguments'' code u' harguments houtput hplain hfragment htheme hu hall
    have hmade : program.html config' plain.inputFile? markdown =
        .ok (Preview.toHtml program.toToolkit config.theme.name markdown) := by
      rw [Program.html, hfragment, if_neg Bool.false_ne_true, htheme]
    obtain ⟨code', u'', hu', hcarried, hsure⟩ := exists_runs_run_print harguments houtput hplain
    obtain ⟨rfl, rfl⟩ := hu.unique hu'
    obtain rfl := hsure hall ⟨_, hmade⟩
    obtain ⟨-, html', hhtml', hbytes⟩ := hcarried rfl
    cases hmade.symm.trans hhtml'
    exact ⟨rfl, hbytes (.inl hall)⟩

theorem not_leadsToDevice_withFile (name content path : String) :
    ¬(Machine.withFile name content).files.LeadsToDevice [] path := by
  rintro ⟨place, device, -, hentry⟩
  have hentry : (if place = [name] then some (.file 0) else FileTree.bare.lookup? place) =
      some (FileEntry.device device) := hentry
  simp only [FileTree.bare] at hentry
  split at hentry
  · cases hentry
  · split at hentry <;> cases hentry

/-- A page may take the place of its own input. -/
theorem runs_run_file_and_print_in_place :
    ∃ page fragment t t' u,
      Runs (run .standard host ["render", "note.md", "--standalone"])
        (.withFile "note.md" "*a*") 0 t ∧
      Runs (run .standard host ["render", "note.md", "--standalone", "-o", "note.md"])
        (.withFile "note.md" "*a*") 0 t' ∧
      Runs (run .standard host ["render", "note.md"]) (.withFile "note.md" "*a*") 0 u ∧
      t.printed = bytesOf page ∧ t'.printed = [] ∧ u.printed = bytesOf fragment ∧
      t'.files.content? [] "note.md" = some (bytesOf page) ∧
      Page.render .standard "note.md" .auto fragment = .ok page := by
  have hprint : Program.standard.readArguments ["render", "note.md", "--standalone"] =
      .ok { input := some "note.md", standalone := true } := rfl
  have hfile : Program.standard.readArguments
      ["render", "note.md", "--standalone", "-o", "note.md"] =
      .ok { input := some "note.md", standalone := true, output := some "note.md" } := rfl
  have hnoWriteFails (t : Machine) : (Machine.withFile "note.md" "*a*").NoWriteFails t :=
    fun _ _ _ => rfl
  have hprepared : Request.Prepared .standard
      { input := some "note.md", standalone := true, output := some "note.md" }
      (.withFile "note.md" "*a*") { standalone := true } (bytesOf "*a*") :=
    ⟨⟨_, rfl⟩, _, rfl⟩
  obtain ⟨code, t', ht', -, hcode⟩ := exists_runs_run_file hfile rfl hprepared rfl
  obtain rfl := hcode (hnoWriteFails t') ⟨_, rfl⟩
  obtain ⟨config, markdown, page, ⟨⟨s₁, hconfig⟩, s₂, hmarkdown⟩, hprinted, hcontent, hbytes,
      hpage⟩ :=
    runs_run_file_and_print (r := { input := some "note.md", standalone := true }) hprint hfile
      (not_leadsToDevice_withFile _ _ _) ht'
  obtain rfl : config = { standalone := true } := Except.ok.inj (hconfig.unique rfl).1
  obtain rfl : markdown = bytesOf "*a*" := Except.ok.inj (hmarkdown.unique rfl).1
  obtain ⟨code, t, ht⟩ := Machine.exists_runs
    (run .standard host ["render", "note.md", "--standalone"]) (.withFile "note.md" "*a*")
  obtain rfl := (hbytes code t ht).1 (hnoWriteFails t)
  obtain ⟨code, u, hu⟩ := Machine.exists_runs
    (run .standard host ["render", "note.md"]) (.withFile "note.md" "*a*")
  obtain ⟨fragment, hrender, hfragment⟩ := hpage rfl
  obtain ⟨rfl, hutext⟩ := hfragment (.withFile "note.md" "*a*") { input := some "note.md" } {} _
    code u rfl rfl ⟨⟨_, rfl⟩, _, rfl⟩ rfl rfl hu (hnoWriteFails u)
  exact ⟨page, fragment, t, t', u, ht, ht', hu,
    ((hbytes 0 t ht).2 rfl).2 (.inl (hnoWriteFails t)), hprinted, hutext,
    hcontent (.inl (hnoWriteFails t')), hrender⟩

/-! ### Devices and writes that fail -/

/-- A run with a file for its output printed nothing, and the file has what a run without it
printed. -/
def Agree (s : Machine) (path : String) (s' t : Machine) : Prop :=
  s'.printed = s.printed ∧
    ∃ html, t.printed = s.printed ++ html ∧
      s'.files.content? s.workingDirectory path = some html

/-- A machine on which a path leads to the standard output. -/
def deviceMachine : Machine where
  files := ((FileTree.bare.addFile ["a.md"] (bytesOf "hi")).set ["dev"] .directory nofun).set
    ["dev", "stdout"] (.device { sink := .standardOutput }) nofun
  workingDirectory := []

/-- A machine on which the second write fails, and no other. -/
def faultyMachine : Machine :=
  { Machine.withFile "a.md" "a\n\n```\nx\n```" with
    writeFault? := fun n => if n = 1 then some ⟨0, .noSpace⟩ else none }

/-- Runs that are carried out need not agree: a device is no file, and where a write fails, the rest
of highlighted code is not printed, while all of it may still go to a file. -/
theorem not_forall_agree :
    (¬∀ s path s' t, Runs (run .standard host ["render", "a.md", "-o", path]) s 0 s' →
      Runs (run .standard host ["render", "a.md"]) s 0 t → s.NoWriteFails s' → s.NoWriteFails t →
      Agree s path s' t) ∧
    ¬∀ s path s' t, ¬s.files.LeadsToDevice s.workingDirectory path →
      Runs (run .standard host ["render", "a.md", "-o", path]) s 0 s' →
      Runs (run .standard host ["render", "a.md"]) s 0 t → Agree s path s' t := by
  constructor
  · intro h
    have hfile : (run .standard host ["render", "a.md", "-o", "/dev/stdout"] deviceMachine).1 = 0 ∧
        (run .standard host ["render", "a.md", "-o", "/dev/stdout"] deviceMachine).2.printed ≠
          [] := by
      decide +kernel
    have hprint : (run .standard host ["render", "a.md"] deviceMachine).1 = 0 := by
      decide +kernel
    obtain ⟨hnothing, -⟩ := h deviceMachine "/dev/stdout" _ _ (Prod.ext hfile.1 rfl)
      (Prod.ext hprint rfl) (fun _ _ _ => rfl) (fun _ _ _ => rfl)
    exact hfile.2 hnothing
  · intro h
    have hfile : (run .standard host ["render", "a.md", "-o", "b.html"] faultyMachine).1 = 0 := by
      decide +kernel
    have hprint : (run .standard host ["render", "a.md"] faultyMachine).1 = 0 := by
      decide +kernel
    have hdiffer : (run .standard host ["render", "a.md", "-o", "b.html"]
        faultyMachine).2.files.content? [] "b.html" ≠
          some (run .standard host ["render", "a.md"] faultyMachine).2.printed := by
      decide +kernel
    obtain ⟨-, html, hprinted, hcontent⟩ := h faultyMachine "b.html" _ _
      (not_leadsToDevice_withFile _ _ _) (Prod.ext hfile rfl) (Prod.ext hprint rfl)
    exact hdiffer (hcontent.trans (congrArg some hprinted.symm))

end MarkdownPreview.Command
