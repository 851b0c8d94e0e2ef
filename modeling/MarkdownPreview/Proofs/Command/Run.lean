import MarkdownPreview.Command.Run
import MarkdownPreview.Proofs.Config.Load
import MarkdownPreview.Proofs.Files.Machine
import MarkdownPreview.Proofs.Render.BrokenChannel

/-!
What a request does on a machine, step by step, whatever the program is made of: it loads the
configuration, reads the input and delivers the HTML. Loading changes nothing, and reading takes at
most the standard input away. The HTML is the same text wherever it goes, and whether it is written
at once or visit by visit. A page arrives whole or the request fails; of a fragment, what a hook
writes may be lost where a write fails.
-/

namespace MarkdownPreview

/-! ### The writer of a stream -/

namespace Stream

variable {σ : Type} (stream : Stream σ)

theorem bind_apply {α β : Type} (x : StateM σ α) (f : α → StateM σ β) (s : σ) :
    (x >>= f) s = f (x s).1 (x s).2 := rfl

theorem put_writer (piece : String) : stream.writer.put piece = stream.put piece := by
  funext s
  rw [Writer.put, put]
  split <;> rfl

theorem putAll_writer (pieces : List String) :
    stream.writer.putAll pieces = stream.putAll pieces := by
  induction pieces with
  | nil => rfl
  | cons piece rest ih =>
    rw [Writer.putAll, put_writer, ih]
    funext s
    rw [putAll, bind_apply]
    rcases stream.put piece s with ⟨_ | message, s'⟩ <;> rfl

theorem play_writer (entries : List Render.Entry) :
    stream.writer.play entries = Render.play stream entries := by
  induction entries with
  | nil => rfl
  | cons e rest ih =>
    rw [Writer.play, putAll_writer, ih]
    funext s
    rw [Render.play, bind_apply]
    rcases stream.putAll e.pieces s with ⟨_ | message, s'⟩ <;> cases e.taken <;> rfl

/-- Entries are performed on the writer of a stream as on the stream. -/
theorem perform_writer (entries : List Render.Entry) :
    stream.writer.perform entries = Render.perform stream entries := by
  rw [Writer.perform, play_writer]
  funext s
  rw [Render.perform, bind_apply]
  rcases Render.play stream entries s with ⟨_ | message, s'⟩ <;> rfl

end Stream

/-- To perform the transcript of a preview on the writer of a stream is to render onto the stream,
with the hook writing to it too. -/
theorem Preview.perform_transcript {σ : Type} (kit : Toolkit) (stream : Stream σ) (theme : String)
    (markdown : List UInt8) (s : σ) :
    stream.writer.perform (transcript kit theme markdown) s =
      ((renderTo kit stream theme markdown s).1.map WriteFailure.cause,
        (renderTo kit stream theme markdown s).2) := by
  obtain ⟨ids, hrender, -⟩ := Render.render_eq_perform stream
    (kit.events (ListBoundary.normalize (Text.decodeLossy markdown)))
    (Render.keepsTour_output kit.highlighter theme (document kit markdown)) {} s
  have hwritten : renderTo kit stream theme markdown s = _ := renderDocument_of_render hrender
  rw [Stream.perform_writer, hwritten, Option.map_map]
  exact Prod.ext Option.map_id'.symm rfl

namespace Command

open Machine (Runs Carries host)

variable {program : Program} {s s' : Machine} {r : Request} {config : Config}
  {markdown : List UInt8}

/-- The HTML for a markdown input: a fragment, or a page around it. -/
def Program.html (program : Program) (config : Config) (inputFile : Option String)
    (markdown : List UInt8) : Except Highlight.StyleError String :=
  let fragment := Preview.toHtml program.toToolkit config.theme.name markdown
  if config.standalone then
    Page.render program.sheets (pageTitle config inputFile) config.theme fragment
  else .ok fragment

theorem page_eq_render (program : Program) (config : Config) (inputFile : Option String)
    (markdown : List UInt8) :
    program.page config inputFile markdown =
      Page.render program.sheets (pageTitle config inputFile) config.theme
        (Preview.toHtml program.toToolkit config.theme.name markdown) := by
  rw [Program.page, bytesOf, Text.decodeLossy_toUTF8]

/-! ### Writing -/

theorem runs_attempt_ok {action : StateM Machine (Option String)} (h : Runs action s none s')
    (failure : String → Failure) : Runs (attempt failure action).run s (.ok ()) s' :=
  h.bind (Runs.pure _ s')

theorem runs_attempt_error {action : StateM Machine (Option String)} {message : String}
    (h : Runs action s (some message) s') (failure : String → Failure) :
    Runs (attempt failure action).run s (.error (failure message)) s' :=
  h.bind (Runs.pure _ s')

/-- Two actions on a writer as steps of a request. -/
theorem exists_runs_attempts (failure failure' : String → Failure)
    (action next : StateM Machine (Option String)) (s : Machine) :
    ∃ result, Runs (attempt failure action >>= fun _ => attempt failure' next).run s result
        (Stream.andThen (action s) next).2 ∧
      (result = .ok () ↔ (Stream.andThen (action s) next).1 = none) := by
  rcases haction : action s with ⟨_ | message, s'⟩
  case none =>
    have hok := runs_attempt_ok haction failure
    have hthen : Stream.andThen (none, s') next = next s' := rfl
    rw [hthen]
    rcases hnext : next s' with ⟨_ | message, s''⟩
    · exact ⟨_, hok.bind_ok (runs_attempt_ok hnext failure'), by simp⟩
    · exact ⟨_, hok.bind_ok (runs_attempt_error hnext failure'), by simp⟩
  case some =>
    exact ⟨_, (runs_attempt_error haction failure).bind_error _, by simp [Stream.andThen]⟩

/-- A request sent bytes to a place, keeps none back, and its HTML was made. What it sent is the
HTML: a page in any case, and a fragment where no write fails. -/
structure Wrote (program : Program) (config : Config) (inputFile : Option String)
    (markdown : List UInt8) (sink : Sink) (sent : List UInt8) (s s' : Machine) : Prop where
  put : ∃ writes, s' = { s.put sink sent with kept := [], writes }
  html : ∃ html, program.html config inputFile markdown = .ok html ∧
    (s.NoWriteFails s' ∧ sink.Accepts ∨ config.standalone = true → sent = bytesOf html)

theorem exists_runs_writeHtml {stream : Stream Machine} {sink : Sink} (h : Carries stream sink)
    (hkept : s.kept = []) (program : Program) (config : Config) (inputFile : Option String)
    (markdown : List UInt8) :
    ∃ result s', Runs (writeHtml program stream.writer config inputFile markdown).run s result s' ∧
      (result = .ok () → ∃ sent, Wrote program config inputFile markdown sink sent s s') ∧
      (s.NoWriteFails s' → sink.Accepts →
        (∃ html, program.html config inputFile markdown = .ok html) → result = .ok ()) := by
  rw [writeHtml]
  split
  case isTrue hpage =>
    have hhtml : program.page config inputFile markdown =
        program.html config inputFile markdown := by
      rw [page_eq_render, Program.html, if_pos hpage]
    rw [hhtml]
    cases hmade : program.html config inputFile markdown with
    | error e => exact ⟨_, s, (Runs.pure _ s).bind_error _, nofun, fun _ _ ⟨_, h⟩ => nomatch h⟩
    | ok html =>
      obtain ⟨result, hruns, hresult⟩ := exists_runs_attempts .writing .writing
        (stream.writer.put html) stream.writer.flush s
      rw [congrFun (stream.put_writer html) s] at hruns hresult
      have htakes := (h.put html s).andThen fun s' _ => h.flush s'
      rw [List.append_nil] at htakes
      refine ⟨result, _, (Runs.pure _ s).bind_ok hruns, fun hok => ?_, fun hall haccepts _ =>
        hresult.mpr (htakes.succeeds hall haccepts)⟩
      have hnone := hresult.mp hok
      exact ⟨bytesOf html, (htakes.accounts hnone).exists_eq_put hkept (h.kept_andThen hnone), html,
        hmade, fun _ => rfl⟩
  case isFalse hfragment =>
    have hmade : program.html config inputFile markdown =
        .ok (Preview.toHtml program.toToolkit config.theme.name markdown) := by
      rw [Program.html, if_neg hfragment]
    obtain ⟨result, hruns, hresult⟩ := exists_runs_attempts (.rendering ⟨·⟩) .writing
      (stream.writer.perform (Preview.transcript program.toToolkit config.theme.name markdown))
      stream.writer.flush s
    rw [congrFun (stream.perform_writer _) s] at hruns hresult
    have hdelivers := (h.perform (Preview.transcript program.toToolkit config.theme.name markdown)
      s).andThen fun s' => (h.flush s').delivers
    rw [List.append_nil, ← Preview.toHtml_eq_join] at hdelivers
    refine ⟨result, _, hruns, fun hok => ?_, fun hall haccepts _ =>
      hresult.mpr (hdelivers.whole hall haccepts).1⟩
    obtain ⟨sent, hput, hsent⟩ :=
      hdelivers.exists_eq_put hkept (h.kept_andThen (hresult.mp hok))
    exact ⟨sent, hput, _, hmade, fun hsure => hsent (hsure.resolve_right hfragment)⟩

/-! ### Delivering -/

/-- What a request reports when its output was written. -/
def Request.delivered (r : Request) : List Report :=
  r.output.toList.map fun path => .success ("Rendered HTML to " ++ path)

theorem runs_reportOutput (r : Request) (s : Machine) :
    Runs (reportOutput host r.output) s () { s with reports := s.reports ++ r.delivered } := by
  unfold reportOutput Request.delivered
  cases r.output with
  | some path => rfl
  | none =>
    rw [Option.toList_none, List.map_nil, List.append_nil]
    exact Runs.pure () s

/-- After the output is opened, a request that does not fail wrote its HTML to it. -/
theorem exists_runs_deliver {stream : Stream Machine} {sink : Sink} {s₁ : Machine}
    (hopen : Runs (openOutput host r.output) s (.ok stream.writer) s₁) (h : Carries stream sink)
    (hkept : s₁.kept = []) (program : Program) (config : Config) (markdown : List UInt8) :
    ∃ result s', Runs (deliver program host r config markdown).run s result s' ∧
      (result = .ok () → ∃ sent s₂, Wrote program config r.inputFile? markdown sink sent s₁ s₂ ∧
        s' = { s₂ with reports := s₂.reports ++ r.delivered }) ∧
      (s₁.NoWriteFails s' → sink.Accepts →
        (∃ html, program.html config r.inputFile? markdown = .ok html) → result = .ok ()) := by
  obtain ⟨result, s₂, hwrite, hwrote, hsure⟩ :=
    exists_runs_writeHtml h hkept program config r.inputFile? markdown
  have hopen := hopen.map (Except.mapError Failure.output)
  have hflush : Runs stream.writer.flush s₂ (stream.flush s₂).1 (stream.flush s₂).2 := rfl
  rw [deliver]
  cases result with
  | error e =>
    exact ⟨.error e, _, .bind_ok hopen (.bind_ok hwrite.lift (.bind_ok hflush.lift
      (.bind_error (Runs.pure _ _) _))), nofun,
      fun hall => hsure ((h.flush s₂).passes.noWriteFails_left hall)⟩
  | ok _ =>
    obtain ⟨sent, hwrote⟩ := hwrote rfl
    obtain ⟨writes, rfl⟩ := hwrote.put
    -- nothing is kept back any more that the last flush could send
    rw [h.idle _ rfl] at hflush
    exact ⟨.ok (), _, .bind_ok hopen (.bind_ok hwrite.lift (.bind_ok hflush.lift
      (.bind_ok (Runs.pure _ _) (runs_reportOutput r _).lift))), fun _ => ⟨sent, _, hwrote, rfl⟩,
      fun _ _ _ => rfl⟩

theorem runs_deliver_of_open_error {e : FileError}
    (hopen : Runs (openOutput host r.output) s (.error e) s') (program : Program) (config : Config)
    (markdown : List UInt8) :
    Runs (deliver program host r config markdown).run s (.error (.output e)) s' := by
  rw [deliver]
  exact .bind_error (hopen.map (Except.mapError Failure.output)) _

/-! ### Carrying out a request -/

/-- What the log says of the configuration of a request. -/
def Program.logged (program : Program) (r : Request) (config : Config) : List Report :=
  (config.path.bind (program.logLine r.verbose)).toList.map .note

theorem runs_logConfig (program : Program) (r : Request) (config : Config) (s : Machine) :
    Runs (logConfig program host r.verbose config) s ()
      { s with reports := s.reports ++ program.logged r config } := by
  unfold logConfig Program.logged
  cases config.path.bind (program.logLine r.verbose) with
  | some line => rfl
  | none =>
    rw [Option.toList_none, List.map_nil, List.append_nil]
    exact Runs.pure () s

/-- Reading does not look at what was reported before. -/
theorem runs_readMarkdown_reports {input? : Option String} {result : Except FileError (List UInt8)}
    (h : Runs (readMarkdown host input?) s result s') (reports : List Report) :
    Runs (readMarkdown host input?) { s with reports } result { s' with reports } := by
  rcases s with ⟨_, _, _, _ | fault⟩ <;> cases input? <;>
    obtain ⟨rfl, rfl⟩ := Prod.mk.inj h <;> rfl

/-- Where the input cannot be read, nothing is taken away. -/
theorem eq_of_runs_readMarkdown_error {input? : Option String} {e : FileError}
    (h : Runs (readMarkdown host input?) s (.error e) s') : s' = s := by
  rcases s with ⟨_, _, _, _ | fault⟩ <;> cases input?
  case none.none => cases (Prod.mk.inj h).1
  all_goals exact (Prod.mk.inj h).2.symm

theorem exists_eq_of_runs_readMarkdown {input? : Option String}
    {result : Except FileError (List UInt8)} (h : Runs (readMarkdown host input?) s result s') :
    ∃ input, s' = { s with input } := by
  rcases s with ⟨_, _, _, _ | fault⟩ <;> cases input? <;> exact ⟨_, (Prod.mk.inj h).2.symm⟩

theorem runs_execute_of_config_error {e : Config.Error}
    (h : Runs (Config.load host program.decode r.config r.settings) s (.error e) s') :
    Runs (execute program host r).run s (.error (.config e)) s := by
  cases (Config.reads_load program.decode r.config r.settings).eq h
  rw [execute]
  exact .bind_error (h.map (Except.mapError Failure.config)) _

theorem runs_execute_of_input_error {s'' : Machine} {e : FileError}
    (hconfig : Runs (Config.load host program.decode r.config r.settings) s (.ok config) s')
    (hinput : Runs (readMarkdown host r.inputFile?) s (.error e) s'') :
    Runs (execute program host r).run s (.error (.input e))
      { s with reports := s.reports ++ program.logged r config } := by
  cases (Config.reads_load program.decode r.config r.settings).eq hconfig
  cases eq_of_runs_readMarkdown_error hinput
  have hread := runs_readMarkdown_reports hinput (s.reports ++ program.logged r config)
  rw [execute]
  exact .bind_ok (hconfig.map (Except.mapError Failure.config))
    (.bind_ok (runs_logConfig program r config s).lift
      (.bind_error (hread.map (Except.mapError Failure.input)) _))

/-- What a request has before its output is opened: its configuration and its input. -/
structure Request.Prepared (program : Program) (r : Request) (s : Machine) (config : Config)
    (markdown : List UInt8) : Prop where
  config : ∃ s', Runs (Config.load host program.decode r.config r.settings) s (.ok config) s'
  markdown : ∃ s', Runs (readMarkdown host r.inputFile?) s (.ok markdown) s'

theorem runs_execute_of_prepared (h : r.Prepared program s config markdown) :
    ∃ input, ∀ result s',
      Runs (deliver program host r config markdown).run
        { s with reports := s.reports ++ program.logged r config, input } result s' →
      Runs (execute program host r).run s result s' := by
  obtain ⟨⟨s₁, hconfig⟩, s₂, hmarkdown⟩ := h
  cases (Config.reads_load program.decode r.config r.settings).eq hconfig
  obtain ⟨input, rfl⟩ := exists_eq_of_runs_readMarkdown hmarkdown
  have hread := runs_readMarkdown_reports hmarkdown (s.reports ++ program.logged r config)
  refine ⟨input, fun result s' hdeliver => ?_⟩
  rw [execute]
  exact .bind_ok (hconfig.map (Except.mapError Failure.config))
    (.bind_ok (runs_logConfig program r config s).lift
      (.bind_ok (hread.map (Except.mapError Failure.input)) hdeliver))

/-! ### Command lines -/

theorem runs_run_ok {arguments : List String} (harguments : program.readArguments arguments = .ok r)
    (h : Runs (execute program host r).run s (.ok ()) s') :
    Runs (run program host arguments) s 0 s' := by
  rw [run, harguments]
  exact h.bind (Runs.pure 0 s')

theorem runs_run_error {arguments : List String} {e : Failure}
    (harguments : program.readArguments arguments = .ok r)
    (h : Runs (execute program host r).run s (.error e) s') :
    Runs (run program host arguments) s 1
      { s' with reports := s'.reports ++ [.problem ("Error: " ++ e.message)] } := by
  rw [run, harguments]
  exact h.bind rfl

/-- A request that is prepared, and whose output can be opened, is carried out if its HTML can be
made and no write fails. If it is carried out, it has sent its HTML to the output. -/
theorem exists_runs_run_of_open {arguments : List String} {stream : Stream Machine} {sink : Sink}
    {t : Machine} (harguments : program.readArguments arguments = .ok r)
    (hprepared : r.Prepared program s config markdown)
    (hopen : ∀ reports input, Runs (openOutput host r.output) { s with reports, input }
      (.ok stream.writer) { t with reports, input })
    (h : Carries stream sink) (hkept : t.kept = []) :
    ∃ code s', Runs (run program host arguments) s code s' ∧
      (code = 0 → ∃ sent html, s'.files = (t.put sink sent).files ∧
        s'.printed = (t.put sink sent).printed ∧
        program.html config r.inputFile? markdown = .ok html ∧
        (t.NoWriteFails s' ∧ sink.Accepts ∨ config.standalone = true → sent = bytesOf html)) ∧
      (t.NoWriteFails s' → sink.Accepts →
        (∃ html, program.html config r.inputFile? markdown = .ok html) → code = 0) := by
  obtain ⟨input, hexecute⟩ := runs_execute_of_prepared hprepared
  obtain ⟨result, s', hdeliver, hdelivered, hsure⟩ :=
    exists_runs_deliver (hopen _ input) h hkept program config markdown
  cases result with
  | error e =>
    refine ⟨1, _, runs_run_error harguments (hexecute _ _ hdeliver), nofun, ?_⟩
    intro hall haccepts hhtml
    cases hsure hall haccepts hhtml
  | ok _ =>
    obtain ⟨sent, s₂, ⟨⟨writes, rfl⟩, html, hhtml, hsent⟩, rfl⟩ := hdelivered rfl
    refine ⟨0, _, runs_run_ok harguments (hexecute _ _ hdeliver), fun _ => ?_, fun _ _ _ => rfl⟩
    refine ⟨sent, html, ?_, ?_, hhtml, hsent⟩ <;> cases sink <;> rfl

end Command

end MarkdownPreview
