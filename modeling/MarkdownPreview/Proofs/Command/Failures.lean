import MarkdownPreview.Command.Standard
import MarkdownPreview.Proofs.Command.Run

/-!
Requests that fail before their output is opened. Such a run changes nothing: its only trace is in
the reports.
-/

namespace MarkdownPreview.Command

open Machine (Runs host)

/-- A configuration that cannot be loaded fails a request, wherever its input comes from and its
output goes. After that, an input that cannot be read fails it, wherever its output goes. Either
way the failure is reported, and nothing is printed and no file is touched. -/
theorem runs_run_of_unprepared (program : Program) (s : Machine) (r : Request) :
    (∀ e s', Runs (Config.load host program.decode r.config r.settings) s (.error e) s' →
      ∀ input output arguments, program.readArguments arguments = .ok { r with input, output } →
        Runs (run program host arguments) s 1
          { s with reports := s.reports ++ [.problem ("Error: " ++ e.message)] }) ∧
    ∀ config s', Runs (Config.load host program.decode r.config r.settings) s (.ok config) s' →
      ∀ e s'', Runs (readMarkdown host r.inputFile?) s (.error e) s'' →
        ∀ output arguments, program.readArguments arguments = .ok { r with output } →
          Runs (run program host arguments) s 1
            { s with
              reports := s.reports ++ program.logged r config ++
                [.problem ("Error: " ++ e.message)] } := by
  constructor
  · intro e s' hconfig input output arguments harguments
    exact runs_run_error harguments (runs_execute_of_config_error hconfig)
  · intro config s' hconfig e s'' hinput output arguments harguments
    exact runs_run_error harguments (runs_execute_of_input_error hconfig hinput)

/-- A blank title counts before a missing input, and a missing input before the output: the file
that the output would go to is left as it is. -/
theorem runs_run_unprepared_cases :
    Runs (run .standard host ["render", "missing.md", "--title", " ", "-o", "kept.html"])
        (.withFile "kept.html" "old") 1
        { Machine.withFile "kept.html" "old" with
          reports := [.problem "Error: Configuration error: output.title cannot be empty"] } ∧
      Runs (run .standard host ["render", "missing.md", "-o", "kept.html"])
        (.withFile "kept.html" "old") 1
        { Machine.withFile "kept.html" "old" with
          reports := [.problem "Error: No such file or directory (os error 2)"] } := by
  constructor
  · exact (runs_run_of_unprepared .standard (.withFile "kept.html" "old") { title := some " " }).1
      .blankTitle _ rfl (some "missing.md") (some "kept.html") _ rfl
  · exact (runs_run_of_unprepared .standard (.withFile "kept.html" "old")
      { input := some "missing.md" }).2 {} _ rfl .notFound _ rfl (some "kept.html") _ rfl

end MarkdownPreview.Command
