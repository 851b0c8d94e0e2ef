import MarkdownPreview.Highlight.Pattern

/-!
The languages that code can be highlighted in, with the file extensions that name them and the
first lines that give them away.
-/

namespace MarkdownPreview.Highlight

open Pattern

/-- A language. Its scope is the class of the element around all of its code. -/
structure Language where
  name : String
  scope : String
  extensions : List String
  firstLine : Option Pattern
  deriving DecidableEq, Repr

/-- A line that names the program that runs it. -/
def shebang (p : Pattern) : Pattern := seqAll [lineStart, lit "#!", p]

def wordOf (words : List String) : Pattern :=
  seqAll [wordBoundary, altAll (words.map lit), wordBoundary]

/-- A line that names the mode an editor should use. -/
def modeline (mode : String) : Pattern :=
  seqAll [lit "-*-", opt (lit " Mode:"), lit (" " ++ mode ++ " -*-")]

def appleScriptLine : Pattern := shebang (seq anything (lit "osascript"))

def cPlusPlusLine : Pattern := lit "-*- C++ -*-"

def cLine : Pattern := modeline "C"

def dLine : Pattern := shebang (seqAll [anything, wordOf ["gdmd", "dmd"], one .notNewline])

/-- Numbers with commas between them. -/
def lineNumbers : Pattern :=
  seq (plus (one .digit)) (star (seq (lit ",") (plus (one .digit))))

def diffLine : Pattern :=
  seq lineStart <| altAll
    [lit "=== modified file",
     seqAll [lit "====", spaces, lit "//", plus (one .notNewline), one .space, lit "-", one .space,
       plus (one .notNewline), plus (one .space), lit "===="],
     lit "Index: ",
     seq (lit "--- ") (one (.except '%')),
     seqAll [lit "***", anything, one .digit, one .digit, one .digit, one .digit, spaces, lineEnd],
     seqAll [lineNumbers, altAll [lit "a", lit "d", lit "c"], lineNumbers, lineEnd],
     lit "diff --git "]

def goLine : Pattern := modeline "Go"

def htmlLine : Pattern :=
  seqAll [lit "<", opt (seq (litAnyCase "!DOCTYPE") spaces), litAnyCase "html"]

def javaScriptLine : Pattern :=
  shebang (seqAll [spaces, lit "/", anything, wordOf ["node", "js"]])

def latexLogLine : Pattern :=
  seqAll [lit "This is ", opt (altAll [lit "pdf", lit "pdfe"]), lit "TeX", opt (lit "k"),
    lit ", Version "]

def makefileLine : Pattern := shebang (seqAll [spaces, lit "/usr/bin/make", wordBoundary])

def multiMarkdownLine : Pattern :=
  seqAll [lineStart, litAnyCase "format:", spaces, litAnyCase "complete", spaces, lineEnd]

def phpLine : Pattern :=
  seqAll [lineStart,
    altAll
      [seqAll [lit "#!", anything, one (.except '-'), lit "php", opt (one .asciiDigit)],
       lit "<?php"],
    wordBoundary]

def perlLine : Pattern := shebang (seq anything (wordOf ["perl"]))

def pythonLine : Pattern :=
  shebang <| seqAll [spaces, lit "/", anything, wordBoundary, lit "python",
    opt (seq (one .digit) (opt (seqAll [lit ".", one .digit]))), wordBoundary]

def rubyLine : Pattern := shebang (seq anything (wordOf ["jruby", "ruby"]))

def shellLine : Pattern :=
  alt (shebang (seq anything (wordOf ["bash", "zsh", "sh", "tcsh"])))
    (seqAll [lineStart, lit "#", spaces, lit "-*-", star (one (.except '*')), lit "mode:", spaces,
      lit "shell-script", star (one (.except '*')), lit "-*-"])

def textileLine : Pattern := lit "textile"

/-- The address of the envelope's name space; its points stand for any character. -/
def envelopeAddress : Pattern :=
  seqAll [lit "http://schemas", one .notNewline, lit "xmlsoap", one .notNewline,
    lit "org/soap/envelope/"]

def xmlLine : Pattern :=
  seq lineStart <| alt
    (seq (lit "<?xml") (one .space))
    (seqAll [spaces, lit "<", capture (plus (one .wordOrDash)), lit ":Envelope", plus (one .space),
      lit "xmlns:", captured, spaces, lit "=", spaces, lit "\"", envelopeAddress, lit "\"", spaces,
      lit ">"])

def yamlLine : Pattern := seq lineStart (lit "%YAML")

/-- All languages. Where several fit, the last one is taken. -/
def languages : List Language :=
  [⟨"Plain Text", "text.plain", ["txt"], none⟩,
   ⟨"ASP", "source.asp", ["asa"], none⟩,
   ⟨"HTML (ASP)", "text.html.asp", ["asp"], none⟩,
   ⟨"ActionScript", "source.actionscript.2", ["as"], none⟩,
   ⟨"AppleScript", "source.applescript", ["applescript", "script editor"], some appleScriptLine⟩,
   ⟨"Batch File", "source.dosbatch", ["bat", "cmd"], none⟩,
   ⟨"NAnt Build File", "source.nant-build", ["build"], none⟩,
   ⟨"C#", "source.cs", ["cs", "csx"], none⟩,
   ⟨"C++", "source.c++",
     ["cpp", "cc", "cp", "cxx", "c++", "C", "h", "hh", "hpp", "hxx", "h++", "inl", "ipp"],
     some cPlusPlusLine⟩,
   ⟨"C", "source.c", ["c", "h"], some cLine⟩,
   ⟨"CSS", "source.css", ["css", "css.erb", "css.liquid"], none⟩,
   ⟨"Clojure", "source.clojure", ["clj"], none⟩,
   ⟨"D", "source.d", ["d", "di"], some dLine⟩,
   ⟨"Diff", "source.diff", ["diff", "patch"], some diffLine⟩,
   ⟨"Erlang", "source.erlang", ["erl", "hrl", "Emakefile", "emakefile"], none⟩,
   ⟨"HTML (Erlang)", "text.html.erlang.yaws", ["yaws"], none⟩,
   ⟨"Go", "source.go", ["go"], some goLine⟩,
   ⟨"Graphviz (DOT)", "source.dot", ["dot", "DOT", "gv"], none⟩,
   ⟨"Groovy", "source.groovy", ["groovy", "gvy", "gradle"], none⟩,
   ⟨"HTML", "text.html.basic",
     ["html", "htm", "shtml", "xhtml", "inc", "tmpl", "tpl"], some htmlLine⟩,
   ⟨"Haskell", "source.haskell", ["hs"], none⟩,
   ⟨"Literate Haskell", "text.tex.latex.haskell", ["lhs"], none⟩,
   ⟨"Java Server Page (JSP)", "text.html.jsp", ["jsp"], none⟩,
   ⟨"Java", "source.java", ["java", "bsh"], none⟩,
   ⟨"JavaDoc", "text.html.javadoc", [], none⟩,
   ⟨"Java Properties", "source.java-props", ["properties"], none⟩,
   ⟨"JSON", "source.json",
     ["json", "sublime-settings", "sublime-menu", "sublime-keymap", "sublime-mousemap",
      "sublime-theme", "sublime-build", "sublime-project", "sublime-completions",
      "sublime-commands", "sublime-macro", "sublime-color-scheme"], none⟩,
   ⟨"JavaScript", "source.js", ["js", "htc"], some javaScriptLine⟩,
   ⟨"Regular Expressions (Javascript)", "source.regexp.js", [], none⟩,
   ⟨"BibTeX", "text.bibtex", ["bib"], none⟩,
   ⟨"LaTeX Log", "text.log.latex", [], some latexLogLine⟩,
   ⟨"LaTeX", "text.tex.latex", ["tex", "ltx"], none⟩,
   ⟨"TeX", "text.tex", ["sty", "cls"], none⟩,
   ⟨"Lisp", "source.lisp",
     ["lisp", "cl", "clisp", "l", "mud", "el", "scm", "ss", "lsp", "fasl"], none⟩,
   ⟨"Lua", "source.lua", ["lua"], none⟩,
   ⟨"Make Output", "source.build_output", [], none⟩,
   ⟨"Makefile", "source.makefile",
     ["make", "GNUmakefile", "makefile", "Makefile", "OCamlMakefile", "mak", "mk"],
     some makefileLine⟩,
   ⟨"Markdown", "text.html.markdown", ["md", "mdown", "markdown", "markdn"], none⟩,
   ⟨"MultiMarkdown", "text.html.markdown.multimarkdown", [], some multiMarkdownLine⟩,
   ⟨"MATLAB", "source.matlab", ["matlab"], none⟩,
   ⟨"OCaml", "source.ocaml", ["ml", "mli"], none⟩,
   ⟨"OCamllex", "source.ocamllex", ["mll"], none⟩,
   ⟨"OCamlyacc", "source.ocamlyacc", ["mly"], none⟩,
   ⟨"camlp4", "source.camlp4.ocaml", [], none⟩,
   ⟨"Objective-C++", "source.objc++", ["mm", "M", "h"], none⟩,
   ⟨"Objective-C", "source.objc", ["m", "h"], none⟩,
   ⟨"PHP Source", "source.php", [], none⟩,
   ⟨"PHP", "embedding.php",
     ["php", "php3", "php4", "php5", "php7", "phps", "phpt", "phtml"], some phpLine⟩,
   ⟨"Pascal", "source.pascal", ["pas", "p", "dpr"], none⟩,
   ⟨"Perl", "source.perl", ["pl", "pm", "pod", "t", "PL"], some perlLine⟩,
   ⟨"Python", "source.python",
     ["py", "py3", "pyw", "pyi", "pyx", "pyx.in", "pxd", "pxd.in", "pxi", "pxi.in", "rpy",
      "cpy", "SConstruct", "Sconstruct", "sconstruct", "SConscript", "gyp", "gypi",
      "Snakefile", "wscript"], some pythonLine⟩,
   ⟨"Regular Expressions (Python)", "source.regexp.python", [], none⟩,
   ⟨"R Console", "source.r-console", [], none⟩,
   ⟨"R", "source.r", ["R", "r", "s", "S", "Rprofile"], none⟩,
   ⟨"Rd (R Documentation)", "text.tex.latex.rd", ["rd"], none⟩,
   ⟨"HTML (Rails)", "text.html.ruby", ["rails", "rhtml", "erb", "html.erb"], none⟩,
   ⟨"JavaScript (Rails)", "source.js.rails", ["js.erb"], none⟩,
   ⟨"Ruby Haml", "text.haml", ["haml", "sass"], none⟩,
   ⟨"Ruby on Rails", "source.ruby.rails", ["rxml", "builder"], none⟩,
   ⟨"SQL (Rails)", "source.sql.ruby", ["erbsql", "sql.erb"], none⟩,
   ⟨"Regular Expression", "source.regexp", ["re"], none⟩,
   ⟨"reStructuredText", "text.restructuredtext", ["rst", "rest"], none⟩,
   ⟨"Ruby", "source.ruby",
     ["rb", "Appfile", "Appraisals", "Berksfile", "Brewfile", "capfile", "cgi", "Cheffile",
      "config.ru", "Deliverfile", "Fastfile", "fcgi", "Gemfile", "gemspec", "Guardfile",
      "irbrc", "jbuilder", "podspec", "prawn", "rabl", "rake", "Rakefile", "Rantfile", "rbx",
      "rjs", "ruby.rail", "Scanfile", "simplecov", "Snapfile", "thor", "Thorfile",
      "Vagrantfile"], some rubyLine⟩,
   ⟨"Cargo Build Results", "source.build_results", [], none⟩,
   ⟨"Rust", "source.rust", ["rs"], none⟩,
   ⟨"SQL", "source.sql", ["sql", "ddl", "dml"], none⟩,
   ⟨"Scala", "source.scala", ["scala", "sbt"], none⟩,
   ⟨"Bourne Again Shell (bash)", "source.shell.bash",
     ["sh", "bash", "zsh", "fish", ".bash_aliases", ".bash_completions", ".bash_functions",
      ".bash_login", ".bash_logout", ".bash_profile", ".bash_variables", ".bashrc", ".profile",
      ".textmate_init"], some shellLine⟩,
   ⟨"Shell-Unix-Generic", "source.shell", [], none⟩,
   ⟨"commands-builtin-shell-bash", "commands.builtin.shell.bash", [], none⟩,
   ⟨"HTML (Tcl)", "text.html.tcl", ["adp"], none⟩,
   ⟨"Tcl", "source.tcl", ["tcl"], none⟩,
   ⟨"Textile", "text.html.textile", ["textile"], some textileLine⟩,
   ⟨"XML", "text.xml",
     ["xml", "xsd", "xslt", "tld", "dtml", "rss", "opml", "svg"], some xmlLine⟩,
   ⟨"YAML", "source.yaml", ["yaml", "yml", "sublime-syntax"], some yamlLine⟩]

end MarkdownPreview.Highlight
