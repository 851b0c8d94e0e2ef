import MarkdownPreview.Highlight.Language
import MarkdownPreview.Html.Escape

/-!
Choosing a language for a piece of code, and writing the code in it.
-/

namespace MarkdownPreview.Highlight

/-- Equality without regard to the case of ASCII letters. -/
def eqAnyCase (a b : String) : Bool := a.toLower == b.toLower

/-- The last language that satisfies a test. -/
def findLast? (table : List Language) (test : Language → Bool) : Option Language :=
  table.reverse.find? test

/-- The language that a file extension names, or else the one of that name, in any case. -/
def byToken? (table : List Language) (token : String) : Option Language :=
  (findLast? table (·.extensions.any (eqAnyCase token))).or
    (findLast? table (eqAnyCase token ·.name))

/-- The language of exactly that name. -/
def byName? (table : List Language) (name : String) : Option Language :=
  findLast? table (·.name == name)

/-- A byte order mark does not count as part of a line. -/
def dropMark : List Char → List Char
  | c :: rest => if c.toNat = 0xFEFF then rest else c :: rest
  | [] => []

def byFirstLine? (table : List Language) (line : List Char) : Option Language :=
  let line := dropMark line
  findLast? table (·.firstLine.any (·.occursIn line))

/-- The first line, without its end; nothing if there is no line at all. -/
def firstLine? (content : List Char) : Option (List Char) :=
  if content.isEmpty then none
  else
    let line := content.takeWhile (· != '\n')
    if line.length < content.length && line.getLast? == some '\r' then some line.dropLast
    else some line

def get? (table : List Language) (language : String) : Option Language :=
  (byToken? table language).or (byName? table language)

def analyse? (table : List Language) (content : String) : Option Language :=
  (firstLine? content.toList).bind (byFirstLine? table)

/-- The language of text that is in none of the others. -/
def plainText (table : List Language) : Language :=
  (byName? table "Plain Text").getD ⟨"Plain Text", "text.plain", ["txt"], none⟩

/-- The language of a code block: the declared one, or else the one that the code itself shows;
plain text if there is none. -/
def resolve (table : List Language) (language : Option String) (content : String) : Language :=
  (match language with
    | some language => get? table language
    | none => analyse? table content).getD (plainText table)

/-- A scope as a list of classes. -/
def classes (scope : String) : String := scope.map fun c => if c = '.' then ' ' else c

/-- The lines of a text, each with the line feed that ends it; the last one may have none. -/
def lines : List Char → List (List Char)
  | [] => []
  | c :: cs =>
    if c = '\n' then [c] :: lines cs
    else match lines cs with
      | line :: rest => (c :: line) :: rest
      | [] => [[c]]

def codeLines (content : String) : List String := (lines content.toList).map String.ofList

/-- What writes code of a language as markup, a line at a time. It may fail at a line. -/
structure LineWriter (σ : Type) where
  start : Language → σ
  line : String → σ → Option σ
  finish : σ → String

/-- The markup of some lines of code; nothing if the writer fails. -/
def LineWriter.write? {σ : Type} (writer : LineWriter σ) (language : Language)
    (code : List String) : Option String :=
  (code.foldlM (fun s line => writer.line line s) (writer.start language)).map writer.finish

/-- Writes code as markup; nothing if it cannot. -/
abbrev Highlighter := Option String → String → Option String

/-- The highlighter for the languages of a table that writes code line by line. -/
def highlightWith {σ : Type} (writer : LineWriter σ) (table : List Language) : Highlighter :=
  fun language content => writer.write? (resolve table language content) (codeLines content)

/-- Markup of a language, with the number of elements that are still open. -/
structure Spans where
  scope : String
  html : String := ""
  openSpans : Nat := 0
  deriving DecidableEq, Repr

def Spans.opening (s : Spans) : String :=
  if s.openSpans = 0 then "<span class=\"" ++ classes s.scope ++ "\">" else ""

/-- Puts all code into one element, which is opened with the first line. -/
def oneSpan : LineWriter Spans where
  start language := { scope := language.scope }
  line line s :=
    some ⟨s.scope, s.html ++ (s.opening ++ Html.escapeWith Html.codeRules line), 1⟩
  finish s := s.html ++ String.join (List.replicate s.openSpans "</span>")

/-- The highlighter for the languages of the table. -/
def highlighter : Highlighter := highlightWith oneSpan languages

/-- Code as markup. No line of it fails. -/
def highlight (table : List Language) (language : Option String) (content : String) : String :=
  (highlightWith oneSpan table language content).getD ""

/-! ### Lines -/

theorem flatten_lines (cs : List Char) : (lines cs).flatten = cs := by
  fun_induction lines cs with
  | case1 => rfl
  | case2 cs ih => rw [List.flatten_cons, ih, List.singleton_append]
  | case3 c cs _ line rest hlines ih =>
    rw [hlines, List.flatten_cons] at ih
    rw [List.flatten_cons, List.cons_append, ih]
  | case4 c cs _ hlines ih =>
    rw [hlines] at ih
    rw [← ih]
    rfl

/-- No character of the code is lost between its lines. -/
theorem join_codeLines (content : String) : String.join (codeLines content) = content := by
  rw [← String.toList_inj, String.toList_join, codeLines, List.flatMap_map]
  simp only [String.toList_ofList]
  rw [List.flatMap_id', flatten_lines]

/-! ### One element for all code -/

/-- Lines of code in one element; nothing if there are none. -/
def spanned (names : String) (code : List String) : String :=
  if code = [] then ""
  else "<span class=\"" ++ names ++ "\">" ++ Html.escapeWith Html.codeRules (String.join code) ++
    "</span>"

theorem foldlM_oneSpan (scope html : String) (code : List String) :
    code.foldlM (fun s line => oneSpan.line line s) ⟨scope, html, 1⟩ =
      some ⟨scope, html ++ Html.escapeWith Html.codeRules (String.join code), 1⟩ := by
  induction code generalizing html with
  | nil =>
    rw [String.join_nil]
    exact congrArg (fun s => some (Spans.mk scope s 1)) String.append_empty.symm
  | cons line code ih =>
    have hline : oneSpan.line line ⟨scope, html, 1⟩ =
        some ⟨scope, html ++ Html.escapeWith Html.codeRules line, 1⟩ := by
      simp [oneSpan, Spans.opening]
    rw [List.foldlM_cons, hline, String.join_cons, Html.escapeWith_append, ← String.append_assoc]
    exact ih _

theorem write?_oneSpan (language : Language) (code : List String) :
    oneSpan.write? language code = some (spanned (classes language.scope) code) := by
  unfold LineWriter.write? spanned
  cases code with
  | nil => rfl
  | cons line code =>
    have hfirst : oneSpan.line line (oneSpan.start language) = some ⟨language.scope,
        "<span class=\"" ++ classes language.scope ++ "\">" ++
          Html.escapeWith Html.codeRules line, 1⟩ := by
      simp [oneSpan, Spans.opening]
    rw [List.foldlM_cons, hfirst, Option.bind_eq_bind, Option.bind_some, foldlM_oneSpan,
      Option.map_some, if_neg (List.cons_ne_nil _ _), String.join_cons, Html.escapeWith_append]
    simp [oneSpan, String.append_assoc]

theorem highlighter_apply (language : Option String) (content : String) :
    highlighter language content =
      some (spanned (classes (resolve languages language content).scope) (codeLines content)) :=
  write?_oneSpan _ _

end MarkdownPreview.Highlight
