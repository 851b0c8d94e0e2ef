import MarkdownPreview.Document.Basic
import MarkdownPreview.Html.Escape
import MarkdownPreview.Render.HeadingIds
import MarkdownPreview.Text.WhiteSpace

/-!
The default markup of each element: what is written when a node is entered, and what is written
when it is left.
-/

namespace MarkdownPreview.Render

open Html (escape)

/-- Whether the walk goes on to a node's children. -/
inductive Descent
  | children | skip
  deriving DecidableEq, Repr, Inhabited

/-- An opening or a closing tag. -/
def bareTag (name : String) (entering : Bool) : String :=
  if entering then "<" ++ name ++ ">" else "</" ++ name ++ ">"

/-- An attribute with its value; none if the value is empty. -/
def attr (name value : String) : String :=
  if value.isEmpty then "" else " " ++ name ++ "=\"" ++ escape value ++ "\""

/-- The language of a code block: the first word of its information string. -/
def language? (info : Option String) : Option String :=
  info.bind fun info => (Text.firstWord? info.toList).map String.ofList

def codeOpening (language : Option String) : String :=
  match language with
  | some language => "<pre><code class=\"language-" ++ escape language ++ "\">"
  | none => "<pre><code>"

def alignmentStyle : Alignment → String
  | .none => ""
  | .left => " style=\"text-align:left\""
  | .center => " style=\"text-align:center\""
  | .right => " style=\"text-align:right\""

/-- The style of a table cell, from the table's alignment for the cell's column. -/
def cellStyle (doc : Document) (i : Nat) : String :=
  match (doc.parent? i).bind doc.parent? with
  | some table =>
    match doc.element table with
    | .table alignments => alignmentStyle (alignments.getD (doc.indexInParent i) .none)
    | _ => ""
  | none => ""

def cellTag (doc : Document) (i : Nat) : String :=
  match doc.parent? i with
  | some row => if doc.element row = .tableHead then "th" else "td"
  | none => "td"

/-- The pieces written for an element other than a heading. -/
def pieces (doc : Document) (i : Nat) (entering : Bool) : Element → List String
  | .document | .group | .metadata | .heading .. => []
  | .paragraph tight => if tight then [] else if entering then ["<p>"] else ["</p>\n"]
  | .blockQuote => if entering then ["<blockquote>\n"] else ["</blockquote>\n"]
  | .codeBlock info literal => [codeOpening (language? info), escape literal, "</code></pre>\n"]
  | .htmlBlock literal | .html literal => [literal]
  | .list none => if entering then ["<ul>\n"] else ["</ul>\n"]
  | .list (some start) =>
    if !entering then ["</ol>\n"]
    else if start = 1 then ["<ol>\n"]
    else ["<ol start=\"" ++ toString start ++ "\">\n"]
  | .item => if entering then ["<li>"] else ["</li>\n"]
  | .table _ => if entering then ["<table>\n"] else ["</tbody>\n</table>\n"]
  | .tableHead => if entering then ["<thead>\n<tr>"] else ["</tr>\n</thead>\n<tbody>\n"]
  | .tableRow => if entering then ["<tr>"] else ["</tr>\n"]
  | .tableCell =>
    if entering then ["<" ++ cellTag doc i ++ cellStyle doc i ++ ">"]
    else ["</" ++ cellTag doc i ++ ">"]
  | .emphasis => [bareTag "em" entering]
  | .strong => [bareTag "strong" entering]
  | .strikethrough => [bareTag "del" entering]
  | .link url title =>
    if entering then ["<a href=\"" ++ escape url ++ "\"" ++ attr "title" title ++ ">"]
    else ["</a>"]
  | .image url title =>
    if entering then
      ["<img src=\"" ++ escape url ++ "\" alt=\"" ++ escape (doc.plainText i) ++ "\"" ++
        attr "title" title ++ ">"]
    else []
  | .footnoteDefinition label =>
    if entering then
      ["<div class=\"footnote-definition\" id=\"fn-" ++ escape label ++
        "\"><sup class=\"footnote-definition-label\">" ++ escape label ++ "</sup>"]
    else ["</div>\n"]
  | .footnoteReference label =>
    ["<sup class=\"footnote-reference\"><a href=\"#fn-" ++ escape label ++ "\">" ++
      escape label ++ "</a></sup>"]
  | .text literal => [escape literal]
  | .code literal => ["<code>" ++ escape literal ++ "</code>"]
  | .math display literal =>
    if display then ["<span class=\"math display\">\\[" ++ escape literal ++ "\\]</span>"]
    else ["<span class=\"math inline\">\\(" ++ escape literal ++ "\\)</span>"]
  | .softBreak => ["\n"]
  | .hardBreak => ["<br>\n"]
  | .rule => ["<hr>\n"]

/-- An image stands for all below it; its text is the alternative text. -/
def descent (entering : Bool) : Element → Descent
  | .image .. => if entering then .skip else .children
  | _ => .children

/-- What is written for a visit to a node, and the heading counts after it. A heading without an
identifier of its own is assigned one when it is entered. -/
def markup (doc : Document) (i : Nat) (entering : Bool) (ids : HeadingIds) :
    List String × HeadingIds :=
  match doc.element i with
  | .heading level id classes =>
    if entering then
      let (id, ids) := match id with
        | some id => (id, ids)
        | none => ids.assign (doc.plainText i)
      (["<h" ++ toString level ++ attr "id" id ++ classAttribute classes ++ ">"], ids)
    else (["</h" ++ toString level ++ ">\n"], ids)
  | e => (pieces doc i entering e, ids)
where
  /-- Written if there are classes, whatever they are. -/
  classAttribute (classes : List String) : String :=
    if classes.isEmpty then "" else " class=\"" ++ escape (" ".intercalate classes) ++ "\""

end MarkdownPreview.Render
