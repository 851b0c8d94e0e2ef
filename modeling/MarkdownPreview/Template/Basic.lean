import MarkdownPreview.Html.Escape
import MarkdownPreview.Text.Quoted

/-!
Templates: fixed text with named slots. Values are put into the slots in one pass, so nothing
inside a value is ever read as a slot.
-/

namespace MarkdownPreview

inductive Template.Part
  | text (s : String)
  | slot (name : String)
  deriving DecidableEq, Repr, Inhabited

abbrev Template := List Template.Part

namespace Template

/-- A value for a slot. Markup is put in as it is; all else is printed and escaped. -/
inductive Value
  | string (s : String)
  | markup (s : String)
  | integer (n : Int)
  | boolean (b : Bool)
  | nothing
  deriving DecidableEq, Repr, Inhabited

def Value.print : Value → String
  | string s => Html.escapeWith Html.templateRules s
  | markup s => s
  | integer n => toString n
  | boolean b => if b then "True" else "False"
  | nothing => "None"

abbrev Context := List (String × Value)

/-- A slot without a value stays empty. -/
def Part.fill (context : Context) : Part → String
  | text s => s
  | slot name => ((context.lookup name).map Value.print).getD ""

def fill (template : Template) (context : Context) : String :=
  String.join (template.map (Part.fill context))

/-- There is no template of that name. -/
structure MissingTemplate where
  name : String
  deriving DecidableEq, Repr

def MissingTemplate.message (e : MissingTemplate) : String :=
  "template '" ++ e.name ++ "' failed: template not found: template " ++ Text.quote e.name ++
    " does not exist"

end Template

end MarkdownPreview
