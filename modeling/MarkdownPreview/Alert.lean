/-!
Alerts: block quotes that open with a token such as `[!NOTE]`.
-/

namespace MarkdownPreview

inductive Alert
  | note | tip | important | warning | caution | quote
  deriving DecidableEq, Repr, Inhabited

namespace Alert

def all : List Alert := [.note, .tip, .important, .warning, .caution, .quote]

/-- The word inside the token. -/
def keyword : Alert → String
  | note => "NOTE"
  | tip => "TIP"
  | important => "IMPORTANT"
  | warning => "WARNING"
  | caution => "CAUTION"
  | quote => "BLOCKQUOTE"

/-- The name in class names and template names. -/
def name : Alert → String
  | note => "note"
  | tip => "tip"
  | important => "important"
  | warning => "warning"
  | caution => "caution"
  | quote => "blockquote"

/-- The title in the alert's header. -/
def title : Alert → String
  | note => "Note"
  | tip => "Tip"
  | important => "Important"
  | warning => "Warning"
  | caution => "Caution"
  | quote => "Quote"

def templateName (alert : Alert) : String := "alert/" ++ alert.name ++ ".html"

/-- What is written where the paragraph of an alert ends. -/
def closing : String := "</p></div>"

def ofKeyword? (word : List Char) : Option Alert :=
  all.find? fun alert => alert.keyword.toList == word

/-- The alert whose token opens a text, with the rest of the text. The token's word ends at the
first closing bracket. -/
def parseChars? : List Char → Option (Alert × List Char)
  | '[' :: '!' :: rest =>
    match rest.dropWhile (· != ']') with
    | _ :: after => (ofKeyword? (rest.takeWhile (· != ']'))).map (·, after)
    | [] => none
  | _ => none

def parse? (text : String) : Option (Alert × String) :=
  (parseChars? text.toList).map fun (alert, rest) => (alert, String.ofList rest)

end Alert

end MarkdownPreview
