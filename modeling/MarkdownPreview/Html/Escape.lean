/-!
Escaping for HTML. Each kind of output has its own rules: which characters are written as a
character reference, and as which one. All other characters are written as they are.
-/

namespace MarkdownPreview.Html

/-- Characters that are written as references, each with its reference. -/
abbrev EscapeRules := List (Char × String)

/-- Text and attribute values of the fragment. -/
def textRules : EscapeRules :=
  [('&', "&amp;"), ('<', "&lt;"), ('>', "&gt;"), ('"', "&quot;"), ('\'', "&#x27;")]

/-- Values put into a template: the slash is written as a reference too. -/
def templateRules : EscapeRules := textRules ++ [('/', "&#x2f;")]

/-- Highlighted code: the apostrophe is written in decimal. -/
def codeRules : EscapeRules :=
  [('&', "&amp;"), ('<', "&lt;"), ('>', "&gt;"), ('"', "&quot;"), ('\'', "&#39;")]

def escapeChar (rules : EscapeRules) (c : Char) : List Char :=
  match rules.lookup c with
  | some reference => reference.toList
  | none => [c]

def escapeChars (rules : EscapeRules) (cs : List Char) : List Char :=
  cs.flatMap (escapeChar rules)

def escapeWith (rules : EscapeRules) (s : String) : String :=
  String.ofList (escapeChars rules s.toList)

/-- Escapes text for element content and for quoted attribute values. -/
def escape (s : String) : String := escapeWith textRules s

/-- What is found in a table is in it. -/
theorem mem_of_lookup_eq_some {α β : Type} [BEq α] [LawfulBEq α] {table : List (α × β)} {key : α}
    {value : β} (h : table.lookup key = some value) : (key, value) ∈ table := by
  obtain ⟨before, after, rfl, -⟩ := List.lookup_eq_some_iff.mp h
  exact List.mem_append_right before List.mem_cons_self

theorem escapeChars_append (rules : EscapeRules) (a b : List Char) :
    escapeChars rules (a ++ b) = escapeChars rules a ++ escapeChars rules b := by
  simp [escapeChars]

theorem escapeChars_cons (rules : EscapeRules) (c : Char) (cs : List Char) :
    escapeChars rules (c :: cs) = escapeChar rules c ++ escapeChars rules cs := by
  rw [escapeChars, List.flatMap_cons, ← escapeChars]

@[simp] theorem toList_escapeWith (rules : EscapeRules) (s : String) :
    (escapeWith rules s).toList = escapeChars rules s.toList := by
  simp [escapeWith]

theorem escapeWith_append (rules : EscapeRules) (s t : String) :
    escapeWith rules (s ++ t) = escapeWith rules s ++ escapeWith rules t := by
  rw [← String.toList_inj]
  simp [escapeChars_append]

theorem escape_append (s t : String) : escape (s ++ t) = escape s ++ escape t :=
  escapeWith_append textRules s t

end MarkdownPreview.Html
