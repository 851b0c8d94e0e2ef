import MarkdownPreview.Slug

/-!
Identifiers of headings. The first heading with a slug gets the slug; the `n`-th one after it gets
the slug followed by a dash and `n`.
-/

namespace MarkdownPreview

/-- How often each slug was used. -/
structure HeadingIds where
  counts : List (String × Nat) := []
  deriving DecidableEq, Repr, Inhabited

namespace HeadingIds

def count (ids : HeadingIds) (slug : String) : Nat := (ids.counts.lookup slug).getD 0

/-- Counts one more use of a slug. -/
def bump (ids : HeadingIds) (slug : String) : HeadingIds :=
  if ids.counts.any (·.1 == slug) then
    ⟨ids.counts.map fun (s, n) => if s == slug then (s, n + 1) else (s, n)⟩
  else ⟨ids.counts ++ [(slug, 1)]⟩

/-- The identifier that goes with a slug used `n` times before. -/
def identifier (slug : String) : Nat → String
  | 0 => slug
  | n => slug ++ "-" ++ toString n

/-- The identifier for a heading's text, and the counts after it. -/
def assign (ids : HeadingIds) (text : String) : String × HeadingIds :=
  let slug := Slug.slugify text
  (identifier slug (ids.count slug), ids.bump slug)

end HeadingIds

end MarkdownPreview
