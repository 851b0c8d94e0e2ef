/-!
Tables over code points: sets given by ranges, and case mappings given by runs.
-/

namespace MarkdownPreview.Text

/-- Whether `n` lies in one of the ranges, ends included. -/
def inRanges (ranges : List (Nat × Nat)) (n : Nat) : Bool :=
  ranges.any fun range => range.1 ≤ n && n ≤ range.2

/-- Every `step`-th code point from `first` to `last`, mapped to the one as far from `image`. -/
structure CaseRun where
  first : Nat
  last : Nat
  step : Nat
  image : Nat

def CaseRun.covers (run : CaseRun) (n : Nat) : Bool :=
  run.first ≤ n && n ≤ run.last && (n - run.first) % run.step == 0

/-- The image of `n` under the first run that covers it; `n` itself if none does. -/
def CaseRun.apply (runs : List CaseRun) (n : Nat) : Nat :=
  match runs.find? (·.covers n) with
  | some run => n - run.first + run.image
  | none => n

end MarkdownPreview.Text
