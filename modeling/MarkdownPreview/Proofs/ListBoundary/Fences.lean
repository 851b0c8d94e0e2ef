import Mathlib.Algebra.Group.Nat.Even
import Mathlib.Algebra.Ring.Parity
import Mathlib.Data.List.TakeWhile
import Mathlib.Order.BooleanAlgebra.Basic
import MarkdownPreview.Proofs.ListBoundary.Boundaries

/-!
Fenced code as markdown has it, beside the fence lines that list boundaries count. A fence of
markdown is closed by its own mark only, in a run that is long enough; a fence line turns the state
over whatever was opened. Every line that opens or closes a fence of markdown is a fence line, so
the two views differ by the fence lines that do neither.
-/

namespace MarkdownPreview

open Text ListBoundary

/-- An open fence of markdown: its mark, and how often the mark stands there. -/
structure Fence where
  mark : Char
  length : Nat
  deriving DecidableEq, Repr

namespace Fence

/-- A line without the carriage return that belongs to its end. -/
def withoutReturn (line : Line) : Line :=
  if line.getLast? = some '\r' then line.dropLast else line

/-- Three or more backticks or tildes after at most three spaces, and what follows them. -/
def run? (line : Line) : Option (Fence × List Char) :=
  let spaces := (withoutReturn line).takeWhile (· == ' ')
  let rest := (withoutReturn line).dropWhile (· == ' ')
  let mark := rest.headD ' '
  let marks := rest.takeWhile (· == mark)
  if spaces.length ≤ 3 ∧ mark ∈ ['`', '~'] ∧ 3 ≤ marks.length then
    some (⟨mark, marks.length⟩, rest.dropWhile (· == mark))
  else none

/-- The fence that a line opens. After backticks there may be no further one. -/
def opening? (line : Line) : Option Fence :=
  match run? line with
  | some (fence, info) => if fence.mark = '`' ∧ '`' ∈ info then none else some fence
  | none => none

/-- Whether a line closes a fence: as many of its marks or more, with nothing but spaces and tabs
after them. -/
def isClosedBy (fence : Fence) (line : Line) : Bool :=
  match run? line with
  | some (marks, rest) =>
    marks.mark == fence.mark && fence.length ≤ marks.length && rest.all (· ∈ [' ', '\t'])
  | none => false

/-- The fence that is open after a line. -/
def next (fence : Option Fence) (line : Line) : Option Fence :=
  match fence with
  | none => opening? line
  | some fence => if fence.isClosedBy line then none else some fence

/-- The fence that is open after some lines of a text. -/
def openAfter (lines : List Line) : Option Fence := lines.foldl next none

/-- A fence line that neither opens nor closes a fence of markdown. -/
def isStray (fence : Option Fence) (line : Line) : Bool :=
  isFenceLine line && (next fence line).isSome == fence.isSome

/-- The number of stray fence lines. -/
def strays (fence : Option Fence) : List Line → Nat
  | [] => 0
  | line :: rest => (if isStray fence line then 1 else 0) + strays (next fence line) rest

/-! ### Lines of a fence are fence lines -/

theorem prefix_withoutReturn (line : Line) : withoutReturn line <+: line := by
  unfold withoutReturn
  split
  · exact List.dropLast_prefix line
  · exact List.prefix_rfl

/-- Marks that only white space comes before are at the beginning of the trimmed text. -/
theorem prefix_trim {spaces cs : List Char} {mark : Char} (n : Nat)
    (hspaces : ∀ c ∈ spaces, isWhiteSpace c = true) (hmark : isWhiteSpace mark = false)
    (h : spaces ++ List.replicate (n + 1) mark <+: cs) :
    List.replicate (n + 1) mark <+: trim cs := by
  obtain ⟨rest, rfl⟩ := h
  have hstart : trimStart (spaces ++ List.replicate (n + 1) mark ++ rest) =
      List.replicate (n + 1) mark ++ rest := by
    rw [trimStart, List.append_assoc, List.dropWhile_append_of_pos hspaces, List.replicate_succ,
      List.cons_append, List.dropWhile_cons_of_neg (by simp [hmark])]
  rw [trim, hstart, trimEnd, List.reverse_append, List.dropWhile_append]
  split
  · simp [hmark]
  · rw [List.reverse_append, List.reverse_reverse]
    exact List.prefix_append _ _

theorem takeWhile_beq_eq_replicate (cs : List Char) (c : Char) :
    cs.takeWhile (· == c) = List.replicate (cs.takeWhile (· == c)).length c := by
  rw [List.eq_replicate_iff]
  exact ⟨rfl, fun d hd => by simpa using List.mem_takeWhile_imp hd⟩

theorem isFenceLine_of_run? {line : Line} {found : Fence × List Char}
    (h : run? line = some found) : isFenceLine line = true := by
  simp only [run?, Option.ite_none_right_eq_some] at h
  obtain ⟨⟨-, hmark, hlength⟩, -⟩ := h
  have hsplit : (withoutReturn line).takeWhile (· == ' ') ++
      (withoutReturn line).dropWhile (· == ' ') = withoutReturn line :=
    List.takeWhile_append_dropWhile
  have hspaces : ∀ c ∈ (withoutReturn line).takeWhile (· == ' '), isWhiteSpace c = true := by
    intro c hc
    have hspace : c = ' ' := by simpa using List.mem_takeWhile_imp hc
    rw [hspace]
    rfl
  generalize (withoutReturn line).takeWhile (· == ' ') = spaces at hsplit hspaces
  generalize (withoutReturn line).dropWhile (· == ' ') = rest at hmark hlength hsplit
  generalize rest.headD ' ' = mark at hmark hlength
  have hmarks : List.replicate 3 mark <+: rest := by
    obtain ⟨more, hmore⟩ := Nat.exists_eq_add_of_le hlength
    refine .trans ?_ (List.takeWhile_prefix (· == mark))
    rw [takeWhile_beq_eq_replicate, hmore, ← List.replicate_append_replicate]
    exact List.prefix_append _ _
  have hline : spaces ++ List.replicate 3 mark <+: line := by
    refine .trans ?_ (prefix_withoutReturn line)
    rw [← hsplit]
    exact (List.prefix_append_right_inj spaces).mpr hmarks
  rw [isFenceLine_iff]
  rcases List.mem_cons.mp hmark with rfl | hmark
  · exact ⟨"```", .head _, prefix_trim 2 hspaces rfl hline⟩
  · obtain rfl := List.mem_singleton.mp hmark
    exact ⟨"~~~", .tail _ (.head _), prefix_trim 2 hspaces rfl hline⟩

/-- A line that opens or closes a fence is a fence line. -/
theorem isSome_next_of_not_isFenceLine (fence : Option Fence) {line : Line}
    (h : isFenceLine line = false) : (next fence line).isSome = fence.isSome := by
  cases hrun : run? line with
  | some found =>
    rw [isFenceLine_of_run? hrun] at h
    cases h
  | none => cases fence <;> simp [next, opening?, isClosedBy, hrun]

/-! ### The two views side by side -/

/-- A line and both views. Only a stray fence line turns over one of them alone. -/
theorem turned_eq (fence : Option Fence) (line : Line) (n : Nat) :
    (if isFenceLine line then !not^[n] fence.isSome else not^[n] fence.isSome) =
      not^[n + if isStray fence line then 1 else 0] (next fence line).isSome := by
  unfold isStray
  cases hline : isFenceLine line with
  | false => rw [isSome_next_of_not_isFenceLine fence hline]; rfl
  | true =>
    cases hbefore : fence.isSome <;> cases hafter : (next fence line).isSome <;>
      simp [← Function.iterate_succ_apply' not, Function.iterate_succ_apply not]

theorem fenceAfter_cons (inFence : Bool) (line : Line) (rest : List Line) :
    fenceAfter inFence (line :: rest) =
      fenceAfter (if isFenceLine line then !inFence else inFence) rest := by
  unfold fenceAfter
  cases h : isFenceLine line <;> simp [h]

theorem fenceAfter_eq (fence : Option Fence) (n : Nat) (lines : List Line) :
    fenceAfter (not^[n] fence.isSome) lines =
      not^[n + strays fence lines] (lines.foldl next fence).isSome := by
  induction lines generalizing fence n with
  | nil => rfl
  | cons line rest ih =>
    rw [fenceAfter_cons, turned_eq, ih, List.foldl_cons, strays, Nat.add_assoc]

/-- From a text's beginning on, the two views agree after an even number of stray lines. -/
theorem fenceAfter_false_eq (lines : List Line) :
    fenceAfter false lines = not^[strays none lines] (openAfter lines).isSome := by
  have h := fenceAfter_eq none 0 lines
  rw [Nat.zero_add] at h
  exact h

end Fence

namespace ListBoundary

open Fence

theorem iterate_not_true_eq_false_iff (n : Nat) : not^[n] true = false ↔ Odd n := by
  rcases Nat.even_or_odd n with heven | hodd
  · simp [Bool.involutive_not.iterate_even heven, heven]
  · simp [Bool.involutive_not.iterate_odd hodd, hodd]

/-- In a fence of markdown, only an odd number of stray fence lines makes a boundary. -/
theorem boundaryAt_iff_of_openAfter {lines : List Line} {i : Nat}
    (h : (openAfter (lines.take i)).isSome = true) :
    BoundaryAt false lines i ↔ Odd (strays none (lines.take i)) ∧
      (∀ mark ∈ fenceMarks, ¬mark.toList <+: trim (lines.getD i [])) ∧
      trim (lines.getD (i - 1) []) ≠ [] ∧
      ListStart.startsList (trim (lines.getD (i - 1) [])) = false ∧
      ListStart.startsList (trim (lines.getD i [])) = true := by
  have houtside : fenceAfter false (lines.take i) = false ↔ Odd (strays none (lines.take i)) := by
    rw [fenceAfter_false_eq, h, iterate_not_true_eq_false_iff]
  have hpos : 0 < i := by
    rw [Nat.pos_iff_ne_zero]
    rintro rfl
    cases h
  constructor
  · rintro ⟨-, hmark, hclosed, htext, hbefore, hlist⟩
    exact ⟨houtside.mp hclosed, hmark, htext, hbefore, hlist⟩
  · rintro ⟨hodd, hmark, htext, hbefore, hlist⟩
    exact ⟨hpos, hmark, houtside.mpr hodd, htext, hbefore, hlist⟩

theorem splitAt_normalize (text : String) :
    splitAt '\n' (normalize text).toList = withBlanks false (splitAt '\n' text.toList) := by
  have hlines := separateLines_eq {} (splitAt '\n' text.toList)
  have htext : normalize text =
      String.ofList (joinWith '\n' (withBlanks false (splitAt '\n' text.toList))) :=
    congrArg (fun r : List Line × ListBoundary => String.ofList (joinWith '\n' r.1)) hlines
  rw [htext, String.toList_ofList, splitAt_withBlanks]

/-- Before a line that is in a fence of markdown a blank line is put if and only if an odd number
of stray fence lines comes before it, and the line, itself no fence line, starts a list right after
a line of text that starts none. So there is no such line in a text all of whose fence lines open
or close a fence of markdown. -/
theorem blank_in_fence_iff (text : String) :
    let lines := splitAt '\n' text.toList
    splitAt '\n' (normalize text).toList =
        lines.zipIdx.flatMap (fun (line, i) =>
          if BoundaryAt false lines i then [[], line] else [line]) ∧
      (∀ i < lines.length, (openAfter (lines.take i)).isSome = true →
        (BoundaryAt false lines i ↔ Odd (strays none (lines.take i)) ∧
          (∀ mark ∈ fenceMarks, ¬mark.toList <+: trim (lines.getD i [])) ∧
          trim (lines.getD (i - 1) []) ≠ [] ∧
          ListStart.startsList (trim (lines.getD (i - 1) [])) = false ∧
          ListStart.startsList (trim (lines.getD i [])) = true)) :=
  ⟨splitAt_normalize text, fun _ _ h => boundaryAt_iff_of_openAfter h⟩

/-- Code that shows a fence, in a longer one. The first line of the shown fence is stray: the code
goes on, but a list boundary is seen in it. -/
theorem blank_in_shown_fence :
    let lines := splitAt '\n' "````\n```\nText\n- item\n````".toList
    (openAfter (lines.take 3)).isSome = true ∧ strays none (lines.take 3) = 1 ∧
      BoundaryAt false lines 3 := by
  intro lines
  have hopen : (openAfter (lines.take 3)).isSome = true := by decide +kernel
  have hiff := (blank_in_fence_iff "````\n```\nText\n- item\n````").2 3 (by decide +kernel) hopen
  exact ⟨hopen, by decide +kernel, hiff.mpr (by decide +kernel)⟩

theorem not_forall_not_boundaryAt_in_fence :
    normalize "````\n```\nText\n- item\n````" = "````\n```\nText\n\n- item\n````" ∧
    ¬∀ text : String, let lines := splitAt '\n' text.toList
      ∀ i < lines.length, (openAfter (lines.take i)).isSome = true → ¬BoundaryAt false lines i := by
  refine ⟨by decide +kernel, fun h => ?_⟩
  exact h "````\n```\nText\n- item\n````" 3 (by decide +kernel) (by decide +kernel)
    (by decide +kernel)

end ListBoundary

end MarkdownPreview
