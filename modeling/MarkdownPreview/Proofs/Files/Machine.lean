import Mathlib.Data.List.TakeDrop
import MarkdownPreview.Files.Machine
import MarkdownPreview.Proofs.Files.Tree
import MarkdownPreview.Proofs.Text.Utf8
import MarkdownPreview.Render.Transcript

/-!
Writing on a machine. Whatever a step of a writer does, it sends bytes to where the writer goes and
keeps others back, and nothing else. A step that does not fail loses nothing: what it has sent and
what is kept after it are what was kept before and what was written. Where no write fails, no step
does.
-/

namespace MarkdownPreview

theorem bytesOf_append (text more : String) :
    bytesOf (text ++ more) = bytesOf text ++ bytesOf more := by
  rw [bytesOf, bytesOf, bytesOf, Text.toList_toUTF8, Text.toList_toUTF8, Text.toList_toUTF8,
    String.toList_append, List.flatMap_append]

/-- Bytes are taken there, unless a write fails. -/
def Sink.Accepts (sink : Sink) : Prop := ∀ cause, sink ≠ .refused cause

namespace Machine

variable {s s' s'' : Machine} {sink : Sink} {bytes more : List UInt8}

/-- No write fails of those that lead from one machine to another. -/
def NoWriteFails (s s' : Machine) : Prop :=
  ∀ n, s.writes ≤ n → n < s'.writes → s.writeFault? n = none

/-! ### Putting bytes where they go -/

@[simp] theorem kept_put (sink : Sink) (bytes : List UInt8) (s : Machine) :
    (s.put sink bytes).kept = s.kept := by
  cases sink <;> rfl

@[simp] theorem writeFault?_put (sink : Sink) (bytes : List UInt8) (s : Machine) :
    (s.put sink bytes).writeFault? = s.writeFault? := by
  cases sink <;> rfl

theorem put_nil (sink : Sink) (s : Machine) : s.put sink [] = s := by
  cases sink with
  | file number => rw [put, FileTree.append_nil]
  | standardOutput => rw [put, List.append_nil]
  | nowhere => rfl
  | refused cause => rfl

theorem put_put_with (sink : Sink) (sent sent' kept : List UInt8) (writes : Nat) (s : Machine) :
    { s.put sink sent with kept, writes }.put sink sent' =
      { s.put sink (sent ++ sent') with kept, writes } := by
  cases sink with
  | file number => simp only [put, FileTree.append_append]
  | standardOutput => simp only [put, List.append_assoc]
  | nowhere => rfl
  | refused cause => rfl

/-! ### What a step may change, and what is not lost -/

/-- Bytes were sent, and bytes are kept back. All else is as it was. -/
def Passes (sink : Sink) (s s' : Machine) : Prop :=
  ∃ sent kept writes, s.writes ≤ writes ∧ s' = { s.put sink sent with kept, writes }

/-- Bytes were sent or are kept back that were kept before or are new, and none was lost. -/
def Accounts (sink : Sink) (bytes : List UInt8) (s s' : Machine) : Prop :=
  ∃ sent kept writes, s' = { s.put sink sent with kept, writes } ∧ sent ++ kept = s.kept ++ bytes

namespace Passes

theorem refl (sink : Sink) (s : Machine) : Passes sink s s :=
  ⟨[], s.kept, s.writes, Nat.le_refl _, by rw [put_nil]⟩

theorem trans (h : Passes sink s s') (h' : Passes sink s' s'') : Passes sink s s'' := by
  obtain ⟨sent, kept, writes, hwrites, rfl⟩ := h
  obtain ⟨sent', kept', writes', hwrites', rfl⟩ := h'
  exact ⟨sent ++ sent', kept', writes', Nat.le_trans hwrites hwrites', by rw [put_put_with]⟩

/-- If no write fails, none fails of the first ones. -/
theorem noWriteFails_left (h : Passes sink s' s'') (hall : s.NoWriteFails s'') :
    s.NoWriteFails s' := by
  obtain ⟨sent, kept, writes, hwrites, rfl⟩ := h
  exact fun n hn hn' => hall n hn (Nat.lt_of_lt_of_le hn' hwrites)

/-- If no write fails, none fails of the last ones. -/
theorem noWriteFails_right (h : Passes sink s s') (hall : s.NoWriteFails s'') :
    s'.NoWriteFails s'' := by
  obtain ⟨sent, kept, writes, hwrites, rfl⟩ := h
  intro n hn hn'
  exact (congrFun (writeFault?_put sink sent s) n).trans (hall n (Nat.le_trans hwrites hn) hn')

theorem exists_eq_put (h : Passes sink s s') (hs' : s'.kept = []) :
    ∃ sent writes, s' = { s.put sink sent with kept := [], writes } := by
  obtain ⟨sent, kept, writes, -, rfl⟩ := h
  obtain rfl : kept = [] := hs'
  exact ⟨sent, writes, rfl⟩

end Passes

namespace Accounts

theorem refl (sink : Sink) (s : Machine) : Accounts sink [] s s :=
  ⟨[], s.kept, s.writes, by rw [put_nil], by rw [List.append_nil, List.nil_append]⟩

theorem trans (h : Accounts sink bytes s s') (h' : Accounts sink more s' s'') :
    Accounts sink (bytes ++ more) s s'' := by
  obtain ⟨sent, kept, writes, rfl, hkept⟩ := h
  obtain ⟨sent', kept', writes', rfl, hkept'⟩ := h'
  refine ⟨sent ++ sent', kept', writes', by rw [put_put_with], ?_⟩
  have hmiddle : sent' ++ kept' = kept ++ more := hkept'
  rw [List.append_assoc, hmiddle, ← List.append_assoc, hkept, List.append_assoc]

/-- What nothing is kept of any more was sent. -/
theorem exists_eq_put (h : Accounts sink bytes s s') (hs : s.kept = []) (hs' : s'.kept = []) :
    ∃ writes, s' = { s.put sink bytes with kept := [], writes } := by
  obtain ⟨sent, kept, writes, rfl, hkept⟩ := h
  obtain rfl : kept = [] := hs'
  rw [List.append_nil, hs, List.nil_append] at hkept
  exact ⟨writes, by rw [hkept]⟩

end Accounts

/-- What a step gives that takes bytes in. -/
structure Takes (sink : Sink) (bytes : List UInt8) (s : Machine) (step : Option String × Machine) :
    Prop where
  passes : Passes sink s step.2
  accounts : step.1 = none → Accounts sink bytes s step.2
  succeeds : s.NoWriteFails step.2 → sink.Accepts → step.1 = none

namespace Takes

theorem nil (sink : Sink) (s : Machine) : Takes sink [] s (none, s) :=
  ⟨.refl sink s, fun _ => .refl sink s, fun _ _ => rfl⟩

theorem andThen {step : Option String × Machine} {next : Machine → Option String × Machine}
    (h : Takes sink bytes s step)
    (hnext : ∀ s', step = (none, s') → Takes sink more s' (next s')) :
    Takes sink (bytes ++ more) s (Stream.andThen step next) := by
  rcases step with ⟨_ | message, s'⟩
  case none =>
    have hnext := hnext s' rfl
    exact ⟨h.passes.trans hnext.passes, fun hnone => (h.accounts rfl).trans (hnext.accounts hnone),
      fun hall => hnext.succeeds (h.passes.noWriteFails_right hall)⟩
  case some => exact ⟨h.passes, nofun, h.succeeds⟩

end Takes

/-! ### Sending -/

/-- A write sends all of the bytes, or fails when it has sent some. -/
theorem send_cases (sink : Sink) (bytes : List UInt8) (s : Machine) :
    s.send sink bytes = (none, { s.put sink bytes with writes := s.writes + 1 }) ∨
      ∃ fault, ¬(s.writeFault? s.writes = none ∧ sink.Accepts) ∧ s.send sink bytes =
        (some fault, { s.put sink (bytes.take fault.taken) with writes := s.writes + 1 }) := by
  unfold send
  cases hfault : s.faultOf? sink bytes with
  | none => exact .inl rfl
  | some fault =>
    refine .inr ⟨fault, ?_, rfl⟩
    rintro ⟨hnone, haccepts⟩
    unfold faultOf? at hfault
    split at hfault
    case h_1 cause => exact haccepts cause rfl
    case h_2 =>
      rw [hnone, Option.filter_none] at hfault
      cases hfault

theorem takes_sendAll (hkept : s.kept = []) (sink : Sink) (bytes : List UInt8) :
    Takes sink bytes s (s.sendAll sink bytes) := by
  unfold sendAll
  rcases send_cases sink bytes s with hsend | ⟨fault, hfails, hsend⟩
  · rw [hsend]
    exact ⟨⟨bytes, _, _, Nat.le_succ _, rfl⟩, fun _ => ⟨bytes, _, _, rfl, by simp [hkept]⟩,
      fun _ _ => rfl⟩
  · rw [hsend]
    exact ⟨⟨_, _, _, Nat.le_succ _, rfl⟩, nofun, fun hall haccepts =>
      absurd ⟨hall _ (Nat.le_refl _) (Nat.lt_succ_self _), haccepts⟩ hfails⟩

theorem takes_sendKept (sink : Sink) (s : Machine) : Takes sink [] s (s.sendKept sink) := by
  unfold sendKept
  split
  case isTrue => exact .nil sink s
  case isFalse =>
    rcases send_cases sink s.kept s with hsend | ⟨fault, hfails, hsend⟩
    · rw [hsend]
      exact ⟨⟨s.kept, [], _, Nat.le_succ _, rfl⟩, fun _ => ⟨s.kept, [], _, rfl, rfl⟩,
        fun _ _ => rfl⟩
    · rw [hsend]
      exact ⟨⟨_, _, _, Nat.le_succ _, rfl⟩, nofun, fun hall haccepts =>
        absurd ⟨hall _ (Nat.le_refl _) (Nat.lt_succ_self _), haccepts⟩ hfails⟩

theorem sendKept_of_kept (hkept : s.kept = []) : s.sendKept sink = (none, s) := by
  rw [sendKept, hkept]
  rfl

theorem kept_sendKept (h : s.sendKept sink = (none, s')) : s'.kept = [] := by
  unfold sendKept at h
  split at h
  case isTrue hempty =>
    cases h
    exact List.isEmpty_iff.mp hempty
  case isFalse =>
    split at h <;> cases h
    rfl

/-! ### Keeping back -/

theorem takes_keep (sink : Sink) (blockSize : Nat) (bytes : List UInt8) (s : Machine) :
    Takes sink bytes s (s.keep sink blockSize bytes) := by
  unfold keep
  rw [← List.nil_append bytes]
  refine Takes.andThen ?_ fun s' hstep => ?_
  · split
    · exact takes_sendKept sink s
    · exact .nil sink s
  · rw [List.nil_append] at hstep ⊢
    split
    case isTrue hblock =>
      -- a full block is not sent before what was kept
      refine takes_sendAll ?_ sink bytes
      split at hstep
      case isTrue => exact kept_sendKept hstep
      case isFalse hroom =>
        cases hstep
        exact List.eq_nil_of_length_eq_zero (by omega)
    case isFalse =>
      have hput : { s' with kept := s'.kept ++ bytes } =
          { s'.put sink [] with kept := s'.kept ++ bytes, writes := s'.writes } := by
        rw [put_nil]
      exact ⟨⟨_, _, _, Nat.le_refl _, hput⟩, fun _ => ⟨_, _, _, hput, rfl⟩, fun _ _ => rfl⟩

theorem cutLines_append (bytes : List UInt8) : (cutLines bytes).1 ++ (cutLines bytes).2 = bytes := by
  rw [cutLines, List.span_eq_takeWhile_dropWhile, ← List.reverse_append,
    List.takeWhile_append_dropWhile, List.reverse_reverse]

theorem takes_keepLines (sink : Sink) (lineSize : Nat) (bytes : List UInt8) (s : Machine) :
    Takes sink bytes s (s.keepLines sink lineSize bytes) := by
  obtain ⟨lines, tail, hcut⟩ : ∃ lines tail, cutLines bytes = (lines, tail) := ⟨_, _, rfl⟩
  have hbytes : lines ++ tail = bytes := by
    rw [← cutLines_append bytes, hcut]
  rw [keepLines, hcut, ← hbytes]
  refine Takes.andThen ?_ fun s' _ => takes_keep sink lineSize tail s'
  split
  case isTrue hempty =>
    rw [List.isEmpty_iff.mp hempty]
    split
    · exact takes_sendKept sink s
    · exact .nil sink s
  case isFalse =>
    split
    case isTrue hkept => exact takes_sendAll (List.isEmpty_iff.mp hkept) sink lines
    case isFalse =>
      rw [← List.append_nil lines]
      refine Takes.andThen ?_ fun s' _ => takes_sendKept sink s'
      rw [List.append_nil]
      exact takes_keep sink lineSize lines s

/-! ### Streams -/

/-- A stream carries all that is written to it to one place. -/
structure Carries (stream : Stream Machine) (sink : Sink) : Prop where
  write : ∀ piece s, Takes sink (bytesOf piece) s (stream.write piece s)
  flush : ∀ s, Takes sink [] s (stream.flush s)
  kept : ∀ s s', stream.flush s = (none, s') → s'.kept = []
  idle : ∀ s, s.kept = [] → stream.flush s = (none, s)

theorem carries_blocks (sink : Sink) (blockSize : Nat) : Carries (blocks sink blockSize) sink where
  write piece := takes_keep sink blockSize (bytesOf piece)
  flush := takes_sendKept sink
  kept _ _ := kept_sendKept
  idle _ := sendKept_of_kept

theorem carries_lines (sink : Sink) (lineSize : Nat) : Carries (lines sink lineSize) sink where
  write piece := takes_keepLines sink lineSize (bytesOf piece)
  flush := takes_sendKept sink
  kept _ _ := kept_sendKept
  idle _ := sendKept_of_kept

/-- What a step gives that takes bytes in, but may lose some where a write fails. -/
structure Delivers (sink : Sink) (bytes : List UInt8) (s : Machine)
    (step : Option String × Machine) : Prop where
  passes : Passes sink s step.2
  whole : s.NoWriteFails step.2 → sink.Accepts → step.1 = none ∧ Accounts sink bytes s step.2

theorem Takes.delivers {step : Option String × Machine} (h : Takes sink bytes s step) :
    Delivers sink bytes s step :=
  ⟨h.passes, fun hall haccepts =>
    have hnone := h.succeeds hall haccepts
    ⟨hnone, h.accounts hnone⟩⟩

theorem Delivers.andThen {step : Option String × Machine}
    {next : Machine → Option String × Machine} (h : Delivers sink bytes s step)
    (hnext : ∀ s', Delivers sink more s' (next s')) :
    Delivers sink (bytes ++ more) s (Stream.andThen step next) := by
  rcases step with ⟨_ | message, s'⟩
  case none =>
    have hpasses := (hnext s').passes
    refine ⟨h.passes.trans hpasses, fun hall haccepts => ?_⟩
    obtain ⟨hnone, haccounts⟩ := (hnext s').whole (h.passes.noWriteFails_right hall) haccepts
    exact ⟨hnone, (h.whole (hpasses.noWriteFails_left hall) haccepts).2.trans haccounts⟩
  case some =>
    exact ⟨h.passes, fun hall haccepts =>
      absurd (h.whole hall haccepts).1 (Option.some_ne_none message)⟩

/-- Where nothing is kept back, what was sent is all that was taken in, if no write fails. -/
theorem Delivers.exists_eq_put {step : Option String × Machine} (h : Delivers sink bytes s step)
    (hs : s.kept = []) (hs' : step.2.kept = []) :
    ∃ sent, (∃ writes, step.2 = { s.put sink sent with kept := [], writes }) ∧
      (s.NoWriteFails step.2 ∧ sink.Accepts → sent = bytes) := by
  by_cases hall : s.NoWriteFails step.2 ∧ sink.Accepts
  · exact ⟨bytes, (h.whole hall.1 hall.2).2.exists_eq_put hs hs', fun _ => rfl⟩
  · obtain ⟨sent, hput⟩ := h.passes.exists_eq_put hs'
    exact ⟨sent, hput, fun hall' => absurd hall' hall⟩

namespace Carries

open Render (Entry)

variable {stream : Stream Machine}

theorem put (h : Carries stream sink) (piece : String) (s : Machine) :
    Takes sink (bytesOf piece) s (stream.put piece s) := by
  unfold Stream.put
  split
  case isTrue hempty =>
    rw [String.isEmpty_iff.mp hempty]
    exact .nil sink s
  case isFalse => exact h.write piece s

theorem putAll (h : Carries stream sink) (pieces : List String) (s : Machine) :
    Takes sink (bytesOf (String.join pieces)) s (stream.putAll pieces s) := by
  induction pieces generalizing s with
  | nil => exact .nil sink s
  | cons piece rest ih =>
    rw [String.join_cons, bytesOf_append]
    exact (h.put piece s).andThen fun s' _ => ih s'

/-- Nothing is kept back after what ends by flushing the stream and does not fail. -/
theorem kept_andThen (h : Carries stream sink) {step : Option String × Machine}
    (hnone : (Stream.andThen step stream.flush).1 = none) :
    (Stream.andThen step stream.flush).2.kept = [] := by
  rcases step with ⟨_ | message, s⟩
  case none => exact h.kept s _ (Prod.ext hnone rfl)
  case some => cases hnone

/-- A failure in what a hook writes is passed over, so bytes may be lost without a message. -/
theorem play (h : Carries stream sink) (entries : List Entry) (s : Machine) :
    Delivers sink (bytesOf (String.join (entries.map Entry.html))) s
      (Render.play stream entries s) := by
  induction entries generalizing s with
  | nil => exact (Takes.nil sink s).delivers
  | cons e rest ih =>
    have hput := h.putAll e.pieces s
    rw [List.map_cons, String.join_cons, bytesOf_append, Render.play]
    generalize stream.putAll e.pieces s = step at hput ⊢
    rcases step with ⟨_ | message, s'⟩
    case none =>
      cases e.taken <;> exact hput.delivers.andThen ih
    case some =>
      have hfails (hall : s.NoWriteFails s') (haccepts : sink.Accepts) : False :=
        Option.some_ne_none _ (hput.succeeds hall haccepts)
      cases e.taken with
      | false => exact ⟨hput.passes, fun hall haccepts => (hfails hall haccepts).elim⟩
      | true =>
        have hrest := (ih s').passes
        exact ⟨hput.passes.trans hrest, fun hall haccepts =>
          (hfails (hrest.noWriteFails_left hall) haccepts).elim⟩

theorem perform (h : Carries stream sink) (entries : List Entry) (s : Machine) :
    Delivers sink (bytesOf (String.join (entries.map Entry.html))) s
      (Render.perform stream entries s) := by
  rw [← List.append_nil (bytesOf _)]
  exact (h.play entries s).andThen fun s' => (h.flush s').delivers

end Carries

end Machine

end MarkdownPreview
