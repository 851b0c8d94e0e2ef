import MarkdownPreview.Preview
import MarkdownPreview.Proofs.Render.Transcript
import MarkdownPreview.Stream.Channel

/-!
Channels that are full. A full channel stays full, so what it has received is a beginning of what
was written, whether or not the writer noticed. A document does notice, if there is default markup
left to write; what the hook writes is lost without notice.
-/

namespace MarkdownPreview

theorem extract_of_size_le {bytes : ByteArray} {n : Nat} (h : bytes.size ≤ n) :
    bytes.extract 0 n = bytes := by
  have hall := @ByteArray.extract_zero_max_size bytes n
  rwa [Nat.max_eq_left h] at hall

theorem extract_min_size (bytes : ByteArray) (n : Nat) :
    bytes.extract 0 (min n bytes.size) = bytes.extract 0 n := by
  rcases Nat.le_total n bytes.size with hle | hle
  · rw [Nat.min_eq_left hle]
  · rw [Nat.min_eq_right hle, ByteArray.extract_zero_size, extract_of_size_le hle]

namespace Channel

/-- Whether there is room for all of the bytes. -/
def Takes (c : Channel) (bytes : ByteArray) : Prop := ∀ room ∈ c.room, bytes.size ≤ room

instance (c : Channel) (bytes : ByteArray) : Decidable (c.Takes bytes) :=
  inferInstanceAs (Decidable (∀ room ∈ c.room, bytes.size ≤ room))

/-- The channel when bytes were sent, as many as there is room for. -/
def after (c : Channel) (bytes : ByteArray) : Channel :=
  match c.room with
  | none => { c with received := c.received ++ bytes }
  | some room => ⟨c.received ++ bytes.extract 0 room, some (room - bytes.size)⟩

section

variable {c : Channel} {bytes bytes' : ByteArray}

theorem takes_some {received : ByteArray} {room : Nat} :
    Takes ⟨received, some room⟩ bytes ↔ bytes.size ≤ room := by
  simp [Takes]

theorem takes_empty (c : Channel) : c.Takes .empty := fun room _ => Nat.zero_le room

theorem after_empty (c : Channel) : c.after .empty = c := by
  obtain ⟨received, _ | room⟩ := c
  · simp [after]
  · have hextract : ByteArray.empty.extract 0 room = .empty := by
      rw [ByteArray.extract_eq_empty_iff]
      exact Nat.min_le_right room 0
    simp [after, hextract]

theorem after_of_size_le {received : ByteArray} {room : Nat} (h : bytes.size ≤ room) :
    after ⟨received, some room⟩ bytes = ⟨received ++ bytes, some (room - bytes.size)⟩ := by
  simp only [after, extract_of_size_le h]

theorem after_append (c : Channel) (bytes bytes' : ByteArray) :
    c.after (bytes ++ bytes') = (c.after bytes).after bytes' := by
  obtain ⟨received, _ | room⟩ := c
  · simp only [after, ByteArray.append_assoc]
  · simp only [after, ByteArray.append_assoc, ByteArray.extract_append, ByteArray.size_append,
      Nat.zero_sub, Nat.sub_sub]

theorem takes_append : c.Takes (bytes ++ bytes') ↔
    c.Takes bytes ∧ (c.after bytes).Takes bytes' := by
  obtain ⟨received, _ | room⟩ := c
  · simp [Takes, after]
  · simp only [after, takes_some, ByteArray.size_append]
    omega

/-- Once something did not fit, nothing does. -/
theorem takes_append_of_ne_empty (h : bytes' ≠ .empty) :
    c.Takes (bytes ++ bytes') ↔ (c.after bytes).Takes bytes' := by
  have hsize : bytes'.size ≠ 0 := fun hzero => h (ByteArray.size_eq_zero_iff.mp hzero)
  obtain ⟨received, _ | room⟩ := c
  · simp [Takes, after]
  · simp only [after, takes_some, ByteArray.size_append]
    omega

theorem after_after_of_not_takes (h : ¬c.Takes bytes) (bytes' : ByteArray) :
    (c.after bytes).after bytes' = c.after bytes := by
  obtain ⟨received, _ | room⟩ := c
  · simp [Takes] at h
  · rw [takes_some] at h
    have hroom : room - bytes.size = 0 := by omega
    have hextract : bytes'.extract 0 0 = .empty := by
      rw [ByteArray.extract_eq_empty_iff]
      exact Nat.min_le_left 0 _
    simp only [after, hroom, hextract, ByteArray.append_empty, Nat.zero_sub]

/-- The channel after a write. One that recovers takes everything once a write did not fit. -/
def written (once : Bool) (c : Channel) (bytes : ByteArray) : Channel :=
  if c.Takes bytes ∨ once = false then c.after bytes else ⟨(c.after bytes).received, none⟩

@[simp] theorem written_false (c : Channel) (bytes : ByteArray) :
    c.written false bytes = c.after bytes :=
  if_pos (.inr rfl)

theorem written_of_takes {once : Bool} (h : c.Takes bytes) :
    c.written once bytes = c.after bytes :=
  if_pos (.inl h)

theorem written_of_not_takes (h : ¬c.Takes bytes) :
    c.written true bytes = ⟨(c.after bytes).received, none⟩ :=
  if_neg (by simp [h])

theorem written_empty (once : Bool) (c : Channel) : c.written once .empty = c := by
  rw [written_of_takes c.takes_empty, after_empty]

theorem written_append_of_takes {once : Bool} (h : c.Takes bytes) :
    c.written once (bytes ++ bytes') = (c.after bytes).written once bytes' := by
  simp only [written, takes_append, h, true_and, after_append]

theorem written_append_of_not_takes {once : Bool} (h : ¬c.Takes bytes) :
    c.written once (bytes ++ bytes') = c.written once bytes := by
  simp only [written, takes_append, h, false_and, false_or, after_append,
    after_after_of_not_takes h]

theorem send_eq (once : Bool) (c : Channel) (bytes : ByteArray) :
    c.send once bytes = (if c.Takes bytes then none else some "full", c.written once bytes) := by
  obtain ⟨received, _ | room⟩ := c
  · simp [send, written, Takes, after]
  · by_cases hsize : bytes.size ≤ room
    · have htakes : Takes ⟨received, some room⟩ bytes := takes_some.mpr hsize
      rw [if_pos htakes, written_of_takes htakes, after_of_size_le hsize]
      simp only [send, if_pos hsize]
    · have hroom : room - bytes.size = 0 := by omega
      cases once <;> simp [send, written, after, takes_some, hsize, hroom]

end

end Channel

/-! ### What reaches a channel -/

section

variable {once flushFails : Bool}

theorem Stream.put_channel (piece : String) (c : Channel) :
    (Channel.stream { once, flushFails }).put piece c =
      (if c.Takes piece.toUTF8 then none else some "full", c.written once piece.toUTF8) := by
  unfold Stream.put
  split
  case isTrue hempty =>
    rw [String.isEmpty_iff] at hempty
    rw [hempty, String.toUTF8, String.toByteArray_empty, if_pos c.takes_empty, c.written_empty]
  case isFalse => exact c.send_eq once piece.toUTF8

/-- Of several pieces as much arrives as if they were one. -/
theorem Stream.putAll_channel (pieces : List String) (c : Channel) :
    (Channel.stream { once, flushFails }).putAll pieces c =
      (if c.Takes (String.join pieces).toUTF8 then none else some "full",
        c.written once (String.join pieces).toUTF8) := by
  induction pieces generalizing c with
  | nil =>
    have hempty : (String.join []).toUTF8 = .empty := rfl
    rw [hempty, if_pos c.takes_empty, c.written_empty]
    rfl
  | cons piece rest ih =>
    have happend : (String.join (piece :: rest)).toUTF8 =
        piece.toUTF8 ++ (String.join rest).toUTF8 := by
      rw [String.join_cons]
      exact String.toByteArray_append
    rw [Stream.putAll, Stream.put_channel, happend]
    by_cases htakes : c.Takes piece.toUTF8
    · simp only [if_true, ih, Channel.takes_append, htakes, true_and,
        Channel.written_of_takes htakes, Channel.written_append_of_takes htakes]
    · simp only [if_false, Channel.takes_append, htakes, false_and,
        Channel.written_append_of_not_takes htakes]

end

namespace Render

/-- Default markup of some visit, not all of which the channel takes after what was written before
it. -/
def Overruns (c : Channel) (entries : List Entry) : Prop :=
  ∃ before e rest, entries = before ++ e :: rest ∧ e.taken = false ∧ e.html ≠ "" ∧
    ¬c.Takes (String.join ((before ++ [e]).map Entry.html)).toUTF8

section

variable {flushFails : Bool} {c : Channel}

theorem toUTF8_join_cons (e : Entry) (entries : List Entry) :
    (String.join ((e :: entries).map Entry.html)).toUTF8 =
      e.html.toUTF8 ++ (String.join (entries.map Entry.html)).toUTF8 := by
  rw [List.map_cons, String.join_cons]
  exact String.toByteArray_append

theorem not_overruns_nil (c : Channel) : ¬Overruns c [] := by
  rintro ⟨before, e, rest, heq, -⟩
  exact List.append_ne_nil_of_right_ne_nil before (List.cons_ne_nil e rest) heq.symm

theorem toUTF8_join_concat_ne_empty {before : List Entry} {e : Entry} (h : e.html ≠ "") :
    (String.join ((before ++ [e]).map Entry.html)).toUTF8 ≠ .empty := by
  intro hempty
  rw [String.toUTF8, String.toByteArray_eq_empty_iff, List.map_append, String.join_append,
    String.append_eq_empty_iff, List.map_singleton, String.join_cons, String.append_eq_empty_iff]
    at hempty
  exact h hempty.2.1

theorem overruns_cons {e : Entry} {entries : List Entry} :
    Overruns c (e :: entries) ↔
      e.taken = false ∧ ¬c.Takes e.html.toUTF8 ∨ Overruns (c.after e.html.toUTF8) entries := by
  constructor
  · rintro ⟨_ | ⟨first, before⟩, e', rest, heq, htaken, hne, hover⟩
    · obtain ⟨rfl, rfl⟩ := List.cons.inj heq
      rw [List.nil_append, List.map_singleton, String.join_cons, String.join_nil,
        String.append_empty] at hover
      exact .inl ⟨htaken, hover⟩
    · obtain ⟨rfl, rfl⟩ := List.cons.inj heq
      refine .inr ⟨before, e', rest, rfl, htaken, hne, fun htakes => hover ?_⟩
      rw [List.cons_append, toUTF8_join_cons,
        Channel.takes_append_of_ne_empty (toUTF8_join_concat_ne_empty hne)]
      exact htakes
  · rintro (⟨htaken, hover⟩ | ⟨before, e', rest, rfl, htaken, hne, hover⟩)
    · refine ⟨[], e, entries, rfl, htaken, fun hempty => hover ?_, fun htakes => hover ?_⟩
      · rw [hempty]
        exact c.takes_empty
      · rwa [List.nil_append, List.map_singleton, String.join_cons, String.join_nil,
          String.append_empty] at htakes
    · refine ⟨e :: before, e', rest, rfl, htaken, hne, fun htakes => hover ?_⟩
      rw [List.cons_append, toUTF8_join_cons, Channel.takes_append] at htakes
      exact htakes.2

/-- What arrives does not depend on whether anyone notices that the channel is full. -/
theorem play_channel (entries : List Entry) (c : Channel) :
    (play (Channel.stream { flushFails }) entries c).2 =
        c.after (String.join (entries.map Entry.html)).toUTF8 ∧
      ((play (Channel.stream { flushFails }) entries c).1.isSome ↔ Overruns c entries) := by
  induction entries generalizing c with
  | nil =>
    refine ⟨c.after_empty.symm, fun hsome => ?_, fun hover => absurd hover (not_overruns_nil c)⟩
    cases hsome
  | cons e rest ih =>
    obtain ⟨hstate, hfailure⟩ := ih (c.after e.html.toUTF8)
    rw [play, Stream.putAll_channel, Channel.written_false, ← Entry.html, toUTF8_join_cons,
      Channel.after_append, overruns_cons]
    by_cases htakes : c.Takes e.html.toUTF8
    · simp only [htakes, if_true, not_true, and_false, false_or]
      exact ⟨hstate, hfailure⟩
    · cases e.taken with
      | false =>
        simp only [htakes, if_false]
        exact ⟨(Channel.after_after_of_not_takes htakes _).symm,
          ⟨fun _ => .inl ⟨trivial, not_false⟩, fun _ => rfl⟩⟩
      | true =>
        -- the rest is written to a channel that is full
        simp only [htakes, if_false, reduceCtorEq, false_and, false_or]
        exact ⟨hstate, hfailure⟩

theorem perform_channel (entries : List Entry) (c : Channel) :
    (perform (Channel.stream { flushFails }) entries c).2 =
        c.after (String.join (entries.map Entry.html)).toUTF8 ∧
      ((perform (Channel.stream { flushFails }) entries c).1.isSome ↔
        Overruns c entries ∨ flushFails) := by
  obtain ⟨hstate, hfailure⟩ := @play_channel flushFails entries c
  rw [perform, ← hstate, ← hfailure]
  rcases play (Channel.stream { flushFails }) entries c with ⟨_ | message, c'⟩
  · cases flushFails <;> simp [Channel.stream]
  · simp

/-- Every stream, every script: a channel receives the beginning of what there is to write, and
default markup notices where it ends. -/
theorem render_channel {script : Script} (events : List Event)
    (h : script.KeepsTour (.ofEvents events)) (ids : HeadingIds) (c : Channel) :
    ∃ failure ids', render (Channel.stream { flushFails })
        (script.hook (Channel.stream { flushFails })) (.ofEvents events) ids c =
          (failure, ids', c.after (String.join
            ((script.transcript (.ofEvents events) ids).map Entry.html)).toUTF8) ∧
      (failure.isSome ↔
        Overruns c (script.transcript (.ofEvents events) ids) ∨ flushFails) := by
  obtain ⟨ids', hrender, -⟩ := render_eq_perform (Channel.stream { flushFails }) events h ids c
  obtain ⟨hstate, hfailure⟩ := @perform_channel flushFails
    (script.transcript (.ofEvents events) ids) c
  exact ⟨_, ids', hrender.trans (by rw [hstate]), hfailure⟩

end

/-! ### Channels with and without room -/

theorem not_overruns_unlimited (received : ByteArray) (entries : List Entry) :
    ¬Overruns ⟨received, none⟩ entries := by
  rintro ⟨before, e, rest, -, -, -, hover⟩
  exact hover fun room hroom => by cases hroom

/-- Where all is default markup, it goes beyond the room exactly if there is not room for all. -/
theorem overruns_iff_of_not_taken {entries : List Entry} (h : ∀ e ∈ entries, e.taken = false)
    (c : Channel) :
    Overruns c entries ↔ ¬c.Takes (String.join (entries.map Entry.html)).toUTF8 := by
  induction entries generalizing c with
  | nil => exact iff_of_false (not_overruns_nil c) (not_not_intro c.takes_empty)
  | cons e rest ih =>
    have hrest := ih (fun e' he' => h e' (List.mem_cons_of_mem e he')) (c.after e.html.toUTF8)
    rw [overruns_cons, hrest, h e List.mem_cons_self, toUTF8_join_cons, Channel.takes_append]
    simp only [true_and, not_and_or]

theorem taken_of_mem_none {doc : Document} {ids : HeadingIds} {e : Entry}
    (h : e ∈ Script.none.transcript doc ids) : e.taken = false := by
  obtain ⟨-, ids', he⟩ := exists_entry_eq h
  rw [he]
  rfl

/-- A channel without a limit receives all of the transcript, one with a limit the beginning of
it. -/
theorem render_room {script : Script} (events : List Event)
    (h : script.KeepsTour (.ofEvents events)) (ids : HeadingIds) (n : Nat) :
    let entries := script.transcript (.ofEvents events) ids
    let html := (String.join (entries.map Entry.html)).toUTF8
    let sent (room : Option Nat) := render (Channel.stream {}) (script.hook (Channel.stream {}))
      (.ofEvents events) ids ⟨.empty, room⟩
    (sent none).1 = none ∧ (sent none).2.2.received = html ∧
      (sent (some n)).2.2.received = html.extract 0 n ∧
      ((sent (some n)).1.isSome ↔ Overruns ⟨.empty, some n⟩ entries) := by
  intro entries html sent
  obtain ⟨failure, ids', hall, hfailure⟩ := @render_channel false script events h ids ⟨.empty, none⟩
  obtain ⟨failure', ids'', hcut, hfailure'⟩ :=
    @render_channel false script events h ids ⟨.empty, some n⟩
  have hnone : failure = none := by
    rw [Bool.false_eq_true, or_false] at hfailure
    rw [← Option.not_isSome_iff_eq_none, hfailure]
    exact not_overruns_unlimited _ _
  refine ⟨?_, ?_, ?_, ?_⟩
  · exact (congrArg Prod.fst hall).trans hnone
  · rw [congrArg (·.2.2) hall]
    exact ByteArray.empty_append
  · rw [congrArg (·.2.2) hcut]
    exact ByteArray.empty_append
  · rw [congrArg Prod.fst hcut, hfailure', Bool.false_eq_true, or_false]

/-- A channel with room for so many bytes receives that much of what an unlimited one receives, with
the hook and without it. Without it a failure is reported exactly if something is missing. -/
theorem received_eq_extract (highlighter : Highlight.Highlighter) (theme : String)
    (events : List Event) (ids : HeadingIds) (n : Nat) :
    let channel := Channel.stream {}
    let sent (hook : Hook Channel) (room : Option Nat) :=
      render channel hook (.ofEvents events) ids ⟨.empty, room⟩
    let plain := sent noHook
    let github := sent (Github.hookWith highlighter channel theme)
    (plain none).1 = none ∧ (github none).1 = none ∧
      (plain (some n)).2.2.received = (plain none).2.2.received.extract 0
        (min n (plain none).2.2.received.size) ∧
      (github (some n)).2.2.received = (github none).2.2.received.extract 0
        (min n (github none).2.2.received.size) ∧
      ((plain (some n)).1.isSome ↔ n < (plain none).2.2.received.size) := by
  intro channel sent plain github
  obtain ⟨hplain, hall, hcut, hfailure⟩ := render_room events (keepsTour_none _) ids n
  obtain ⟨hgithub, hall', hcut', -⟩ :=
    render_room events (keepsTour_output highlighter theme _) ids n
  rw [hook_none] at hplain hall hcut hfailure
  rw [hook_output] at hgithub hall' hcut'
  rw [overruns_iff_of_not_taken fun e => taken_of_mem_none, Channel.takes_some, not_le] at hfailure
  refine ⟨hplain, hgithub, ?_, ?_, ?_⟩
  · rw [extract_min_size]
    exact hcut.trans (by rw [← hall])
  · rw [extract_min_size]
    exact hcut'.trans (by rw [← hall'])
  · exact hfailure.trans (by rw [← hall])

end Render

namespace Preview

open Render (Entry Script Overruns)
open Highlight (Highlighter)

section

variable {σ : Type} {stream : Stream σ} {theme : String}

theorem renderDocument_of_render {highlighter : Highlighter} {doc : Document} {s s' : σ}
    {failure : Option String} {ids : HeadingIds}
    (h : Render.render stream (Script.hook (Render.Github.output highlighter theme) stream) doc {}
      s = (failure, ids, s')) :
    renderDocument highlighter stream theme doc s = (failure.map WriteFailure.mk, s') := by
  rw [renderDocument, ← Render.hook_output, h]

/-- A document is written to a buffer as its transcript says. -/
theorem renderDocument_buffer (highlighter : Highlighter) (theme : String) (events : List Event) :
    (renderDocument highlighter Stream.buffer theme (.ofEvents events) "").2 =
      String.join ((Script.transcript (Render.Github.output highlighter theme)
        (.ofEvents events) {}).map Entry.html) := by
  obtain ⟨s', hrender, htext⟩ := Render.render_eq_transcript Render.keeps_buffer events
    (Render.keepsTour_output highlighter theme (.ofEvents events)) {} ""
  rw [renderDocument_of_render hrender]
  exact htext.trans String.empty_append

theorem toHtml_eq_join (kit : Toolkit) (theme : String) (markdown : List UInt8) :
    toHtml kit theme markdown = String.join ((transcript kit theme markdown).map Entry.html) :=
  renderDocument_buffer kit.highlighter theme _

end

/-- For every document and every highlighter: a channel with room for so many bytes is reported as
broken exactly if default markup goes beyond them, or the channel cannot be flushed. -/
theorem isSome_renderDocument_iff (flushFails : Bool) (highlighter : Highlighter) (theme : String)
    (events : List Event) (room : Nat) :
    let doc := Document.ofEvents events
    let entries := Script.transcript (Render.Github.output highlighter theme) doc {}
    (renderDocument highlighter Stream.buffer theme doc "").2 =
        String.join (entries.map Entry.html) ∧
      ((renderDocument highlighter (Channel.stream { flushFails }) theme doc
          ⟨.empty, some room⟩).1.isSome ↔
        Overruns ⟨.empty, some room⟩ entries ∨ flushFails) := by
  intro doc entries
  obtain ⟨failure, ids', hrender, hfailure⟩ :=
    @Render.render_channel flushFails _ events
      (Render.keepsTour_output highlighter theme doc) {} ⟨.empty, some room⟩
  refine ⟨renderDocument_buffer highlighter theme events, ?_⟩
  rw [renderDocument_of_render hrender, Option.isSome_map]
  exact hfailure

/-- Highlighted code is lost without notice: the hook writes all of it. -/
theorem not_forall_isSome_renderTo :
    ¬∀ (theme : String) (markdown : List UInt8) (room : Nat),
      room < (toHtml .standard theme markdown).utf8ByteSize →
      (renderTo .standard (Channel.stream {}) theme markdown ⟨.empty, some room⟩).1.isSome := by
  intro h
  have hlong : 0 < (toHtml .standard "auto" "```\nx\n```".toUTF8.toList).utf8ByteSize := by
    decide +kernel
  have hlost : (renderTo .standard (Channel.stream {}) "auto" "```\nx\n```".toUTF8.toList
      ⟨.empty, some 0⟩).1.isSome = false := by
    decide +kernel
  rw [h _ _ _ hlong] at hlost
  cases hlost

end Preview

end MarkdownPreview
