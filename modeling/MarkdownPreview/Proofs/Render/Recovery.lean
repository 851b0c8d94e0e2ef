import MarkdownPreview.Proofs.Render.BrokenChannel

/-!
Channels that fail once and then recover. The failure falls into one visit. If the hook made that
visit, the rest of it is lost and all later visits arrive, as if nothing had happened; if default
markup was written, the failure ends the walk.
-/

namespace MarkdownPreview.Render

/-- The bytes that entries write where nothing fails. -/
def bytes (entries : List Entry) : ByteArray :=
  (String.join (entries.map Entry.html)).toUTF8

/-- The entries are what visits write, one after the other, on a stream that takes everything. The
hook answers whether it took a visit. -/
inductive Recorded (hook : Hook String) (doc : Document) : HeadingIds → List Entry → Prop
  | nil (ids : HeadingIds) : Recorded hook doc ids []
  | cons {ids ids' : HeadingIds} {e : Entry} {rest : List Entry} :
      (∀ s, ∃ d, visit Stream.buffer hook doc e.visit.node e.visit.entering ids s =
        (none, d, ids', s ++ e.html)) →
      (∀ s, (hook doc e.visit.node e.visit.entering s).1.consumed = e.taken) →
      Recorded hook doc ids' rest → Recorded hook doc ids (e :: rest)

/-- The byte at position `n` of what the entries write is in the entry `e`. -/
structure ByteIn (entries : List Entry) (n : Nat) (before : List Entry) (e : Entry)
    (after : List Entry) : Prop where
  entries_eq : entries = before ++ e :: after
  le : (bytes before).size ≤ n
  lt : n < (bytes before).size + e.html.toUTF8.size

/-! ### The bytes of entries -/

section

variable {entries before after : List Entry} {e : Entry} {n : Nat}

theorem bytes_nil : bytes [] = .empty := rfl

theorem bytes_cons (e : Entry) (entries : List Entry) :
    bytes (e :: entries) = e.html.toUTF8 ++ bytes entries :=
  toUTF8_join_cons e entries

theorem bytes_append (entries entries' : List Entry) :
    bytes (entries ++ entries') = bytes entries ++ bytes entries' := by
  induction entries with
  | nil => exact ByteArray.empty_append.symm
  | cons e rest ih => rw [List.cons_append, bytes_cons, ih, bytes_cons, ByteArray.append_assoc]

theorem ByteIn.cons (h : ByteIn entries n before e after) (first : Entry) :
    ByteIn (first :: entries) (first.html.toUTF8.size + n) (first :: before) e after := by
  obtain ⟨heq, hle, hlt⟩ := h
  refine ⟨by rw [heq, List.cons_append], ?_, ?_⟩
  all_goals
    rw [bytes_cons, ByteArray.size_append]
    omega

theorem extract_append_of_size_le {first rest : ByteArray} (h : first.size ≤ n) :
    (first ++ rest).extract 0 n = first ++ rest.extract 0 (n - first.size) := by
  rw [ByteArray.extract_append, extract_of_size_le h, Nat.zero_sub]

theorem extract_append_of_le_size {first rest : ByteArray} (h : n ≤ first.size) :
    (first ++ rest).extract 0 n = first.extract 0 n := by
  have hrest : rest.extract (0 - first.size) (n - first.size) = .empty := by
    rw [ByteArray.extract_eq_empty_iff]
    omega
  rw [ByteArray.extract_append, hrest, ByteArray.append_empty]

/-- The first bytes are those of the entries before, and a part of the entry. -/
theorem ByteIn.extract_eq (h : ByteIn entries n before e after) :
    (bytes entries).extract 0 n =
      bytes before ++ e.html.toUTF8.extract 0 (n - (bytes before).size) := by
  obtain ⟨heq, hle, hlt⟩ := h
  rw [heq, bytes_append, bytes_cons, extract_append_of_size_le hle,
    extract_append_of_le_size (by omega)]

end

/-! ### Visits on a stream that takes everything -/

theorem consumed_hook (script : Script) {σ : Type} (stream : Stream σ) (doc : Document)
    (v : Visit) (ids : HeadingIds) (s : σ) :
    (script.hook stream doc v.node v.entering s).1.consumed = (script.entry doc ids v).taken := by
  rw [Script.hook, Script.entry]
  cases script doc v.node v.entering with
  | none => rfl
  | some taken =>
    simp only
    rcases stream.putAll taken.1 s with ⟨_ | message, s'⟩ <;> rfl

theorem putAll_buffer (pieces : List String) (s : String) :
    Stream.buffer.putAll pieces s = (none, s ++ String.join pieces) := by
  obtain ⟨s', hput, htext⟩ := keeps_buffer.putAll pieces s
  rw [hput, ← show s' = s ++ String.join pieces from htext]

theorem visit_buffer (script : Script) (doc : Document) (v : Visit) (ids : HeadingIds)
    (s : String) :
    ∃ d, visit Stream.buffer (script.hook Stream.buffer) doc v.node v.entering ids s =
      (none, d, script.countsAfter doc ids v, s ++ (script.entry doc ids v).html) := by
  rw [visit, Script.hook, Script.countsAfter, Script.entry]
  cases script doc v.node v.entering with
  | none =>
    refine ⟨descent v.entering (doc.element v.node), ?_⟩
    simp only [Answer.declined, putAll_buffer, Entry.html]
  | some taken =>
    refine ⟨taken.2, ?_⟩
    simp only [putAll_buffer, Entry.html]

theorem recorded_entries (script : Script) (doc : Document) (ids : HeadingIds)
    (visits : List Visit) :
    Recorded (script.hook Stream.buffer) doc ids (script.entries doc ids visits) := by
  induction visits generalizing ids with
  | nil => exact .nil ids
  | cons v rest ih =>
    refine .cons (fun s => ?_) (fun s => ?_) (ih (script.countsAfter doc ids v))
    · rw [script.visit_entry]
      exact visit_buffer script doc v ids s
    · rw [script.visit_entry]
      exact consumed_hook script Stream.buffer doc v ids s

/-! ### Playing entries onto a channel that recovers -/

section

variable {once flushFails : Bool}

/-- Where there is room for everything, everything arrives. -/
theorem play_of_takes {entries : List Entry} {c : Channel} (h : c.Takes (bytes entries)) :
    play (Channel.stream { once, flushFails }) entries c = (none, c.after (bytes entries)) := by
  induction entries generalizing c with
  | nil => rw [play, bytes_nil, Channel.after_empty]
  | cons e rest ih =>
    rw [bytes_cons, Channel.takes_append] at h
    rw [play, Stream.putAll_channel, ← Entry.html, if_pos h.1, Channel.written_of_takes h.1,
      bytes_cons, Channel.after_append]
    exact ih h.2

theorem play_unlimited (entries : List Entry) (received : ByteArray) :
    play (Channel.stream { once, flushFails }) entries ⟨received, none⟩ =
      (none, ⟨received ++ bytes entries, none⟩) :=
  play_of_takes fun room hroom => by cases hroom

/-- Where there is not, the failure falls into one entry. If the hook wrote that, only the rest of
it is lost. -/
theorem play_recovering (entries : List Entry) (received : ByteArray) (n : Nat)
    (h : n < (bytes entries).size) :
    ∃ before e after, ByteIn entries n before e after ∧
      play (Channel.stream { once := true, flushFails }) entries ⟨received, some n⟩ =
        if e.taken then
          (none, ⟨received ++ (bytes entries).extract 0 n ++ bytes after, none⟩)
        else (some "full", ⟨received ++ (bytes entries).extract 0 n, none⟩) := by
  induction entries generalizing received n with
  | nil => exact absurd h (Nat.not_lt_zero n)
  | cons e rest ih =>
    by_cases hsize : e.html.toUTF8.size ≤ n
    · rw [bytes_cons, ByteArray.size_append] at h
      obtain ⟨before, e', after, hbyte, hplay⟩ :=
        ih (received ++ e.html.toUTF8) (n - e.html.toUTF8.size) (by omega)
      have hcons := hbyte.cons e
      rw [Nat.add_sub_cancel' hsize] at hcons
      have htakes : Channel.Takes ⟨received, some n⟩ e.html.toUTF8 := Channel.takes_some.mpr hsize
      refine ⟨e :: before, e', after, hcons, ?_⟩
      rw [play, Stream.putAll_channel, ← Entry.html, if_pos htakes, Channel.written_of_takes htakes,
        Channel.after_of_size_le hsize, bytes_cons, extract_append_of_size_le hsize,
        ← ByteArray.append_assoc]
      exact hplay
    · -- the failure falls into this entry, and the channel is unlimited from there on
      have hfull : ¬Channel.Takes ⟨received, some n⟩ e.html.toUTF8 := by
        rwa [Channel.takes_some]
      refine ⟨[], e, rest, ⟨rfl, Nat.zero_le n, ?_⟩, ?_⟩
      · rw [bytes_nil, ByteArray.size_empty]
        omega
      · rw [play, Stream.putAll_channel, ← Entry.html, if_neg hfull,
          Channel.written_of_not_takes hfull, Channel.after, bytes_cons,
          extract_append_of_le_size (by omega)]
        cases e.taken with
        | true => exact play_unlimited rest _
        | false => rfl

/-- A channel that can be flushed reports no more than the walk does. -/
theorem perform_eq_play (entries : List Entry) (c : Channel) :
    perform (Channel.stream { once }) entries c = play (Channel.stream { once }) entries c := by
  rw [perform]
  rcases play (Channel.stream { once }) entries c with ⟨_ | message, c'⟩ <;> rfl

end

/-- On a channel that has room for so many bytes, fails once and recovers, a failure that falls into
a visit of the hook loses the rest of that visit and nothing else, and is not reported; one that
falls into default markup ends the walk, and is. -/
theorem render_recovering (highlighter : Highlight.Highlighter) (theme : String)
    (events : List Event) (ids : HeadingIds) (n : Nat) :
    let doc := Document.ofEvents events
    let entries := Script.transcript (Github.output highlighter theme) doc ids
    let sent (faults : Faults) (room : Option Nat) := render (Channel.stream faults)
      (Github.hookWith highlighter (Channel.stream faults) theme) doc ids ⟨.empty, room⟩
    let failure := (sent { once := true } (some n)).1
    let received := (sent { once := true } (some n)).2.2.received
    entries.map Entry.visit = tour doc ∧
      Recorded (Github.hookWith highlighter Stream.buffer theme) doc ids entries ∧
      (sent {} none).1 = none ∧ (sent {} none).2.2.received = bytes entries ∧
      if n < (bytes entries).size then
        ∃ before e after, ByteIn entries n before e after ∧
          if e.taken then
            failure = none ∧ received = bytes before ++
              e.html.toUTF8.extract 0 (n - (bytes before).size) ++ bytes after
          else failure = some "full" ∧ received = (bytes entries).extract 0 n
      else failure = none ∧ received = bytes entries := by
  intro doc entries sent failure received
  have htour := keepsTour_output highlighter theme doc
  obtain ⟨hnone, hall, -⟩ := render_room events htour ids n
  obtain ⟨ids', hrender, -⟩ :=
    render_eq_perform (Channel.stream { once := true }) events htour ids ⟨.empty, some n⟩
  rw [perform_eq_play] at hrender
  have hfailure : failure = (play (Channel.stream { once := true }) entries ⟨.empty, some n⟩).1 :=
    congrArg Prod.fst hrender
  have hreceived : received =
      (play (Channel.stream { once := true }) entries ⟨.empty, some n⟩).2.received :=
    congrArg (·.2.2.received) hrender
  refine ⟨visits_transcript _ doc ids, recorded_entries _ doc ids _, hnone, hall, ?_⟩
  rw [hfailure, hreceived]
  split
  case isTrue hlt =>
    obtain ⟨before, e, after, hbyte, hplay⟩ := play_recovering entries .empty n hlt
    refine ⟨before, e, after, hbyte, ?_⟩
    rw [hplay]
    split
    · exact ⟨rfl, by rw [ByteArray.empty_append, hbyte.extract_eq]⟩
    · exact ⟨rfl, ByteArray.empty_append⟩
  case isFalse hle =>
    have hle : (bytes entries).size ≤ n := Nat.le_of_not_lt hle
    rw [play_of_takes (Channel.takes_some.mpr hle), Channel.after_of_size_le hle]
    exact ⟨rfl, ByteArray.empty_append⟩

end MarkdownPreview.Render
