import Mathlib.Data.List.Nodup
import MarkdownPreview.Proofs.Render.Balance
import MarkdownPreview.Render.Transcript

/-!
Rendering plays the transcript of a document onto the stream, and the stream decides only where that
ends. The transcript makes the visits of a tour that the document alone determines.
-/

namespace MarkdownPreview.Render

variable {σ : Type}

theorem join_singleton (s : String) : String.join [s] = s := by
  rw [String.join_cons, String.join_nil, String.append_empty]

namespace Script

/-- Where the hook takes a container, the children follow as they do without it. -/
def KeepsTour (script : Script) (doc : Document) : Prop :=
  ∀ i pieces d, (doc.element i).isContainer → script doc i true = some (pieces, d) →
    d = .children ∧ descent true (doc.element i) = .children

/-- The heading counts after a whole walk. -/
def finalCounts (script : Script) (doc : Document) (ids : HeadingIds) : HeadingIds :=
  (tour doc).foldl (script.countsAfter doc) ids

end Script

section

variable {doc : Document}

@[simp] theorem Script.visit_entry (script : Script) (doc : Document) (ids : HeadingIds)
    (v : Visit) : (script.entry doc ids v).visit = v := by
  unfold Script.entry
  split <;> rfl

theorem visits_entries (script : Script) (doc : Document) (ids : HeadingIds) (visits : List Visit) :
    (script.entries doc ids visits).map Entry.visit = visits := by
  induction visits generalizing ids with
  | nil => rfl
  | cons v rest ih => rw [Script.entries, List.map_cons, script.visit_entry, ih]

theorem visits_transcript (script : Script) (doc : Document) (ids : HeadingIds) :
    (script.transcript doc ids).map Entry.visit = tour doc :=
  visits_entries script doc ids _

theorem entries_append (script : Script) (doc : Document) (ids : HeadingIds)
    (visits visits' : List Visit) :
    script.entries doc ids (visits ++ visits') =
      script.entries doc ids visits ++
        script.entries doc (visits.foldl (script.countsAfter doc) ids) visits' := by
  induction visits generalizing ids with
  | nil => rfl
  | cons v rest ih =>
    rw [List.cons_append, Script.entries, Script.entries, ih, List.foldl_cons, List.cons_append]

theorem Script.html_entry_of_taken {script : Script} {v : Visit} {pieces : List String}
    {d : Descent} (h : script doc v.node v.entering = some (pieces, d)) (ids : HeadingIds) :
    (script.entry doc ids v).html = String.join pieces := by
  rw [Script.entry, h]
  rfl

theorem Script.html_entry_of_declined {script : Script} {v : Visit}
    (h : script doc v.node v.entering = .none) (ids : HeadingIds) :
    (script.entry doc ids v).html = String.join (markup doc v.node v.entering ids).1 := by
  rw [Script.entry, h]
  rfl

/-- Every entry is that of its visit, with the counts of the visits before it. -/
theorem exists_entry_eq {script : Script} {ids : HeadingIds} {visits : List Visit} {e : Entry}
    (h : e ∈ script.entries doc ids visits) :
    e.visit ∈ visits ∧ ∃ ids', e = script.entry doc ids' e.visit := by
  induction visits generalizing ids with
  | nil => cases h
  | cons v rest ih =>
    rcases List.mem_cons.mp h with rfl | hrest
    · rw [script.visit_entry]
      exact ⟨List.mem_cons_self, ids, rfl⟩
    · obtain ⟨hmem, hentry⟩ := ih hrest
      exact ⟨List.mem_cons_of_mem v hmem, hentry⟩

/-! ### The tour -/

/-- A tour makes a visit no more often than the preorder comes to its node. -/
theorem count_flatMap_tourTo_le {is nodes : List Nat} (h : doc.Preorder is nodes) (depth : Nat)
    (v : Visit) : (is.flatMap (tourTo doc depth)).count v ≤ nodes.count v.node := by
  induction h generalizing depth with
  | nil => exact Nat.le_refl 0
  | @cons i rest below after _ _ hbelow hafter =>
    cases depth with
    | zero =>
      have hnone : (i :: rest).flatMap (tourTo doc 0) = [] :=
        List.flatMap_eq_nil_iff.mpr fun _ _ => rfl
      rw [hnone]
      exact Nat.zero_le _
    | succ depth =>
      -- a node is entered once and left at most once
      have htour : (tourTo doc (depth + 1) i).count v ≤
          [i].count v.node + ((doc.children i).flatMap (tourTo doc depth)).count v := by
        have hends : [Visit.enter i].count v + [Visit.leave i].count v = [i].count v.node := by
          cases v <;> simp [Visit.node, List.count_cons]
        rw [tourTo, ← List.singleton_append, List.count_append]
        split
        · rw [List.count_append]
          split
          · omega
          · rw [List.count_nil]
            omega
        · rw [List.count_nil]
          omega
      have hbelow := hbelow depth
      have hafter := hafter (depth + 1)
      rw [List.flatMap_cons, List.count_append, ← List.singleton_append, List.count_append,
        List.count_append]
      omega

theorem nodup_tour (h : doc.Preorder [0] (List.range doc.size)) : (tour doc).Nodup := by
  rw [List.nodup_iff_count_le_one]
  intro v
  have hcount := count_flatMap_tourTo_le h doc.size v
  rw [List.flatMap_singleton] at hcount
  exact hcount.trans (List.nodup_iff_count_le_one.mp List.nodup_range v.node)

theorem isContainer_of_leave_mem {i : Nat} (depth j : Nat)
    (h : .leave i ∈ tourTo doc depth j) : (doc.element i).isContainer := by
  induction depth generalizing j with
  | zero => cases h
  | succ depth ih =>
    rcases List.mem_cons.mp h with heq | h
    · cases heq
    · split at h
      case isFalse => cases h
      case isTrue hcontainer =>
        rcases List.mem_append.mp h with h | h
        case inr =>
          cases List.mem_singleton.mp h
          exact hcontainer
        split at h
        · obtain ⟨c, -, hmem⟩ := List.mem_flatMap.mp h
          exact ih c hmem
        · cases h

/-- The visits to a node and all below it stand together, once the node is visited. -/
theorem exists_tourTo_eq_append (linked : doc.Linked) {i : Nat} (depth j : Nat)
    (hdepth : doc.size ≤ j + depth) (h : .enter i ∈ tourTo doc depth j) :
    ∃ depth' before after, doc.size ≤ i + depth' ∧
      tourTo doc depth j = before ++ tourTo doc depth' i ++ after := by
  induction depth generalizing j with
  | zero => cases h
  | succ depth ih =>
    rcases List.mem_cons.mp h with heq | h
    · cases heq
      exact ⟨depth + 1, [], [], hdepth, by rw [List.nil_append, List.append_nil]⟩
    · split at h
      case isFalse => cases h
      case isTrue hcontainer =>
        rcases List.mem_append.mp h with h | h
        case inr => cases List.mem_singleton.mp h
        cases hd : descent true (doc.element j) with
        | skip =>
          rw [hd] at h
          cases h
        | children =>
          rw [hd] at h
          obtain ⟨c, hc, hmem⟩ := List.mem_flatMap.mp h
          obtain ⟨hlt, -⟩ := linked.parent_lt (linked.mem_children_iff.mp hc)
          obtain ⟨depth', before, after, hdepth', heq⟩ := ih c (by omega) hmem
          obtain ⟨left, right, hchildren⟩ := List.append_of_mem hc
          refine ⟨depth', .enter j :: (left.flatMap (tourTo doc depth) ++ before),
            after ++ right.flatMap (tourTo doc depth) ++ [.leave j], hdepth', ?_⟩
          rw [tourTo, if_pos hcontainer, hd]
          simp only [hchildren, List.flatMap_append, List.flatMap_cons, heq, List.append_assoc,
            List.cons_append]

end

/-! ### Streams that take everything -/

theorem keeps_buffer : Stream.buffer.Keeps id :=
  ⟨fun piece s => ⟨s ++ piece, rfl, rfl⟩, fun s => ⟨s, rfl, rfl⟩⟩

theorem play_of_keeps {stream : Stream σ} {text : σ → String} (h : stream.Keeps text)
    (entries : List Entry) (s : σ) :
    ∃ s', play stream entries s = (none, s') ∧
      text s' = text s ++ String.join (entries.map Entry.html) := by
  induction entries generalizing s with
  | nil => exact ⟨s, rfl, String.append_empty.symm⟩
  | cons e rest ih =>
    obtain ⟨s', hput, htext⟩ := h.putAll e.pieces s
    obtain ⟨s'', hrest, htext'⟩ := ih s'
    refine ⟨s'', ?_, ?_⟩
    · rw [play, hput]
      exact hrest
    · rw [htext', htext, List.map_cons, String.join_cons, ← String.append_assoc, Entry.html]

/-! ### The walk makes the visits of the tour -/

namespace Rendering

instance : LawfulMonad (Rendering σ) :=
  LawfulMonad.mk' _
    (fun m => by
      funext kept
      change (match m kept with
        | (.ok a, kept) => (.ok a, kept)
        | (.error message, kept) => (.error message, kept)) = m kept
      rcases m kept with ⟨_ | _, _⟩ <;> rfl)
    (fun _ _ => rfl)
    (fun m k k' => by
      funext kept
      simp only [bind_apply]
      rcases m kept with ⟨_ | _, _⟩ <;> rfl)

/-- Makes visits one after the other. -/
def makeVisits (stream : Stream σ) (hook : Hook σ) (doc : Document) (visits : List Visit) :
    Rendering σ Unit :=
  visits.forM fun v => do
    let _ ← visited stream hook doc v.node v.entering

section

variable {stream : Stream σ} {script : Script} {doc : Document}

theorem makeVisits_cons (hook : Hook σ) (v : Visit) (rest : List Visit) :
    makeVisits stream hook doc (v :: rest) =
      (visited stream hook doc v.node v.entering >>= fun _ =>
        makeVisits stream hook doc rest) := by
  change ((visited stream hook doc v.node v.entering >>= fun _ => pure ()) >>= _) = _
  rw [bind_assoc]
  rfl

theorem makeVisits_append (hook : Hook σ) (visits visits' : List Visit) :
    makeVisits stream hook doc (visits ++ visits') =
      (makeVisits stream hook doc visits >>= fun _ => makeVisits stream hook doc visits') :=
  List.forM_append

/-- A visit with the hook of a script. -/
theorem visited_hook_apply (i : Nat) (entering : Bool) (ids : HeadingIds) (s : σ) :
    visited stream (script.hook stream) doc i entering (ids, s) =
      match script doc i entering with
      | none =>
        match stream.putAll (markup doc i entering ids).1 s with
        | (none, s) => (.ok (descent entering (doc.element i)), (markup doc i entering ids).2, s)
        | (some message, s) => (.error message, (markup doc i entering ids).2, s)
      | some (pieces, d) =>
        match stream.putAll pieces s with
        | (none, s) => (.ok d, ids, s)
        | (some _, s) => (.ok .children, ids, s) := by
  rw [visited_apply, visit, Script.hook]
  cases script doc i entering with
  | none =>
    simp only [Answer.declined]
    rcases stream.putAll (markup doc i entering ids).1 s with ⟨_ | message, s'⟩ <;> rfl
  | some taken =>
    simp only
    rcases stream.putAll taken.1 s with ⟨_ | message, s'⟩ <;> rfl

/-- After a first visit to a container the walk goes on as the element says, whoever writes it. -/
theorem visited_bind {α : Type} (h : script.KeepsTour doc) {i : Nat}
    (hcontainer : (doc.element i).isContainer) (k : Descent → Rendering σ α) :
    (visited stream (script.hook stream) doc i true >>= k) =
      (visited stream (script.hook stream) doc i true >>= fun _ =>
        k (descent true (doc.element i))) := by
  funext ⟨ids, s⟩
  rw [bind_apply, bind_apply, visited_hook_apply]
  cases hscript : script doc i true with
  | none =>
    simp only
    rcases stream.putAll (markup doc i true ids).1 s with ⟨_ | message, s'⟩ <;> rfl
  | some taken =>
    obtain ⟨pieces, d⟩ := taken
    obtain ⟨hd, helement⟩ := h i pieces d hcontainer hscript
    -- a failure to write lets the children follow, as the element does
    rw [hd, helement]
    simp only
    rcases stream.putAll pieces s with ⟨_ | message, s'⟩ <;> rfl

theorem forM_makeVisits (hook : Hook σ) {f : Nat → Rendering σ Unit}
    {visits : Nat → List Visit} {is : List Nat}
    (h : ∀ i ∈ is, f i = makeVisits stream hook doc (visits i)) :
    is.forM f = makeVisits stream hook doc (is.flatMap visits) := by
  induction is with
  | nil => rfl
  | cons i rest ih =>
    have hrest := ih fun j hj => h j (List.mem_cons_of_mem i hj)
    rw [List.flatMap_cons, makeVisits_append, ← hrest, ← h i List.mem_cons_self]
    rfl

theorem walkNode_eq_makeVisits (stream : Stream σ) (linked : doc.Linked) (h : script.KeepsTour doc)
    (depth i : Nat) (hi : i < doc.size) (hdepth : doc.size ≤ i + depth) :
    walkNode stream (script.hook stream) linked i =
      makeVisits stream (script.hook stream) doc (tourTo doc depth i) := by
  induction depth generalizing i with
  | zero => omega
  | succ depth ih =>
    have hchildren : (doc.children i).forM (walkNode stream (script.hook stream) linked) =
        makeVisits stream (script.hook stream) doc
          ((doc.children i).flatMap (tourTo doc depth)) := by
      refine forM_makeVisits _ fun c hc => ?_
      -- children have greater numbers than their parent, so there is depth left for them
      obtain ⟨hlt, hsize⟩ := linked.parent_lt (linked.mem_children_iff.mp hc)
      exact ih c hsize (by omega)
    rw [walkNode_eq, tourTo, makeVisits_cons]
    cases hcontainer : (doc.element i).isContainer with
    | false => rfl
    | true =>
      rw [visited_bind h hcontainer]
      refine congrArg (visited stream (script.hook stream) doc i true >>= ·) (funext fun _ => ?_)
      cases descent true (doc.element i) with
      | children =>
        simp only [if_true]
        rw [makeVisits_append, ← hchildren, makeVisits_cons]
        rfl
      | skip =>
        simp only [if_true, reduceCtorEq, if_false]
        rw [List.nil_append, makeVisits_cons]
        rfl

/-- Making visits plays their entries. -/
theorem makeVisits_apply (stream : Stream σ) (script : Script) (doc : Document)
    (visits : List Visit) (ids : HeadingIds) (s : σ) :
    ∃ ids', makeVisits stream (script.hook stream) doc visits (ids, s) =
        (match play stream (script.entries doc ids visits) s with
          | (none, s) => (.ok (), ids', s)
          | (some message, s) => (.error message, ids', s)) ∧
      ((play stream (script.entries doc ids visits) s).1 = none →
        ids' = visits.foldl (script.countsAfter doc) ids) := by
  induction visits generalizing ids s with
  | nil => exact ⟨ids, rfl, fun _ => rfl⟩
  | cons v rest ih =>
    rw [makeVisits_cons, bind_apply, visited_hook_apply, Script.entries, play, Script.entry,
      List.foldl_cons, Script.countsAfter]
    cases script doc v.node v.entering with
    | none =>
      simp only
      rcases stream.putAll (markup doc v.node v.entering ids).1 s with ⟨_ | message, s'⟩
      · exact ih (markup doc v.node v.entering ids).2 s'
      · exact ⟨_, rfl, fun hplay => by cases hplay⟩
    | some taken =>
      -- the walk goes on whether or not the pieces were written
      simp only
      rcases stream.putAll taken.1 s with ⟨_ | message, s'⟩
      · exact ih ids s'
      · exact ih ids s'

end

end Rendering

/-- Rendering plays the transcript, on every stream. -/
theorem render_eq_perform (stream : Stream σ) {script : Script} (events : List Event)
    (h : script.KeepsTour (.ofEvents events)) (ids : HeadingIds) (s : σ) :
    ∃ ids', render stream (script.hook stream) (.ofEvents events) ids s =
        ((perform stream (script.transcript (.ofEvents events) ids) s).1, ids',
          (perform stream (script.transcript (.ofEvents events) ids) s).2) ∧
      ((play stream (script.transcript (.ofEvents events) ids) s).1 = none →
        ids' = script.finalCounts (.ofEvents events) ids) := by
  have linked := Document.linked_ofEvents events
  have hwalk := Rendering.walkNode_eq_makeVisits stream linked h _ 0 linked.size_pos
    (Nat.le_of_eq (Nat.zero_add _).symm)
  obtain ⟨ids', hmake, hids⟩ :=
    Rendering.makeVisits_apply stream script (.ofEvents events) (tour (.ofEvents events)) ids s
  refine ⟨ids', ?_, hids⟩
  rw [Rendering.render_eq_outcome stream _ linked (Document.preorder_ofEvents events),
    Rendering.outcome, Rendering.walkDocument, Rendering.bind_apply, hwalk, ← tour, hmake, perform,
    Script.transcript]
  rcases play stream (script.entries (.ofEvents events) ids (tour (.ofEvents events))) s with
    ⟨_ | message, s'⟩
  · simp only [Rendering.attempt_apply]
    rcases stream.flush s' with ⟨_ | message, s''⟩ <;> rfl
  · rfl

/-- On a stream that never fails all of the transcript is written. -/
theorem render_eq_transcript {stream : Stream σ} {text : σ → String} (hstream : stream.Keeps text)
    {script : Script} (events : List Event) (h : script.KeepsTour (.ofEvents events))
    (ids : HeadingIds) (s : σ) :
    ∃ s', render stream (script.hook stream) (.ofEvents events) ids s =
        (none, script.finalCounts (.ofEvents events) ids, s') ∧
      text s' = text s ++
        String.join ((script.transcript (.ofEvents events) ids).map Entry.html) := by
  obtain ⟨s', hplay, htext⟩ := play_of_keeps hstream (script.transcript (.ofEvents events) ids) s
  obtain ⟨s'', hflush, htext'⟩ := hstream.flush s'
  obtain ⟨ids', hrender, hids⟩ := render_eq_perform stream events h ids s
  refine ⟨s'', ?_, by rw [htext', htext]⟩
  rw [hrender, hids (by rw [hplay]), perform, hplay]
  simp only [hflush]

/-! ### The hooks of this library -/

theorem keepsTour_none (doc : Document) : Script.none.KeepsTour doc := by
  intro i pieces d _ h
  cases h

theorem hook_none (stream : Stream σ) : Script.none.hook stream = noHook := rfl

theorem hook_output (highlighter : Highlight.Highlighter) (stream : Stream σ) (theme : String) :
    Script.hook (Github.output highlighter theme) stream =
      Github.hookWith highlighter stream theme := rfl

theorem keepsTour_output (highlighter : Highlight.Highlighter) (theme : String) (doc : Document) :
    Script.KeepsTour (Github.output highlighter theme) doc := by
  intro i pieces d hcontainer h
  have hd : d = .children := Github.descent_of_taken hcontainer h
  have hdescent := @Github.writtenDescent_eq highlighter theme doc i hcontainer
  rw [Github.writtenDescent, h] at hdescent
  exact ⟨hd, hdescent.symm.trans hd⟩

end MarkdownPreview.Render
