import Mathlib.Data.List.Nodup
import MarkdownPreview.Proofs.Render.Transcript

/-!
The identifiers that headings are assigned. Over any number of documents no two of them are the
same, unless the slug of one heading reads as the slug of another with a number after it: the
counts know slugs only, and not the identifiers that were made from them.
-/

namespace MarkdownPreview

namespace HeadingIds

/-- The identifiers of texts that come one after the other. -/
def assignAll (ids : HeadingIds) : List String → List String
  | [] => []
  | text :: rest => (ids.assign text).1 :: (ids.assign text).2.assignAll rest

/-- A heading's slug reads as the identifier of a later heading of another slug: the slug with a
number after it, where there are more than that many headings of it. -/
def Clash (slugs : List String) (slug numbered : String) : Prop :=
  ∃ n, 0 < n ∧ n < slugs.count slug ∧ numbered = slug ++ "-" ++ toString n

/-! ### Counts -/

theorem lookup_map_bump (counts : List (String × Nat)) (slug slug' : String) :
    (counts.map fun (s, n) => if s == slug then (s, n + 1) else (s, n)).lookup slug' =
      (counts.lookup slug').map fun n => if slug' = slug then n + 1 else n := by
  induction counts with
  | nil => rfl
  | cons first rest ih =>
    obtain ⟨s, n⟩ := first
    rw [List.map_cons, List.lookup_cons, List.lookup_cons, ih]
    by_cases hs : slug' = s
    · subst hs
      by_cases heq : slug' = slug <;> simp [heq]
    · by_cases heq : s = slug
      · subst heq
        simp [hs, beq_false_of_ne]
      · simp [hs, heq, beq_false_of_ne]

theorem lookup_eq_none_of_any {counts : List (String × Nat)} {slug : String}
    (h : ¬ counts.any (·.1 == slug)) : counts.lookup slug = none := by
  rw [List.lookup_eq_none_iff]
  intro entry hentry
  rw [bne_iff_ne]
  rintro rfl
  exact h (List.any_eq_true.mpr ⟨entry, hentry, beq_self_eq_true _⟩)

theorem count_bump (ids : HeadingIds) (slug slug' : String) :
    (ids.bump slug).count slug' = ids.count slug' + if slug' = slug then 1 else 0 := by
  unfold bump count
  split
  case isTrue hany =>
    simp only [lookup_map_bump]
    cases hlookup : ids.counts.lookup slug' with
    | some n => by_cases heq : slug' = slug <;> simp [heq]
    | none =>
      -- a slug that was counted is found
      have hne : slug' ≠ slug := by
        rintro rfl
        obtain ⟨entry, hentry, hbeq⟩ := List.any_eq_true.mp hany
        have hnone := List.lookup_eq_none_iff.mp hlookup entry hentry
        exact bne_iff_ne.mp hnone (beq_iff_eq.mp hbeq).symm
      simp [hne]
  case isFalse hany =>
    simp only [List.lookup_append]
    by_cases heq : slug' = slug
    · subst heq
      simp [lookup_eq_none_of_any hany]
    · simp [heq, List.lookup_cons, beq_false_of_ne]

/-! ### Identifiers -/

theorem dash_notMem_toString (n : Nat) : '-' ∉ (toString n).toList := by
  intro hmem
  have hdigit := Render.isDigit_of_mem_toString n '-' hmem
  cases hdigit

/-- What stands after the last dash of a text is determined, and so is what stands before it. -/
theorem append_dash_inj {front front' back back' : List Char} (hback : '-' ∉ back)
    (hback' : '-' ∉ back') (h : front ++ '-' :: back = front' ++ '-' :: back') :
    front = front' ∧ back = back' := by
  rcases List.append_eq_append_iff.mp h with ⟨more, hfront, hrest⟩ | ⟨more, hfront, hrest⟩
  · cases more with
    | nil => exact ⟨by rw [hfront, List.append_nil], (List.cons.inj hrest).2⟩
    | cons c more =>
      refine absurd ?_ hback
      rw [(List.cons.inj hrest).2]
      exact List.mem_append_right _ List.mem_cons_self
  · cases more with
    | nil => exact ⟨by rw [hfront, List.append_nil], (List.cons.inj hrest).2.symm⟩
    | cons c more =>
      refine absurd ?_ hback'
      rw [(List.cons.inj hrest).2]
      exact List.mem_append_right _ List.mem_cons_self

theorem toString_nat_inj {n n' : Nat} (h : toString n = toString n') : n = n' := by
  have hdigits : Nat.toDigits 10 n = Nat.toDigits 10 n' := by
    rw [← Render.toList_toString, ← Render.toList_toString, h]
  have hread := congrArg (fun digits => Nat.ofDigitChars 10 digits 0) hdigits
  simpa using hread

theorem numbered_inj {slug slug' : String} {n n' : Nat}
    (h : slug ++ "-" ++ toString n = slug' ++ "-" ++ toString n') : slug = slug' ∧ n = n' := by
  have hlist : slug.toList ++ '-' :: (toString n).toList =
      slug'.toList ++ '-' :: (toString n').toList := by
    have h' := congrArg String.toList h
    simpa using h'
  obtain ⟨hslug, hnumber⟩ :=
    append_dash_inj (dash_notMem_toString n) (dash_notMem_toString n') hlist
  exact ⟨String.toList_inj.mp hslug, toString_nat_inj (String.toList_inj.mp hnumber)⟩

theorem identifier_eq_ite (slug : String) (n : Nat) :
    identifier slug n = if n = 0 then slug else slug ++ "-" ++ toString n := by
  cases n <;> rfl

theorem identifier_of_pos (slug : String) {n : Nat} (h : 0 < n) :
    identifier slug n = slug ++ "-" ++ toString n := by
  rw [identifier_eq_ite, if_neg h.ne']

/-- When two identifiers are the same. -/
theorem identifier_eq_identifier_iff {slug slug' : String} {n n' : Nat} :
    identifier slug n = identifier slug' n' ↔
      (slug = slug' ∧ n = n') ∨
      (n = 0 ∧ 0 < n' ∧ slug = slug' ++ "-" ++ toString n') ∨
      (n' = 0 ∧ 0 < n ∧ slug' = slug ++ "-" ++ toString n) := by
  rcases Nat.eq_zero_or_pos n with rfl | hn
  · rcases Nat.eq_zero_or_pos n' with rfl | hn'
    · simp [identifier]
    · simp [identifier, hn', hn'.ne, hn'.ne']
  · rcases Nat.eq_zero_or_pos n' with rfl | hn'
    · simp [identifier, hn, hn.ne', eq_comm]
    · rw [identifier_of_pos slug hn, identifier_of_pos slug' hn']
      constructor
      · exact fun h => .inl (numbered_inj h)
      · rintro (⟨rfl, rfl⟩ | ⟨rfl, -⟩ | ⟨rfl, -⟩)
        · rfl
        · cases hn
        · cases hn'

/-- Each identifier is that of its text's slug and of how often the slug came before. -/
theorem getElem?_assignAll (ids : HeadingIds) (texts : List String) (p : Nat) :
    (ids.assignAll texts)[p]? = texts[p]?.map fun text =>
      identifier (Slug.slugify text) (ids.count (Slug.slugify text) +
        ((texts.take p).map Slug.slugify).count (Slug.slugify text)) := by
  induction texts generalizing ids p with
  | nil => rfl
  | cons text rest ih =>
    cases p with
    | zero => rfl
    | succ p =>
      rw [assignAll, List.getElem?_cons_succ, ih, List.getElem?_cons_succ]
      refine Option.map_congr fun later _ => ?_
      rw [assign, count_bump, List.take_succ_cons, List.map_cons, List.count_cons]
      simp only [beq_iff_eq, eq_comm (a := Slug.slugify text)]
      rw [Nat.add_right_comm, Nat.add_assoc]

theorem count_take_lt {slugs : List String} {p : Nat} {slug : String} (h : slugs[p]? = some slug) :
    (slugs.take p).count slug < slugs.count slug := by
  obtain ⟨hp, heq⟩ := List.getElem?_eq_some_iff.mp h
  have hsplit := List.take_append_drop p slugs
  rw [← List.getElem_cons_drop hp, heq] at hsplit
  have hcount := congrArg (List.count slug) hsplit
  rw [List.count_append, List.count_cons_self] at hcount
  omega

/-- A slug was counted at each of its places before. -/
theorem count_take_lt_count_take {slugs : List String} {p q : Nat} {slug : String} (hpq : p < q)
    (h : slugs[p]? = some slug) : (slugs.take p).count slug < (slugs.take q).count slug := by
  have hlt : ((slugs.take q).take p).count slug < (slugs.take q).count slug :=
    count_take_lt (by rw [List.getElem?_take_of_lt hpq, h])
  rw [List.take_take, Nat.min_eq_left hpq.le] at hlt
  exact hlt

/-- At two places of a list of slugs, the identifiers are the same only if one of the slugs is the
first of its kind and reads as the other one with its number. -/
theorem identifier_eq_iff_of_ne {slugs : List String} {p q : Nat} (hpq : p ≠ q)
    {slug slug' : String} (hp : slugs[p]? = some slug) (hq : slugs[q]? = some slug') :
    let n := (slugs.take p).count slug
    let n' := (slugs.take q).count slug'
    identifier slug n = identifier slug' n' ↔
      (n = 0 ∧ 0 < n' ∧ slug = slug' ++ "-" ++ toString n') ∨
      (n' = 0 ∧ 0 < n ∧ slug' = slug ++ "-" ++ toString n) := by
  intro n n'
  rw [identifier_eq_identifier_iff]
  apply or_iff_right
  rintro ⟨rfl, hcount⟩
  -- the count of a slug goes up with every place
  rcases Nat.lt_or_gt_of_ne hpq with hlt | hlt
  · exact absurd hcount (Nat.ne_of_lt (count_take_lt_count_take hlt hp))
  · exact absurd hcount (Nat.ne_of_gt (count_take_lt_count_take hlt hq))

/-- Every number below the count of a slug is that of one of its places. -/
theorem exists_count_take_eq {slugs : List String} {slug : String} {n : Nat}
    (h : n < slugs.count slug) :
    ∃ p, slugs[p]? = some slug ∧ (slugs.take p).count slug = n := by
  induction slugs generalizing n with
  | nil => cases h
  | cons first rest ih =>
    by_cases hfirst : first = slug
    · subst hfirst
      cases n with
      | zero => exact ⟨0, rfl, rfl⟩
      | succ n =>
        rw [List.count_cons_self, Nat.succ_lt_succ_iff] at h
        obtain ⟨p, hp, hcount⟩ := ih h
        exact ⟨p + 1, hp, by rw [List.take_succ_cons, List.count_cons_self, hcount]⟩
    · rw [List.count_cons_of_ne hfirst] at h
      obtain ⟨p, hp, hcount⟩ := ih h
      exact ⟨p + 1, hp, by rw [List.take_succ_cons, List.count_cons_of_ne hfirst, hcount]⟩

theorem ne_numbered (slug : String) (n : Nat) : slug ≠ slug ++ "-" ++ toString n := by
  intro h
  have hlength := congrArg String.length h
  have hdash : "-".length = 1 := rfl
  rw [String.length_append, String.length_append, hdash] at hlength
  omega

theorem length_assignAll (ids : HeadingIds) (texts : List String) :
    (ids.assignAll texts).length = texts.length := by
  induction texts generalizing ids with
  | nil => rfl
  | cons text rest ih => rw [assignAll, List.length_cons, List.length_cons, ih]

theorem getElem?_assignAll_empty {texts : List String} {p : Nat} {slug : String}
    (h : (texts.map Slug.slugify)[p]? = some slug) :
    (assignAll {} texts)[p]? =
      some (identifier slug (((texts.map Slug.slugify).take p).count slug)) := by
  rw [List.getElem?_map] at h
  obtain ⟨text, htext, rfl⟩ := Option.map_eq_some_iff.mp h
  rw [getElem?_assignAll, htext, List.map_take]
  simp [count]

theorem not_clash_of_nodup {texts : List String} (hnodup : (assignAll {} texts).Nodup)
    {a b : String} (ha : a ∈ texts) :
    ¬ Clash (texts.map Slug.slugify) (Slug.slugify b) (Slug.slugify a) := by
  intro ⟨n, hpos, hlt, heq⟩
  -- the first heading of the one slug and a later one of the other have the same identifier
  have hcount : 0 < (texts.map Slug.slugify).count (Slug.slugify a) :=
    List.count_pos_iff.mpr (List.mem_map_of_mem ha)
  obtain ⟨p, hp, hzero⟩ := exists_count_take_eq hcount
  obtain ⟨q, hq, hn⟩ := exists_count_take_eq hlt
  have hidp := getElem?_assignAll_empty hp
  have hidq := getElem?_assignAll_empty hq
  rw [hn, identifier_of_pos _ hpos, ← heq] at hidq
  rw [hzero, identifier] at hidp
  have hplace : p = q := (List.getElem?_inj (List.getElem?_eq_some_iff.mp hidp).1 hnodup).mp
    (hidp.trans hidq.symm)
  rw [hplace, hq, Option.some_inj] at hp
  exact ne_numbered _ n (hp.trans heq)

theorem nodup_of_not_clash {texts : List String}
    (h : ∀ a ∈ texts, ∀ b ∈ texts,
      ¬ Clash (texts.map Slug.slugify) (Slug.slugify b) (Slug.slugify a)) :
    (assignAll {} texts).Nodup := by
  have hslug {p : Nat} (hp : p < texts.length) :
      (texts.map Slug.slugify)[p]? = some (Slug.slugify texts[p]) := by
    rw [List.getElem?_map, List.getElem?_eq_getElem hp, Option.map_some]
  rw [List.nodup_iff_getElem?_ne_getElem?]
  intro p q hpq hq hsame
  rw [length_assignAll] at hq
  have hp : p < texts.length := Nat.lt_trans hpq hq
  rw [getElem?_assignAll_empty (hslug hp), getElem?_assignAll_empty (hslug hq), Option.some_inj]
    at hsame
  rcases (identifier_eq_iff_of_ne hpq.ne (hslug hp) (hslug hq)).mp hsame with ⟨-, hpos, heq⟩ | ⟨-, hpos, heq⟩
  · exact h _ (List.getElem_mem hp) _ (List.getElem_mem hq)
      ⟨_, hpos, count_take_lt (hslug hq), heq⟩
  · exact h _ (List.getElem_mem hq) _ (List.getElem_mem hp)
      ⟨_, hpos, count_take_lt (hslug hp), heq⟩

/-- From the empty counts on, identifiers are all different if and only if no slugs clash. -/
theorem nodup_assignAll_iff (texts : List String) :
    (assignAll {} texts).Nodup ↔
      ∀ a ∈ texts, ∀ b ∈ texts,
        ¬ Clash (texts.map Slug.slugify) (Slug.slugify b) (Slug.slugify a) :=
  ⟨fun hnodup _ ha _ _ => not_clash_of_nodup hnodup ha, nodup_of_not_clash⟩

end HeadingIds

namespace Render

variable {σ : Type}

/-- The text of a heading that is assigned an identifier at a visit. -/
def assignedText? (script : Script) (doc : Document) : Visit → Option String
  | .enter i =>
    match script doc i true, doc.element i with
    | none, .heading _ none _ => some (doc.plainText i)
    | _, _ => none
  | .leave _ => none

/-- The texts of the headings that are assigned identifiers, in order. -/
def assignedTexts (script : Script) (doc : Document) : List String :=
  (tour doc).filterMap (assignedText? script doc)

theorem assigned_entry (script : Script) (doc : Document) (ids : HeadingIds) (v : Visit) :
    (script.entry doc ids v).assigned =
        (assignedText? script doc v).map (fun text => (ids.assign text).1) ∧
      script.countsAfter doc ids v =
        ((assignedText? script doc v).map (fun text => (ids.assign text).2)).getD ids := by
  unfold Script.entry Script.countsAfter assignedText? markup assigned?
  cases v with
  | enter i =>
    simp only [Visit.node, Visit.entering]
    cases script doc i true with
    | some taken => exact ⟨rfl, rfl⟩
    | none =>
      cases doc.element i with
      | heading level id classes => cases id <;> exact ⟨rfl, rfl⟩
      | _ => exact ⟨rfl, rfl⟩
  | leave i =>
    simp only [Visit.node, Visit.entering]
    cases script doc i false with
    | some taken => exact ⟨rfl, rfl⟩
    | none => cases doc.element i <;> exact ⟨rfl, rfl⟩

/-- The identifiers in a transcript are those of the headings' texts, in order. -/
theorem assigned_entries (script : Script) (doc : Document) (ids : HeadingIds)
    (visits : List Visit) (rest : List String) :
    (script.entries doc ids visits).filterMap Entry.assigned ++
        (visits.foldl (script.countsAfter doc) ids).assignAll rest =
      ids.assignAll (visits.filterMap (assignedText? script doc) ++ rest) := by
  induction visits generalizing ids with
  | nil => rfl
  | cons v visits ih =>
    obtain ⟨hassigned, hcounts⟩ := assigned_entry script doc ids v
    rw [Script.entries, List.foldl_cons, List.filterMap_cons, List.filterMap_cons, hassigned]
    cases htext : assignedText? script doc v with
    | none =>
      rw [htext] at hcounts
      simp only [Option.map_none]
      rw [ih, hcounts]
      rfl
    | some text =>
      rw [htext] at hcounts
      simp only [Option.map_some, List.cons_append]
      rw [ih, hcounts]
      rfl

/-- A heading's identifier is written in its opening tag. -/
def ShowsIdentifier (doc : Document) (e : Entry) : Prop :=
  ∀ i level classes, e.visit = .enter i → e.taken = false →
    doc.element i = .heading level none classes →
    ∃ id, e.assigned = some id ∧
      e.html = "<h" ++ toString level ++ attr "id" id ++ markup.classAttribute classes ++ ">"

theorem showsIdentifier_entry (script : Script) (doc : Document) (ids : HeadingIds) (v : Visit) :
    ShowsIdentifier doc (script.entry doc ids v) := by
  intro i level classes hvisit htaken helement
  unfold Script.entry at hvisit htaken ⊢
  split at htaken
  case h_1 => cases htaken
  case h_2 hscript =>
    rw [hscript] at hvisit
    change v = .enter i at hvisit
    subst hvisit
    refine ⟨(ids.assign (doc.plainText i)).1, ?_, ?_⟩
    · simp only [assigned?, helement]
    · simp only [Entry.html, markup, Visit.node, Visit.entering, helement, if_true]
      rw [String.join_cons, String.join_nil, String.append_empty]

/-! ### Several documents -/

/-- Documents rendered one after the other. The heading counts go from one to the next. -/
def renderAll (stream : Stream σ) (hook : Hook σ) :
    List Document → HeadingIds → σ → Option String × HeadingIds × σ
  | [], ids, s => (none, ids, s)
  | doc :: rest, ids, s =>
    match render stream hook doc ids s with
    | (none, ids, s) => renderAll stream hook rest ids s
    | (some message, ids, s) => (some message, ids, s)

/-- The transcripts of documents that are rendered one after the other, each with its document. -/
def Script.transcripts (script : Script) : HeadingIds → List Document → List (Document × List Entry)
  | _, [] => []
  | ids, doc :: rest =>
    (doc, script.transcript doc ids) :: script.transcripts (script.finalCounts doc ids) rest

/-- All identifiers that were assigned, in order. -/
def assignedIn (transcripts : List (Document × List Entry)) : List String :=
  transcripts.flatMap fun t => t.2.filterMap Entry.assigned

theorem renderAll_eq_transcripts {stream : Stream σ} {text : σ → String}
    (hstream : stream.Keeps text) {script : Script} {documents : List (List Event)}
    (h : ∀ events ∈ documents, script.KeepsTour (.ofEvents events)) (ids : HeadingIds) (s : σ) :
    ∃ ids' s', renderAll stream (script.hook stream) (documents.map Document.ofEvents) ids s =
        (none, ids', s') ∧
      text s' = text s ++ String.join
        ((script.transcripts ids (documents.map Document.ofEvents)).flatMap fun t =>
          t.2.map Entry.html) := by
  induction documents generalizing ids s with
  | nil => exact ⟨ids, s, rfl, String.append_empty.symm⟩
  | cons events rest ih =>
    obtain ⟨s', hrender, htext⟩ :=
      render_eq_transcript hstream events (h events List.mem_cons_self) ids s
    obtain ⟨ids'', s'', hrest, htext'⟩ :=
      ih (fun events' hmem => h events' (List.mem_cons_of_mem events hmem))
        (script.finalCounts (.ofEvents events) ids) s'
    refine ⟨ids'', s'', ?_, ?_⟩
    · rw [List.map_cons, renderAll, hrender]
      exact hrest
    · rw [htext', htext, List.map_cons, Script.transcripts, List.flatMap_cons, String.join_append,
        ← String.append_assoc]

theorem assignedIn_transcripts (script : Script) (docs : List Document) (ids : HeadingIds) :
    assignedIn (script.transcripts ids docs) =
      ids.assignAll (docs.flatMap (assignedTexts script)) := by
  induction docs generalizing ids with
  | nil => rfl
  | cons doc rest ih =>
    rw [Script.transcripts, assignedIn, List.flatMap_cons, ← assignedIn, ih, List.flatMap_cons,
      assignedTexts, ← assigned_entries]
    rfl

theorem showsIdentifier_transcripts {script : Script} {docs : List Document} {ids : HeadingIds}
    {t : Document × List Entry} (h : t ∈ script.transcripts ids docs) {e : Entry} (he : e ∈ t.2) :
    ShowsIdentifier t.1 e := by
  induction docs generalizing ids with
  | nil => cases h
  | cons doc rest ih =>
    rcases List.mem_cons.mp h with rfl | hrest
    · obtain ⟨-, ids', hentry⟩ := exists_entry_eq he
      rw [hentry]
      exact showsIdentifier_entry script doc ids' e.visit
    · exact ih hrest

/-- Over documents rendered one after the other, every heading that is assigned an identifier shows
it in its opening tag. The identifiers are all different if and only if no heading's slug reads as
the identifier of a later heading of another slug. -/
theorem nodup_assignedIn_iff (stream : Stream σ) (text : σ → String) (hstream : stream.Keeps text)
    (script : Script) (documents : List (List Event))
    (hkeeps : ∀ events ∈ documents, script.KeepsTour (.ofEvents events)) (s : σ) :
    (∃ ids' s', renderAll stream (script.hook stream) (documents.map Document.ofEvents) {} s =
        (none, ids', s') ∧
      text s' = text s ++ String.join
        ((script.transcripts {} (documents.map Document.ofEvents)).flatMap fun t =>
          t.2.map Entry.html)) ∧
    (∀ t ∈ script.transcripts {} (documents.map Document.ofEvents), ∀ e ∈ t.2,
      ShowsIdentifier t.1 e) ∧
    ((assignedIn (script.transcripts {} (documents.map Document.ofEvents))).Nodup ↔
      let texts := (documents.map Document.ofEvents).flatMap (assignedTexts script)
      ∀ a ∈ texts, ∀ b ∈ texts,
        ¬ HeadingIds.Clash (texts.map Slug.slugify) (Slug.slugify b) (Slug.slugify a)) := by
  refine ⟨renderAll_eq_transcripts hstream hkeeps {} s, ?_, ?_⟩
  · exact fun t ht e he => showsIdentifier_transcripts ht he
  · rw [assignedIn_transcripts]
    exact HeadingIds.nodup_assignAll_iff _

/-- Two documents that share a heading, under the hook. -/
theorem not_clash_two_documents :
    let documents : List (List Event) :=
      [["Intro", "Intro"].flatMap fun text => (Tag.heading 2 none []).around [.text text],
        ["intro 3", "Intro"].flatMap fun text => (Tag.heading 1 none []).around [.text text]]
    let texts := (documents.map Document.ofEvents).flatMap
      (assignedTexts (Github.output Highlight.highlighter "light"))
    ∀ a ∈ texts, ∀ b ∈ texts,
      ¬ HeadingIds.Clash (texts.map Slug.slugify) (Slug.slugify b) (Slug.slugify a) := by
  intro documents
  have h := nodup_assignedIn_iff Stream.buffer id keeps_buffer
    (Github.output Highlight.highlighter "light") documents
    (fun _ _ => keepsTour_output _ _ _) ""
  exact h.2.2.mp (by decide +kernel)

/-- The third heading's slug is the identifier of the second one. -/
theorem not_pairwise_ne_assignedIn :
    (render Stream.buffer noHook (.ofEvents (["a", "a", "a-1"].flatMap fun text =>
      (Tag.heading 2 none []).around [.text text])) {} "").2.2 =
        "<h2 id=\"a\">a</h2>\n<h2 id=\"a-1\">a</h2>\n<h2 id=\"a-1\">a-1</h2>\n" ∧
    ¬ ∀ documents : List (List Event),
      (assignedIn (Script.none.transcripts {} (documents.map Document.ofEvents))).Pairwise
        fun a b => a ≠ "" → b ≠ "" → a ≠ b := by
  refine ⟨by decide, fun h => ?_⟩
  have hclash := h [["a", "a", "a-1"].flatMap fun text =>
    (Tag.heading 2 none []).around [.text text]]
  revert hclash
  decide +kernel

end Render

end MarkdownPreview
