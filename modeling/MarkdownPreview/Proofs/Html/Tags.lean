import MarkdownPreview.Html.Escape

/-!
Balanced markup. A reader goes over markup character by character and keeps the elements that are
open, the innermost one first. It knows no tags but those the renderer writes, wants attribute
values in quotes, and takes a closing tag only for the innermost open element. Outside of tags only
`<` means anything; inside a value neither `<` nor `>` may stand.
-/

namespace MarkdownPreview.Html

/-- Elements without content. They have no closing tag. -/
def standaloneNames : List String := ["img", "br", "hr", "input"]

/-- Elements with content, apart from headings. -/
def contentNames : List String :=
  ["p", "blockquote", "pre", "code", "ul", "ol", "li", "table", "thead", "tbody", "tr", "th", "td",
   "em", "strong", "del", "a", "div", "sup", "span", "svg", "path", "script"]

/-- A heading's name is an `h` with the level. -/
def isHeadingName : List Char → Bool
  | 'h' :: level => !level.isEmpty && level.all Char.isDigit
  | _ => false

/-- Where in the markup a reader is. Inside an opening tag it keeps the tag's name. -/
inductive Place
  | text
  | tag
  | opening (read : List Char)
  | gap (name : List Char)
  | key (name : List Char)
  | equals (name : List Char)
  | value (name : List Char)
  | valueEnd (name : List Char)
  | closing (read : List Char)
  deriving DecidableEq, Repr

/-- What a reader does at a character. -/
inductive Action
  | goTo (place : Place)
  | openTag (name : List Char)
  | closeTag (name : List Char)
  deriving DecidableEq, Repr

/-- What a character means at a place; nothing if it must not stand there. -/
def Place.action (place : Place) (c : Char) : Option Action :=
  match place with
  | text => some (.goTo (if c = '<' then .tag else .text))
  | tag =>
    if c = '/' then some (.goTo (.closing []))
    else if c.isAlpha then some (.goTo (.opening [c]))
    else none
  | opening read =>
    if c = '>' then some (.openTag read)
    else if c = ' ' then some (.goTo (.gap read))
    else if c.isAlphanum then some (.goTo (.opening (read ++ [c])))
    else none
  | gap name => if c.isAlpha then some (.goTo (.key name)) else none
  | key name =>
    if c = '>' then some (.openTag name)
    else if c = ' ' then some (.goTo (.gap name))
    else if c = '=' then some (.goTo (.equals name))
    else if c.isAlpha ∨ c = '-' then some (.goTo (.key name))
    else none
  | equals name => if c = '"' then some (.goTo (.value name)) else none
  | value name =>
    if c = '"' then some (.goTo (.valueEnd name))
    else if c = '<' ∨ c = '>' then none
    else some (.goTo (.value name))
  | valueEnd name =>
    if c = '>' then some (.openTag name)
    else if c = ' ' then some (.goTo (.gap name))
    else none
  | closing read =>
    if c = '>' then some (.closeTag read)
    else if c.isAlphanum then some (.goTo (.closing (read ++ [c])))
    else none

structure Reader where
  openNames : List String
  place : Place
  deriving DecidableEq, Repr

namespace Reader

def act (names : List String) : Action → Option Reader
  | .goTo place => some ⟨names, place⟩
  | .openTag name =>
    if isHeadingName name ∨ String.ofList name ∈ contentNames then
      some ⟨String.ofList name :: names, .text⟩
    else if String.ofList name ∈ standaloneNames then some ⟨names, .text⟩
    else none
  | .closeTag name =>
    match names with
    | [] => none
    | innermost :: outer => if String.ofList name = innermost then some ⟨outer, .text⟩ else none

def step (r : Reader) (c : Char) : Option Reader := (r.place.action c).bind (act r.openNames)

/-- Reading all of a text takes a reader to another. -/
def Reads (r : Reader) (s : String) (r' : Reader) : Prop := s.toList.foldlM step r = some r'

instance (r : Reader) (s : String) (r' : Reader) : Decidable (Reads r s r') :=
  inferInstanceAs (Decidable (_ = _))

end Reader

/-- Markup that starts and ends outside of tags, with the elements open before and after it. -/
def Shifts (markup : String) (before after : List String) : Prop :=
  Reader.Reads ⟨before, .text⟩ markup ⟨after, .text⟩

instance (markup : String) (before after : List String) : Decidable (Shifts markup before after) :=
  inferInstanceAs (Decidable (Reader.Reads _ _ _))

/-- Markup whose tags are all known ones and properly nested. -/
def Balanced (markup : String) : Prop := Shifts markup [] []

instance (markup : String) : Decidable (Balanced markup) :=
  inferInstanceAs (Decidable (Shifts _ _ _))

example : Balanced "<p>a &lt; <em>b</em><br></p>" ∧ ¬ Balanced "<p><em></p></em>" := by
  decide

/-- The characters that mean something to a reader outside of tags or inside a value. -/
def specialChars : List Char := ['<', '>', '"']

/-- Text without markup. -/
def Plain (s : String) : Prop := ∀ c ∈ s.toList, c ∉ specialChars

instance (s : String) : Decidable (Plain s) := List.decidableBAll _ s.toList

/-! ### Reading -/

namespace Reader

variable {names : List String} {r r' r'' : Reader} {s t : String}

theorem Reads.empty (r : Reader) : Reads r "" r := rfl

theorem Reads.append (h : Reads r s r') (h' : Reads r' t r'') : Reads r (s ++ t) r'' := by
  unfold Reads at *
  rw [String.toList_append, List.foldlM_append, h]
  exact h'

/-- What is read after a first part. -/
theorem Reads.of_append (h : Reads r (s ++ t) r'') (h' : Reads r s r') : Reads r' t r'' := by
  unfold Reads at *
  rw [String.toList_append, List.foldlM_append, h'] at h
  exact h

/-- The same place, with more open elements around the others. -/
def inside (r : Reader) (outer : List String) : Reader := ⟨r.openNames ++ outer, r.place⟩

theorem act_inside {action : Action} (h : act names action = some r) (outer : List String) :
    act (names ++ outer) action = some (r.inside outer) := by
  cases action with
  | goTo place =>
    cases h
    rfl
  | openTag name =>
    by_cases hcontent : isHeadingName name ∨ String.ofList name ∈ contentNames
    · simp only [act, if_pos hcontent, Option.some_inj] at *
      rw [← h]
      rfl
    · by_cases hstandalone : String.ofList name ∈ standaloneNames
      · simp only [act, if_neg hcontent, if_pos hstandalone, Option.some_inj] at *
        rw [← h]
        rfl
      · simp only [act, if_neg hcontent, if_neg hstandalone, reduceCtorEq] at h
  | closeTag name =>
    -- only the innermost element is looked at
    cases names with
    | nil => cases h
    | cons innermost rest =>
      by_cases hname : String.ofList name = innermost
      · simp only [act, List.cons_append, if_pos hname, Option.some_inj] at *
        rw [← h]
        rfl
      · simp only [act, if_neg hname, reduceCtorEq] at h

theorem foldlM_step_inside {cs : List Char} (h : cs.foldlM step r = some r')
    (outer : List String) : cs.foldlM step (r.inside outer) = some (r'.inside outer) := by
  induction cs generalizing r with
  | nil =>
    cases h
    rfl
  | cons c cs ih =>
    rw [List.foldlM_cons] at *
    obtain ⟨next, hstep, hrest⟩ := Option.bind_eq_some_iff.mp h
    obtain ⟨action, haction, hact⟩ := Option.bind_eq_some_iff.mp hstep
    have hstep' : step (r.inside outer) c = some (next.inside outer) := by
      rw [step, inside, haction]
      exact act_inside hact outer
    rw [hstep']
    exact ih hrest

/-- Reading does not depend on what is open around it. -/
theorem Reads.inside (h : Reads r s r') (outer : List String) :
    Reads (r.inside outer) s (r'.inside outer) :=
  foldlM_step_inside h outer

theorem Reads.ofList {cs : List Char} (h : cs.foldlM step r = some r') :
    Reads r (String.ofList cs) r' := by
  unfold Reads
  rw [String.toList_ofList]
  exact h

theorem foldlM_step_stay {cs : List Char} (h : ∀ c ∈ cs, step r c = some r) :
    cs.foldlM step r = some r := by
  induction cs with
  | nil => rfl
  | cons c cs ih =>
    rw [List.foldlM_cons, h c List.mem_cons_self]
    exact ih fun d hd => h d (List.mem_cons_of_mem c hd)

theorem Reads.text (hs : '<' ∉ s.toList) : Reads ⟨names, .text⟩ s ⟨names, .text⟩ := by
  refine foldlM_step_stay fun c hc => ?_
  have hne : c ≠ '<' := fun heq => hs (heq ▸ hc)
  simp [step, Place.action, act, hne]

theorem Reads.plainText (hs : Plain s) : Reads ⟨names, .text⟩ s ⟨names, .text⟩ :=
  .text fun hmem => hs '<' hmem List.mem_cons_self

theorem Reads.value {name : List Char} (hs : Plain s) :
    Reads ⟨names, .value name⟩ s ⟨names, .value name⟩ := by
  refine foldlM_step_stay fun c hc => ?_
  have hplain := hs c hc
  simp only [specialChars, List.mem_cons, List.not_mem_nil, or_false, not_or] at hplain
  simp [step, Place.action, act, hplain]

/-- Letters and digits go on with a name, of an opening or of a closing tag. -/
theorem foldlM_step_name {names : List String} {place : List Char → Place}
    (hplace : ∀ read c, c.isAlphanum → (place read).action c = some (.goTo (place (read ++ [c]))))
    {cs : List Char} (h : ∀ c ∈ cs, c.isAlphanum) (read : List Char) :
    cs.foldlM step ⟨names, place read⟩ = some ⟨names, place (read ++ cs)⟩ := by
  induction cs generalizing read with
  | nil =>
    rw [List.append_nil]
    rfl
  | cons c cs ih =>
    have hstep : step ⟨names, place read⟩ c = some ⟨names, place (read ++ [c])⟩ := by
      simp only [step, hplace read c (h c List.mem_cons_self), Option.bind_some, act]
    rw [List.foldlM_cons, hstep, List.append_cons read c cs]
    exact ih (fun d hd => h d (List.mem_cons_of_mem c hd)) (read ++ [c])

theorem ne_of_isAlphanum {c d : Char} (h : c.isAlphanum) (hd : d.isAlphanum = false) : c ≠ d := by
  rintro rfl
  rw [hd] at h
  cases h

theorem Reads.openingName (h : ∀ c ∈ s.toList, c.isAlphanum) (read : List Char) :
    Reads ⟨names, .opening read⟩ s ⟨names, .opening (read ++ s.toList)⟩ := by
  refine foldlM_step_name (fun read c hc => ?_) h read
  have hgreater : c ≠ '>' := ne_of_isAlphanum hc rfl
  have hblank : c ≠ ' ' := ne_of_isAlphanum hc rfl
  simp [Place.action, hgreater, hblank, hc]

theorem Reads.closingName (h : ∀ c ∈ s.toList, c.isAlphanum) (read : List Char) :
    Reads ⟨names, .closing read⟩ s ⟨names, .closing (read ++ s.toList)⟩ := by
  refine foldlM_step_name (fun read c hc => ?_) h read
  have hgreater : c ≠ '>' := ne_of_isAlphanum hc rfl
  simp [Place.action, hgreater, hc]

/-! ### Attributes -/

/-- The places in an opening tag where the tag may end. -/
def tagEnds (name : List Char) : List Place := [.opening name, .valueEnd name]

theorem opening_mem_tagEnds (name : List Char) : .opening name ∈ tagEnds name :=
  List.mem_cons_self

theorem valueEnd_mem_tagEnds (name : List Char) : .valueEnd name ∈ tagEnds name :=
  List.mem_cons_of_mem _ List.mem_cons_self

/-- Text that may follow a tag's name or an attribute. -/
def Attributes (s : String) : Prop :=
  ∀ (names : List String) (name : List Char), ∀ place ∈ tagEnds name,
    ∃ place' ∈ tagEnds name, Reads ⟨names, place⟩ s ⟨names, place'⟩

theorem Attributes.empty : Attributes "" := fun _ _ place hplace => ⟨place, hplace, .empty _⟩

theorem Attributes.append (h : Attributes s) (h' : Attributes t) : Attributes (s ++ t) := by
  intro names name place hplace
  obtain ⟨between, hbetween, hs⟩ := h names name place hplace
  obtain ⟨place', hplace', ht⟩ := h' names name between hbetween
  exact ⟨place', hplace', hs.append ht⟩

theorem Attributes.ofReads
    (hopening : ∀ names name, Reads ⟨names, .opening name⟩ s ⟨names, .valueEnd name⟩)
    (hvalueEnd : ∀ names name, Reads ⟨names, .valueEnd name⟩ s ⟨names, .valueEnd name⟩) :
    Attributes s := by
  intro names name place hplace
  refine ⟨.valueEnd name, valueEnd_mem_tagEnds name, ?_⟩
  simp only [tagEnds, List.mem_cons, List.not_mem_nil, or_false] at hplace
  rcases hplace with rfl | rfl
  · exact hopening names name
  · exact hvalueEnd names name

/-- An attribute's key comes with a blank before it and with what opens the value. -/
theorem Attributes.value {key value : String} (hvalue : Plain value)
    (hopening : ∀ names name, Reads ⟨names, .opening name⟩ key ⟨names, .value name⟩)
    (hvalueEnd : ∀ names name, Reads ⟨names, .valueEnd name⟩ key ⟨names, .value name⟩) :
    Attributes (key ++ value ++ "\"") := by
  have hend : ∀ names name, Reads ⟨names, .value name⟩ "\"" ⟨names, .valueEnd name⟩ :=
    fun _ _ => rfl
  refine .ofReads (fun names name => ?_) (fun names name => ?_)
  · exact ((hopening names name).append (.value hvalue)).append (hend names name)
  · exact ((hvalueEnd names name).append (.value hvalue)).append (hend names name)

/-- An opening tag ends after any attributes. -/
theorem Reads.tagEnd {name : List Char} {place : Place} (h : Reads r s ⟨names, place⟩)
    (hplace : place ∈ tagEnds name) (ht : Attributes t)
    (hact : act names (.openTag name) = some r') : Reads r (s ++ t ++ ">") r' := by
  -- the attributes may leave the reader at another place, where the tag may end as well
  obtain ⟨place', hplace', hread⟩ := ht names name place hplace
  have haction : place'.action '>' = some (.openTag name) := by
    simp only [tagEnds, List.mem_cons, List.not_mem_nil, or_false] at hplace'
    rcases hplace' with rfl | rfl <;> rfl
  have hend : Reads ⟨names, place'⟩ ">" r' := by
    refine .ofList ?_
    rw [List.foldlM_cons, step, haction, Option.bind_some, hact]
    rfl
  exact (h.append hread).append hend

end Reader

/-! ### Markup -/

theorem Shifts.empty (names : List String) : Shifts "" names names := Reader.Reads.empty _

theorem Shifts.append {s t : String} {before between after : List String}
    (h : Shifts s before between) (h' : Shifts t between after) : Shifts (s ++ t) before after :=
  Reader.Reads.append h h'

theorem Shifts.inside {s : String} {before after : List String} (h : Shifts s before after)
    (outer : List String) : Shifts s (before ++ outer) (after ++ outer) :=
  Reader.Reads.inside h outer

theorem Plain.ofList {cs : List Char} (h : cs.all (· ∉ specialChars)) :
    Plain (String.ofList cs) := by
  unfold Plain
  rw [String.toList_ofList]
  exact fun c hc => of_decide_eq_true (List.all_eq_true.mp h c hc)

theorem Shifts.cons {s : String} {pieces : List String} {before between after : List String}
    (h : Shifts s before between) (h' : Shifts (String.join pieces) between after) :
    Shifts (String.join (s :: pieces)) before after := by
  rw [String.join_cons]
  exact h.append h'

theorem Shifts.single {s : String} {before after : List String} (h : Shifts s before after) :
    Shifts (String.join [s]) before after := by
  rw [String.join_cons, String.join_nil, String.append_empty]
  exact h

theorem plain_append_iff {s t : String} : Plain (s ++ t) ↔ Plain s ∧ Plain t := by
  unfold Plain
  simp only [String.toList_append, List.mem_append, or_imp, forall_and]

/-! ### Escaped text -/

/-- Rules that leave none of the characters that mean something to a reader. -/
def Guards (rules : EscapeRules) : Prop :=
  (∀ c ∈ specialChars, (rules.lookup c).isSome) ∧ ∀ rule ∈ rules, Plain rule.2

instance (rules : EscapeRules) : Decidable (Guards rules) :=
  @instDecidableAnd _ _ (List.decidableBAll _ _) (List.decidableBAll _ _)

theorem Guards.not_mem_specialChars {rules : EscapeRules} (h : Guards rules) {c d : Char}
    (hd : d ∈ escapeChar rules c) : d ∉ specialChars := by
  unfold escapeChar at hd
  cases hlookup : rules.lookup c with
  | some reference =>
    rw [hlookup] at hd
    exact h.2 (c, reference) (mem_of_lookup_eq_some hlookup) d hd
  | none =>
    rw [hlookup, List.mem_singleton] at hd
    -- a character with a meaning would have a reference
    intro hspecial
    have hsome := h.1 d hspecial
    rw [hd, hlookup] at hsome
    cases hsome

theorem Guards.plain_escapeWith {rules : EscapeRules} (h : Guards rules) (s : String) :
    Plain (escapeWith rules s) := by
  intro d hd
  rw [toList_escapeWith, escapeChars, List.mem_flatMap] at hd
  obtain ⟨c, -, hc⟩ := hd
  exact h.not_mem_specialChars hc

theorem Guards.not_mem_escapeWith {rules : EscapeRules} (h : Guards rules) {c : Char}
    (hc : c ∈ specialChars) (s : String) : c ∉ (escapeWith rules s).toList :=
  fun hmem => h.plain_escapeWith s c hmem hc

theorem guards_textRules : Guards textRules := by decide

theorem guards_templateRules : Guards templateRules := by decide

theorem guards_codeRules : Guards codeRules := by decide

theorem plain_escape (s : String) : Plain (escape s) := guards_textRules.plain_escapeWith s

theorem not_mem_escape {c : Char} (h : c ∈ specialChars) (s : String) : c ∉ (escape s).toList :=
  guards_textRules.not_mem_escapeWith h s

theorem escapeChars_eq_self {rules : EscapeRules} {cs : List Char}
    (h : ∀ c ∈ cs, rules.lookup c = none) : escapeChars rules cs = cs := by
  induction cs with
  | nil => rfl
  | cons c cs ih =>
    obtain ⟨hc, hcs⟩ := List.forall_mem_cons.mp h
    have hchar : escapeChar rules c = [c] := by rw [escapeChar, hc]
    rw [escapeChars_cons, hchar, ih hcs, List.singleton_append]

/-- Text without characters that have a reference is written as it is. -/
theorem escape_eq_self {s : String} (h : ∀ c ∈ s.toList, textRules.lookup c = none) :
    escape s = s := by
  rw [← String.toList_inj, escape, toList_escapeWith, escapeChars_eq_self h]

theorem escape_ofList {cs : List Char} (h : cs.all fun c => (textRules.lookup c).isNone) :
    escape (String.ofList cs) = String.ofList cs := by
  refine escape_eq_self fun c hc => ?_
  rw [String.toList_ofList] at hc
  exact Option.isNone_iff_eq_none.mp (List.all_eq_true.mp h c hc)

end MarkdownPreview.Html
