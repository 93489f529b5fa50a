import GatewayRecipes.Proofs.Markup.Assembly
import GatewayRecipes.Proofs.Markup.Passage
import Mathlib

/-! Where bad attributes are reported: at their tag, unless white space stands between this and the
markup before it. The position is taken before the reader passes that. -/
namespace GatewayRecipes.Markup

/-- A document behind its byte order mark, if it has one. -/
def withoutMark : List Char → List Char
  | '\ufeff' :: rest => rest
  | document => document

/-- Characters take bytes. -/
lemma byteLength_eq_zero_iff {text : List Char} : Text.byteLength text = 0 ↔ text = [] := by
  cases text with
  | nil => simp
  | cons c rest => simp [Nat.ne_of_gt c.utf8Size_pos]

namespace Reader

lemma ofDocument_eq (document : List Char) :
    ofDocument document = ⟨[], false, 0, withoutMark document⟩ := by
  cases document with
  | nil => rfl
  | cons c rest =>
    by_cases hmark : c = '\ufeff'
    · rw [hmark]
      rfl
    · rw [ofDocument, withoutMark]
      · simp [hmark]
      · simp [hmark]

/-! Steps. -/

def Outcome.toEvent : Outcome → Event
  | event e _ => e
  | fault position cause => .fault position cause

section
variable {r : Reader} {s : Step} {more : List Step}

/-- What comes next is the first step. -/
lemma steps_of_next {outcome : Outcome} (h : r.next = some outcome) :
    ∃ more, r.steps = ⟨r.position, outcome.toEvent⟩ :: more := by
  cases outcome with
  | event e n => exact ⟨_, steps_of_event h⟩
  | fault position cause => exact ⟨_, steps_of_fault h⟩

lemma next_of_steps (h : r.steps = s :: more) :
    ∃ outcome, r.next = some outcome ∧ s = ⟨r.position, outcome.toEvent⟩ := by
  cases hnext : r.next with
  | none => cases (steps_of_none hnext).symm.trans h
  | some outcome =>
    obtain ⟨rest, hsteps⟩ := steps_of_next hnext
    cases hsteps.symm.trans h
    exact ⟨outcome, rfl, rfl⟩

/-- A step that others follow leads to these. -/
lemma event_of_steps (h : r.steps = s :: more) (hmore : more ≠ []) :
    ∃ e n, r.next = some (.event e n) ∧ s = ⟨r.position, e⟩ ∧ n.steps = more := by
  obtain ⟨outcome, hnext, rfl⟩ := next_of_steps h
  cases outcome with
  | event e n =>
    rw [steps_of_event hnext] at h
    exact ⟨e, n, hnext, rfl, (List.cons.inj h).2⟩
  | fault position cause =>
    rw [steps_of_fault hnext] at h
    exact absurd (List.cons.inj h).2.symm hmore

end

/-- Whether a reader comes to another one by some steps. -/
inductive Run (r : Reader) : List Step → Reader → Prop
  | start : Run r [] r
  | next {steps : List Step} {n m : Reader} {e : Event} (h : Run r steps n)
      (hn : n.next = some (.event e m)) : Run r (steps ++ [⟨n.position, e⟩]) m

lemma Run.steps_eq {r n : Reader} {steps : List Step} (h : Run r steps n) :
    r.steps = steps ++ n.steps := by
  induction h with
  | start => rfl
  | next _ hn ih => rw [ih, steps_of_event hn, List.append_assoc, List.singleton_append]

/-- All steps before others are a run to where these begin. -/
lemma exists_run {r : Reader} {before more : List Step} (h : r.steps = before ++ more)
    (hmore : more ≠ []) : ∃ n, Run r before n ∧ n.steps = more := by
  induction before using List.reverseRecOn generalizing more with
  | nil => exact ⟨r, .start, h⟩
  | append_singleton before s ih =>
    rw [List.append_assoc, List.singleton_append] at h
    obtain ⟨n, hrun, hsteps⟩ := ih h (List.cons_ne_nil s more)
    obtain ⟨e, m, hnext, rfl, hm⟩ := event_of_steps hsteps hmore
    exact ⟨m, hrun.next hnext, hm⟩

/-- Whether a reader of a text comes by some steps to stand between markup, just behind `before`. -/
structure Stands (text before : List Char) (steps : List Step) (n : Reader) : Prop where
  run : Run ⟨[], false, 0, text⟩ steps n
  outside : n.inMarkup = false
  split : text = before ++ n.rest
  offset : n.offset = Text.byteLength before

section
variable {text before gap rest : List Char} {steps more : List Step} {n m : Reader}

/-- A reader that passes markup stands behind it. -/
lemma Stands.of_passes (h : Stands text before steps n) (hrest : n.rest = gap ++ '<' :: rest)
    (hpasses : Passes ⟨n.opened, true, n.offset + Text.byteLength gap + 1, rest⟩ m)
    (hrun : Run ⟨[], false, 0, text⟩ more m) : ∃ passed, Stands text passed more m := by
  obtain ⟨inside, hinside, hoffset⟩ := hpasses.passed
  refine ⟨before ++ gap ++ '<' :: (inside ++ ['>']), hrun, hpasses.outside, ?_, ?_⟩
  · rw [h.split, hrest, show rest = _ from hinside]
    simp
  · have hone : ('<').utf8Size = 1 ∧ ('>').utf8Size = 1 := ⟨rfl, rfl⟩
    rw [hoffset, h.offset]
    simp only [Text.byteLength_append, Text.byteLength_cons, Text.byteLength_nil, hone]
    omega

/-- Whether a reader of a text is behind the `<` that ends some text between markup. -/
structure Enters (text before gap : List Char) (steps : List Step) (n m : Reader) : Prop where
  stands : Stands text before steps n
  split : n.rest = gap ++ '<' :: m.rest
  plain : '<' ∉ gap
  filled : ¬ gap.all isSpace = true
  entered : m = ⟨n.opened, true, n.offset + Text.byteLength gap + 1, m.rest⟩

/-- Wherever a reader comes, it stands between markup or behind text that it passed from there. -/
theorem Run.place (h : Run ⟨[], false, 0, text⟩ steps n) :
    (∃ before, Stands text before steps n) ∨
      ∃ before gap earlier m, Enters text before gap earlier m n ∧
        steps = earlier ++ [⟨m.position, .other⟩] := by
  induction h with
  | start => exact .inl ⟨[], .start, rfl, rfl, rfl⟩
  | @next steps n m e h hn ih =>
    obtain ⟨before, hstands⟩ | ⟨before, gap, earlier, k, henters, -⟩ := ih
    · obtain hnone | ⟨gap, rest, hrest, hgap, ⟨-, hmarkup⟩ | ⟨hfilled, htext⟩⟩ :=
        next_cases hstands.outside
      · cases hnone.symm.trans hn
      · have hgoes := goes_markup ⟨n.opened, true, n.offset + Text.byteLength gap + 1, rest⟩
        rw [Option.some.inj (hmarkup.symm.trans hn)] at hgoes
        cases hgoes with
        | on hpasses _ _ => exact .inl (hstands.of_passes hrest hpasses (h.next hn))
      · cases htext.symm.trans hn
        exact .inr ⟨before, gap, steps, n, ⟨hstands, hrest, hgap, hfilled, rfl⟩, rfl⟩
    · have hgoes := goes_markup n
      have hmarkup := next_of_inMarkup (r := n) (by rw [henters.entered])
      rw [Option.some.inj (hmarkup.symm.trans hn)] at hgoes
      cases hgoes with
      | on hpasses _ _ =>
        rw [henters.entered] at hpasses
        exact .inl (henters.stands.of_passes henters.split hpasses (h.next hn))

/-- The event of markup has the content of its tag, and is no fault of attributes. -/
lemma toEvent_markup (r : Reader) : r.markup.toEvent.content? = tagContent? r.rest ∧
    ∀ position fault, r.markup.toEvent ≠ .fault position (.badAttributes fault) := by
  have hgoes := goes_markup r
  generalize r.markup = outcome at hgoes ⊢
  cases hgoes with
  | on _ hread htag => exact ⟨htag, fun position fault => hread position _⟩
  | off hreader hnone =>
    refine ⟨hnone.symm, ?_⟩
    rintro position fault ⟨⟩
    exact hreader fault rfl

/-- The step of what is behind a gap comes after the text in it, if there is any, and then has the
position behind that. -/
lemma exists_step_behind (hn : n.inMarkup = false) (hrest : n.rest = gap ++ '<' :: rest)
    (hgap : '<' ∉ gap) :
    ∃ passed more, n.steps = passed ++
      ⟨if gap.all isSpace then n.offset else n.offset + Text.byteLength gap,
        (markup ⟨n.opened, true, n.offset + Text.byteLength gap + 1, rest⟩).toEvent⟩ :: more ∧
      ∀ s ∈ passed, s.event = .other := by
  obtain ⟨opened, inMarkup, offset, text⟩ := n
  cases hn
  obtain rfl : text = gap ++ '<' :: rest := hrest
  by_cases hblank : gap.all isSpace = true
  · obtain ⟨more, hsteps⟩ := steps_of_next (next_of_blank hblank rest)
    refine ⟨[], more, ?_, List.forall_mem_nil _⟩
    rw [if_pos hblank]
    exact hsteps
  · have htext := steps_of_event (@next_of_text opened offset gap hgap hblank rest)
    obtain ⟨more, hsteps⟩ := steps_of_next (next_of_inMarkup
      (r := ⟨opened, true, offset + Text.byteLength gap + 1, rest⟩) rfl)
    refine ⟨[⟨offset, .other⟩], more, ?_, List.forall_mem_singleton.mpr rfl⟩
    rw [if_neg hblank, htext, hsteps]
    rfl

end

end Reader

namespace Nesting
variable {n : Nesting} {position place : Nat} {inside : List Char} {fault : AttributeFault}

lemma tagOffence?_eq_badAttributes_iff :
    n.tagOffence? position inside = some (.malformed place (.badAttributes fault)) ↔
      n.opened.length < maxDepth ∧ tagAttributes inside = .error fault ∧ place = position := by
  rw [tagOffence?, ← Nat.not_le]
  split
  · next hdeep => simp [hdeep]
  · next hroom =>
    cases tagAttributes inside with
    | ok attributes => simp
    | error other => simp [hroom, eq_comm, and_comm]

lemma closingOffence?_ne_malformed {name : String} {cause : Malformation} :
    n.closingOffence? name ≠ some (.malformed place cause) := by
  rw [closingOffence?]
  split
  · cases n.root with
    | none => simp
    | some root => simp
  · simp

/-- Bad attributes are an offence of their tag, unless a reader reports them. -/
lemma offence?_eq_badAttributes_iff {s : Step}
    (hreader : s.event ≠ .fault place (.badAttributes fault)) :
    n.offence? s = some (.malformed place (.badAttributes fault)) ↔
      ∃ content, s.event.content? = some content ∧ n.opened.length < maxDepth ∧
        tagAttributes content = .error fault ∧ place = s.position := by
  unfold offence?
  cases he : s.event with
  | start inside => simp [Event.content?, tagOffence?_eq_badAttributes_iff]
  | empty inside =>
    simp [Event.content?, tagOffence?_eq_badAttributes_iff, Option.or_eq_some_iff,
      closingOffence?_ne_malformed]
  | stop =>
    cases n.opened with
    | nil => simp [Event.content?]
    | cons name outer => simp [Event.content?, closingOffence?_ne_malformed]
  | other => simp [Event.content?]
  | fault position cause =>
    rw [he] at hreader
    simpa [Event.content?] using hreader

end Nesting

namespace Builder
variable {b : Builder}

lemma step_eq_error_iff {s : Step} {error : DocumentError} :
    b.step s = .error error ↔ b.nesting.offence? s = some error := by
  have hverdict := b.step_verdict s
  cases hs : b.step s with
  | error other =>
    rw [hs] at hverdict
    simp [hverdict]
  | ok b' =>
    rw [hs] at hverdict
    simp [hverdict.1]

lemma finish_ne_malformed {place : Nat} {cause : Malformation} :
    b.finish ≠ .error (.malformed place cause) := by
  rw [Ne, finish_eq_error_iff, Nesting.endOffence?]
  split
  · simp
  · simp
  · simp

/-- Steps that do not matter change nothing at the end either. -/
lemma run_append_others {others : List Step} (h : ∀ s ∈ others, s.event = .other)
    (b : Builder) (steps : List Step) : b.run (steps ++ others) = b.run steps := by
  have hnone : others.filter (·.event ≠ .other) = [] :=
    List.filter_eq_nil_iff.mpr (by simpa using h)
  rw [← run_filter, List.filter_append, hnone, List.append_nil, run_filter]

/-- A run fails at its first step that fails. -/
lemma exists_of_run_error {steps : List Step} {error : DocumentError}
    (h : b.run steps = .error error) :
    ∃ before s more b', steps = before ++ s :: more ∧ b.run before = .ok b' ∧
      b'.step s = .error error := by
  induction steps generalizing b with
  | nil => cases h
  | cons s rest ih =>
    cases hs : b.step s with
    | error e =>
      rw [run_of_error hs] at h
      cases h
      exact ⟨[], s, rest, b, rfl, rfl, hs⟩
    | ok b₁ =>
      rw [run_of_step hs] at h
      obtain ⟨before, s', more, b', rfl, hbefore, hs'⟩ := ih h
      exact ⟨s :: before, s', more, b', rfl, (run_of_step hs before).trans hbefore, hs'⟩

end Builder

/-- A start tag, or a tag without content, in a document whose first offence are its attributes.
Between this and the markup that is read `before` stands only a `gap` of text. -/
structure RejectedTag (document : List Char) (fault : AttributeFault) where
  before : List Char
  gap : List Char
  /-- The document behind the `<` of the tag. -/
  rest : List Char
  content : List Char
  reader : Reader
  steps : List Step
  builder : Builder
  stands : Reader.Stands (withoutMark document) before steps reader
  split : reader.rest = gap ++ '<' :: rest
  plain : '<' ∉ gap
  tag : tagContent? rest = some content
  built : Builder.initial.run steps = .ok builder
  room : builder.opened.length < maxDepth
  refused : tagAttributes content = .error fault

namespace RejectedTag
variable {document : List Char} {fault : AttributeFault}

def place (t : RejectedTag document fault) : Nat := Text.byteLength (t.before ++ t.gap)

/-- Where a tag is reported: behind the markup before it, or at its `<` if there is text between. -/
def reported (t : RejectedTag document fault) : Nat :=
  if t.gap.all isSpace then Text.byteLength t.before else t.place

/-- A tag is reported in its place unless nothing but white space is before it. -/
lemma reported_eq_place_iff (t : RejectedTag document fault) :
    t.reported = t.place ↔ (t.gap.all isSpace = true → t.gap = []) := by
  rw [reported]
  split
  · next hblank =>
    rw [place, Text.byteLength_append, Nat.left_eq_add, byteLength_eq_zero_iff]
    exact ⟨fun hgap _ => hgap, fun h => h hblank⟩
  · next hfilled => exact ⟨fun _ hblank => absurd hblank hfilled, fun _ => rfl⟩

lemma document_eq (t : RejectedTag document fault) :
    withoutMark document = t.before ++ t.gap ++ '<' :: t.rest := by
  rw [t.stands.split, t.split, List.append_assoc]

/-- A tag is what a builder comes to, at the position where the tag is reported. -/
lemma exists_step (t : RejectedTag document fault) :
    ∃ passed s more, eventsOf document = passed ++ s :: more ∧
      Builder.initial.run passed = .ok t.builder ∧ s.position = t.reported ∧
      s.event.content? = some t.content ∧
      s.event ≠ .fault t.reported (.badAttributes fault) := by
  obtain ⟨others, more, hsteps, hothers⟩ :=
    Reader.exists_step_behind t.stands.outside t.split t.plain
  obtain ⟨htag, hreader⟩ := Reader.toEvent_markup
    ⟨t.reader.opened, true, t.reader.offset + Text.byteLength t.gap + 1, t.rest⟩
  refine ⟨t.steps ++ others, ⟨t.reported, _⟩, more, ?_, ?_, rfl, htag.trans t.tag, hreader _ _⟩
  · rw [eventsOf, Reader.ofDocument_eq, t.stands.run.steps_eq, hsteps, List.append_assoc,
      reported, place, Text.byteLength_append, ← t.stands.offset]
    rfl
  · rw [Builder.run_append_others hothers, t.built]

/-- The attributes of a tag are reported. -/
lemma parse_eq (t : RejectedTag document fault) :
    assemble (eventsOf document) = .error (.malformed t.reported (.badAttributes fault)) := by
  obtain ⟨passed, s, more, hevents, hbuilt, hposition, htag, hreader⟩ := t.exists_step
  have hroom : t.builder.nesting.opened.length < maxDepth := by
    rw [Builder.nesting, List.length_map]
    exact t.room
  have hstep : t.builder.step s = .error (.malformed t.reported (.badAttributes fault)) :=
    Builder.step_eq_error_iff.mpr ((Nesting.offence?_eq_badAttributes_iff hreader).mpr
      ⟨t.content, htag, hroom, t.refused, hposition.symm⟩)
  rw [assemble, hevents, Builder.run_append_of_run hbuilt, Builder.run_of_error hstep]

end RejectedTag

/-- Bad attributes in the step of markup are those of a tag. -/
lemma exists_rejectedTag_of_offence {document before gap rest : List Char} {steps : List Step}
    {n : Reader} {b : Builder} {position place : Nat} {fault : AttributeFault}
    (hstands : Reader.Stands (withoutMark document) before steps n)
    (hrest : n.rest = gap ++ '<' :: rest) (hgap : '<' ∉ gap)
    (hbuilt : Builder.initial.run steps = .ok b)
    (h : b.nesting.offence? ⟨position,
        (Reader.markup ⟨n.opened, true, n.offset + Text.byteLength gap + 1, rest⟩).toEvent⟩ =
      some (.malformed place (.badAttributes fault))) :
    ∃ t : RejectedTag document fault, t.before = before ∧ t.gap = gap ∧ place = position := by
  obtain ⟨htag, hreader⟩ := Reader.toEvent_markup
    ⟨n.opened, true, n.offset + Text.byteLength gap + 1, rest⟩
  obtain ⟨content, hcontent, hroom, hrefused, hplace⟩ :=
    (Nesting.offence?_eq_badAttributes_iff (hreader _ _)).mp h
  rw [Builder.nesting, List.length_map] at hroom
  exact ⟨⟨before, gap, rest, content, n, steps, b, hstands, hrest, hgap, htag.symm.trans hcontent,
    hbuilt, hroom, hrefused⟩, rfl, rfl, hplace⟩

/-- Bad attributes that are reported are those of a tag. -/
lemma exists_rejectedTag {document : List Char} {place : Nat} {fault : AttributeFault}
    (h : assemble (eventsOf document) = .error (.malformed place (.badAttributes fault))) :
    ∃ t : RejectedTag document fault, place = t.reported := by
  have hrun : Builder.initial.run (eventsOf document) =
      .error (.malformed place (.badAttributes fault)) := by
    unfold assemble at h
    split at h
    · exact absurd h Builder.finish_ne_malformed
    · next hrun =>
      cases h
      exact hrun
  obtain ⟨passed, s, more, b, hevents, hbuilt, hs⟩ := Builder.exists_of_run_error hrun
  rw [eventsOf, Reader.ofDocument_eq] at hevents
  obtain ⟨n, hrun, hsteps⟩ := Reader.exists_run hevents (List.cons_ne_nil s more)
  obtain ⟨outcome, hnext, rfl⟩ := Reader.next_of_steps hsteps
  rw [Builder.step_eq_error_iff] at hs
  -- The reader of the tag stands between markup, or it is behind text that it passed from there.
  obtain ⟨before, hstands⟩ | ⟨before, gap, earlier, m, henters, rfl⟩ := hrun.place
  · obtain hnone | ⟨gap, rest, hrest, hgap, ⟨hblank, hmarkup⟩ | ⟨-, htext⟩⟩ :=
      Reader.next_cases hstands.outside
    · cases hnone.symm.trans hnext
    · obtain rfl := Option.some.inj (hmarkup.symm.trans hnext)
      obtain ⟨t, hbefore, hgap, rfl⟩ :=
        exists_rejectedTag_of_offence hstands hrest hgap hbuilt hs
      refine ⟨t, ?_⟩
      rw [RejectedTag.reported, hgap, if_pos hblank, hbefore, Reader.position, hstands.outside,
        hstands.offset]
      rfl
    · obtain rfl := Option.some.inj (htext.symm.trans hnext)
      cases hs
  · have hother : ∀ s ∈ [(⟨m.position, .other⟩ : Step)], s.event = .other :=
      List.forall_mem_singleton.mpr rfl
    rw [Builder.run_append_others hother] at hbuilt
    have hmarkup := Reader.next_of_inMarkup (r := n) (by rw [henters.entered])
    obtain rfl := Option.some.inj (hmarkup.symm.trans hnext)
    rw [henters.entered] at hs
    obtain ⟨t, hbefore, hgap, rfl⟩ :=
      exists_rejectedTag_of_offence henters.stands henters.split henters.plain hbuilt hs
    refine ⟨t, ?_⟩
    rw [RejectedTag.reported, hgap, if_neg henters.filled, RejectedTag.place, hbefore, hgap,
      Text.byteLength_append, ← henters.stands.offset]
    rfl

/-- Bad attributes are reported exactly for the start tags, and tags without content, of which they
are the first offence of a document. Such a tag is reported at its `<` exactly if white space alone
does not stand between it and the markup before it, or the beginning of the document. Otherwise it
is reported where that white space begins. -/
theorem badAttributes_position (document : String) (fault : AttributeFault) :
    (∀ position, parseDocument document = .error (.malformed position (.badAttributes fault)) ↔
      ∃ tag : RejectedTag document.toList fault, position = tag.reported) ∧
    ∀ tag : RejectedTag document.toList fault,
      withoutMark document.toList = tag.before ++ tag.gap ++ '<' :: tag.rest ∧
      (parseDocument document =
          .error (.malformed (Text.byteLength (tag.before ++ tag.gap)) (.badAttributes fault)) ↔
        (tag.gap.all isSpace = true → tag.gap = [])) := by
  refine ⟨fun position => ⟨exists_rejectedTag, ?_⟩, fun tag => ⟨tag.document_eq, ?_⟩⟩
  · rintro ⟨tag, rfl⟩
    exact tag.parse_eq
  · have hparse : parseDocument document = _ := tag.parse_eq
    have hplace : Text.byteLength (tag.before ++ tag.gap) = tag.place := rfl
    rw [hparse, hplace, ← tag.reported_eq_place_iff]
    simp

def indentedTag :
    RejectedTag "<r>\n  <a b=\"1\" b=\"2\"/>\n</r>".toList (.duplicated 8 2) where
  before := "<r>".toList
  gap := "\n  ".toList
  rest := "a b=\"1\" b=\"2\"/>\n</r>".toList
  content := "a b=\"1\" b=\"2\"".toList
  reader := ⟨[['r']], false, 3, "\n  <a b=\"1\" b=\"2\"/>\n</r>".toList⟩
  steps := [⟨0, .start ['r']⟩]
  builder := ⟨[.named "r"], none⟩
  stands :=
    { run := Reader.Run.next .start (by cbv)
      outside := rfl
      split := by cbv
      offset := by cbv }
  split := by cbv
  plain := by decide
  tag := by cbv
  built := by cbv
  room := by decide
  refused := by cbv

/-- It is reported before these, and not at its `<`. -/
theorem badAttributes_position_indented :
    let document := "<r>\n  <a b=\"1\" b=\"2\"/>\n</r>"
    parseDocument document = .error (.malformed 3 (.badAttributes (.duplicated 8 2))) ∧
      parseDocument document ≠ .error (.malformed 6 (.badAttributes (.duplicated 8 2))) := by
  intro document
  obtain ⟨hreported, hplace⟩ := badAttributes_position document (.duplicated 8 2)
  refine ⟨(hreported 3).mpr ⟨indentedTag, rfl⟩, fun h => ?_⟩
  have hgap := (hplace indentedTag).2.mp h rfl
  cases hgap

/-- A tag behind a line break and an indentation is reported before these. -/
theorem badAttributes_before_place :
    let before := "<r>\n  "
    let document := before ++ "<a b=\"1\" b=\"2\"/>\n</r>"
    parseDocument document = .error (.malformed 3 (.badAttributes (.duplicated 8 2))) ∧
      Text.byteLength before.toList = 6 ∧
      ∀ cause, parseDocument document ≠ .error (.malformed 6 cause) := by
  intro before document
  have hparse : parseDocument document =
      .error (.malformed 3 (.badAttributes (.duplicated 8 2))) := by cbv
  refine ⟨hparse, by decide, fun cause h => ?_⟩
  cases hparse.symm.trans h

/-- Behind text, a tag is reported at its `<`. -/
example : parseDocument "<r>\n  x <a b/></r>" =
    .error (.malformed 8 (.badAttributes (.expectedEq 3))) := by cbv

end GatewayRecipes.Markup
