import GatewayRecipes.Markup.Document
import Mathlib.Tactic.Lemma

/-! The nesting of tags, and what is wrong with events in it. The builder of a document fails at the
first event that is wrong. -/
namespace GatewayRecipes.Markup

/-- Local names of the open elements, the innermost first, and of the root once it is closed. -/
structure Nesting where
  opened : List String
  root : Option String

namespace Nesting

def outside : Nesting := ⟨[], none⟩

def close (n : Nesting) (name : String) : Nesting :=
  if n.opened = [] then { n with root := some name } else n

def after (n : Nesting) : Event → Nesting
  | .start inside => { n with opened := tagName inside :: n.opened }
  | .empty inside => n.close (tagName inside)
  | .stop =>
    match n.opened with
    | name :: outer => close ⟨outer, n.root⟩ name
    | [] => n
  | .other | .fault _ _ => n

/-- What is wrong with a tag. Its attributes do not count where it is nested too deep. -/
def tagOffence? (n : Nesting) (position : Nat) (inside : List Char) : Option DocumentError :=
  if maxDepth ≤ n.opened.length then some (.tooDeep maxDepth)
  else
    match tagAttributes inside with
    | .error fault => some (.malformed position (.badAttributes fault))
    | .ok _ => none

/-- What is wrong with an element that is closed: it is a second one at the top. -/
def closingOffence? (n : Nesting) (name : String) : Option DocumentError :=
  if n.opened = [] then n.root.map (.multipleRoots · name) else none

def offence? (n : Nesting) (s : Step) : Option DocumentError :=
  match s.event with
  | .start inside => n.tagOffence? s.position inside
  | .empty inside => (n.tagOffence? s.position inside).or (n.closingOffence? (tagName inside))
  | .stop =>
    match n.opened with
    | name :: outer => closingOffence? ⟨outer, n.root⟩ name
    | [] => none
  | .other => none
  | .fault position cause => some (.malformed position cause)

/-- What is wrong with the end of the events: an element is open, or there was none. -/
def endOffence? (n : Nesting) : Option DocumentError :=
  match n.opened, n.root with
  | name :: _, _ => some (.unclosedElement name)
  | [], none => some .emptyDocument
  | [], some _ => none

def firstOffence? (n : Nesting) : List Step → Option DocumentError
  | [] => n.endOffence?
  | s :: rest => (n.offence? s).or ((n.after s.event).firstOffence? rest)

/-- Whether every end tag stands where an element is open. -/
def StopsMatched (n : Nesting) : List Step → Prop
  | [] => True
  | s :: rest => (s.event = .stop → n.opened ≠ []) ∧ (n.after s.event).StopsMatched rest

lemma length_opened_close (n : Nesting) (name : String) :
    (n.close name).opened.length = n.opened.length := by
  rw [close]
  split <;> rfl

end Nesting

namespace Builder

def nesting (b : Builder) : Nesting := ⟨b.opened.map (·.name), b.root.map (·.name)⟩

lemma name_of_elementOf {position : Nat} {inside : List Char} {e : Element}
    (h : elementOf position inside = .ok e) : e.name = tagName inside := by
  unfold elementOf at h
  split at h
  · cases h
    rfl
  · cases h

/-- An element is put into its place or is a second root. -/
lemma attach_verdict (b : Builder) (e : Element) :
    match b.attach e with
    | .ok b' => b.nesting.closingOffence? e.name = none ∧ b'.nesting = b.nesting.close e.name
    | .error error => b.nesting.closingOffence? e.name = some error := by
  obtain ⟨opened, root⟩ := b
  cases opened with
  | cons parent outer => simp [attach, nesting, Nesting.closingOffence?, Nesting.close]
  | nil => cases root <;> simp [attach, nesting, Nesting.closingOffence?, Nesting.close]

/-- A tag is read unless it is too deep or has bad attributes. -/
lemma tagOffence?_nesting (b : Builder) (position : Nat) (inside : List Char) :
    b.nesting.tagOffence? position inside =
      if b.opened.length < maxDepth then
        match elementOf position inside with
        | .ok _ => none
        | .error error => some error
      else some (.tooDeep maxDepth) := by
  simp only [Nesting.tagOffence?, nesting, List.length_map, elementOf, ← Nat.not_lt, ite_not]
  split
  · cases tagAttributes inside <;> rfl
  · rfl

/-- One event takes the builder on if nothing is wrong with it, and else fails with what is. -/
lemma step_verdict (b : Builder) (s : Step) :
    match b.step s with
    | .ok b' => b.nesting.offence? s = none ∧ b'.nesting = b.nesting.after s.event
    | .error error => b.nesting.offence? s = some error := by
  obtain ⟨position, event⟩ := s
  cases event with
  | start inside =>
    simp only [step, Nesting.offence?, tagOffence?_nesting]
    by_cases hdepth : b.opened.length < maxDepth
    · cases h : elementOf position inside with
      | error error => simp [hdepth, Except.map]
      | ok e => simp [hdepth, Except.map, nesting, Nesting.after, name_of_elementOf h]
    · simp [hdepth]
  | empty inside =>
    simp only [step, Nesting.offence?, tagOffence?_nesting]
    by_cases hdepth : b.opened.length < maxDepth
    · cases h : elementOf position inside with
      | error error => simp [hdepth]
      | ok e => simpa [hdepth, name_of_elementOf h, Nesting.after] using b.attach_verdict e
    · simp [hdepth]
  | stop =>
    obtain ⟨opened, root⟩ := b
    cases opened with
    | nil => simp [step, Nesting.offence?, Nesting.after, nesting]
    | cons e outer => exact attach_verdict ⟨outer, root⟩ (finished e)
  | other => exact ⟨rfl, rfl⟩
  | fault position cause => rfl

lemma nesting_of_step {b b' : Builder} {s : Step} (h : b.step s = .ok b') :
    b'.nesting = b.nesting.after s.event := by
  have := b.step_verdict s
  rw [h] at this
  exact this.2

lemma finish_eq_error_iff (b : Builder) (error : DocumentError) :
    b.finish = .error error ↔ b.nesting.endOffence? = some error := by
  obtain ⟨opened, root⟩ := b
  cases opened with
  | cons e outer => simp [finish, nesting, Nesting.endOffence?]
  | nil => cases root <;> simp [finish, nesting, Nesting.endOffence?]

end Builder

/-- Reading fails at the first event that is wrong in its nesting. The induction is on the events,
for every builder that they can meet. -/
lemma run_finish_eq_error_iff (b : Builder) (steps : List Step) (error : DocumentError) :
    (match b.run steps with
      | .ok b' => b'.finish
      | .error error => .error error) = .error error ↔
      b.nesting.firstOffence? steps = some error := by
  induction steps generalizing b with
  | nil => exact b.finish_eq_error_iff error
  | cons s rest ih =>
    have hs := b.step_verdict s
    rw [Builder.run, Nesting.firstOffence?]
    cases h : b.step s with
    | error _ =>
      rw [h] at hs
      simp [hs]
    | ok b' =>
      rw [h] at hs
      rw [hs.1, Option.none_or, ← hs.2]
      exact ih b'

theorem assemble_eq_error_iff (steps : List Step) (error : DocumentError) :
    assemble steps = .error error ↔ Nesting.firstOffence? .outside steps = some error :=
  run_finish_eq_error_iff .initial steps error

namespace Reader

/-- Whether an event leads from some open tags to others. -/
def Turns : Event → List (List Char) → List (List Char) → Prop
  | .start inside, before, after => after = qualifiedName inside :: before
  | .stop, before, after => ∃ name, before = name :: after
  | _, before, after => after = before

lemma turns_declaration {r n : Reader} {e : Event} (h : r.declaration = .event e n) :
    Turns e r.opened n.opened := by
  unfold declaration rejected at h
  split at h
  · split at h
    · split at h <;> cases h
      rfl
    · cases h
  · split at h
    · split at h <;> cases h
      rfl
    · cases h
  · split at h
    · split at h
      · split at h
        · split at h <;> cases h
          rfl
        · cases h
      · cases h
    · cases h
  · cases h

lemma turns_close {r m n : Reader} {e : Event} {inside : List Char}
    (h : r.close inside m = .event e n) : Turns e r.opened n.opened := by
  unfold close rejected at h
  dsimp only at h
  split at h
  · cases h
  · next name outer hr =>
    split at h <;> cases h
    exact ⟨name, hr⟩

lemma turns_markup {r n : Reader} {e : Event} (h : r.markup = .event e n) :
    Turns e r.opened n.opened := by
  unfold markup rejected at h
  split at h
  · exact turns_declaration h
  · split at h
    · split at h <;> cases h
      rfl
    · cases h
  · split at h
    · exact turns_close h
    · cases h
  · split at h
    · dsimp only at h
      split at h <;> cases h <;> rfl
    · cases h

lemma turns_next {r n : Reader} {e : Event} (h : r.next = some (.event e n)) :
    Turns e r.opened n.opened := by
  unfold next at h
  split at h
  · exact turns_markup (Option.some.inj h)
  · dsimp only at h
    split at h
    · cases h
    · exact turns_markup (r := ⟨r.opened, true, _, _⟩) (Option.some.inj h)
    · split at h <;> cases h
      rfl

lemma Turns.stop_ne_nil {before after : List (List Char)} (h : Turns .stop before after) :
    before ≠ [] := by
  obtain ⟨name, rfl⟩ := h
  exact List.cons_ne_nil name after

/-- A reader has as many open tags as there are open elements. -/
lemma Turns.length_eq {e : Event} {before after : List (List Char)} (h : Turns e before after)
    {n : Nesting} (hn : n.opened.length = before.length) :
    (n.after e).opened.length = after.length := by
  cases e with
  | start inside =>
    cases h
    simp [Nesting.after, hn]
  | stop =>
    obtain ⟨name, rfl⟩ := h
    obtain ⟨name', outer, hopened⟩ := List.exists_cons_of_length_eq_add_one hn
    rw [hopened] at hn
    simp only [Nesting.after, hopened, Nesting.length_opened_close]
    exact Nat.succ.inj hn
  | empty inside =>
    cases h
    rw [Nesting.after, Nesting.length_opened_close, hn]
  | other =>
    cases h
    exact hn
  | fault position cause =>
    cases h
    exact hn

theorem stopsMatched_steps (r : Reader) {n : Nesting} (hn : n.opened.length = r.opened.length) :
    n.StopsMatched r.steps := by
  fun_induction steps r generalizing n with
  | case1 r h => trivial
  | case2 r position cause h => exact ⟨nofun, trivial⟩
  | case3 r e m h ih =>
    have ht := turns_next h
    refine ⟨?_, ih (ht.length_eq hn)⟩
    rintro rfl hnil
    apply ht.stop_ne_nil
    rw [← List.length_eq_zero_iff, ← hn, hnil]
    rfl

end Reader

/-- The events of a document have end tags only where an element is open. -/
theorem stopsMatched_eventsOf (document : List Char) :
    Nesting.StopsMatched .outside (eventsOf document) := by
  apply Reader.stopsMatched_steps
  unfold Reader.ofDocument
  split <;> rfl

end GatewayRecipes.Markup
