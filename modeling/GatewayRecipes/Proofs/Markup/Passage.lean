import GatewayRecipes.Markup.Event
import GatewayRecipes.Proofs.Markup.Escape

/-! What a reader passes: text up to the next `<`, if it is not blank in a step of its own, and then
markup up to its `>`. -/
namespace GatewayRecipes.Markup

/-! The text of markup. Whatever ends it, what was split is what was there. -/

lemma splitClosed_eq {closes : List Char → Bool} {before cs a b : List Char}
    (h : splitClosed closes before cs = some (a, b)) : before.reverse ++ cs = a ++ '>' :: b := by
  induction cs generalizing before with
  | nil => cases h
  | cons c rest ih =>
    rw [splitClosed] at h
    split at h
    · next hclose =>
      simp only [Bool.and_eq_true, decide_eq_true_eq] at hclose
      cases h
      rw [hclose.1]
    · rw [← ih h]
      simp

lemma map_cons_eq {c : Char} {rest a b : List Char} {split : Option (List Char × List Char)}
    (h : split.map (fun (a, b) => (c :: a, b)) = some (a, b))
    (ih : ∀ {a b}, split = some (a, b) → rest = a ++ '>' :: b) : c :: rest = a ++ '>' :: b := by
  obtain ⟨⟨a', b'⟩, hsplit, hab⟩ := Option.map_eq_some_iff.mp h
  cases hab
  rw [ih hsplit, List.cons_append]

lemma splitTag_eq {quote : Option Char} {cs a b : List Char}
    (h : splitTag quote cs = some (a, b)) : cs = a ++ '>' :: b := by
  induction cs generalizing quote a b with
  | nil => cases quote <;> cases h
  | cons c rest ih =>
    cases quote with
    | some q => exact map_cons_eq h ih
    | none =>
      rw [splitTag] at h
      split at h
      · next hc =>
        cases h
        rw [hc, List.nil_append]
      · exact map_cons_eq h ih

lemma splitDoctype_eq {depth : Nat} {cs a b : List Char}
    (h : splitDoctype depth cs = some (a, b)) : cs = a ++ '>' :: b := by
  induction cs generalizing depth a b with
  | nil => cases h
  | cons c rest ih =>
    unfold splitDoctype at h
    split at h
    · next hc =>
      cases depth with
      | zero =>
        cases h
        rw [hc, List.nil_append]
      | succ d => exact map_cons_eq h ih
    · exact map_cons_eq h ih

/-- What stands in the tag that an event is, if it is a start tag or a tag without content. -/
def Event.content? : Event → Option (List Char)
  | start inside => some inside
  | empty inside => some inside
  | _ => none

/-- What stands in a tag, a slash at the end left out. -/
def contentOf (inside : List Char) : List Char :=
  if inside.getLast? = some '/' then inside.dropLast else inside

/-- What stands in the tag that a text begins with, behind its `<`, if that is a start tag or a tag
without content. -/
def tagContent? (text : List Char) : Option (List Char) :=
  match text with
  | '!' :: _ => none
  | '?' :: _ => none
  | '/' :: _ => none
  | _ => (splitTag none text).map fun (inside, _) => contentOf inside

lemma tagContent?_of_name {text : List Char} (hdeclaration : ∀ rest, text = '!' :: rest → False)
    (hinstruction : ∀ rest, text = '?' :: rest → False)
    (hend : ∀ rest, text = '/' :: rest → False) :
    tagContent? text = (splitTag none text).map fun (inside, _) => contentOf inside := by
  unfold tagContent?
  split
  · exact (hdeclaration _ rfl).elim
  · exact (hinstruction _ rfl).elim
  · exact (hend _ rfl).elim
  · rfl

namespace Reader

/-! Steps, by what comes next. -/

section
variable {r : Reader}

lemma steps_of_event {n : Reader} {e : Event} (h : r.next = some (.event e n)) :
    r.steps = ⟨r.position, e⟩ :: n.steps := by
  rw [steps]
  split
  · next hnone => cases h.symm.trans hnone
  · next hfault => cases h.symm.trans hfault
  · next hevent =>
    cases h.symm.trans hevent
    rfl

lemma steps_of_fault {position : Nat} {cause : Malformation}
    (h : r.next = some (.fault position cause)) :
    r.steps = [⟨r.position, .fault position cause⟩] := by
  rw [steps]
  split
  · next hnone => cases h.symm.trans hnone
  · next hfault =>
    cases h.symm.trans hfault
    rfl
  · next hevent => cases h.symm.trans hevent

lemma steps_of_none (h : r.next = none) : r.steps = [] := by
  rw [steps]
  split
  · rfl
  · next hfault => cases h.symm.trans hfault
  · next hevent => cases h.symm.trans hevent

end

/-! Up to the next `<`. -/

lemma next_of_inMarkup {r : Reader} (h : r.inMarkup = true) : r.next = some r.markup := by
  rw [next, if_pos h]

section
variable {opened : List (List Char)} {offset : Nat} {gap : List Char}

/-- White space between tags is passed together with what follows it. -/
lemma next_of_blank (h : gap.all isSpace = true) (rest : List Char) :
    next ⟨opened, false, offset, gap ++ '<' :: rest⟩ =
      some (markup ⟨opened, true, offset + Text.byteLength gap + 1, rest⟩) := by
  have hblank := List.all_eq_true.mp h
  have hend := head_cons (p := isSpace) (y := '<') rfl rest
  rw [next, if_neg Bool.false_ne_true]
  simp only [takeWhile_up_to hblank hend, dropWhile_up_to hblank hend]

/-- Other text between tags is passed in a step of its own, and the `<` behind it too. -/
lemma next_of_text (h : '<' ∉ gap) (htext : ¬ gap.all isSpace = true) (rest : List Char) :
    next ⟨opened, false, offset, gap ++ '<' :: rest⟩ =
      some (.event .other ⟨opened, true, offset + Text.byteLength gap + 1, rest⟩) := by
  obtain ⟨blank, more, rfl, hblank, hmore⟩ : ∃ blank more, gap = blank ++ more ∧
      (∀ c ∈ blank, isSpace c = true) ∧ ∀ c ∈ more.head?, isSpace c = false :=
    ⟨_, _, List.takeWhile_append_dropWhile.symm, List.all_eq_true.mp List.all_takeWhile,
      fun c hc => by simpa [Option.mem_def.mp hc] using List.head?_dropWhile_not isSpace gap⟩
  cases more with
  | nil => exact absurd (List.all_eq_true.mpr (by simpa using hblank)) htext
  | cons c more =>
    have hend := head_cons (hmore c rfl) (more ++ '<' :: rest)
    have hplain : '<' ∉ c :: more := fun hm => h (List.mem_append_right blank hm)
    rw [List.mem_cons, not_or] at hplain
    obtain ⟨hc, hmore⟩ := hplain
    have hin := bne_of_not_mem hmore
    have hstop := head_cons (p := (· != '<')) (y := '<') rfl rest
    rw [next, if_neg Bool.false_ne_true]
    simp only [List.append_assoc, List.cons_append, takeWhile_up_to hblank hend,
      dropWhile_up_to hblank hend]
    split
    · next he => cases he
    · next he => cases he; exact absurd rfl hc
    · next he =>
      cases he
      simp only [takeWhile_up_to hin hstop, dropWhile_up_to hin hstop]
      simp [Nat.add_assoc]

/-- Where there is no tag any more, there is no event. -/
lemma next_of_end (h : '<' ∉ gap) : next ⟨opened, false, offset, gap⟩ = none := by
  rw [next, if_neg Bool.false_ne_true]
  dsimp only
  split
  · rfl
  · next hd => exact absurd ((List.dropWhile_suffix isSpace).mem (hd ▸ List.mem_cons_self ..)) h
  · next c more _ hd =>
    have hmore : '<' ∉ more := fun hx =>
      h ((List.dropWhile_suffix isSpace).mem (hd ▸ List.mem_cons_of_mem c hx))
    rw [dropWhile_eq_nil (bne_of_not_mem hmore)]

end

/-- From between tags, a reader comes to markup behind white space, passes other text, or finds
nothing. -/
lemma next_cases {r : Reader} (hr : r.inMarkup = false) :
    r.next = none ∨ ∃ gap rest, r.rest = gap ++ '<' :: rest ∧ '<' ∉ gap ∧
      ((gap.all isSpace = true ∧
          r.next = some (markup ⟨r.opened, true, r.offset + Text.byteLength gap + 1, rest⟩)) ∨
        ¬ gap.all isSpace = true ∧ r.next =
          some (.event .other ⟨r.opened, true, r.offset + Text.byteLength gap + 1, rest⟩)) := by
  obtain ⟨opened, inMarkup, offset, text⟩ := r
  cases hr
  by_cases h : '<' ∈ text
  · obtain ⟨gap, rest, rfl, hgap⟩ := List.eq_append_cons_of_mem h
    refine .inr ⟨gap, rest, rfl, hgap, ?_⟩
    by_cases hblank : gap.all isSpace = true
    · exact .inl ⟨hblank, next_of_blank hblank rest⟩
    · exact .inr ⟨hblank, next_of_text hgap hblank rest⟩
  · exact .inl (next_of_end h)

/-! From a `<` on. -/

/-- What a reader passes when it goes on behind markup. -/
structure Passes (r n : Reader) : Prop where
  outside : n.inMarkup = false
  passed : ∃ inside, r.rest = inside ++ '>' :: n.rest ∧
    n.offset = r.offset + Text.byteLength inside + 1

/-- Whether an outcome is an event behind some markup, or a fault other than bad attributes. -/
inductive Goes (r : Reader) (content : Option (List Char)) : Outcome → Prop
  | on {e : Event} {n : Reader} (passes : r.Passes n)
      (read : ∀ position cause, e ≠ .fault position cause) (tag : e.content? = content) :
      Goes r content (.event e n)
  | off {position : Nat} {cause : Malformation} (reader : ∀ fault, cause ≠ .badAttributes fault)
      (noTag : content = none) : Goes r content (.fault position cause)

section
variable {r : Reader} {inside rest : List Char}

lemma passes_behind (h : r.rest = inside ++ '>' :: rest) : r.Passes (r.behind inside rest) :=
  ⟨rfl, inside, h, rfl⟩

lemma goes_rejected {cause : Malformation} (h : ∀ fault, cause ≠ .badAttributes fault) :
    r.Goes none (r.rejected cause) :=
  .off h rfl

lemma goes_declaration (r : Reader) : r.Goes none r.declaration := by
  unfold declaration
  split
  · split
    · next hs =>
      split
      · exact .on (passes_behind (splitClosed_eq hs)) nofun rfl
      · exact goes_rejected nofun
    · exact goes_rejected nofun
  · split
    · next hs =>
      split
      · exact .on (passes_behind (splitClosed_eq hs)) nofun rfl
      · exact goes_rejected nofun
    · exact goes_rejected nofun
  · split
    · split
      · next hs =>
        split
        · split
          · exact .off nofun rfl
          · exact .on (passes_behind (splitDoctype_eq hs)) nofun rfl
        · exact goes_rejected nofun
      · exact goes_rejected nofun
    · exact goes_rejected nofun
  · exact goes_rejected nofun

lemma goes_close {n : Reader} (h : r.Passes n) (inside : List Char) :
    r.Goes none (r.close inside n) := by
  unfold close
  dsimp only
  split
  · exact goes_rejected nofun
  · split
    · exact .on ⟨h.outside, h.passed⟩ nofun rfl
    · exact goes_rejected nofun

/-- Markup is passed up to its `>`, and start tags and tags without content are told apart from all
other. -/
theorem goes_markup (r : Reader) : r.Goes (tagContent? r.rest) r.markup := by
  unfold markup
  split
  · next hr =>
    have hnone : tagContent? r.rest = none := by rw [hr]; rfl
    rw [hnone]
    exact goes_declaration r
  · next hr =>
    have hnone : tagContent? r.rest = none := by rw [hr]; rfl
    rw [hnone]
    split
    · next hs =>
      split
      · exact .on (passes_behind (splitClosed_eq hs)) nofun rfl
      · exact goes_rejected nofun
    · exact goes_rejected nofun
  · next hr =>
    have hnone : tagContent? r.rest = none := by rw [hr]; rfl
    rw [hnone]
    split
    · next hs => exact goes_close (passes_behind (splitTag_eq hs)) _
    · exact goes_rejected nofun
  · next hdeclaration hinstruction hend =>
    rw [tagContent?_of_name hdeclaration hinstruction hend]
    split
    · next inside rest hs =>
      have hpasses := passes_behind (splitTag_eq hs)
      rw [hs, Option.map_some]
      dsimp only
      split
      · next hempty => exact .on hpasses nofun (congrArg some (if_pos hempty).symm)
      · next hstart =>
        exact .on ⟨hpasses.outside, hpasses.passed⟩ nofun (congrArg some (if_neg hstart).symm)
    · next hs =>
      rw [hs]
      exact goes_rejected nofun

end

end Reader
end GatewayRecipes.Markup
