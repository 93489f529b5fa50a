import GatewayRecipes.Proofs.Markup.Passage
import GatewayRecipes.Proofs.Markup.Traversal
import GatewayRecipes.Proofs.Markup.Written

/-! Texts that spell elements. Such a text is read as the tags of its elements wherever it stands
between tags, so that texts can be put together from smaller ones. -/
namespace GatewayRecipes.Markup
open Gateway (writeAttributes)

namespace Reader

/-- The events that matter from here on. -/
def tags (r : Reader) : List Event := tagEvents r.steps

/-- Only what comes next counts, and not where the reader stands. -/
lemma tags_eq (r : Reader) :
    r.tags = match r.next with
      | none => []
      | some (.fault position cause) => [.fault position cause]
      | some (.event e n) => [e].filter (· ≠ .other) ++ n.tags := by
  rw [tags]
  cases h : r.next with
  | none =>
    rw [steps_of_none h]
    rfl
  | some outcome =>
    cases outcome with
    | event e n =>
      rw [steps_of_event h]
      exact tagEvents_cons ..
    | fault position cause =>
      rw [steps_of_fault h]
      rfl

lemma tags_of_event {r n : Reader} {e : Event} (h : r.next = some (.event e n))
    (he : e ≠ .other) : r.tags = e :: n.tags := by
  rw [tags_eq, h]
  simp [he]

lemma tags_of_other {r n : Reader} (h : r.next = some (.event .other n)) : r.tags = n.tags := by
  rw [tags_eq, h]
  rfl

lemma tags_of_markup {r n : Reader} {e : Event} (hr : r.inMarkup = true)
    (h : r.markup = .event e n) (he : e ≠ .other) : r.tags = e :: n.tags := by
  apply tags_of_event _ he
  rw [next_of_inMarkup hr, h]

section
variable {opened : List (List Char)} {offset : Nat} {text : List Char}

/-- Between tags a reader goes on behind the next `<`. -/
lemma tags_between (h : '<' ∉ text) (rest : List Char) :
    tags ⟨opened, false, offset, text ++ '<' :: rest⟩ =
      tags ⟨opened, true, offset + Text.byteLength text + 1, rest⟩ := by
  by_cases hblank : text.all isSpace = true
  · have hnext : next ⟨opened, false, offset, text ++ '<' :: rest⟩ =
        next ⟨opened, true, offset + Text.byteLength text + 1, rest⟩ :=
      (next_of_blank hblank rest).trans (next_of_inMarkup rfl).symm
    rw [tags_eq, hnext, ← tags_eq]
  · exact tags_of_other (next_of_text h hblank rest)

lemma tags_of_open (rest : List Char) :
    tags ⟨opened, false, offset, '<' :: rest⟩ = tags ⟨opened, true, offset + 1, rest⟩ :=
  @tags_between opened offset [] (by simp) rest

lemma tags_of_text (h : '<' ∉ text) : tags ⟨opened, false, offset, text⟩ = [] := by
  rw [tags_eq, next_of_end h]

lemma tags_nil : tags ⟨opened, false, offset, []⟩ = [] := tags_of_text List.not_mem_nil

/-- Text between tags leaves no trace. -/
lemma tags_append_text (h : '<' ∉ text) (rest : List Char) :
    tags ⟨opened, false, offset, text ++ rest⟩ =
      tags ⟨opened, false, offset + Text.byteLength text, rest⟩ := by
  by_cases hrest : '<' ∈ rest
  · obtain ⟨before, behind, rfl, hbefore⟩ := List.eq_append_cons_of_mem hrest
    have hall : '<' ∉ text ++ before := by simp [h, hbefore]
    rw [← List.append_assoc, tags_between hall, tags_between hbefore, Text.byteLength_append,
      ← Nat.add_assoc offset]
  · have hall : '<' ∉ text ++ rest := by simp [h, hrest]
    rw [tags_of_text hall, tags_of_text hrest]

end

lemma splitClosed_plain {closes : List Char → Bool} {text : List Char} (h : '>' ∉ text)
    (before rest : List Char) :
    splitClosed closes before (text ++ rest) =
      splitClosed closes (text.reverse ++ before) rest := by
  induction text generalizing before with
  | nil => rfl
  | cons c more ih =>
    obtain ⟨hc, hmore⟩ := not_or.mp (List.mem_cons.not.mp h)
    rw [List.cons_append, splitClosed, if_neg (by simp [Ne.symm hc]), ih hmore]
    simp

lemma tags_instruction {text : List Char} (h : '>' ∉ text) (opened : List (List Char))
    (offset : Nat) (rest : List Char) :
    ∃ behind, tags ⟨opened, true, offset, '?' :: (text ++ '?' :: '>' :: rest)⟩ =
      tags ⟨opened, false, behind, rest⟩ := by
  have hsplit : splitClosed closesInstruction [] ('?' :: (text ++ '?' :: '>' :: rest)) =
      some ('?' :: (text ++ ['?']), rest) := by
    have hplain : '>' ∉ '?' :: (text ++ ['?']) := by simp [h]
    have := @splitClosed_plain closesInstruction _ hplain [] ('>' :: rest)
    rw [List.cons_append, List.append_assoc, List.singleton_append] at this
    rw [this, splitClosed]
    simp [closesInstruction]
  have hmarkup : markup ⟨opened, true, offset, '?' :: (text ++ '?' :: '>' :: rest)⟩ =
      .event .other
        ⟨opened, false, offset + Text.byteLength ('?' :: (text ++ ['?'])) + 1, rest⟩ := by
    rw [markup]
    simp only [hsplit]
    rw [if_pos (by simp)]
    rfl
  exact ⟨_, tags_of_other ((next_of_inMarkup rfl).trans (congrArg some hmarkup))⟩

/-- Markup that begins with a name is a tag, up to a `>` outside quotes. -/
lemma markup_of_name {r : Reader} {c : Char} {more inside rest : List Char}
    (hr : r.rest = c :: more) (hc : c ∉ delimiters)
    (hsplit : splitTag none r.rest = some (inside, rest)) :
    r.markup =
      if inside.getLast? = some '/' then .event (.empty inside.dropLast) (r.behind inside rest)
      else .event (.start inside)
        { r.behind inside rest with opened := qualifiedName inside :: r.opened } := by
  have hne : c ≠ '!' ∧ c ≠ '?' ∧ c ≠ '/' := by
    refine ⟨?_, ?_, ?_⟩ <;> rintro rfl <;> exact hc (by decide)
  unfold markup
  split
  · next h => exact absurd (hr.symm.trans h) (by simp [hne])
  · next h => exact absurd (hr.symm.trans h) (by simp [hne])
  · next h => exact absurd (hr.symm.trans h) (by simp [hne])
  · rw [hsplit]

section
variable {tag : String} (htag : isName tag.toList = true)
include htag

lemma tags_start {attributes : Table String} (h : Writable attributes)
    (opened : List (List Char)) (offset : Nat) (rest : List Char) :
    ∃ behind, tags ⟨opened, true, offset, tagText tag attributes ++ '>' :: rest⟩ =
      .start (tagText tag attributes) :: tags ⟨tag.toList :: opened, false, behind, rest⟩ := by
  obtain ⟨c, more, hc, hdelimiter⟩ := exists_cons_tagText htag attributes
  have hsplit : splitTag none (tagText tag attributes ++ '>' :: rest) =
      some (tagText tag attributes, rest) := by
    rw [splitTag_tagText htag h, splitTag, if_pos rfl]
    simp
  have hrest : tagText tag attributes ++ '>' :: rest = c :: (more ++ '>' :: rest) := by
    rw [hc, List.cons_append]
  have hmarkup := markup_of_name (r := ⟨opened, true, offset, _⟩) hrest hdelimiter hsplit
  rw [if_neg (getLast?_tagText htag attributes), qualifiedName_tagText htag] at hmarkup
  exact ⟨_, tags_of_markup rfl hmarkup (by simp)⟩

lemma tags_empty {attributes : Table String} (h : Writable attributes)
    (opened : List (List Char)) (offset : Nat) (rest : List Char) :
    ∃ behind, tags ⟨opened, true, offset, tagText tag attributes ++ '/' :: '>' :: rest⟩ =
      .empty (tagText tag attributes) :: tags ⟨opened, false, behind, rest⟩ := by
  obtain ⟨c, more, hc, hdelimiter⟩ := exists_cons_tagText htag attributes
  have hsplit : splitTag none (tagText tag attributes ++ '/' :: '>' :: rest) =
      some (tagText tag attributes ++ ['/'], rest) := by
    rw [splitTag_tagText htag h, splitTag, if_neg (by decide), if_neg (by decide), splitTag,
      if_pos rfl]
    simp
  have hrest : tagText tag attributes ++ '/' :: '>' :: rest =
      c :: (more ++ '/' :: '>' :: rest) := by
    rw [hc, List.cons_append]
  have hmarkup := markup_of_name (r := ⟨opened, true, offset, _⟩) hrest hdelimiter hsplit
  rw [if_pos List.getLast?_concat, List.dropLast_concat] at hmarkup
  exact ⟨_, tags_of_markup rfl hmarkup (by simp)⟩

lemma endName_name : endName tag.toList = tag.toList := by
  have hne : tag.toList.reverse ≠ [] := by
    obtain ⟨c, rest, hname, -⟩ := exists_cons_of_isName htag
    simp [hname]
  obtain ⟨last, before, hreverse⟩ := List.exists_cons_of_ne_nil hne
  have hlast : isSpace last = false := by
    have hmem : last ∈ tag.toList := List.mem_reverse.mp (hreverse ▸ List.mem_cons_self ..)
    exact isSpace_eq_false (not_delimiter_of_isName htag hmem)
  rw [endName, hreverse, List.dropWhile_cons_of_neg (by simp [hlast])]
  dsimp only
  rw [← hreverse, List.reverse_reverse]

lemma tags_stop (opened : List (List Char)) (offset : Nat) (rest : List Char) :
    ∃ behind, tags ⟨tag.toList :: opened, true, offset, '/' :: (tag.toList ++ '>' :: rest)⟩ =
      .stop :: tags ⟨opened, false, behind, rest⟩ := by
  have hsplit : splitTag none ('/' :: (tag.toList ++ '>' :: rest)) =
      some ('/' :: tag.toList, rest) := by
    rw [splitTag, if_neg (by decide), if_neg (by decide), splitTag_name htag, splitTag, if_pos rfl]
    simp
  have hmarkup : markup ⟨tag.toList :: opened, true, offset, '/' :: (tag.toList ++ '>' :: rest)⟩ =
      .event .stop ⟨opened, false, offset + Text.byteLength ('/' :: tag.toList) + 1, rest⟩ := by
    rw [markup]
    simp only [hsplit]
    rw [close, List.drop_one, List.tail_cons, endName_name htag]
    simp [behind]
  exact ⟨_, tags_of_markup rfl hmarkup (by simp)⟩

end

end Reader

/-- Whether a text spells some elements: wherever it stands between tags, it is read as their
traversal, and what is behind it is read as if it stood there alone. -/
def Spells (text : String) (elements : List Element) : Prop :=
  ∃ events, Traversals events elements ∧ ∀ opened offset rest, ∃ behind,
    Reader.tags ⟨opened, false, offset, text.toList ++ rest⟩ =
      events ++ Reader.tags ⟨opened, false, behind, rest⟩

namespace Spells

lemma text {t : String} (h : '<' ∉ t.toList) : Spells t [] :=
  ⟨[], .nil, fun _ _ rest => ⟨_, Reader.tags_append_text h rest⟩⟩

lemma append {s t : String} {es fs : List Element} (hs : Spells s es) (ht : Spells t fs) :
    Spells (s ++ t) (es ++ fs) := by
  obtain ⟨events, hes, hs⟩ := hs
  obtain ⟨more, hfs, ht⟩ := ht
  refine ⟨events ++ more, hes.append hfs, ?_⟩
  intro opened offset rest
  obtain ⟨middle, hs⟩ := hs opened offset (t.toList ++ rest)
  obtain ⟨behind, ht⟩ := ht opened middle rest
  refine ⟨behind, ?_⟩
  rw [String.toList_append, List.append_assoc, hs, ht, List.append_assoc]

lemma join {α : Type} {write : α → String} {element : α → Element} {xs : List α}
    (h : ∀ x ∈ xs, Spells (write x) [element x]) :
    Spells (String.join (xs.map write)) (xs.map element) := by
  induction xs with
  | nil => exact text (by simp)
  | cons x rest ih =>
    rw [List.map_cons, String.join_cons]
    exact (h x (List.mem_cons_self ..)).append (ih fun y hy => h y (List.mem_cons_of_mem x hy))

/-- Nothing spells nothing. -/
lemma eq_nil {elements : List Element} (h : Spells "" elements) : elements = [] := by
  obtain ⟨events, ht, h⟩ := h
  obtain ⟨behind, h⟩ := h [] 0 []
  rw [String.toList_empty, List.nil_append, Reader.tags_nil] at h
  obtain ⟨rfl, -⟩ := List.append_eq_nil_iff.mp h.symm
  cases ht
  rfl

lemma instruction {t : String} (h : '>' ∉ t.toList) : Spells ("<?" ++ t ++ "?>") [] := by
  refine ⟨[], .nil, ?_⟩
  intro opened offset rest
  obtain ⟨behind, hbehind⟩ := Reader.tags_instruction h opened (offset + 1) rest
  refine ⟨behind, ?_⟩
  simpa using (Reader.tags_of_open _).trans hbehind

section
variable {tag : String} (htag : isName tag.toList = true) (hcolon : ':' ∉ tag.toList)
  {attributes : Table String} (h : Writable attributes)
include htag hcolon h

lemma empty :
    Spells ("<" ++ tag ++ writeAttributes attributes ++ "/>") [⟨tag, attributes, []⟩] := by
  have htraversal := Traversals.empty (readsAttributes_tagText htag h) .nil
  rw [tagName_tagText htag hcolon] at htraversal
  refine ⟨_, htraversal, ?_⟩
  intro opened offset rest
  obtain ⟨behind, hbehind⟩ := Reader.tags_empty htag h opened (offset + 1) rest
  refine ⟨behind, ?_⟩
  simpa [tagText] using (Reader.tags_of_open _).trans hbehind

lemma tags {body : String} {children : List Element} (hbody : Spells body children) :
    Spells ("<" ++ tag ++ writeAttributes attributes ++ ">" ++ body ++ "</" ++ tag ++ ">")
      [⟨tag, attributes, children⟩] := by
  obtain ⟨events, hchildren, hbody⟩ := hbody
  have htraversal := Traversals.tags (readsAttributes_tagText htag h) hchildren .nil
  rw [tagName_tagText htag hcolon] at htraversal
  refine ⟨_, htraversal, ?_⟩
  intro opened offset rest
  obtain ⟨inner, hstart⟩ := Reader.tags_start htag h opened (offset + 1)
    (body.toList ++ '<' :: '/' :: (tag.toList ++ '>' :: rest))
  obtain ⟨last, hbody⟩ := hbody (tag.toList :: opened) inner
    ('<' :: '/' :: (tag.toList ++ '>' :: rest))
  obtain ⟨behind, hend⟩ := Reader.tags_stop htag opened (last + 1) rest
  refine ⟨behind, ?_⟩
  -- the start tag, then the body, then the end tag
  rw [hbody, Reader.tags_of_open, hend] at hstart
  simpa [tagText] using (Reader.tags_of_open _).trans hstart

end
end Spells

/-- A document that spells one element is read as this. -/
theorem parseDocument_of_spells {document : String} {e : Element} (h : Spells document [e])
    (hmark : document.toList.head? ≠ some '\ufeff') (hheight : e.height ≤ maxDepth) :
    parseDocument document = .ok e := by
  have hbegin : Reader.ofDocument document.toList = ⟨[], false, 0, document.toList⟩ := by
    unfold Reader.ofDocument
    split
    · next hcs => exact absurd (by rw [hcs]; rfl) hmark
    · rfl
  obtain ⟨events, htraversal, h⟩ := h
  obtain ⟨behind, h⟩ := h [] 0 []
  rw [List.append_nil, Reader.tags_nil, List.append_nil] at h
  have htags : tagEvents (eventsOf document.toList) = events := by
    rw [eventsOf, hbegin]
    exact h
  exact assemble_of_traversals (htags.symm ▸ htraversal) hheight

end GatewayRecipes.Markup
