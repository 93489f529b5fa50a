import GatewayRecipes.Gateway.Draft
import GatewayRecipes.Markup.Event
import GatewayRecipes.Proofs.Markup.Attribute
import GatewayRecipes.Proofs.Markup.Escape

/-! Tags as they are written. Attributes are read again when their keys are names, each of which
comes once. -/
namespace GatewayRecipes.Markup
open Gateway (writeAttributes escaped)

/-- What a name can begin with, by the production `NameStartChar` of XML. -/
def nameStartRanges : Text.Ranges :=
  [(0x3a, 0x3a), (0x41, 0x5a), (0x5f, 0x5f), (0x61, 0x7a), (0xc0, 0xd6), (0xd8, 0xf6),
    (0xf8, 0x2ff), (0x370, 0x37d), (0x37f, 0x1fff), (0x200c, 0x200d), (0x2070, 0x218f),
    (0x2c00, 0x2fef), (0x3001, 0xd7ff), (0xf900, 0xfdcf), (0xfdf0, 0xfffd), (0x10000, 0xeffff)]

/-- What else can stand in a name, by the production `NameChar`. -/
def nameMoreRanges : Text.Ranges :=
  [(0x2d, 0x2e), (0x30, 0x39), (0xb7, 0xb7), (0x300, 0x36f), (0x203f, 0x2040)]

def isNameChar (c : Char) : Bool := nameStartRanges.has c || nameMoreRanges.has c

/-- Whether a text is a name in the sense of XML. -/
def isName : List Char → Bool
  | [] => false
  | c :: rest => nameStartRanges.has c && rest.all isNameChar

/-- Whether attributes can be written in one tag. -/
structure Writable (attributes : Table String) : Prop where
  named : ∀ a ∈ attributes, isName a.1.toList = true
  distinct : attributes.Distinct

lemma Writable.nil : Writable [] := ⟨by simp, List.nodup_nil⟩

lemma Writable.tail {a : String × String} {rest : Table String} (h : Writable (a :: rest)) :
    Writable rest :=
  ⟨fun b hb => h.named b (List.mem_cons_of_mem a hb), (List.nodup_cons.mp h.distinct).2⟩

/-- What a tag is made of around its names. -/
def delimiters : List Char := [' ', '\r', '\n', '\t', '=', '"', '\'', '<', '>', '/', '!', '?']

lemma isNameChar_of_delimiter : ∀ c ∈ delimiters, isNameChar c = false := by
  have hall : delimiters.all (!isNameChar ·) = true := by decide
  simpa using List.all_eq_true.mp hall

lemma isNameChar_of_isName {name : List Char} (h : isName name = true) :
    ∀ c ∈ name, isNameChar c = true := by
  cases name with
  | nil => cases h
  | cons c rest =>
    rw [isName, Bool.and_eq_true, List.all_eq_true] at h
    refine List.forall_mem_cons.mpr ⟨?_, h.2⟩
    rw [isNameChar, h.1, Bool.true_or]

/-- No part of a name can be mistaken for what is around it. -/
lemma not_delimiter_of_isName {name : List Char} (h : isName name = true) {c : Char}
    (hc : c ∈ name) : c ∉ delimiters := by
  intro hd
  have := isNameChar_of_isName h c hc
  rw [isNameChar_of_delimiter c hd] at this
  cases this

lemma exists_cons_of_isName {name : List Char} (h : isName name = true) :
    ∃ c rest, name = c :: rest ∧ c ∉ delimiters := by
  cases name with
  | nil => cases h
  | cons c rest => exact ⟨c, rest, rfl, not_delimiter_of_isName h (List.mem_cons_self ..)⟩

lemma isSpace_eq_false {c : Char} (h : c ∉ delimiters) : isSpace c = false := by
  simp only [delimiters, List.mem_cons, not_or] at h
  simp [isSpace, h]

lemma endsKey_eq_false {c : Char} (h : c ∉ delimiters) : endsKey c = false := by
  have hs := isSpace_eq_false h
  simp only [delimiters, List.mem_cons, not_or] at h
  simp [endsKey, hs, h]

@[simp] lemma writeAttributes_nil : writeAttributes [] = "" := rfl

lemma toList_writeAttributes_cons (a : String × String) (rest : List (String × String)) :
    (writeAttributes (a :: rest)).toList =
      ' ' :: (a.1.toList ++ '=' :: '"' :: (escape a.2.toList ++
        '"' :: (writeAttributes rest).toList)) := by
  simp [writeAttributes, escaped, String.join_cons]

/-- Written attributes are set off by a blank from the name before them. -/
lemma isSpace_head (attributes : List (String × String)) :
    ∀ c ∈ (writeAttributes attributes).toList.head?, (!isSpace c) = false := by
  cases attributes with
  | nil => simp
  | cons a rest =>
    rw [toList_writeAttributes_cons]
    exact head_cons rfl _

lemma skip_up_to {p : Char → Bool} {xs ys : List Char} (hx : ∀ x ∈ xs, p x = true)
    (hy : ∀ y ∈ ys.head?, p y = false) (offset : Nat) :
    Remainder.skip ⟨offset, xs ++ ys⟩ p = ⟨offset + Text.byteLength xs, ys⟩ := by
  rw [Remainder.skip, takeWhile_up_to hx hy, dropWhile_up_to hx hy]

/-- Nothing is skipped before a character that does not count. -/
lemma skip_of_head {p : Char → Bool} {c : Char} (h : p c = false) (offset : Nat)
    (rest : List Char) : Remainder.skip ⟨offset, c :: rest⟩ p = ⟨offset, c :: rest⟩ :=
  @skip_up_to p [] (c :: rest) (by simp) (head_cons h rest) offset

lemma expectEq_written (offset : Nat) (rest : List Char) :
    expectEq ⟨offset, '=' :: rest⟩ = .ok ⟨offset + 1, rest⟩ := by
  rw [expectEq, skip_of_head rfl]
  rfl

lemma readKey_written {key : List Char} (hkey : isName key = true) (offset : Nat)
    (rest : List Char) :
    ∃ start behind, readKey ⟨offset, ' ' :: (key ++ '=' :: rest)⟩ =
      .ok (some ⟨key, start, ⟨behind, rest⟩⟩) := by
  obtain ⟨c, more, rfl, hc⟩ := exists_cons_of_isName hkey
  have hstart := @skip_up_to isSpace [' '] (c :: (more ++ '=' :: rest))
    (List.forall_mem_singleton.mpr rfl) (head_cons (isSpace_eq_false hc) _) offset
  have hmore : ∀ x ∈ more, (!endsKey x) = true := fun x hx => by
    simp [endsKey_eq_false (not_delimiter_of_isName hkey (List.mem_cons_of_mem c hx))]
  have hend := head_cons (p := (!endsKey ·)) (y := '=') rfl rest
  rw [readKey, List.cons_append, ← List.singleton_append, hstart]
  dsimp only
  rw [skip_up_to hmore hend, takeWhile_up_to hmore hend, expectEq_written]
  exact ⟨_, _, rfl⟩

lemma readValue_written {value : List Char} (hvalue : '"' ∉ value) (offset : Nat)
    (rest : List Char) :
    ∃ behind, readValue ⟨offset, '"' :: (value ++ '"' :: rest)⟩ = .ok (value, ⟨behind, rest⟩) := by
  have hin := bne_of_not_mem hvalue
  have hend := head_cons (p := (· != '"')) (y := '"') rfl rest
  rw [readValue, skip_of_head rfl]
  dsimp only
  rw [if_pos (.inl rfl), readQuoted, skip_up_to hin hend]
  dsimp only
  rw [takeWhile_up_to hin hend]
  exact ⟨_, rfl⟩

lemma writtenAttributes_write {attributes : Table String} (h : Writable attributes)
    (offset : Nat) :
    writtenAttributes ⟨offset, (writeAttributes attributes).toList⟩ =
      .ok (attributes.map fun a => (a.1.toList, escape a.2.toList)) := by
  induction attributes generalizing offset with
  | nil => exact writtenAttributes_of_none rfl
  | cons a rest ih =>
    obtain ⟨start, behind, hkey⟩ := readKey_written (h.named a (List.mem_cons_self ..)) offset
      ('"' :: (escape a.2.toList ++ '"' :: (writeAttributes rest).toList))
    obtain ⟨after, hvalue⟩ := readValue_written (quote_not_mem_escape a.2.toList) behind
      (writeAttributes rest).toList
    rw [toList_writeAttributes_cons, List.map_cons]
    exact (writtenAttributes_eq_ok_iff hkey _).mpr ⟨_, _, _, hvalue, ih h.tail after, rfl⟩

def tagText (tag : String) (attributes : Table String) : List Char :=
  tag.toList ++ (writeAttributes attributes).toList

section
variable {tag : String} (htag : isName tag.toList = true)
include htag

lemma not_isSpace_of_isName : ∀ c ∈ tag.toList, (!isSpace c) = true := by
  intro c hc
  simp [isSpace_eq_false (not_delimiter_of_isName htag hc)]

/-- The attributes of a tag are read again. -/
theorem readsAttributes_tagText {attributes : Table String} (h : Writable attributes) :
    ReadsAttributes (tagText tag attributes) attributes := by
  refine ⟨attributes.map fun a => (a.1.toList, escape a.2.toList), ?_, ?_, ?_⟩
  · rw [tagText, skip_up_to (not_isSpace_of_isName htag) (isSpace_head attributes)]
    exact writtenAttributes_write h _
  · have : (attributes.map fun a => (a.1.toList, escape a.2.toList)).map (·.1) =
        attributes.keys.map String.toList := by simp [Table.keys]
    rw [this]
    exact h.distinct.map fun _ _ => String.toList_injective
  · rw [List.forall₂_map_left_iff, List.forall₂_same]
    intro a _
    exact ⟨String.ofList_toList, unescape_escape _⟩

lemma qualifiedName_tagText (attributes : Table String) :
    qualifiedName (tagText tag attributes) = tag.toList :=
  takeWhile_up_to (not_isSpace_of_isName htag) (isSpace_head attributes)

lemma tagName_tagText (hcolon : ':' ∉ tag.toList) (attributes : Table String) :
    tagName (tagText tag attributes) = tag := by
  have hlocal : tag.toList.dropWhile (· != ':') = [] := dropWhile_eq_nil (bne_of_not_mem hcolon)
  rw [tagName, qualifiedName_tagText htag, localName, hlocal, String.ofList_toList]

lemma exists_cons_tagText (attributes : Table String) :
    ∃ c rest, tagText tag attributes = c :: rest ∧ c ∉ delimiters := by
  obtain ⟨c, rest, hname, hc⟩ := exists_cons_of_isName htag
  exact ⟨c, rest ++ (writeAttributes attributes).toList, by rw [tagText, hname]; rfl, hc⟩

end

section
variable {text : List Char}

lemma splitTag_plain (h : ∀ c ∈ text, c ≠ '>' ∧ c ≠ '"' ∧ c ≠ '\'') (rest : List Char) :
    splitTag none (text ++ rest) = (splitTag none rest).map fun p => (text ++ p.1, p.2) := by
  induction text with
  | nil => simp
  | cons c more ih =>
    obtain ⟨hclose, hdouble, hsingle⟩ := h c (List.mem_cons_self ..)
    rw [List.cons_append, splitTag, if_neg hclose, if_neg (by simp [hdouble, hsingle]),
      ih fun x hx => h x (List.mem_cons_of_mem c hx), Option.map_map]
    rfl

lemma splitTag_quoted (h : '"' ∉ text) (rest : List Char) :
    splitTag (some '"') (text ++ '"' :: rest) =
      (splitTag none rest).map fun p => (text ++ '"' :: p.1, p.2) := by
  induction text with
  | nil => rw [List.nil_append, splitTag, if_pos rfl]; rfl
  | cons c more ih =>
    obtain ⟨hc, hmore⟩ := not_or.mp (List.mem_cons.not.mp h)
    rw [List.cons_append, splitTag, if_neg (Ne.symm hc), ih hmore, Option.map_map]
    rfl

lemma splitTag_name (h : isName text = true) (rest : List Char) :
    splitTag none (text ++ rest) = (splitTag none rest).map fun p => (text ++ p.1, p.2) := by
  apply splitTag_plain
  intro c hc
  refine ⟨?_, ?_, ?_⟩ <;> rintro rfl <;> exact not_delimiter_of_isName h hc (by decide)

end

lemma splitTag_writeAttributes {attributes : Table String} (h : Writable attributes)
    (rest : List Char) :
    splitTag none ((writeAttributes attributes).toList ++ rest) =
      (splitTag none rest).map fun p => ((writeAttributes attributes).toList ++ p.1, p.2) := by
  induction attributes with
  | nil => simp
  | cons a more ih =>
    have hkey := h.named a (List.mem_cons_self ..)
    rw [toList_writeAttributes_cons]
    simp only [List.cons_append, List.append_assoc]
    rw [splitTag, if_neg (by decide), if_neg (by decide), splitTag_name hkey, splitTag,
      if_neg (by decide), if_neg (by decide), splitTag, if_neg (by decide), if_pos (by decide),
      splitTag_quoted (quote_not_mem_escape _), ih h.tail]
    simp only [Option.map_map]
    rfl

/-- A tag does not end before its own `>`, whatever stands in its values. -/
lemma splitTag_tagText {tag : String} (htag : isName tag.toList = true)
    {attributes : Table String} (h : Writable attributes) (rest : List Char) :
    splitTag none (tagText tag attributes ++ rest) =
      (splitTag none rest).map fun p => (tagText tag attributes ++ p.1, p.2) := by
  rw [tagText, List.append_assoc, splitTag_name htag, splitTag_writeAttributes h, Option.map_map]
  simp [Function.comp_def]

/-- Attributes end with a quote. -/
lemma getLast?_writeAttributes {before : List Char} (h : before.getLast? ≠ some '/')
    (attributes : Table String) :
    (before ++ (writeAttributes attributes).toList).getLast? ≠ some '/' := by
  induction attributes generalizing before with
  | nil => simpa using h
  | cons a rest ih =>
    have hquote : (before ++ ' ' :: (a.1.toList ++ '=' :: '"' ::
        (escape a.2.toList ++ ['"']))).getLast? ≠ some '/' := by
      simp [List.getLast?_append, List.getLast?_cons]
    simpa [toList_writeAttributes_cons] using ih hquote

/-- The slash that ends a tag without content is not part of what is written in it. -/
lemma getLast?_tagText {tag : String} (htag : isName tag.toList = true)
    (attributes : Table String) : (tagText tag attributes).getLast? ≠ some '/' := by
  refine getLast?_writeAttributes (fun hl => ?_) attributes
  exact not_delimiter_of_isName htag (List.mem_of_getLast? hl) (by decide)

end GatewayRecipes.Markup
