import GatewayRecipes.Gateway.Draft
import GatewayRecipes.Proofs.Markup.Spelling

/-! Drafts of gateways as they are written. A draft spells its element, under any indentation and
in either of the layouts that it is written in. -/
namespace GatewayRecipes.Gateway
open Markup (isName Spells writeAttributes_nil)

/-- Whether a draft can be written: no element of it repeats a key, and all keys are names. -/
structure GatewayDraft.Writable (g : GatewayDraft) : Prop where
  attributes : Markup.Writable g.attributes
  methods : ∀ m ∈ g.methods, Markup.Writable m.attributes

lemma HeaderDraft.writable (h : HeaderDraft) : Markup.Writable h.attributes := by
  obtain ⟨name, value, expression⟩ := h
  -- whichever of the sources are there, the keys are among three different names
  constructor
  · cases value <;> cases expression <;> simp [attributes] <;> decide
  · cases value <;> cases expression <;> simp [attributes, Table.Distinct, Table.keys]

lemma HeaderDraft.element_eq (h : HeaderDraft) (tag : String) :
    h.element tag = ⟨tag, h.attributes, []⟩ :=
  Element.withAttributes_named h.writable.distinct tag

lemma MethodDraft.element_eq {m : MethodDraft} (hm : Markup.Writable m.attributes) :
    m.element = ⟨"method", m.attributes, m.headers.map (·.element "header")⟩ := by
  rw [element, Element.withAttributes_named hm.distinct]
  rfl

lemma GatewayDraft.element_eq {g : GatewayDraft} (hg : g.Writable) :
    g.element = ⟨"gateway", g.attributes,
      g.defaultHeaders.map (·.element "default-header") ++ g.methods.map MethodDraft.element⟩ := by
  rw [element, Element.withAttributes_named hg.attributes.distinct]
  rfl

section
variable {indent : String} (hindent : Text.hasText indent = false)
include hindent

lemma spells_indent : Spells indent [] := by
  apply Spells.text
  intro h
  have := (Text.hasText_eq_false_iff indent).mp hindent '<' h
  revert this
  decide

lemma hasText_deeper : Text.hasText (deeper indent) = false := by
  have hmore : Text.hasText "    " = false := by decide
  rw [Text.hasText_eq_false_iff] at hindent hmore ⊢
  intro c hc
  rw [deeper, String.toList_append, List.mem_append] at hc
  exact hc.elim (hindent c) (hmore c)

section
variable {tag : String} (htag : isName tag.toList = true) (hcolon : ':' ∉ tag.toList)
  {attributes : Table String} (h : Markup.Writable attributes)
include htag hcolon h

lemma spells_writeEmpty : Spells (writeEmpty indent tag attributes) [⟨tag, attributes, []⟩] := by
  have hline : Spells "\n" [] := Spells.text (by decide)
  have := ((spells_indent hindent).append (Spells.empty htag hcolon h)).append hline
  simpa [writeEmpty, String.append_assoc] using this

/-- An element is spelled in both of its layouts. Where the text of its content is empty, it has
no content. -/
lemma spells_writeElement {body : String} {children : List Element} (hbody : Spells body children) :
    Spells (writeElement indent tag attributes body) [⟨tag, attributes, children⟩] := by
  rw [writeElement]
  split
  · next hempty =>
    obtain rfl := String.isEmpty_iff.mp hempty
    rw [hbody.eq_nil]
    exact spells_writeEmpty hindent htag hcolon h
  · have hline : Spells "\n" [] := Spells.text (by decide)
    have hlines := (hline.append hbody).append (spells_indent hindent)
    have := ((spells_indent hindent).append (Spells.tags htag hcolon h hlines)).append hline
    have hjoin (s : String) : ">" ++ ("\n" ++ s) = ">\n" ++ s := (String.append_assoc ..).symm
    simpa [String.append_assoc, hjoin] using this

end

lemma spells_writeHeaders {tag : String} (htag : isName tag.toList = true)
    (hcolon : ':' ∉ tag.toList) (headers : List HeaderDraft) :
    Spells (writeHeaders indent tag headers) (headers.map (·.element tag)) := by
  apply Spells.join
  intro header _
  rw [header.element_eq]
  exact spells_writeEmpty hindent htag hcolon header.writable

lemma MethodDraft.spells_write {m : MethodDraft} (hm : Markup.Writable m.attributes) :
    Spells (m.write indent) [m.element] := by
  rw [m.element_eq hm]
  exact spells_writeElement hindent (by decide) (by decide) hm
    (spells_writeHeaders (hasText_deeper hindent) (by decide) (by decide) m.headers)

theorem GatewayDraft.spells_write {g : GatewayDraft} (hg : g.Writable) :
    Spells (g.write indent) [g.element] := by
  rw [g.element_eq hg]
  have hname : isName "default-header".toList = true := by decide
  have hheaders := spells_writeHeaders (hasText_deeper hindent) hname (by decide) g.defaultHeaders
  have hmethods : Spells (String.join (g.methods.map (·.write (deeper indent))))
      (g.methods.map MethodDraft.element) :=
    Spells.join fun m hm => MethodDraft.spells_write (hasText_deeper hindent) (hg.methods m hm)
  exact spells_writeElement hindent (by decide) (by decide) hg.attributes
    (hheaders.append hmethods)

end

/-- A gateway, its methods and their headers are all the levels that there are. -/
lemma GatewayDraft.height_element_le {g : GatewayDraft} (hg : g.Writable) :
    g.element.height ≤ 3 := by
  have hheaders (tag : String) (headers : List HeaderDraft) :
      Element.heights (headers.map (·.element tag)) ≤ 1 := by
    apply Element.heights_le
    intro e he
    obtain ⟨header, -, rfl⟩ := List.mem_map.mp he
    simp [header.element_eq]
  have hmethods : Element.heights (g.methods.map MethodDraft.element) ≤ 2 := by
    apply Element.heights_le
    intro e he
    obtain ⟨m, hm, rfl⟩ := List.mem_map.mp he
    rw [m.element_eq (hg.methods m hm), Element.height_mk]
    exact Nat.succ_le_succ (hheaders "header" m.headers)
  rw [g.element_eq hg, Element.height_mk, Element.heights_append]
  have := hheaders "default-header" g.defaultHeaders
  omega

/-- Text that begins with indentation does not begin with a byte order mark. -/
lemma head?_of_indent {indent : String} (hindent : Text.hasText indent = false) (rest : String) :
    (indent ++ ("<" ++ rest)).toList.head? ≠ some '\ufeff' := by
  have hblank := (Text.hasText_eq_false_iff indent).mp hindent
  rw [String.toList_append]
  cases h : indent.toList with
  | nil => simp
  | cons c more =>
    have hc := hblank c (by simp [h])
    rw [List.cons_append, List.head?_cons]
    rintro ⟨⟩
    revert hc
    decide

lemma GatewayDraft.head?_write {indent : String} (hindent : Text.hasText indent = false)
    (g : GatewayDraft) : (g.write indent).toList.head? ≠ some '\ufeff' := by
  obtain ⟨rest, hrest⟩ : ∃ rest, g.write indent = indent ++ ("<" ++ rest) := by
    rw [write, writeElement]
    split
    · exact ⟨_, by simp only [writeEmpty, String.append_assoc]; rfl⟩
    · exact ⟨_, by simp only [String.append_assoc]; rfl⟩
  rw [hrest]
  exact head?_of_indent hindent rest

section
variable {body : String} {elements : List Element}

lemma spells_writeDocument (h : Spells body elements) :
    Spells (writeDocument body) [⟨"beans", [], elements⟩] := by
  have hline : Spells "\n" [] := Spells.text (by decide)
  have hbegin : Spells ("<?" ++ "xml version=\"1.0\" encoding=\"UTF-8\"" ++ "?>") [] :=
    Spells.instruction (by simp)
  have hname : isName "beans".toList = true := by decide
  have hbeans := Spells.tags hname (by decide) .nil (hline.append h)
  have hdocument : writeDocument body =
      "<?" ++ "xml version=\"1.0\" encoding=\"UTF-8\"" ++ "?>" ++ "\n" ++
        ("<" ++ "beans" ++ writeAttributes [] ++ ">" ++ ("\n" ++ body) ++ "</" ++ "beans" ++ ">") ++
        "\n" := by
    refine String.toList_inj.mp ?_
    unfold writeDocument
    simp only [writeAttributes_nil, String.toList_append, List.append_assoc]
    rfl
  rw [hdocument]
  simpa using ((hbegin.append hline).append hbeans).append hline

lemma head?_writeDocument (body : String) : (writeDocument body).toList.head? = some '<' := by
  unfold writeDocument
  simp only [String.toList_append, List.append_assoc, List.head?_append]
  rfl

def chainAttributes (id : Option String) : Table String := (id.map (("id", ·))).toList

lemma spells_writeChain (id : Option String) (h : Spells body elements) :
    Spells (writeChain id body) [⟨"chain", chainAttributes id, elements⟩] := by
  have hline : Spells "\n" [] := Spells.text (by decide)
  have hindent : Spells "  " [] := Spells.text (by decide)
  have hattributes : Markup.Writable (chainAttributes id) := by
    cases id with
    | none => exact .nil
    | some id =>
      constructor
      · simp only [chainAttributes, Option.map_some, Option.toList_some, List.forall_mem_singleton]
        decide
      · exact List.nodup_singleton "id"
  have hname : isName "chain".toList = true := by decide
  have htags := Spells.tags hname (by decide) hattributes ((hline.append h).append hindent)
  have hchain : writeChain id body =
      "  " ++ ("<" ++ "chain" ++ writeAttributes (chainAttributes id) ++ ">" ++
        ("\n" ++ body ++ "  ") ++ "</" ++ "chain" ++ ">") ++ "\n" := by
    refine String.toList_inj.mp ?_
    simp [writeChain, chainAttributes]
  rw [hchain]
  simpa using (hindent.append htags).append hline

end

end GatewayRecipes.Gateway
