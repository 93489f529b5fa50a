import GatewayRecipes.Proofs.Gateway.Draft
import GatewayRecipes.Proofs.Registry.Fold

/-! Documents of one definition. A written draft is loaded as the recipe of its element. -/
namespace GatewayRecipes.Registry
open Gateway (translate GatewayDraft writeDocument writeChain chainAttributes)
open Markup (parseDocument maxDepth)

lemma parserFor?_standard (name : String) :
    standard.parserFor? name = if name = "gateway" then some .gateway else none := by
  by_cases h : name = "gateway"
  · subst h
    rfl
  · have hn : ("gateway" == name) = false := beq_eq_false_iff_ne.mpr (Ne.symm h)
    rw [if_neg h]
    simp [standard, withParser, parserFor?, empty, DefinitionParser.gateway, hn]

section
variable {r : Registry} {e : Element} {path : List (Element × Nat)}

lemma filter_handles_of_handled (he : r.parserFor? e.name ≠ none)
    (hpath : ∀ a ∈ path, r.parserFor? a.1.name = none) :
    (e.occurrencesFrom path).filter r.handles = [⟨e, path⟩] := by
  rw [Element.occurrencesFrom_eq, List.filter_cons_of_pos ((r.handles_iff _).mpr ⟨he, hpath⟩),
    filter_handles_below he]

/-- Where an element has no parser and one child, what is loaded is in the child. -/
lemma filter_handles_of_child {child : Element} (he : r.parserFor? e.name = none)
    (hchildren : e.children = [child]) :
    (e.occurrencesFrom path).filter r.handles =
      (child.occurrencesFrom ((e, 0) :: path)).filter r.handles := by
  have hnot : ¬ r.handles ⟨e, path⟩ = true := fun h => ((r.handles_iff _).mp h).1 he
  rw [Element.occurrencesFrom_eq, List.filter_cons_of_neg hnot, hchildren,
    Element.occurrencesBelow, Element.occurrencesBelow, List.append_nil]

end

/-- The first gateway that a new registry meets cannot fail because of its name. -/
lemma result_register_gateway {o : Occurrence} (hname : o.element.name = "gateway") :
    (standard.register [] o).result =
      match (translate (modeAt o) o.element).result with
      | .error cause => .error ⟨["parsing " ++ describe o.element], .definition cause⟩
      | .ok recipe => .ok [(standard.nameAt [] .gatewayProxyFactory o, recipe)] := by
  have hp : standard.parserFor? o.element.name = some .gateway := by
    rw [parserFor?_standard, if_pos hname]
  have hparse : DefinitionParser.gateway.parse o.element (modeAt o) =
      translate (modeAt o) o.element := rfl
  have hfree (name : String) :
      ¬ (name ∈ standard.names ∨ name ∈ Table.keys ([] : Table Recipe)) :=
    not_or.mpr ⟨List.not_mem_nil, List.not_mem_nil⟩
  rw [register, hp]
  dsimp only
  rw [hparse]
  cases (translate (modeAt o) o.element).result with
  | error cause => rfl
  | ok recipe =>
    dsimp only
    rw [if_neg (hfree _)]
    rfl

/-- Loading the only gateway of a tree into a new registry. -/
lemma result_load_of_handled {root : Element} {o : Occurrence}
    (h : standard.handled root = [o]) (hname : o.element.name = "gateway") :
    (standard.load root).result =
      match (translate (modeAt o) o.element).result with
      | .error cause => .error ⟨["parsing " ++ describe o.element], .definition cause⟩
      | .ok recipe =>
        .ok (⟨standard.parsers, [(standard.nameAt [] .gatewayProxyFactory o, recipe)]⟩, 1) := by
  have hfold : ((standard.handled root).foldlM standard.register []).result =
      (standard.register [] o).result := by
    rw [h]
    simp
  rw [load_eq_foldlM, Traced.result_bind, hfold, result_register_gateway hname]
  cases (translate (modeAt o) o.element).result with
  | error cause => rfl
  | ok recipe => rfl

/-- Whether a document holds the one definition that an element is translated to. It is loaded into
a new registry if the translation succeeds, and then the recipe is all that is registered. -/
structure HoldsOne (document : String) (mode : Mode) (e : Element) : Prop where
  succeeds_iff : (∃ answer, (standard.loadDocument document).result = .ok answer) ↔
    ∃ recipe, (translate mode e).result = .ok recipe
  registers : ∀ recipe, (translate mode e).result = .ok recipe →
    ∃ name, (standard.loadDocument document).result =
      .ok (⟨standard.parsers, [(name, recipe)]⟩, 1)

lemma holdsOne_of_parse {document : String} {root : Element} {o : Occurrence}
    (hdocument : parseDocument document = .ok root) (h : standard.handled root = [o])
    (hname : o.element.name = "gateway") : HoldsOne document (modeAt o) o.element := by
  have hload : (standard.loadDocument document).result = (standard.load root).result := by
    rw [loadDocument, hdocument]
  rw [result_load_of_handled h hname] at hload
  constructor
  · rw [hload]
    cases (translate (modeAt o) o.element).result with
    | error cause => simp
    | ok recipe => simp
  · intro recipe ht
    rw [ht] at hload
    exact ⟨_, hload⟩

section
variable {g : GatewayDraft} (hg : g.Writable) {indent : String}
  (hindent : Text.hasText indent = false)
include hg

lemma name_element : g.element.name = "gateway" := by rw [g.element_eq hg]

lemma parserFor?_element : standard.parserFor? g.element.name ≠ none := by
  rw [parserFor?_standard, if_pos (name_element hg)]
  exact Option.some_ne_none _

include hindent

theorem parseDocument_write : parseDocument (g.write indent) = .ok g.element :=
  Markup.parseDocument_of_spells (g.spells_write hindent hg) (g.head?_write hindent)
    ((g.height_element_le hg).trans (by decide))

/-- A draft directly in the root is loaded as a standalone gateway. -/
theorem holdsOne_writeDocument :
    HoldsOne (writeDocument (g.write indent)) .standalone g.element := by
  have hheight := g.height_element_le hg
  have hdocument : parseDocument (writeDocument (g.write indent)) =
      .ok ⟨"beans", [], [g.element]⟩ := by
    apply Markup.parseDocument_of_spells (Gateway.spells_writeDocument (g.spells_write hindent hg))
    · simp [Gateway.head?_writeDocument]
    · simp only [Element.height_mk, Element.heights_cons, Element.heights_nil, maxDepth]
      omega
  have hhandled : standard.handled ⟨"beans", [], [g.element]⟩ =
      [⟨g.element, [(⟨"beans", [], [g.element]⟩, 0)]⟩] := by
    rw [handled, Element.occurrences, filter_handles_of_child rfl rfl]
    exact filter_handles_of_handled (parserFor?_element hg) (List.forall_mem_singleton.mpr rfl)
  exact holdsOne_of_parse hdocument hhandled (name_element hg)

/-- A draft directly in a chain is loaded as an inline gateway. -/
theorem holdsOne_writeChain (chain : Option String) :
    HoldsOne (writeDocument (writeChain chain (g.write indent))) .inline g.element := by
  have hheight := g.height_element_le hg
  have hdocument : parseDocument (writeDocument (writeChain chain (g.write indent))) =
      .ok ⟨"beans", [], [⟨"chain", chainAttributes chain, [g.element]⟩]⟩ := by
    apply Markup.parseDocument_of_spells
      (Gateway.spells_writeDocument (Gateway.spells_writeChain chain (g.spells_write hindent hg)))
    · simp [Gateway.head?_writeDocument]
    · simp only [Element.height_mk, Element.heights_cons, Element.heights_nil, maxDepth]
      omega
  have hhandled : standard.handled ⟨"beans", [], [⟨"chain", chainAttributes chain, [g.element]⟩]⟩ =
      [⟨g.element, [(⟨"chain", chainAttributes chain, [g.element]⟩, 0),
        (⟨"beans", [], [⟨"chain", chainAttributes chain, [g.element]⟩]⟩, 0)]⟩] := by
    rw [handled, Element.occurrences, filter_handles_of_child rfl rfl,
      filter_handles_of_child rfl rfl]
    refine filter_handles_of_handled (parserFor?_element hg) ?_
    simp only [List.forall_mem_cons]
    exact ⟨rfl, rfl, by simp⟩
  exact holdsOne_of_parse hdocument hhandled (name_element hg)

end

/-- A draft and its written form describe one definition. The text is read as the element of the
draft, and a document with the text holds what the element is translated to: as a standalone
gateway, or inline where the text stands in a chain. -/
theorem written_draft_describes {g : GatewayDraft} (hg : g.Writable) {indent : String}
    (hindent : Text.hasText indent = false) :
    parseDocument (g.write indent) = .ok g.element ∧
      HoldsOne (writeDocument (g.write indent)) .standalone g.element ∧
      ∀ chain, HoldsOne (writeDocument (writeChain chain (g.write indent))) .inline g.element :=
  ⟨parseDocument_write hg hindent, holdsOne_writeDocument hg hindent,
    holdsOne_writeChain hg hindent⟩

/-- A gateway with markup in its values, headers of its own and a method without any. -/
def markedDraft : GatewayDraft where
  attributes := [("id", "a<b"), ("p:text", "\"&'\n>")]
  defaultHeaders := [⟨"h", some "1", none⟩]
  methods := [⟨[("name", "m")], []⟩]

theorem written_draft_describes_marked :
    markedDraft.Writable ∧ Text.hasText "  " = false ∧
      parseDocument (markedDraft.write "  ") = .ok markedDraft.element ∧
      HoldsOne (writeDocument (markedDraft.write "  ")) .standalone markedDraft.element ∧
      ∀ chain,
        HoldsOne (writeDocument (writeChain chain (markedDraft.write "  "))) .inline
          markedDraft.element := by
  have hg : markedDraft.Writable := by
    refine ⟨⟨?_, ?_⟩, ?_⟩
    · simp only [markedDraft, List.forall_mem_cons]
      decide
    · simp [markedDraft, Table.Distinct, Table.keys]
    · simp only [markedDraft, List.forall_mem_cons]
      refine ⟨⟨?_, List.nodup_singleton "name"⟩, by simp⟩
      simp only [List.forall_mem_cons]
      decide
  have hindent : Text.hasText "  " = false := by decide
  exact ⟨hg, hindent, written_draft_describes hg hindent⟩

end GatewayRecipes.Registry
