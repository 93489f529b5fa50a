import GatewayRecipes.Proofs.Gateway.Blank
import GatewayRecipes.Proofs.Registry.Sequence

/-! Loads of documents with blank attributes. Those that count as absent decide neither what is
registered, nor under which names, nor what a failure says. -/
namespace GatewayRecipes.Registry
open Element

variable {e f : Element}

lemma describe_pruned (h : e.Pruned f) : describe f = describe e := by
  rw [describe, describe, h.textAttribute?_eq, h.name_eq]

/-- Places that come to the same for a load. -/
structure Position.Alike (p q : Position) : Prop where
  mode : q.mode = p.mode
  chainId? : q.chainId? = p.chainId?
  index : q.index = p.index

lemma Position.alike_pruned (h : e.Pruned f) (index : Nat) :
    Alike ⟨some e, index⟩ ⟨some f, index⟩ :=
  ⟨mode_congr h.name_eq _ _, chainId?_congr h.name_eq (h.textAttribute?_eq "id") _ _, rfl⟩

lemma componentName_pruned {p q : Position} (hpq : p.Alike q) (h : e.Pruned f) (r : Registry)
    (staged : Table Recipe) (kind : RecipeKind) :
    r.componentName staged kind q f = r.componentName staged kind p e := by
  rw [componentName, componentName, hpq.chainId?, hpq.index, h.textAttribute?_eq]

lemma result_stage_pruned {p q : Position} (hpq : p.Alike q) (h : e.Pruned f) (r : Registry)
    (staged : Table Recipe) :
    (r.stage .gateway q f staged).result = (r.stage .gateway p e staged).result := by
  have hparse : (DefinitionParser.gateway.parse f p.mode).result =
      (DefinitionParser.gateway.parse e p.mode).result := Gateway.result_translate_pruned h p.mode
  simp only [stage, Traced.result_bind, Traced.result_mapError, hpq.mode, hparse,
    componentName_pruned hpq h, describe_pruned h]

lemma result_walkChildren_pruned {r : Registry} {cs ds : List Element}
    (hcd : List.Forall₂ Pruned cs ds)
    (hwalk : ∀ c ∈ cs, ∀ d, c.Pruned d → ∀ (p q : Position) (staged : Table Recipe), p.Alike q →
      (r.walk q staged d).result = (r.walk p staged c).result)
    (h : e.Pruned f) (index : Nat) (staged : Table Recipe) :
    (r.walkChildren f index staged ds).result = (r.walkChildren e index staged cs).result := by
  induction hcd generalizing index staged with
  | nil => rfl
  | cons hc _ ih =>
    obtain ⟨hfirst, hrest⟩ := List.forall_mem_cons.mp hwalk
    rw [walkChildren, walkChildren, Traced.result_bind, Traced.result_bind,
      hfirst _ hc _ _ staged (Position.alike_pruned h index)]
    congr 1
    funext next
    exact ih hrest (index + 1) next

lemma result_walk_pruned (definitions : Table Recipe) {p q : Position} (hpq : p.Alike q)
    (h : e.Pruned f) (staged : Table Recipe) :
    ((standard.extend definitions).walk q staged f).result =
      ((standard.extend definitions).walk p staged e).result := by
  -- By induction on the tree, for all places at once: a child stands in an element that has lost
  -- attributes as well.
  induction e using childInduction generalizing f p q staged with
  | step e ih =>
    cases hp : (standard.extend definitions).parserFor? e.name with
    | none =>
      rw [walk_of_passed hp, walk_of_passed (h.name_eq ▸ hp)]
      exact result_walkChildren_pruned h.children
        (fun c hc d hcd p q staged hpq => ih c hc hpq hcd staged) h 0 staged
    | some parser =>
      obtain rfl := parserFor?_standard_extend hp
      rw [walk_of_handled hp, walk_of_handled (h.name_eq ▸ hp)]
      exact result_stage_pruned hpq h _ staged

/-- A load of a document without some of the blank attributes that count as absent comes out as a
load of the document itself: with the same registry, or with the same report. -/
theorem result_load_pruned (definitions : Table Recipe) (pruned : e.Pruned f) :
    ((standard.extend definitions).load f).result =
      ((standard.extend definitions).load e).result := by
  have hplace : Position.Alike ⟨none, 0⟩ ⟨none, 0⟩ := ⟨rfl, rfl, rfl⟩
  rw [load, load, Traced.result_bind, Traced.result_bind,
    result_walk_pruned definitions hplace pruned]

/-- A gateway in a chain, and one of its own with a method and a default header. All have blank
attributes. -/
def blankDocument : Element :=
  (Element.named "beans").withChildren
    [((Element.named "chain").withAttribute "id" " ").withChildren
      [(Element.named "gateway").withAttributes [("reply-timeout", ""), ("id", "\u00a0")]],
    ((Element.named "gateway").withAttributes
      [("mapper", " "), ("note", ""), ("id", "g")]).withChildren
      [((Element.named "method").withAttributes
        [("name", "m"), ("payload-expression", ""), ("reply-channel", " ")]).withChildren
          [(Element.named "header").withAttributes
            [("name", "h"), ("value", " "), ("expression", "1")]],
      (Element.named "default-header").withAttributes
        [("name", "d"), ("expression", ""), ("value", "2")]]]

def prunedDocument : Element :=
  (Element.named "beans").withChildren
    [(Element.named "chain").withChildren [Element.named "gateway"],
    ((Element.named "gateway").withAttributes [("note", ""), ("id", "g")]).withChildren
      [((Element.named "method").withAttributes
        [("name", "m"), ("reply-channel", " ")]).withChildren
          [(Element.named "header").withAttributes [("name", "h"), ("expression", "1")]],
      (Element.named "default-header").withAttributes [("name", "d"), ("value", "2")]]]

theorem result_load_pruned_nested :
    blankDocument.Pruned prunedDocument ∧
      ((standard.extend []).load prunedDocument).result =
        ((standard.extend []).load blankDocument).result := by
  have hinline : Pruned
      ((Element.named "gateway").withAttributes [("reply-timeout", ""), ("id", "\u00a0")])
      (Element.named "gateway") :=
    .intro (fun _ => false) rfl rfl (by decide) .nil
  have hheader : Pruned
      ((Element.named "header").withAttributes [("name", "h"), ("value", " "), ("expression", "1")])
      ((Element.named "header").withAttributes [("name", "h"), ("expression", "1")]) :=
    .intro (fun key => key != "value") rfl rfl (by decide) .nil
  have hpruned : blankDocument.Pruned prunedDocument := by
    refine .intro (fun _ => true) rfl rfl (by decide) (.cons ?_ (.cons ?_ .nil))
    · exact .intro (fun _ => false) rfl rfl (by decide) (.cons hinline .nil)
    · refine .intro (fun key => key != "mapper") rfl rfl (by decide) (.cons ?_ (.cons ?_ .nil))
      · exact .intro (fun key => key != "payload-expression") rfl rfl (by decide)
          (.cons hheader .nil)
      · exact .intro (fun key => key != "expression") rfl rfl (by decide) .nil
  exact ⟨hpruned, result_load_pruned [] hpruned⟩

end GatewayRecipes.Registry
