import GatewayRecipes.Proofs.Equality
import GatewayRecipes.Proofs.Gateway.Modes

/-! Blank attributes that count as absent. Taking some of them away, at any depth, changes nothing
in a translation but the id that it reports. -/
namespace GatewayRecipes

/-- Whether a blank attribute of an element counts as an absent one. -/
def blankCountsAsAbsent (element key : String) : Bool :=
  match element with
  | "gateway" => !Gateway.isEligible key
  | "chain" => key == "id"
  | "method" => ["name", "payload-expression"].contains key
  | "default-header" | "header" => ["name", "value", "expression"].contains key
  | _ => false

namespace Element

/-- The second element is the first one less some blank attributes that count as absent. So are
their children, one by one. -/
inductive Pruned : Element → Element → Prop
  | intro {e f : Element} (keep : String → Bool) (name : f.name = e.name)
      (attributes : f.attributes = e.attributes.filter fun a => keep a.1)
      (dropped : ∀ a ∈ e.attributes, keep a.1 = false →
        blankCountsAsAbsent e.name a.1 = true ∧ Text.hasText a.2 = false)
      (children : List.Forall₂ Pruned e.children f.children) : Pruned e f

namespace Pruned
variable {e f : Element}

lemma name_eq (h : e.Pruned f) : f.name = e.name := by
  obtain ⟨-, hname, -, -, -⟩ := h
  exact hname

lemma children (h : e.Pruned f) : List.Forall₂ Pruned e.children f.children := by
  obtain ⟨-, -, -, -, hchildren⟩ := h
  exact hchildren

/-- What is dropped has no text. -/
lemma textAttribute?_eq (h : e.Pruned f) (key : String) :
    f.textAttribute? key = e.textAttribute? key := by
  obtain ⟨keep, -, hattributes, hdropped, -⟩ := h
  rw [textAttribute?, textAttribute?, attribute?, attribute?, hattributes, Table.get?_filter]
  cases hk : keep key with
  | true => rfl
  | false =>
    cases hv : e.attributes.get? key with
    | none => rfl
    | some v =>
      obtain ⟨-, hblank⟩ := hdropped _ (Table.mem_of_get? hv) hk
      simp [Option.filter, hblank]

lemma hasText_eq (h : e.Pruned f) (key : String) : f.hasText key = e.hasText key := by
  rw [hasText, hasText, h.textAttribute?_eq]

/-- What does not count as absent is not dropped. -/
lemma attribute?_eq (h : e.Pruned f) {key : String}
    (hkey : blankCountsAsAbsent e.name key = false) : f.attribute? key = e.attribute? key := by
  obtain ⟨keep, -, hattributes, hdropped, -⟩ := h
  rw [attribute?, attribute?, hattributes, Table.get?_filter]
  cases hk : keep key with
  | true => rfl
  | false =>
    cases hv : e.attributes.get? key with
    | none => rfl
    | some v =>
      obtain ⟨hcounts, -⟩ := hdropped _ (Table.mem_of_get? hv) hk
      rw [hkey] at hcounts
      cases hcounts

lemma childrenNamed (h : e.Pruned f) (name : String) :
    List.Forall₂ (fun c d => c.name = name ∧ c.Pruned d)
      (e.childrenNamed name) (f.childrenNamed name) := by
  have hchildren : List.Forall₂ Pruned (e.childrenNamed name) (f.childrenNamed name) := by
    refine List.rel_filter ?_ h.children
    intro c d hcd
    simp only [hcd.name_eq]
  refine (List.forall₂_and_left _ _).mpr ⟨?_, hchildren⟩
  exact forall_childrenNamed.mpr fun _ _ hn => hn

lemma isEmpty_childrenNamed (h : e.Pruned f) (name : String) :
    (f.childrenNamed name).isEmpty = (e.childrenNamed name).isEmpty := by
  have hchildren := h.childrenNamed name
  generalize e.childrenNamed name = as, f.childrenNamed name = bs at hchildren
  cases hchildren <;> rfl

end Pruned
end Element

namespace Gateway
open Element
variable {e f : Element}

/-! Headers. -/

lemma headerEntry_pruned (h : e.Pruned f) (tag : String) (scope : Scope) :
    headerEntry tag scope f = headerEntry tag scope e := by
  simp only [headerEntry, headerSource, h.textAttribute?_eq]

lemma headerExpressions_pruned {name : String} {as bs : List Element}
    (h : List.Forall₂ (fun c d => c.name = name ∧ c.Pruned d) as bs) (tag : String)
    (scope : Scope) : headerExpressions tag scope bs = headerExpressions tag scope as := by
  suffices hadd : ∀ table, addHeaders tag scope table bs = addHeaders tag scope table as from
    hadd []
  induction h with
  | nil => exact fun _ => rfl
  | cons hcd _ ih =>
    intro table
    simp only [addHeaders, headerEntry_pruned hcd.2, ih]

/-! Methods. -/

lemma methodSettings_pruned (h : e.Pruned f) (hname : e.name = "method") :
    methodSettings f = methodSettings e := by
  have hkey (key : String) (hk : blankCountsAsAbsent "method" key = false) :
      f.attributeD key = e.attributeD key := attributeD_congr (h.attribute?_eq (hname ▸ hk))
  rw [methodSettings_eq, methodSettings_eq, settingsContent, settingsContent,
    hkey "request-channel" (by decide), hkey "reply-channel" (by decide),
    hkey "request-timeout" (by decide), hkey "reply-timeout" (by decide)]

lemma methodMetadata_pruned (h : e.Pruned f) (hname : e.name = "method") (mapper : Bool) :
    methodMetadata mapper f = methodMetadata mapper e := by
  simp only [methodMetadata, h.textAttribute?_eq, h.isEmpty_childrenNamed,
    methodSettings_pruned h hname, headerExpressions_pruned (h.childrenNamed "header")]

lemma methodTable_pruned (h : e.Pruned f) : methodTable f = methodTable e := by
  rw [methodTable, methodTable, h.hasText_eq]
  suffices hadd : ∀ {as bs : List Element},
      List.Forall₂ (fun c d => c.name = "method" ∧ c.Pruned d) as bs →
      ∀ table, addMethods (e.hasText "mapper") table bs = addMethods (e.hasText "mapper") table as
    from hadd (h.childrenNamed "method") []
  intro as bs hmethods
  induction hmethods with
  | nil => exact fun _ => rfl
  | cons hcd _ ih =>
    intro table
    simp only [addMethods, methodMetadata_pruned hcd.2 hcd.1, ih]

/-! The whole gateway. -/

lemma copiedContent_pruned (h : e.Pruned f) (hname : e.name = "gateway") :
    copiedContent f.attributes = copiedContent e.attributes := by
  obtain ⟨keep, -, hattributes, hdropped, -⟩ := h
  rw [copiedContent, copiedContent, hattributes, List.filter_filter]
  congr 1
  refine List.filter_congr fun a ha => ?_
  cases hk : keep a.1 with
  | true => rw [Bool.and_true]
  | false =>
    obtain ⟨hcounts, -⟩ := hdropped a ha hk
    rw [hname] at hcounts
    simpa [blankCountsAsAbsent] using hcounts

lemma ruleContent_pruned (h : e.Pruned f) (rules : List AttributeRule) :
    ruleContent f rules = ruleContent e rules := by
  rw [ruleContent, ruleContent]
  simp only [h.hasText_eq]
  refine List.map_congr_left fun rule hrule => ?_
  have ht := h.textAttribute?_eq rule.key
  rw [Element.textAttribute?_eq, Element.textAttribute?_eq, h.hasText_eq,
    (List.mem_filter.mp hrule).2] at ht
  rw [Option.some.inj ht]

lemma baseRecipe_pruned (h : e.Pruned f) (hname : e.name = "gateway")
    (rules : List AttributeRule) : baseRecipe f rules = baseRecipe e rules := by
  rw [baseRecipe_eq, baseRecipe_eq, copiedContent_pruned h hname, ruleContent_pruned h]

lemma globalMetadata_pruned (h : e.Pruned f) : globalMetadata f = globalMetadata e := by
  simp only [globalMetadata, h.hasText_eq, h.textAttribute?_eq, h.isEmpty_childrenNamed,
    headerExpressions_pruned (h.childrenNamed "default-header")]

lemma recipe_pruned (h : e.Pruned f) (hname : e.name = "gateway") (mode : Mode) :
    recipe mode f = recipe mode e := by
  cases mode with
  | inline => simp only [recipe, inlineRecipe, baseRecipe_pruned h hname]
  | standalone =>
    simp only [recipe, standaloneRecipe, globalMetadata_pruned h, methodTable_pruned h,
      baseRecipe_pruned h hname]

/-- A gateway translates to the same recipe or the same error as without its blank attributes. -/
theorem result_translate_pruned (h : e.Pruned f) (mode : Mode) :
    (translate mode f).result = (translate mode e).result := by
  rw [translate, translate, h.name_eq]
  split
  · next hname =>
    rw [Traced.result_bind, Traced.result_bind, recipe_pruned h hname]
    rfl
  · rfl

end Gateway
end GatewayRecipes
