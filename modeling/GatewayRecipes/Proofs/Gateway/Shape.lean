import GatewayRecipes.Proofs.Gateway.Modes

/-! The shape of translated recipes: references, metadata and the table of methods under the names
that are reserved for them. Attributes are copied under any name, so a recipe has this shape exactly
if what is copied under a reserved name is replaced by what is declared there. -/
namespace GatewayRecipes.Gateway

def referenceProperties : List String :=
  ["defaultRequestChannel", "defaultReplyChannel", "errorChannel", "messageMapper",
    "asyncExecutor", "mapper"]

/-- The properties that are never plain values. -/
def reservedProperties : List String :=
  referenceProperties ++ ["globalMethodMetadata", "methodMetadataMap"]

/-- A nested recipe with the metadata of methods. -/
def IsMetadata (v : PropertyValue) : Prop :=
  ∃ r : Recipe, v = .recipe r ∧ r.kind = .gatewayMethodMetadata

/-- What may stand under the name of a property. -/
structure Fits (property : String) (v : PropertyValue) : Prop where
  reference : property ∈ referenceProperties → ∃ target, v = .reference target
  global : property = "globalMethodMetadata" → IsMetadata v
  methods : property = "methodMetadataMap" →
    ∃ entries, v = .map entries ∧ entries ≠ [] ∧ ∀ e ∈ entries, IsMetadata e.2

/-- A recipe whose properties fit their names, and which has no metadata if it was made inside a
chain. -/
structure WellShaped (mode : Mode) (r : Recipe) : Prop where
  fits : ∀ property v, r.get? property = some v → Fits property v
  inline : mode = .inline →
    r.get? "globalMethodMetadata" = none ∧ r.get? "methodMetadataMap" = none

/-- Whether a gateway declares a property for a mode: by an attribute with text that a rule turns
into the property, or by metadata. -/
def Declares (mode : Mode) (e : Element) (property : String) : Prop :=
  (∃ rule ∈ rulesOf mode, rule.property = property ∧ e.hasText rule.key = true) ∨
    mode = .standalone ∧
      (property = "globalMethodMetadata" ∧
          (e.hasChild "default-header" = true ∨ e.hasText "default-payload-expression" = true) ∨
        property = "methodMetadataMap" ∧ e.hasChild "method" = true)

lemma not_fits_value {property : String} (h : property ∈ reservedProperties) (text : String) :
    ¬ Fits property (.value text) := by
  intro hf
  rcases List.mem_append.mp h with hr | hm
  · obtain ⟨target, ht⟩ := hf.reference hr
    cases ht
  · simp only [List.mem_cons, List.not_mem_nil, or_false] at hm
    rcases hm with hg | hm
    · obtain ⟨r, hr, -⟩ := hf.global hg
      cases hr
    · obtain ⟨entries, he, -⟩ := hf.methods hm
      cases he

lemma fits_of_not_reserved {property : String} (h : property ∉ reservedProperties)
    (v : PropertyValue) : Fits property v := by
  simp only [reservedProperties, List.mem_append, List.mem_cons, List.not_mem_nil, or_false,
    not_or] at h
  exact ⟨fun hr => (h.1 hr).elim, fun hg => (h.2.1 hg).elim, fun hm => (h.2.2 hm).elim⟩

/-- Rules that feed reserved properties make references of them, and none feeds metadata. -/
lemma fits_rule {mode : Mode} {rule : AttributeRule} (h : rule ∈ rulesOf mode) (text : String) :
    Fits rule.property (rule.kind.property text) := by
  have hall : ∀ mode, ∀ rule ∈ rulesOf mode,
      (rule.property ∈ referenceProperties → rule.kind = .reference) ∧
        rule.property ≠ "globalMethodMetadata" ∧ rule.property ≠ "methodMetadataMap" := by
    intro mode
    cases mode <;> decide
  obtain ⟨hr, hg, hm⟩ := hall mode rule h
  refine ⟨fun hp => ⟨text, ?_⟩, fun hp => (hg hp).elim, fun hp => (hm hp).elim⟩
  rw [hr hp]
  rfl

lemma fits_global (e : Element) : Fits "globalMethodMetadata" (.recipe (globalContent e)) :=
  ⟨fun h => absurd h (by decide), fun _ => ⟨_, rfl, rfl⟩, fun h => absurd h (by decide)⟩

lemma fits_methods {e : Element} (h : e.hasChild "method" = true) :
    Fits "methodMetadataMap" (methodsContent (e.childrenNamed "method")) := by
  refine ⟨fun h => absurd h (by decide), fun h => absurd h (by decide), fun _ => ⟨_, rfl, ?_, ?_⟩⟩
  · have hn : (e.childrenNamed "method").map methodBinding ≠ [] := by
      simpa using Element.childrenNamed_ne_nil h
    simpa using Table.lastWins_ne_nil hn
  · intro entry hentry
    obtain ⟨⟨name, r⟩, hr, rfl⟩ := List.mem_map.mp hentry
    obtain ⟨method, -, hb⟩ := List.mem_map.mp (Table.mem_of_mem_lastWins hr)
    obtain ⟨-, rfl⟩ := Prod.mk.inj hb
    exact ⟨_, rfl, rfl⟩

/-- All that is declared fits its name. -/
lemma fits_declared {mode : Mode} {e : Element} {property : String} {v : PropertyValue}
    (h : (property, v) ∈ declaredContent mode e) : Fits property v :=
  forall_declaredContent (fun _ hrule text => fits_rule hrule text) (fits_global e) fits_methods
    (property, v) h

lemma declares_iff (mode : Mode) (e : Element) (property : String) :
    Declares mode e property ↔ property ∈ (declaredContent mode e).map (·.1) := by
  have hrule : property ∈ (ruleContent e (rulesOf mode)).map (·.1) ↔
      ∃ rule ∈ rulesOf mode, rule.property = property ∧ e.hasText rule.key = true := by
    simp [ruleContent, and_assoc, and_comm]
  rw [Declares, declaredContent, List.map_append, List.mem_append, hrule]
  refine or_congr Iff.rfl ?_
  cases mode with
  | inline => simp [metadataOf]
  | standalone =>
    cases hm : e.hasChild "method" <;> cases hh : e.hasChild "default-header" <;>
      cases hp : e.hasText "default-payload-expression" <;>
      simp [metadataOf, metadataContent, hm, hh, hp]

lemma declaredValue?_isSome_iff (mode : Mode) (e : Element) (property : String) :
    (Table.lastValue? (declaredContent mode e) property).isSome ↔ Declares mode e property := by
  rw [declares_iff]
  refine ⟨fun h => ?_, Table.lastValue?_isSome⟩
  obtain ⟨v, hv⟩ := Option.isSome_iff_exists.mp h
  exact List.mem_map.mpr ⟨_, Table.mem_of_lastValue? hv, rfl⟩

lemma copiedValue?_eq_none_iff (e : Element) (property : String) :
    copiedValue? e property = none ↔
      ∀ a ∈ e.attributes, isEligible a.1 = true → propertyName a.1 ≠ property := by
  rw [copiedValue?, Option.map_eq_none_iff, List.getLast?_eq_none_iff, List.filter_eq_nil_iff]
  simp only [Bool.and_eq_true, beq_iff_eq, not_and, ne_eq]

/-- What is declared hides what is copied. -/
lemma get?_contentOf_of_declares {mode : Mode} {e : Element} {property : String}
    (h : Declares mode e property) :
    ∃ v, (contentOf mode e).get? property = some v ∧
      (property, v) ∈ declaredContent mode e := by
  obtain ⟨v, hv⟩ := Option.isSome_iff_exists.mp ((declaredValue?_isSome_iff mode e property).mpr h)
  refine ⟨v, ?_, Table.mem_of_lastValue? hv⟩
  rw [get?_contentOf, hv, Option.some_or]

lemma get?_contentOf_of_not_declares {mode : Mode} {e : Element} {property : String}
    (h : ¬ Declares mode e property) :
    (contentOf mode e).get? property = (copiedValue? e property).map .value := by
  rw [← declaredValue?_isSome_iff, Bool.not_eq_true, Option.isSome_eq_false_iff,
    Option.isNone_iff_eq_none] at h
  rw [get?_contentOf, h, Option.none_or]

lemma wellShaped_contentOf_iff (mode : Mode) (e : Element) :
    WellShaped mode (contentOf mode e) ↔
      ∀ property ∈ reservedProperties, copiedValue? e property ≠ none →
        Declares mode e property := by
  constructor
  · intro h property hp hc
    by_contra hd
    obtain ⟨text, ht⟩ := Option.ne_none_iff_exists'.mp hc
    have hv := get?_contentOf_of_not_declares hd
    rw [ht] at hv
    exact not_fits_value hp text (h.fits property _ hv)
  · intro h
    -- A reserved name that is not declared is not copied to either.
    have hnone : ∀ property ∈ reservedProperties, ¬ Declares mode e property →
        (contentOf mode e).get? property = none := by
      intro property hp hd
      rw [get?_contentOf_of_not_declares hd, not_not.mp fun hc => hd (h property hp hc)]
      rfl
    constructor
    · intro property v hv
      by_cases hp : property ∈ reservedProperties
      · by_cases hd : Declares mode e property
        · obtain ⟨w, hw, hm⟩ := get?_contentOf_of_declares hd
          obtain rfl : w = v := Option.some.inj (hw.symm.trans hv)
          exact fits_declared hm
        · rw [hnone property hp hd] at hv
          cases hv
      · exact fits_of_not_reserved hp v
    · rintro rfl
      have hinline : ∀ property, property = "globalMethodMetadata" ∨
          property = "methodMetadataMap" → ¬ Declares .inline e property := by
        rintro property hp (⟨rule, hrule, rfl, -⟩ | ⟨hm, -⟩)
        · revert rule
          decide
        · cases hm
      exact ⟨hnone _ (by decide) (hinline _ (.inl rfl)), hnone _ (by decide) (hinline _ (.inr rfl))⟩

/-- In either mode, the recipe of a gateway has the documented shape exactly if the gateway
declares every reserved property that one of its eligible attributes is copied to. -/
theorem translate_wellShaped_iff (mode : Mode) (e : Element) (recipe : Recipe)
    (translated : (translate mode e).result = .ok recipe) :
    WellShaped mode recipe ↔
      ∀ a ∈ e.attributes, isEligible a.1 = true → propertyName a.1 ∈ reservedProperties →
        Declares mode e (propertyName a.1) := by
  by_cases hn : e.name = "gateway"
  · rw [result_translate_of_name mode hn] at translated
    obtain ⟨-, rfl⟩ := checked_eq_ok_iff.mp translated
    rw [wellShaped_contentOf_iff]
    simp only [ne_eq, copiedValue?_eq_none_iff, not_forall, not_not]
    constructor
    · intro h a ha he hp
      exact h _ hp ⟨a, ha, he, rfl⟩
    · rintro h property hp ⟨a, ha, he, rfl⟩
      exact h a ha he hp
  · rw [result_translate_of_ne mode hn] at translated
    cases translated

/-- An error channel that is declared hides the attribute that is copied to the same property. -/
theorem translate_wellShaped_iff_hidden :
    ∃ recipe, (translate .standalone ((Element.named "gateway").withAttributes
        [("errorChannel", "a"), ("error-channel", "b")])).result = .ok recipe ∧
      WellShaped .standalone recipe := by
  have translated := (result_translate_of_name .standalone
    (e := (Element.named "gateway").withAttributes [("errorChannel", "a"), ("error-channel", "b")])
    rfl).trans (checked_eq_ok_iff.mpr ⟨by decide, rfl⟩)
  refine ⟨_, translated, (translate_wellShaped_iff _ _ _ translated).mpr ?_⟩
  intro a ha he hp
  obtain rfl | rfl : a = ("errorChannel", "a") ∨ a = ("error-channel", "b") := by
    simpa [Element.withAttributes, Element.named, Table.putAll, Table.put] using ha
  · exact .inl ⟨⟨"error-channel", "errorChannel", .reference⟩, by decide, by decide, by decide⟩
  · exact absurd he (by decide)

/-- Inside a chain, an attribute can be copied to the name of the table of methods. -/
theorem translate_not_wellShaped :
    ¬ ∀ (mode : Mode) (e : Element) (recipe : Recipe),
      (translate mode e).result = .ok recipe → WellShaped mode recipe := by
  intro h
  have hw := h .inline ((Element.named "gateway").withAttribute "method-metadata-map" "x") _ rfl
  have hv : Recipe.get? (contentOf .inline
      ((Element.named "gateway").withAttribute "method-metadata-map" "x"))
      "methodMetadataMap" = some (.value "x") := by rfl
  have hn := (hw.inline rfl).2
  cases hv.symm.trans hn

end GatewayRecipes.Gateway
