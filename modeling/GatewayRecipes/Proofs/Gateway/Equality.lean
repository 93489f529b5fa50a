import GatewayRecipes.Proofs.Equality
import GatewayRecipes.Proofs.Gateway.Shape

/-! Translation of equal elements. Failures are the same, and so is all that is declared. Copies
that compete for one property depend on the order of attributes, and nothing else does. -/
namespace GatewayRecipes.Gateway
variable {e f : Element}

/-! Checks and contents read elements by look-ups and by the order of children. -/

lemma headerChecks_congr (tag : String) (scope : Scope) (h : e.Alike f) :
    headerChecks tag scope e = headerChecks tag scope f := by
  simp only [headerChecks, h.hasText_eq, h.attributeD_eq]

lemma headerBinding_congr (h : e.Alike f) : headerBinding e = headerBinding f := by
  simp only [headerBinding, sourceContent, h.hasText_eq, h.attributeD_eq]

lemma headerContent_congr {as bs : List Element} (h : List.Forall₂ Element.Alike as bs) :
    headerContent as = headerContent bs := by
  rw [headerContent, headerContent, Element.Alike.map_eq (fun _ _ => headerBinding_congr) h]

lemma payloadContent_congr (key : String) (h : e.Alike f) :
    payloadContent e key = payloadContent f key := by
  simp only [payloadContent, h.hasText_eq, h.attributeD_eq]

lemma methodChecks_congr (mapper : Bool) (h : e.Alike f) :
    methodChecks mapper e = methodChecks mapper f := by
  have hheaders := Element.Alike.flatMap_eq
    (fun _ _ => headerChecks_congr "header" (.method (f.attributeD "name")))
    (h.childrenNamed "header")
  simp only [methodChecks, h.hasText_eq, h.attributeD_eq, h.hasChild_eq, hheaders]

lemma methodBinding_congr (h : e.Alike f) : methodBinding e = methodBinding f := by
  simp only [methodBinding, methodContent, settingsContent, h.attributeD_eq, h.hasChild_eq,
    payloadContent_congr _ h, headerContent_congr (h.childrenNamed "header")]

lemma gatewayChecks_congr (h : e.Alike f) : gatewayChecks e = gatewayChecks f := by
  have hheaders := Element.Alike.flatMap_eq
    (fun _ _ => headerChecks_congr "default-header" .gateway) (h.childrenNamed "default-header")
  have hmethods := Element.Alike.flatMap_eq
    (fun _ _ => methodChecks_congr (f.hasText "mapper")) (h.childrenNamed "method")
  simp only [gatewayChecks, globalChecks, h.hasText_eq, h.hasChild_eq, hheaders, hmethods]

lemma metadataContent_congr (h : e.Alike f) : metadataContent e = metadataContent f := by
  have hmethods := Element.Alike.map_eq (fun _ _ => methodBinding_congr)
    (h.childrenNamed "method")
  simp only [metadataContent, globalContent, methodsContent, h.hasText_eq, h.hasChild_eq,
    payloadContent_congr _ h, headerContent_congr (h.childrenNamed "default-header"), hmethods]

lemma ruleContent_congr (rules : List AttributeRule) (h : e.Alike f) :
    ruleContent e rules = ruleContent f rules := by
  simp only [ruleContent, h.hasText_eq, h.attributeD_eq]

theorem checksOf_congr (mode : Mode) (h : e.Alike f) : checksOf mode e = checksOf mode f := by
  cases mode with
  | inline => rfl
  | standalone => exact gatewayChecks_congr h

theorem declaredContent_congr (mode : Mode) (h : e.Alike f) :
    declaredContent mode e = declaredContent mode f := by
  rw [declaredContent, declaredContent, ruleContent_congr _ h]
  cases mode with
  | inline => rfl
  | standalone => rw [metadataOf, metadataOf, metadataContent_congr h]

lemma declares_congr (mode : Mode) (h : e.Alike f) (property : String) :
    Declares mode e property ↔ Declares mode f property := by
  rw [declares_iff, declares_iff, declaredContent_congr mode h]

/-- The same attributes are copied, in some order. -/
lemma copiedContent_perm (h : e.Alike f) :
    (copiedContent e.attributes).Perm (copiedContent f.attributes) :=
  (h.attributes.filter _).map _

lemma keys_contentOf_perm (mode : Mode) (h : e.Alike f) :
    (Table.keys (contentOf mode e).properties).Perm (Table.keys (contentOf mode f).properties) := by
  refine Table.keys_perm_lastWins ?_
  rw [declaredContent_congr mode h]
  exact (copiedContent_perm h).append_right _

lemma isSome_get?_contentOf (mode : Mode) (h : e.Alike f) (property : String) :
    ((contentOf mode e).get? property).isSome = ((contentOf mode f).get? property).isSome := by
  have hk := (keys_contentOf_perm mode h).mem_iff (a := property)
  rwa [Table.mem_keys_iff, Table.mem_keys_iff, ← Bool.eq_iff_iff] at hk

/-! No name is bound twice in what is declared. -/

lemma distinct_lastWins {α : Type} (entries : List (String × α)) :
    Table.Distinct (Table.lastWins entries) := by
  rw [← Table.ofList_eq_lastWins]
  exact Table.distinct_ofList entries

lemma distinct_map_lastWins {α : Type} {g : α → PropertyValue} (entries : List (String × α))
    (hg : ∀ e ∈ entries, (g e.2).Distinct) :
    (PropertyValue.map ((Table.lastWins entries).map fun e => (e.1, g e.2))).Distinct := by
  refine .map ?_ ?_
  · have hk : Table.keys ((Table.lastWins entries).map fun e => (e.1, g e.2)) =
        Table.keys (Table.lastWins entries) := by
      simp [Table.keys]
    rw [Table.Distinct, hk]
    exact distinct_lastWins entries
  · intro e he
    obtain ⟨b, hb, rfl⟩ := List.mem_map.mp he
    exact hg b (Table.mem_of_mem_lastWins hb)

lemma distinct_headerContent (headers : List Element) : (headerContent headers).Distinct :=
  distinct_map_lastWins _ fun e _ => .expression e.2

lemma distinct_payloadContent {key : String} {b : String × PropertyValue}
    (h : b ∈ payloadContent e key) : b.2.Distinct := by
  rw [payloadContent] at h
  split at h
  · obtain rfl := List.mem_singleton.mp h
    exact .value _
  · cases h

lemma distinct_globalContent (e : Element) : (globalContent e).Distinct := by
  refine .intro ?_ ?_
  · cases h : e.hasText "default-payload-expression" <;>
      simp [globalContent, payloadContent, h, Table.Distinct, Table.keys]
  · rintro b (- | ⟨-, hb⟩)
    · exact distinct_headerContent _
    · exact distinct_payloadContent hb

lemma distinct_methodContent (method : Element) : (methodContent method).Distinct := by
  refine .intro ?_ ?_
  · cases hp : method.hasText "payload-expression" <;> cases hc : method.hasChild "header" <;>
      simp [methodContent, settingsContent, payloadContent, hp, hc, Table.Distinct, Table.keys]
  · intro b hb
    rw [methodContent, List.mem_append, List.mem_append] at hb
    rcases hb with (hs | hp) | hh
    · simp only [settingsContent, List.mem_cons, List.not_mem_nil, or_false] at hs
      obtain rfl | rfl | rfl | rfl := hs
      all_goals exact .value _
    · exact distinct_payloadContent hp
    · split at hh
      · obtain rfl := List.mem_singleton.mp hh
        exact distinct_headerContent _
      · cases hh

lemma distinct_methodsContent (methods : List Element) : (methodsContent methods).Distinct := by
  refine distinct_map_lastWins _ ?_
  intro b hb
  obtain ⟨method, -, rfl⟩ := List.mem_map.mp hb
  exact .recipe (distinct_methodContent method)

lemma distinct_property (kind : AttributeKind) (text : String) : (kind.property text).Distinct := by
  cases kind with
  | reference => exact .reference text
  | value => exact .value text

lemma distinct_declared {mode : Mode} {b : String × PropertyValue}
    (h : b ∈ declaredContent mode e) : b.2.Distinct :=
  forall_declaredContent (P := fun _ v => v.Distinct) (fun rule _ => distinct_property rule.kind)
    (.recipe (distinct_globalContent e)) (fun _ => distinct_methodsContent _) b h

/-! The recipes of equal gateways. -/

lemma get?_contentOf_eq (mode : Mode) (h : e.Alike f) {property : String}
    (hd : Declares mode e property) :
    (contentOf mode e).get? property = (contentOf mode f).get? property := by
  have hs := (declaredValue?_isSome_iff mode e property).mpr hd
  obtain ⟨v, hv⟩ := Option.isSome_iff_exists.mp hs
  rw [get?_contentOf, get?_contentOf, ← declaredContent_congr mode h, hv, Option.some_or,
    Option.some_or]

/-- The recipes of equal gateways are equal where the same value is copied last to each property
that is not declared. -/
theorem sameAs_contentOf_iff (mode : Mode) (h : e.Alike f) :
    (contentOf mode e).sameAs (contentOf mode f) = true ↔
      ∀ property, ¬ Declares mode e property →
        copiedValue? e property = copiedValue? f property := by
  have hdistinct : Table.Distinct (contentOf mode e).properties := distinct_lastWins _
  rw [Recipe.sameAs_iff]
  constructor
  · rintro ⟨-, -, hentries⟩ property hd
    have he := get?_contentOf_of_not_declares hd
    have hf := get?_contentOf_of_not_declares (mt (declares_congr mode h property).mpr hd)
    cases hc : copiedValue? e property with
    | none =>
      have hs := isSome_get?_contentOf mode h property
      rw [he, hf, hc, Option.isSome_map, Option.isSome_map] at hs
      exact (Option.isSome_eq_false_iff.trans Option.isNone_iff_eq_none |>.mp hs.symm).symm
    | some text =>
      rw [hc] at he
      obtain ⟨w, hw, hsame⟩ := hentries (property, .value text)
        (hdistinct.get?_eq_some_iff.mp he)
      rw [hf] at hw
      obtain ⟨other, ho, rfl⟩ := Option.map_eq_some_iff.mp hw
      rw [ho]
      simpa [PropertyValue.sameAs] using hsame
  · intro hcopied
    refine ⟨rfl, ?_, ?_⟩
    · simpa [Table.keys] using (keys_contentOf_perm mode h).length_eq
    · rintro ⟨property, v⟩ hv
      have he : (contentOf mode e).get? property = some v := hdistinct.get?_eq_some_iff.mpr hv
      by_cases hd : Declares mode e property
      · obtain ⟨w, hw, hm⟩ := get?_contentOf_of_declares hd
        obtain rfl : w = v := Option.some.inj (hw.symm.trans he)
        exact ⟨w, (get?_contentOf_eq mode h hd).symm.trans he, (distinct_declared hm).sameAs_self⟩
      · have hf := get?_contentOf_of_not_declares (mt (declares_congr mode h property).mpr hd)
        rw [get?_contentOf_of_not_declares hd, hcopied property hd] at he
        obtain ⟨text, -, rfl⟩ := Option.map_eq_some_iff.mp he
        exact ⟨_, hf.trans he, by simp [PropertyValue.sameAs]⟩

/-- Whether attributes that are copied to one property have one value. -/
def CopiesAgree (attributes : List (String × String)) : Prop :=
  ∀ a ∈ attributes, ∀ b ∈ attributes, isEligible a.1 = true → isEligible b.1 = true →
    propertyName a.1 = propertyName b.1 → a.2 = b.2

lemma copiedValue?_eq_some {property text : String} (h : copiedValue? e property = some text) :
    ∃ a ∈ e.attributes, isEligible a.1 = true ∧ propertyName a.1 = property ∧ a.2 = text := by
  obtain ⟨a, ha, rfl⟩ := Option.map_eq_some_iff.mp h
  obtain ⟨hm, hp⟩ := List.mem_filter.mp (List.mem_of_getLast? ha)
  rw [Bool.and_eq_true, beq_iff_eq] at hp
  exact ⟨a, hm, hp.1, hp.2, rfl⟩

lemma copiedValue?_congr (hagree : CopiesAgree e.attributes) (h : e.Alike f) (property : String) :
    copiedValue? e property = copiedValue? f property := by
  have hnone : copiedValue? e property = none ↔ copiedValue? f property = none := by
    simp only [copiedValue?_eq_none_iff, h.attributes.mem_iff]
  cases he : copiedValue? e property with
  | none => exact (hnone.mp he).symm
  | some text =>
    cases hf : copiedValue? f property with
    | none => rw [hnone.mpr hf] at he; cases he
    | some other =>
      obtain ⟨a, ha, hea, hpa, rfl⟩ := copiedValue?_eq_some he
      obtain ⟨b, hb, heb, hpb, rfl⟩ := copiedValue?_eq_some hf
      rw [hagree a ha b (h.attributes.mem_iff.mpr hb) hea heb (hpa.trans hpb.symm)]

/-- Equal elements give the same error in either mode, or two recipes. These are equal exactly if
to each property that is not declared the same value is copied last, and so whenever attributes
that are copied to one property have one value. -/
theorem translate_sameAs_iff (mode : Mode) (e f : Element) (distinct : e.Distinct)
    (same : e.sameAs f = true) :
    (∀ error, (translate mode e).result = .error error ↔
      (translate mode f).result = .error error) ∧
    ∀ r s, (translate mode e).result = .ok r → (translate mode f).result = .ok s →
      (r.sameAs s = true ↔ ∀ property, ¬ Declares mode e property →
        copiedValue? e property = copiedValue? f property) ∧
      (CopiesAgree e.attributes → r.sameAs s = true) := by
  have h := distinct.alike same
  by_cases hn : e.name = "gateway"
  · rw [result_translate_of_name mode hn, result_translate_of_name mode (h.name ▸ hn)]
    refine ⟨fun error => ?_, fun r s hr hs => ?_⟩
    · rw [checked_eq_error_iff, checked_eq_error_iff, checksOf_congr mode h]
    · obtain ⟨-, rfl⟩ := checked_eq_ok_iff.mp hr
      obtain ⟨-, rfl⟩ := checked_eq_ok_iff.mp hs
      refine ⟨sameAs_contentOf_iff mode h, fun hagree => ?_⟩
      exact (sameAs_contentOf_iff mode h).mpr fun property _ => copiedValue?_congr hagree h property
  · rw [result_translate_of_ne mode hn, result_translate_of_ne mode (h.name ▸ hn), h.name]
    exact ⟨fun error => Iff.rfl, fun r s hr => by cases hr⟩

def gatewayWith (attributes : List (String × String)) : Element :=
  (Element.named "gateway").withAttributes attributes

lemma distinct_gatewayWith (attributes : List (String × String)) :
    (gatewayWith attributes).Distinct :=
  .intro (Table.distinct_ofList attributes) fun _ hc => absurd hc List.not_mem_nil

/-- Two copies for one property, in either order, behind a declared error channel. -/
theorem translate_sameAs_iff_hidden :
    let e := gatewayWith [("errorChannel", "a"), ("error-channel", "b"), ("error-channel-", "c")]
    let f := gatewayWith [("error-channel-", "c"), ("errorChannel", "a"), ("error-channel", "b")]
    e.Distinct ∧ e.sameAs f = true ∧
      ∃ r s, (translate .standalone e).result = .ok r ∧
        (translate .standalone f).result = .ok s ∧ r.sameAs s = true := by
  intro e f
  have hd : e.Distinct := distinct_gatewayWith _
  have hs : e.sameAs f = true := by decide
  have he := (result_translate_of_name .standalone (e := e) rfl).trans
    (checked_eq_ok_iff.mpr ⟨by decide, rfl⟩)
  have hf := (result_translate_of_name .standalone (e := f) rfl).trans
    (checked_eq_ok_iff.mpr ⟨by decide, rfl⟩)
  refine ⟨hd, hs, _, _, he, hf, ?_⟩
  refine ((translate_sameAs_iff .standalone e f hd hs).2 _ _ he hf).1.mpr ?_
  intro property hn
  have hp : "errorChannel" ≠ property := by
    rintro rfl
    exact hn (.inl ⟨⟨"error-channel", "errorChannel", .reference⟩, by decide, rfl, by decide⟩)
  have hnone : ∀ g : Element, g.attributes ⊆ e.attributes → copiedValue? g property = none := by
    intro g hg
    rw [copiedValue?_eq_none_iff]
    intro a ha heligible
    have hall : ∀ a ∈ e.attributes, isEligible a.1 = true → propertyName a.1 = "errorChannel" := by
      decide
    rwa [hall a (hg ha) heligible]
  rw [hnone e (List.Subset.refl _), hnone f (by decide)]

/-- The order of attributes decides which of two copies for one property is kept. -/
theorem translate_not_sameAs :
    ¬ ∀ (mode : Mode) (e f : Element), e.Distinct → e.sameAs f = true →
      (∃ error, (translate mode e).result = .error error ∧
        (translate mode f).result = .error error) ∨
      ∃ r s, (translate mode e).result = .ok r ∧ (translate mode f).result = .ok s ∧
        r.sameAs s = true := by
  intro h
  have he : (translate .standalone (gatewayWith [("a-b", "1"), ("aB", "2")])).result =
      .ok ⟨.gatewayProxyFactory, [("aB", .value "2")]⟩ := by rfl
  have hf : (translate .standalone (gatewayWith [("aB", "2"), ("a-b", "1")])).result =
      .ok ⟨.gatewayProxyFactory, [("aB", .value "1")]⟩ := by rfl
  have hboth := h .standalone (gatewayWith [("a-b", "1"), ("aB", "2")])
    (gatewayWith [("aB", "2"), ("a-b", "1")]) (distinct_gatewayWith _) (by decide)
  rcases hboth with ⟨error, hr, -⟩ | ⟨r, s, hr, hs, hsame⟩
  · cases he.symm.trans hr
  · cases he.symm.trans hr
    cases hf.symm.trans hs
    revert hsame
    decide

end GatewayRecipes.Gateway
