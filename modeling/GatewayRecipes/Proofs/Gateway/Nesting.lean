import GatewayRecipes.Proofs.Gateway.Equality
import GatewayRecipes.Proofs.Recipe.RoundTrip

/-! Recipes of gateways can be written and read back: they bind no name twice, and a gateway holds
methods, a method holds headers, and a header holds an expression, but nothing goes deeper. -/
namespace GatewayRecipes
open Output.Data

lemma PropertyValue.nesting_map_le {entries : List (String × PropertyValue)} {n : Nat}
    (h : ∀ e ∈ entries, e.2.data.nesting ≤ n) :
    (PropertyValue.map entries).data.nesting ≤ n + 2 := by
  rw [PropertyValue.nesting_map]
  exact Nat.add_le_add_right (fieldsNesting_fieldData_le.mpr h) 2

lemma Recipe.nesting_data_le {r : Recipe} {n : Nat}
    (h : ∀ e ∈ r.properties, e.2.data.nesting ≤ n) : r.data.nesting ≤ n + 2 := by
  rw [Recipe.nesting_data]
  exact Nat.add_le_add_right (fieldsNesting_fieldData_le.mpr h) 2

lemma PropertyValue.nesting_recipe_le {r : Recipe} {n : Nat} (h : r.data.nesting ≤ n) :
    (PropertyValue.recipe r).data.nesting ≤ n + 1 := by
  rw [PropertyValue.data, nesting_taggedData]
  exact Nat.add_le_add_right h 1

namespace Gateway

lemma nesting_headerContent_le (headers : List Element) :
    (headerContent headers).data.nesting ≤ 4 := by
  apply PropertyValue.nesting_map_le
  intro b hb
  obtain ⟨entry, -, rfl⟩ := List.mem_map.mp hb
  exact Nat.le_refl 2

lemma nesting_payloadContent_le {e : Element} {key : String} {b : String × PropertyValue}
    (h : b ∈ payloadContent e key) : b.2.data.nesting ≤ 4 := by
  rw [payloadContent] at h
  split at h
  · obtain rfl := List.mem_singleton.mp h
    exact Nat.le_of_ble_eq_true rfl
  · cases h

lemma nesting_globalContent_le (e : Element) : (globalContent e).data.nesting ≤ 6 := by
  apply Recipe.nesting_data_le
  rintro b (- | ⟨-, hb⟩)
  · exact nesting_headerContent_le _
  · exact nesting_payloadContent_le hb

lemma nesting_methodContent_le (method : Element) : (methodContent method).data.nesting ≤ 6 := by
  apply Recipe.nesting_data_le
  intro b hb
  rw [methodContent, List.mem_append, List.mem_append] at hb
  rcases hb with (hs | hp) | hh
  · simp only [settingsContent, List.mem_cons, List.not_mem_nil, or_false] at hs
    obtain rfl | rfl | rfl | rfl := hs
    all_goals exact Nat.le_of_ble_eq_true rfl
  · exact nesting_payloadContent_le hp
  · split at hh
    · obtain rfl := List.mem_singleton.mp hh
      exact nesting_headerContent_le _
    · cases hh

lemma nesting_methodsContent_le (methods : List Element) :
    (methodsContent methods).data.nesting ≤ 9 := by
  apply PropertyValue.nesting_map_le
  intro b hb
  obtain ⟨⟨name, metadata⟩, hm, rfl⟩ := List.mem_map.mp hb
  obtain ⟨method, -, hmethod⟩ := List.mem_map.mp (Table.mem_of_mem_lastWins hm)
  obtain ⟨-, rfl⟩ := Prod.mk.inj hmethod
  exact PropertyValue.nesting_recipe_le (nesting_methodContent_le method)

lemma nesting_property (kind : AttributeKind) (text : String) :
    (kind.property text).data.nesting = 1 := by
  cases kind with
  | reference => rfl
  | value => rfl

lemma nesting_declared_le {mode : Mode} {e : Element} {b : String × PropertyValue}
    (h : b ∈ declaredContent mode e) : b.2.data.nesting ≤ 9 :=
  forall_declaredContent (P := fun _ v => v.data.nesting ≤ 9)
    (fun rule _ text => by rw [nesting_property]; decide)
    ((PropertyValue.nesting_recipe_le (nesting_globalContent_le e)).trans (by decide))
    (fun _ => nesting_methodsContent_le _) b h

/-- What stands in the recipe of a gateway is a copied text or declared. -/
lemma mem_contentOf {mode : Mode} {e : Element} {b : String × PropertyValue}
    (h : b ∈ (contentOf mode e).properties) :
    (∃ text, b.2 = .value text) ∨ b ∈ declaredContent mode e := by
  rcases List.mem_append.mp (Table.mem_of_mem_lastWins h) with h | h
  · obtain ⟨a, -, rfl⟩ := List.mem_map.mp h
    exact .inl ⟨a.2, rfl⟩
  · exact .inr h

theorem distinct_contentOf (mode : Mode) (e : Element) : (contentOf mode e).Distinct := by
  refine .intro (distinct_lastWins _) fun b hb => ?_
  obtain ⟨text, hv⟩ | hd := mem_contentOf hb
  · rw [hv]
    exact .value text
  · exact distinct_declared hd

/-- Methods and their headers are as deep as the recipe of a gateway goes. -/
theorem nesting_contentOf_le (mode : Mode) (e : Element) : (contentOf mode e).data.nesting ≤ 11 := by
  refine Recipe.nesting_data_le fun b hb => ?_
  obtain ⟨text, hv⟩ | hd := mem_contentOf hb
  · rw [hv]
    exact Nat.le_of_ble_eq_true rfl
  · exact nesting_declared_le hd

/-- Whatever a gateway is translated to in either mode can be written and read back. -/
theorem readable_of_translate {mode : Mode} {e : Element} {r : Recipe}
    (h : (translate mode e).result = .ok r) : r.Distinct ∧ r.data.nesting ≤ 11 := by
  by_cases hn : e.name = "gateway"
  · rw [result_translate_of_name mode hn] at h
    obtain ⟨-, rfl⟩ := checked_eq_ok_iff.mp h
    exact ⟨distinct_contentOf mode e, nesting_contentOf_le mode e⟩
  · rw [result_translate_of_ne mode hn] at h
    cases h

end Gateway
end GatewayRecipes
