import GatewayRecipes.Proofs.Equality
import GatewayRecipes.Proofs.Json.Layout
import GatewayRecipes.Proofs.Recipe.Decode
import Mathlib

/-! Recipes survive their JSON text, as long as that is not nested too deep for readers; and all
recipes that come out of a reader are of this kind, whatever their text looked like. -/
namespace GatewayRecipes
open GatewayRecipes.Output

namespace Output.Data

mutual

def nesting : Data → Nat
  | .bool _ | .number _ | .text _ => 0
  | .list items => itemsNesting items + 1
  | .record fields => fieldsNesting fields + 1

def itemsNesting : List Data → Nat
  | [] => 0
  | d :: rest => max d.nesting (itemsNesting rest)

def fieldsNesting : List (String × Data) → Nat
  | [] => 0
  | (_, d) :: rest => max d.nesting (fieldsNesting rest)

end

end Output.Data

open Output.Data

lemma fieldsNesting_fieldData_le {entries : List (String × PropertyValue)} {n : Nat} :
    fieldsNesting (PropertyValue.fieldData entries) ≤ n ↔ ∀ e ∈ entries, e.2.data.nesting ≤ n := by
  induction entries with
  | nil => simp [PropertyValue.fieldData, fieldsNesting]
  | cons e rest ih =>
    rw [PropertyValue.fieldData, fieldsNesting, Nat.max_le, ih, List.forall_mem_cons]

@[simp] lemma nesting_taggedData (tag : String) (d : Data) :
    (taggedData tag d).nesting = d.nesting + 1 := by
  simp [taggedData, nesting, fieldsNesting]

@[simp] lemma Expression.nesting_data (e : Expression) : e.data.nesting = 1 := rfl

lemma Recipe.nesting_data (r : Recipe) :
    r.data.nesting = fieldsNesting (PropertyValue.fieldData r.properties) + 2 := by
  obtain ⟨kind, properties⟩ := r
  simp [Recipe.data, nesting, fieldsNesting]

lemma PropertyValue.nesting_map (entries : List (String × PropertyValue)) :
    (PropertyValue.map entries).data.nesting =
      fieldsNesting (PropertyValue.fieldData entries) + 2 := by
  simp [PropertyValue.data, nesting]

lemma PropertyValue.nesting_pos (v : PropertyValue) : 0 < v.data.nesting := by
  cases v <;> simp [PropertyValue.data]

namespace Decode
open Json

lemma forall₂_readsEntry {item : Tree → Decoded PropertyValue}
    {entries : List (String × PropertyValue)}
    (h : ∀ e ∈ entries, item e.2.data.tree = .ok e.2) :
    List.Forall₂ (ReadsEntry item) (fieldTrees (PropertyValue.fieldData entries)) entries := by
  induction entries with
  | nil => exact .nil
  | cons e rest ih =>
    obtain ⟨he, hrest⟩ := List.forall_mem_cons.mp h
    exact .cons ⟨rfl, he⟩ (ih hrest)

lemma table_tree {source : Source} {levels : Nat} {entries : List (String × PropertyValue)}
    (names : Table.Distinct entries)
    (values : ∀ e ∈ entries, value source levels e.2.data.tree = .ok e.2) :
    table source (levels + 1) (Data.record (PropertyValue.fieldData entries)).tree =
      .ok entries := by
  have hfresh : Table.Fresh [] entries := ⟨names, fun _ _ => List.not_mem_nil⟩
  exact tableFields_eq_ok_iff.mpr
    ⟨entries, forall₂_readsEntry values, rfl, hfresh.putAll_eq_append⟩

lemma value_taggedData {source : Source} {levels : Nat} {tag : String} {d : Data}
    {v : PropertyValue} (sort : ValueSort) (hsort : ValueSort.named.lookup tag = some sort)
    (hv : content source levels sort d.tree = .ok v) :
    value source (levels + 1) (taggedData tag d).tree = .ok v := by
  have htagged := tagged_written ("type", "value") (by decide) source levels
    (fun source => content source levels) hsort hv
  exact (value_succ source levels _).trans (congrArg (Except.map (·.2)) htagged)

lemma expression_written (source : Source) (levels : Nat) {tag : String} (sort : ExpressionSort)
    (hsort : ExpressionSort.named.lookup tag = some sort) (s : String) :
    expression source (levels + 1) (Data.record [("kind", .text tag), ("source", .text s)]).tree =
      .ok (sort.expression s) := by
  have hs : (text (.text (.ok s))).map sort.expression = .ok (sort.expression s) := rfl
  have htagged := tagged_written ("kind", "source") (by decide) source levels
    (fun _ sort t => (text t).map sort.expression) hsort hs
  exact (expression_succ source levels _).trans (congrArg (Except.map (·.2)) htagged)

lemma expression_tree (source : Source) (levels : Nat) (e : Expression) :
    expression source (levels + 1) e.data.tree = .ok e := by
  cases e with
  | literal s => exact expression_written source levels .literal rfl s
  | computed s => exact expression_written source levels .computed rfl s

-- Tables of values are read entry by entry, so that the recursion is on what makes these distinct.
mutual

theorem value_tree (source : Source) : ∀ {levels : Nat} {v : PropertyValue}, v.Distinct →
    v.data.nesting ≤ levels → value source levels v.data.tree = .ok v
  | 0, v, _, hn => absurd v.nesting_pos (by omega)
  | _ + 1, _, .value _, _ => value_taggedData .value rfl rfl
  | _ + 1, _, .reference _, _ => value_taggedData .reference rfl rfl
  | levels + 1, _, .expression e, hn => by
    rw [PropertyValue.data, nesting_taggedData, Expression.nesting_data] at hn
    obtain ⟨levels, rfl⟩ : ∃ n, levels = n + 1 := ⟨levels - 1, by omega⟩
    refine value_taggedData .expression rfl ?_
    rw [content, expression_tree]
    rfl
  | levels + 1, _, .recipe h, hn => by
    rw [PropertyValue.data, nesting_taggedData] at hn
    refine value_taggedData .recipe rfl ?_
    rw [content, recipe_tree source h (Nat.le_of_add_le_add_right hn)]
    rfl
  | levels + 1, _, .map names values, hn => by
    rw [PropertyValue.nesting_map] at hn
    obtain ⟨levels, rfl⟩ : ∃ n, levels = n + 1 := ⟨levels - 1, by omega⟩
    have hv := fieldsNesting_fieldData_le.mp (Nat.le_of_add_le_add_right hn)
    refine value_taggedData .map rfl ?_
    rw [content, table_tree names fun e he => value_tree source (values e he) (hv e he)]
    rfl

theorem recipe_tree (source : Source) : ∀ {levels : Nat} {r : Recipe}, r.Distinct →
    r.data.nesting ≤ levels → recipe source levels r.data.tree = .ok r
  | levels, ⟨kind, properties⟩, .intro names values, hn => by
    rw [Recipe.nesting_data] at hn
    obtain ⟨levels, rfl⟩ : ∃ n, levels = n + 2 := ⟨levels - 2, by omega⟩
    have hv := fieldsNesting_fieldData_le.mp (Nat.le_of_add_le_add_right hn)
    have htable := table_tree names fun e he => value_tree source (values e he) (hv e he)
    have hkind :
        choice source (levels + 1) RecipeKind.ofName? (.text (.ok kind.name)) = .ok kind := by
      simp [choice]
    have hfields := structFields_written ("kind", "properties") (by decide) hkind htable
    exact (recipe_record source _ _ _).trans (congrArg (Except.map _) hfields)

end

/-! What comes out of a reader. -/

lemma pos_of_expression {levels : Nat} {source : Source} {t : Tree} {e : Expression}
    (h : expression source levels t = .ok e) : 0 < levels := by
  cases levels with
  | zero => cases h
  | succ levels => exact Nat.succ_pos levels

-- By recursion on the levels that are left, since a part may come from anywhere in the text.
mutual

/-- A value that is read binds no name twice, and its data fits into the levels that were left. -/
theorem value_readable : ∀ {levels : Nat} {source : Source} {t : Tree} {v : PropertyValue},
    value source levels t = .ok v → v.Distinct ∧ v.data.nesting ≤ levels
  | 0, source, t, v, h => by
    rw [value] at h
    cases h
  | levels + 1, source, t, v, h => by
    rw [value_succ] at h
    obtain ⟨⟨sort, v⟩, htagged, rfl⟩ := map_eq_ok_iff.mp h
    obtain ⟨source', c, hc⟩ := content_of_tagged htagged
    cases sort with
    | value =>
      obtain ⟨s, -, rfl⟩ := map_eq_ok_iff.mp hc
      exact ⟨.value s, Nat.succ_le_succ (Nat.zero_le levels)⟩
    | reference =>
      obtain ⟨s, -, rfl⟩ := map_eq_ok_iff.mp hc
      exact ⟨.reference s, Nat.succ_le_succ (Nat.zero_le levels)⟩
    | expression =>
      obtain ⟨e, he, rfl⟩ := map_eq_ok_iff.mp hc
      refine ⟨.expression e, ?_⟩
      rw [PropertyValue.data, nesting_taggedData, Expression.nesting_data]
      exact Nat.succ_le_succ (pos_of_expression he)
    | recipe =>
      obtain ⟨r, hr, rfl⟩ := map_eq_ok_iff.mp hc
      obtain ⟨hdistinct, hnesting⟩ := recipe_readable hr
      refine ⟨.recipe hdistinct, ?_⟩
      rw [PropertyValue.data, nesting_taggedData]
      exact Nat.succ_le_succ hnesting
    | map =>
      obtain ⟨entries, hentries, rfl⟩ := map_eq_ok_iff.mp hc
      obtain ⟨hnames, hvalues, hnesting⟩ := table_readable hentries
      refine ⟨.map hnames hvalues, ?_⟩
      rw [PropertyValue.nesting_map]
      exact Nat.succ_le_succ hnesting

/-- A recipe that is read binds no name twice, and its data fits into the levels that were left. -/
theorem recipe_readable : ∀ {levels : Nat} {source : Source} {t : Tree} {r : Recipe},
    recipe source levels t = .ok r → r.Distinct ∧ r.data.nesting ≤ levels
  | 0, source, t, r, h => by
    rw [recipe] at h
    cases h
  | levels + 1, source, t, r, h => by
    have htable : ∃ c, table source levels c = .ok r.properties := by
      cases t with
      | list items ending =>
        rw [recipe_list] at h
        obtain ⟨⟨kind, properties⟩, hpair, rfl⟩ := map_eq_ok_iff.mp h
        obtain ⟨c, hc⟩ := second_of_pairItems hpair
        exact ⟨c, hc⟩
      | record fields ending =>
        rw [recipe_record] at h
        obtain ⟨⟨kind, properties⟩, hfields, rfl⟩ := map_eq_ok_iff.mp h
        exact (second_of_structFields hfields).resolve_left (by simp)
      | _ => simp [recipe, bind, Except.bind] at h
    obtain ⟨c, hc⟩ := htable
    obtain ⟨hnames, hvalues, hnesting⟩ := table_readable hc
    refine ⟨.intro hnames hvalues, ?_⟩
    rw [Recipe.nesting_data]
    exact Nat.succ_le_succ hnesting

theorem table_readable : ∀ {levels : Nat} {source : Source} {t : Tree} {u : Table PropertyValue},
    table source levels t = .ok u → u.Distinct ∧ (∀ e ∈ u, e.2.Distinct) ∧
      fieldsNesting (PropertyValue.fieldData u) + 1 ≤ levels
  | 0, source, t, u, h => by
    rw [table] at h
    cases h
  | levels + 1, source, t, u, h => by
    cases t with
    | record fields ending =>
      rw [table] at h
      obtain ⟨hnames, hitems⟩ := of_tableFields h
      have hvalues : ∀ e ∈ u, e.2.Distinct ∧ e.2.data.nesting ≤ levels := by
        intro e he
        obtain ⟨c, hc⟩ := hitems e he
        exact value_readable hc
      refine ⟨hnames, fun e he => (hvalues e he).1, ?_⟩
      exact Nat.succ_le_succ (fieldsNesting_fieldData_le.mpr fun e he => (hvalues e he).2)
    | _ => simp [table] at h

end

end Decode

namespace Recipe
open Decode

/-- However it is laid out, the text of a recipe is read back. -/
theorem ofJson?_of_laidOut {r : Recipe} {text : String} (h : r.Distinct)
    (hn : r.data.nesting < 128) (htext : Json.LaidOut r.data text.toList) :
    ofJson? text = .ok r := by
  have htree : recipe .direct maxLevels r.data.tree = .ok r :=
    recipe_tree .direct h (Nat.le_of_lt_succ hn)
  simp [ofJson?, htext.readText_eq, htree, Json.isEnd]

lemma ofJson?_compact {r : Recipe} (h : r.Distinct) (hn : r.data.nesting < 128) :
    ofJson? r.toJson = .ok r := by
  apply ofJson?_of_laidOut h hn
  rw [toJson, String.toList_ofList]
  exact Json.laidOut_compact r.data

lemma ofJson?_readable {t : String} {r : Recipe} (h : ofJson? t = .ok r) :
    r.Distinct ∧ r.data.nesting < 128 := by
  unfold ofJson? at h
  split at h
  next tree rest _ =>
  cases hr : recipe .direct maxLevels tree with
  | error e => simp [hr] at h
  | ok s =>
    obtain rfl : s = r := by
      cases hrest : rest.any Json.isEnd with
      | false => simp [hr, hrest] at h
      | true => simpa [hr, hrest] using h
    obtain ⟨hdistinct, hnesting⟩ := recipe_readable hr
    exact ⟨hdistinct, Nat.lt_succ_of_le hnesting⟩

/-- Compact text is read back as the recipe it was written from just where that binds no name twice
and nests fewer than 128 levels. Whatever text a recipe is read from, its compact text gives the
recipe again, and from that the same compact text. -/
theorem ofJson?_toJson :
    (∀ r : Recipe, ofJson? r.toJson = .ok r ↔ r.Distinct ∧ r.data.nesting < 128) ∧
      ∀ (t : String) (r : Recipe), ofJson? t = .ok r → ofJson? r.toJson = .ok r := by
  refine ⟨fun r => ⟨ofJson?_readable, fun h => ofJson?_compact h.1 h.2⟩, ?_⟩
  intro t r h
  obtain ⟨hdistinct, hnesting⟩ := ofJson?_readable h
  exact ofJson?_compact hdistinct hnesting

def varied : Recipe where
  kind := .gatewayMethodMetadata
  properties :=
    [("\"", .value "\x1f\n"), ("", .map [("\\", .reference "😀")])]

/-- A text of it with parts in other places, in lists and twice. -/
def variedText : String :=
  "[\"gateway-method-metadata\",\x7b\"\\\"\":[\"value\",\"\"], \"\":\x7b\"value\":" ++
    "\x7b\"\\\\\":[\"reference\",\"\\ud83d\\ude00\"]\x7d,\"type\":\"map\"\x7d," ++
    "\"\\\"\":[\"value\",\"\\u001F\\n\"]\x7d]"

set_option maxRecDepth 2000 in
theorem ofJson?_toJson_varied :
    varied.Distinct ∧ varied.data.nesting < 128 ∧ ofJson? variedText = .ok varied ∧
      ofJson? varied.toJson = .ok varied := by
  have hmap : (PropertyValue.map [("\\", .reference "😀")]).Distinct :=
    .map (List.nodup_singleton _) (List.forall_mem_singleton.mpr (.reference _))
  have hnames : (Table.keys varied.properties).Nodup := by decide
  have hdistinct : varied.Distinct :=
    .intro hnames (List.forall_mem_cons.mpr ⟨.value _, List.forall_mem_singleton.mpr hmap⟩)
  have hnesting : varied.data.nesting < 128 := by decide
  have htext : ofJson? variedText = .ok varied := by cbv
  exact ⟨hdistinct, hnesting, htext, ofJson?_toJson.2 variedText varied htext⟩

end Recipe
end GatewayRecipes
