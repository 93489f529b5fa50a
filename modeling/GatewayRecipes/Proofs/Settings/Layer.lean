import GatewayRecipes.Proofs.Equality
import GatewayRecipes.Proofs.Settings.Order
import GatewayRecipes.Settings.Layer

/-! Variables of the environment over the entries of a file. Each replaces what stands under its key
and changes nothing else. -/
namespace GatewayRecipes.Settings
open Text (lower)

/-- Variables whose names are no paths, and differ in more than the case of letters. -/
structure Environment.Plain (env : Environment) : Prop where
  names : ∀ e ∈ env, IsName e.1
  distinct : (env.map fun e => lower e.1).Nodup

/-- The value of the variable with a name, in any case of letters. -/
def override? (env : Environment) (name : String) : Option Value :=
  (env.find? fun e => lower e.1 == lower name).map fun e => variableValue e.2

lemma isScalar_variableValue (text : String) : (variableValue text).isScalar := by
  rw [variableValue]
  split
  · rfl
  · rfl
  · split
    · rfl
    · split
      · rfl
      · rfl

lemma variableValue_ne_table (text : String) (entries : List (String × Value)) :
    variableValue text ≠ .table entries := by
  intro h
  have hscalar := isScalar_variableValue text
  rw [h] at hscalar
  cases hscalar

lemma variableKey?_eq_some_iff {namePrefix name key : String} :
    variableKey? namePrefix name = some key ↔
      lower name = lower (namePrefix ++ "_") ++ key := by
  rw [variableKey?, ← String.toList_inj, String.toList_append]
  split
  · next hprefix =>
    obtain ⟨rest, hrest⟩ := List.isPrefixOf_iff_prefix.mp hprefix
    rw [← hrest, List.drop_left, Option.some_inj, List.append_cancel_left_eq, ← String.toList_inj,
      String.toList_ofList]
  · next hprefix =>
    refine ⟨nofun, fun h => absurd ?_ hprefix⟩
    rw [h, List.isPrefixOf_iff_prefix]
    exact List.prefix_append _ _

section
variable {namePrefix name key : String}

/-- A variable binds its key as it is. -/
lemma assignKey_variable (hname : IsName name) (hkey : variableKey? namePrefix name = some key)
    (t : Table Value) (text : String) :
    assignKey t key (variableValue text) = t.put key (variableValue text) := by
  have hsub : ∀ c ∈ key.toList, c ∈ (lower name).toList := fun c hc => by
    rw [variableKey?_eq_some_iff.mp hkey, String.toList_append]
    exact List.mem_append_right _ hc
  have hlower : lower key = key :=
    Text.lower_of_lowered fun c hc => Text.lowered_of_mem_lower (hsub c hc)
  rw [assignKey_of_name (keyPath_of_isName (hname.of_lower hsub)), hlower,
    assign_of_no_table (variableValue_ne_table text), hlower]

lemma environmentLayer_cons (namePrefix : String) (e : String × String) (env : Environment) :
    environmentLayer namePrefix (e :: env) =
      match variableKey? namePrefix e.1 with
      | some key => (key, variableValue e.2) :: environmentLayer namePrefix env
      | none => environmentLayer namePrefix env := by
  obtain ⟨name, text⟩ := e
  cases hkey : variableKey? namePrefix name with
  | some key => simp [environmentLayer, hkey]
  | none => simp [environmentLayer, hkey]

def IsSetBy (namePrefix : String) (env : Environment) (e : String × Value) : Prop :=
  ∃ d ∈ env, variableKey? namePrefix d.1 = some e.1 ∧ variableValue d.2 = e.2

lemma isSetBy_of_mem {env : Environment} {e : String × Value}
    (h : e ∈ environmentTable namePrefix env) : IsSetBy namePrefix env e := by
  rw [environmentTable, Table.ofList_eq_lastWins] at h
  obtain ⟨d, hd, he⟩ := List.mem_filterMap.mp (Table.mem_of_mem_lastWins h)
  obtain ⟨key, hkey, rfl⟩ := Option.map_eq_some_iff.mp he
  exact ⟨d, hd, hkey, rfl⟩

lemma overlay_of_isSetBy {env : Environment} (hnames : ∀ e ∈ env, IsName e.1)
    {entries : List (String × Value)} (h : ∀ e ∈ entries, IsSetBy namePrefix env e)
    (t : Table Value) : overlay t entries = t.putAll entries := by
  induction entries generalizing t with
  | nil => rw [overlay_nil, Table.putAll_nil]
  | cons e rest ih =>
    obtain ⟨⟨d, hd, hkey, hvalue⟩, hrest⟩ := List.forall_mem_cons.mp h
    rw [overlay_cons, ← hvalue, assignKey_variable (hnames d hd) hkey, Table.putAll_cons, hvalue,
      ih hrest]

/-- The order of variables is one of entries alone. -/
lemma perm_arrange_environmentTable (namePrefix : String) (env : Environment)
    (order : EntryOrder) :
    (environmentTable namePrefix env).Perm (order.arrange (environmentTable namePrefix env)) := by
  refine (order.reordered _).perm_of_isScalar fun e he => ?_
  obtain ⟨d, -, -, hvalue⟩ := isSetBy_of_mem he
  exact hvalue ▸ isScalar_variableValue d.2

lemma override?_cons (e : String × String) (env : Environment) (name : String) :
    override? (e :: env) name =
      if lower e.1 = lower name then some (variableValue e.2) else override? env name := by
  by_cases h : lower e.1 = lower name
  · simp [override?, h]
  · simp [override?, h]

/-- Of several variables with one name in any case of letters the last would count. -/
lemma lastValue?_environmentLayer {env : Environment}
    (hdistinct : (env.map fun e => lower e.1).Nodup)
    (hname : lower name = lower (namePrefix ++ "_") ++ key) :
    Table.lastValue? (environmentLayer namePrefix env) key = override? env name := by
  induction env with
  | nil => rfl
  | cons e rest ih =>
    obtain ⟨hnew, hrest⟩ := List.nodup_cons.mp hdistinct
    rw [environmentLayer_cons, override?_cons]
    by_cases he : lower e.1 = lower name
    · have hkey : variableKey? namePrefix e.1 = some key :=
        variableKey?_eq_some_iff.mpr (he.trans hname)
      have hnone : override? rest name = none := by
        rw [override?, Option.map_eq_none_iff, List.find?_eq_none]
        intro d hd hlower
        exact hnew (List.mem_map.mpr ⟨d, hd, (beq_iff_eq.mp hlower).trans he.symm⟩)
      rw [if_pos he, hkey]
      simp only
      rw [Table.lastValue?_cons, ih hrest, hnone, if_pos rfl, Option.none_or]
    · rw [if_neg he, ← ih hrest]
      cases hkey : variableKey? namePrefix e.1 with
      | none => rfl
      | some other =>
        have hother : other ≠ key := by
          rintro rfl
          exact he ((variableKey?_eq_some_iff.mp hkey).trans hname.symm)
        simp only
        rw [Table.lastValue?_cons, if_neg hother, Option.or_none]

/-- Over other settings, the variable with a name decides on the key that it names, and without one
what stood there before. -/
theorem get?_overlay_environmentTable {env : Environment} (hplain : env.Plain)
    (hname : lower name = lower (namePrefix ++ "_") ++ key) (t : Table Value)
    (order : EntryOrder) :
    (overlay t (order.arrange (environmentTable namePrefix env))).get? key =
      (override? env name).or (t.get? key) := by
  have hperm := perm_arrange_environmentTable namePrefix env order
  have hdistinct : (environmentTable namePrefix env).Distinct := Table.distinct_ofList _
  have hlast : Table.lastValue? (order.arrange (environmentTable namePrefix env)) key =
      override? env name := by
    rw [(hdistinct.of_perm hperm).lastValue?_eq_get?, ← hdistinct.get?_of_perm hperm,
      environmentTable, Table.ofList_eq_lastWins, Table.get?_lastWins,
      lastValue?_environmentLayer hplain.distinct hname]
  rw [overlay_of_isSetBy hplain.names fun e he => isSetBy_of_mem (hperm.mem_iff.mpr he),
    Table.get?_putAll, hlast]

end

end GatewayRecipes.Settings
