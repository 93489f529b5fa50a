import GatewayRecipes.Proofs.Gateway.Properties
import Mathlib.Data.List.TakeWhile

/-! What a translation reports: a warning for each method whose name came before, up to the first
method that fails, and a summary where it succeeds. -/
namespace GatewayRecipes

/-- The names of a list that come after themselves or are among those before it, once for each
place where they do. -/
def repeats (before names : List String) : List String :=
  (names.zipIdx.filter fun n => (before ++ names.take n.2).contains n.1).map (·.1)

@[simp] lemma repeats_nil (before : List String) : repeats before [] = [] := rfl

lemma repeats_cons (before : List String) (name : String) (rest : List String) :
    repeats before (name :: rest) =
      (if name ∈ before then [name] else []) ++ repeats (before ++ [name]) rest := by
  have hrest : (rest.zipIdx 1).filter
      (fun n => (before ++ (name :: rest).take n.2).contains n.1) =
      ((rest.zipIdx.filter fun n => (before ++ [name] ++ rest.take n.2).contains n.1).map
        fun n => (n.1, n.2 + 1)) := by
    rw [List.zipIdx_succ, List.filter_map]
    congr 2
    funext n
    simp
  rw [repeats, List.zipIdx_cons, List.filter_cons, hrest, List.take_zero, List.append_nil]
  by_cases h : name ∈ before
  · simp [h, repeats]
  · simp [h, repeats]

namespace Table
variable {α : Type} {t : Table α} {before : List String}

lemma mem_keys_nil (name : String) : name ∈ keys ([] : Table α) ↔ name ∈ [] := Iff.rfl

lemma mem_keys_put (hb : ∀ name, name ∈ t.keys ↔ name ∈ before) (key : String) (value : α)
    (name : String) : name ∈ (t.put key value).keys ↔ name ∈ before ++ [key] := by
  rw [keys_put]
  split
  · next hkey =>
    rw [hb, List.mem_append, List.mem_singleton, or_iff_left_of_imp]
    rintro rfl
    exact (hb _).mp hkey
  · rw [List.mem_append, List.mem_append, hb]

lemma length_put (t : Table α) (key : String) (value : α) :
    (t.put key value).length = t.length + if key ∈ t.keys then 0 else 1 := by
  have hkeys := congrArg List.length (t.keys_put key value)
  rw [keys, List.length_map] at hkeys
  rw [hkeys]
  split
  · simp [keys]
  · simp [keys]

/-- Each binding adds an entry to a table or repeats a key. -/
lemma length_putAll_add_repeats (hb : ∀ name, name ∈ t.keys ↔ name ∈ before)
    (entries : List (String × α)) :
    (t.putAll entries).length + (repeats before (entries.map (·.1))).length =
      t.length + entries.length := by
  induction entries generalizing t before with
  | nil => simp
  | cons e rest ih =>
    have hrest := ih (mem_keys_put hb e.1 e.2)
    have hput := t.length_put e.1 e.2
    rw [putAll_cons, List.map_cons, repeats_cons, List.length_append, List.length_cons]
    simp only [hb] at hput
    split at hput
    · next hmem =>
      rw [if_pos hmem, List.length_singleton]
      omega
    · next hmem =>
      rw [if_neg hmem, List.length_nil]
      omega

end Table

namespace Gateway
open Traced

/-- The methods before the first that does not meet all its checks. -/
def soundMethods (mapper : Bool) (methods : List Element) : List Element :=
  methods.takeWhile fun method => (methodChecks mapper method).all (·.met)

/-- What is reported of the methods of a gateway: each name that comes again. Nothing is reported
where the gateway fails before its methods, or where they do not count. -/
def methodNotices (mode : Mode) (e : Element) : List Notice :=
  match mode with
  | .inline => []
  | .standalone =>
    if (globalChecks e).all (·.met) then
      (repeats [] ((soundMethods (e.hasText "mapper") (e.childrenNamed "method")).map
        (·.attributeD "name"))).map .methodRepeated
    else []

def summary (mode : Mode) (e : Element) (recipe : Recipe) : Notice :=
  .gatewayTranslated mode (e.attributeD "id") recipe.size

lemma checked_cases {α : Type} (checks : List Check) (value : α) :
    (checks.all (·.met) = true ∧ checked checks value = .ok value) ∨
      ¬ checks.all (·.met) = true ∧ ∃ error, checked checks value = .error error := by
  rw [List.all_eq_true, ← firstFailure_eq_none_iff]
  cases h : firstFailure checks with
  | none => exact .inl ⟨rfl, checked_eq_ok_iff.mpr ⟨h, rfl⟩⟩
  | some error => exact .inr ⟨Option.some_ne_none error, error, checked_eq_error_iff.mpr h⟩

lemma soundMethods_cons (mapper : Bool) (method : Element) (rest : List Element) :
    soundMethods mapper (method :: rest) =
      if (methodChecks mapper method).all (·.met) then method :: soundMethods mapper rest
      else [] := by
  rw [soundMethods, List.takeWhile_cons]
  rfl

/-- A method is reported before it takes its place. -/
lemma addMethods_cons (mapper : Bool) (table : Table Recipe) (method : Element)
    (rest : List Element) :
    addMethods mapper table (method :: rest) = (do
      let named ← ofExcept (checked (methodChecks mapper method) (methodBinding method))
      if named.1 ∈ table.keys then note (.methodRepeated named.1) else Pure.pure ()
      addMethods mapper (table.put named.1 named.2) rest) := by
  rw [addMethods, methodMetadata_eq]
  congr 1
  funext named
  obtain ⟨name, metadata⟩ := named
  simp only [Table.mem_keys_iff]

/-- Each sound method whose name came before is reported, and no other. -/
lemma notices_addMethods (mapper : Bool) {table : Table Recipe} {before : List String}
    (hb : ∀ name, name ∈ table.keys ↔ name ∈ before) (methods : List Element) :
    (addMethods mapper table methods).notices =
      (repeats before ((soundMethods mapper methods).map (·.attributeD "name"))).map
        .methodRepeated := by
  induction methods generalizing table before with
  | nil => rfl
  | cons method rest ih =>
    have hrest := ih (Table.mem_keys_put hb (method.attributeD "name") (methodContent method))
    rw [addMethods_cons, soundMethods_cons]
    obtain ⟨hmet, hok⟩ | ⟨hmet, error, herror⟩ :=
      checked_cases (methodChecks mapper method) (methodBinding method)
    · rw [hok, bind_of_ok (result_ofExcept _), if_pos hmet, List.map_cons, repeats_cons,
        List.map_append, ← hrest]
      simp only [methodBinding, hb]
      split
      · rfl
      · rfl
    · rw [herror, bind_of_error (result_ofExcept _), if_neg hmet]
      rfl

/-- Nothing is reported of methods where the gateway fails before them. -/
lemma notices_standaloneRecipe (e : Element) :
    (standaloneRecipe e).notices = methodNotices .standalone e := by
  have hmethods : (methodTable e).notices = _ :=
    notices_addMethods (e.hasText "mapper") Table.mem_keys_nil (e.childrenNamed "method")
  rw [standaloneRecipe, globalMetadata_eq, methodNotices]
  obtain ⟨hmet, hok⟩ | ⟨hmet, error, herror⟩ := checked_cases (globalChecks e)
    (if e.hasChild "default-header" || e.hasText "default-payload-expression" then
      some (globalContent e) else none)
  · rw [hok, bind_of_ok (result_ofExcept _), if_pos hmet, ← hmethods]
    cases htable : (methodTable e).result with
    | ok table => rw [bind_of_ok htable]; simp
    | error error => rw [bind_of_error htable]; simp
  · rw [herror, bind_of_error (result_ofExcept _), if_neg hmet]
    rfl

lemma notices_recipe (mode : Mode) (e : Element) :
    (recipe mode e).notices = methodNotices mode e := by
  cases mode with
  | inline => rfl
  | standalone => exact notices_standaloneRecipe e

/-- The notices of a translation are those of its methods and, at the end of one that succeeds, the
summary of its recipe. -/
lemma notices_translate {e : Element} (h : e.name = "gateway") (mode : Mode) :
    (translate mode e).notices = methodNotices mode e ++
      ((translate mode e).result.toOption.map (summary mode e)).toList := by
  rw [translate, if_pos h, ← notices_recipe]
  cases hr : (recipe mode e).result with
  | error error => rw [bind_of_error hr]; simp [Except.toOption]
  | ok r => rw [bind_of_ok hr]; rfl

lemma level_of_mem_methodNotices {mode : Mode} {e : Element} {n : Notice}
    (h : n ∈ methodNotices mode e) : n.level = .warn := by
  cases mode with
  | inline => cases h
  | standalone =>
    rw [methodNotices] at h
    split at h
    · obtain ⟨name, -, rfl⟩ := List.mem_map.mp h
      rfl
    · cases h

lemma warnings_translate {e : Element} (h : e.name = "gateway") (mode : Mode) :
    (translate mode e).notices.filter (·.level == .warn) = methodNotices mode e := by
  have hwarn : ∀ n ∈ methodNotices mode e, (n.level == .warn) = true := fun n hn =>
    beq_iff_eq.mpr (level_of_mem_methodNotices hn)
  rw [notices_translate h, List.filter_append, List.filter_eq_self.mpr hwarn]
  cases (translate mode e).result with
  | error error => exact List.append_nil _
  | ok recipe => exact List.append_nil _

/-- Where all methods are sound, each adds to the table of methods or is reported. -/
lemma length_methodNotices {e : Element} (h : firstFailure (gatewayChecks e) = none) :
    (methodNotices .standalone e).length +
        (Table.lastWins ((e.childrenNamed "method").map methodBinding)).length =
      (e.childrenNamed "method").length := by
  rw [firstFailure_eq_none_iff, gatewayChecks, List.forall_mem_append, List.forall_mem_flatMap] at h
  have hmethods : soundMethods (e.hasText "mapper") (e.childrenNamed "method") =
      e.childrenNamed "method" :=
    List.takeWhile_eq_self_iff.mpr fun method hm => List.all_eq_true.mpr (h.2 method hm)
  have hcount := Table.length_putAll_add_repeats Table.mem_keys_nil
    ((e.childrenNamed "method").map methodBinding)
  rw [methodNotices, if_pos (List.all_eq_true.mpr h.1), hmethods, ← Table.ofList_eq_lastWins,
    Table.ofList, List.length_map]
  simpa [Function.comp_def, methodBinding, Nat.add_comm] using hcount

/-- What a translation reports is a warning for each repeated method and then, exactly where it
succeeds, a summary with the size of the recipe. The warnings are those of the sound methods, in
their order; inside a chain there are none. On success there are as many warnings as methods that
have no entry of their own in the table of methods. -/
theorem translate_diagnostics (mode : Mode) (e : Element) (gateway : e.name = "gateway") :
    (translate mode e).notices = methodNotices mode e ++
        ((translate mode e).result.toOption.map (summary mode e)).toList ∧
      (translate mode e).notices.filter (·.level == .warn) = methodNotices mode e ∧
      (∀ recipe, (summary mode e recipe).level = .debug) ∧
      ∀ recipe, (translate .standalone e).result = .ok recipe →
        ((∀ c ∈ e.children, c.name ≠ "method") → methodNotices .standalone e = []) ∧
        ((∃ c ∈ e.children, c.name = "method") →
          ∃ table, recipe.get? "methodMetadataMap" = some (.map table) ∧
            (methodNotices .standalone e).length + table.length =
              (e.childrenNamed "method").length) := by
  refine ⟨notices_translate gateway mode, warnings_translate gateway mode, fun _ => rfl, ?_⟩
  intro recipe hrecipe
  rw [result_translate gateway] at hrecipe
  obtain ⟨hsound, rfl⟩ := checked_eq_ok_iff.mp hrecipe
  have hlength := length_methodNotices hsound
  constructor
  · intro hnone
    rw [← Element.not_hasChild_iff, Bool.not_eq_true] at hnone
    rw [Element.childrenNamed_eq_nil hnone] at hlength
    exact List.length_eq_zero_iff.mp (Nat.eq_zero_of_add_eq_zero_right hlength)
  · intro hsome
    refine ⟨_, (get?_standaloneContent e _).trans (if_pos ⟨rfl, hsome⟩), ?_⟩
    rw [List.length_map]
    exact hlength

def methodsGateway (names : List String) : Element :=
  (Element.named "gateway").withChildren
    (names.map fun name => (Element.named "method").withAttribute "name" name)

/-- A method without a name ends the warnings and the translation. -/
theorem translate_diagnostics_unnamed :
    (methodsGateway ["a", "b", "a", "", "b"]).name = "gateway" ∧
      (translate .standalone (methodsGateway ["a", "b", "a", "", "b"])).notices =
        [.methodRepeated "a"] ∧
      (methodsGateway ["a", "b", "a", "a"]).name = "gateway" ∧
      (translate .standalone (methodsGateway ["a", "b", "a", "a"])).notices =
        [.methodRepeated "a", .methodRepeated "a", .gatewayTranslated .standalone "" 1] := by
  refine ⟨rfl, ?_, rfl, ?_⟩
  · exact (translate_diagnostics .standalone _ rfl).1.trans (by decide)
  · exact (translate_diagnostics .standalone _ rfl).1.trans (by decide)

end Gateway
end GatewayRecipes
