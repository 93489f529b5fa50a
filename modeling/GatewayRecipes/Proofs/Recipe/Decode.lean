import GatewayRecipes.Proofs.Table
import GatewayRecipes.Recipe.Decode
import Mathlib.Tactic.Lemma

/-! The readers of structures and tables, on what is written and on whatever they accept: a
structure is read from readings of its parts, a table from readings of its entries. -/
namespace GatewayRecipes.Decode
open Json

section
variable {ε α β : Type}

lemma bind_eq_ok_iff {x : Except ε α} {f : α → Except ε β} {b : β} :
    x >>= f = .ok b ↔ ∃ a, x = .ok a ∧ f a = .ok b := by
  cases x <;> simp [bind, Except.bind]

lemma map_eq_ok_iff {x : Except ε α} {f : α → β} {b : β} :
    x.map f = .ok b ↔ ∃ a, x = .ok a ∧ f a = b := by
  cases x <;> simp [Except.map]

lemma bind_second (x : Except ε (α × β)) : (do let (_, b) ← x; return b) = x.map (·.2) := by
  cases x <;> rfl

end

section
variable {α β : Type} {names : String × String} {source : Source} {levels : Nat}

lemma tagged_congr {sorts : List (String × α)} {content content' : Source → α → Tree → Decoded β}
    (h : ∀ source a t, content source a t = content' source a t) (t : Tree) :
    tagged names source levels sorts content t = tagged names source levels sorts content' t := by
  have heq : content = content' := by
    funext source a t
    exact h source a t
  rw [heq]

/-! Structures as they are written. -/

lemma nextField_first (ending : Ending) (t : Tree)
    (rest : List (Except Problem String × Tree)) :
    nextField names ending ((.ok names.1, t) :: rest) = .ok (some (true, t, rest)) := by
  simp [nextField, key, Except.mapError, bind, Except.bind, pure, Except.pure]

lemma nextField_second (h : names.2 ≠ names.1) (ending : Ending) (t : Tree)
    (rest : List (Except Problem String × Tree)) :
    nextField names ending ((.ok names.2, t) :: rest) = .ok (some (false, t, rest)) := by
  simp [nextField, key, Except.mapError, bind, Except.bind, pure, Except.pure, h]

/-- A tag that is known, and behind it content that can be read. -/
lemma tagged_written (names : String × String) (hnames : names.2 ≠ names.1) (source : Source)
    (levels : Nat) {sorts : List (String × α)} (content : Source → α → Tree → Decoded β)
    {tag : String} {a : α} {c : Tree} {b : β} (ha : sorts.lookup tag = some a)
    (hb : content source a c = .ok b) :
    tagged names source levels sorts content
        (.record [(.ok names.1, .text (.ok tag)), (.ok names.2, c)] .closed) = .ok (a, b) := by
  have hend : nextField names .closed [] = .ok none := rfl
  have htag : choice source levels (List.lookup · sorts) (.text (.ok tag)) = .ok a := by
    simp [choice, ha]
  rw [tagged, taggedFields, nextField_first]
  simp only [bind, Except.bind, htag, nextField_second hnames, hb, hend]
  rfl

lemma structFields_written (names : String × String) (hnames : names.2 ≠ names.1)
    {first : Tree → Decoded α} {second : Tree → Decoded β} {t u : Tree} {a : α} {b : β}
    (ha : first t = .ok a) (hb : second u = .ok b) :
    structFields names first second .closed none none [(.ok names.1, t), (.ok names.2, u)] =
      .ok (a, b) := by
  simp [structFields, key, Except.mapError, bind, Except.bind, pure, Except.pure, hnames, ha, hb,
    refuse, Ending.readProblem]

/-! Structures as they are accepted. -/

lemma missing_ne_ok {ending : Ending} {a : α} : missing ending ≠ .ok a := by
  unfold missing
  split <;> simp

lemma second_of_pairItems {first : Tree → Decoded α} {second : α → Tree → Decoded β}
    {items : List Tree} {ending : Ending} {a : α} {b : β}
    (h : pairItems source first second items ending = .ok (a, b)) : ∃ t, second a t = .ok b := by
  cases items with
  | nil => exact absurd h missing_ne_ok
  | cons t rest =>
    obtain ⟨a', -, h⟩ := bind_eq_ok_iff.mp h
    cases rest with
    | nil => exact absurd h missing_ne_ok
    | cons u rest =>
      obtain ⟨b', hb, h⟩ := bind_eq_ok_iff.mp h
      obtain ⟨-, -, h⟩ := bind_eq_ok_iff.mp h
      cases h
      exact ⟨u, hb⟩

lemma content_of_taggedFields {tag : Tree → Decoded α} {content : Source → α → Tree → Decoded β}
    {ending : Ending} {fields : List (Except Problem String × Tree)} {a : α} {b : β}
    (h : taggedFields names source levels tag content ending fields = .ok (a, b)) :
    ∃ source' c, content source' a c = .ok b := by
  obtain ⟨next, -, h⟩ := bind_eq_ok_iff.mp h
  rcases next with _ | ⟨_ | _, t, rest⟩
  · cases h
  · obtain ⟨-, -, h⟩ := bind_eq_ok_iff.mp h
    obtain ⟨next, -, h⟩ := bind_eq_ok_iff.mp h
    rcases next with _ | ⟨_ | _, u, rest⟩
    · cases h
    · cases h
    · obtain ⟨a', -, h⟩ := bind_eq_ok_iff.mp h
      obtain ⟨b', hb, h⟩ := bind_eq_ok_iff.mp h
      obtain ⟨next, -, h⟩ := bind_eq_ok_iff.mp h
      cases next <;> cases h
      exact ⟨.kept, t, hb⟩
  · obtain ⟨a', -, h⟩ := bind_eq_ok_iff.mp h
    obtain ⟨next, -, h⟩ := bind_eq_ok_iff.mp h
    rcases next with _ | ⟨_ | _, u, rest⟩
    · cases h
    · obtain ⟨b', hb, h⟩ := bind_eq_ok_iff.mp h
      obtain ⟨next, -, h⟩ := bind_eq_ok_iff.mp h
      cases next <;> cases h
      exact ⟨source, u, hb⟩
    · cases h

lemma content_of_tagged {sorts : List (String × α)} {content : Source → α → Tree → Decoded β}
    {t : Tree} {a : α} {b : β} (h : tagged names source levels sorts content t = .ok (a, b)) :
    ∃ source' c, content source' a c = .ok b := by
  cases t with
  | list items ending =>
    obtain ⟨c, hc⟩ := second_of_pairItems h
    exact ⟨source, c, hc⟩
  | record fields ending => exact content_of_taggedFields h
  | _ => cases h

lemma second_of_structFields {first : Tree → Decoded α} {second : Tree → Decoded β}
    {ending : Ending} {fields : List (Except Problem String × Tree)} {x : Option α} {y : Option β}
    {a : α} {b : β} (h : structFields names first second ending x y fields = .ok (a, b)) :
    y = some b ∨ ∃ t, second t = .ok b := by
  induction fields generalizing x y with
  | nil =>
    obtain ⟨-, -, h⟩ := bind_eq_ok_iff.mp h
    cases x <;> cases y <;> cases h
    exact .inl rfl
  | cons f rest ih =>
    obtain ⟨k, -, h⟩ := bind_eq_ok_iff.mp h
    split at h
    · split at h
      · cases h
      · obtain ⟨a', -, h⟩ := bind_eq_ok_iff.mp h
        exact ih h
    split at h
    · split at h
      · cases h
      · obtain ⟨b', hb, h⟩ := bind_eq_ok_iff.mp h
        rcases ih h with hy | hy
        · cases hy
          exact .inr ⟨f.2, hb⟩
        · exact .inr hy
    · obtain ⟨-, -, h⟩ := bind_eq_ok_iff.mp h
      exact ih h

/-! Tables. -/

structure ReadsEntry (item : Tree → Decoded α) (field : Except Problem String × Tree)
    (entry : String × α) : Prop where
  key : key field.1 = .ok entry.1
  item : item field.2 = .ok entry.2

lemma tableFields_eq_ok_iff {item : Tree → Decoded α} {ending : Ending} {t u : Table α}
    {fields : List (Except Problem String × Tree)} :
    tableFields item ending t fields = .ok u ↔
      ∃ entries, List.Forall₂ (ReadsEntry item) fields entries ∧ ending.readProblem = none ∧
        t.putAll entries = u := by
  induction fields generalizing t with
  | nil =>
    rw [tableFields]
    cases h : ending.readProblem with
    | some p => simp [refuse, bind, Except.bind]
    | none =>
      constructor
      · rintro ⟨⟩
        exact ⟨[], .nil, rfl, rfl⟩
      · rintro ⟨_, _ | _, -, rfl⟩
        rfl
  | cons f rest ih =>
    rw [tableFields]
    constructor
    · intro h
      obtain ⟨k, hk, h⟩ := bind_eq_ok_iff.mp h
      obtain ⟨v, hv, h⟩ := bind_eq_ok_iff.mp h
      obtain ⟨entries, hentries, hend, hu⟩ := ih.mp h
      exact ⟨(k, v) :: entries, .cons ⟨hk, hv⟩ hentries, hend, hu⟩
    · rintro ⟨_, _ | ⟨hentry, hentries⟩, hend, hu⟩
      simp only [hentry.key, hentry.item, bind, Except.bind]
      exact ih.mpr ⟨_, hentries, hend, hu⟩

/-- A table that is read binds each key once, to what its reader of values has given. -/
theorem of_tableFields {item : Tree → Decoded α} {ending : Ending} {u : Table α}
    {fields : List (Except Problem String × Tree)} (h : tableFields item ending [] fields = .ok u) :
    u.Distinct ∧ ∀ e ∈ u, ∃ t, item t = .ok e.2 := by
  obtain ⟨entries, hentries, -, rfl⟩ := tableFields_eq_ok_iff.mp h
  change (Table.ofList entries).Distinct ∧ ∀ e ∈ Table.ofList entries, ∃ t, item t = .ok e.2
  refine ⟨Table.distinct_ofList entries, ?_⟩
  rw [Table.ofList_eq_lastWins]
  intro e he
  have hmem := Table.mem_of_mem_lastWins he
  clear h he
  induction hentries with
  | nil => exact absurd hmem List.not_mem_nil
  | @cons field _ _ _ hentry _ ih =>
    rcases List.mem_cons.mp hmem with rfl | hmem
    · exact ⟨field.2, hentry.item⟩
    · exact ih hmem

end

/-! Values, expressions and recipes by their parts. -/

def content (source : Source) (levels : Nat) : ValueSort → Tree → Decoded PropertyValue
  | .value, t => (text t).map .value
  | .reference, t => (text t).map .reference
  | .expression, t => (expression source levels t).map .expression
  | .recipe, t => (recipe source levels t).map .recipe
  | .map, t => (table source levels t).map .map

lemma value_succ (source : Source) (levels : Nat) (t : Tree) :
    value source (levels + 1) t =
      (tagged ("type", "value") source levels ValueSort.named
        (fun source => content source levels) t).map (·.2) := by
  rw [value, bind_second]
  refine congrArg (Except.map (·.2)) (tagged_congr ?_ t)
  intro _ sort _
  cases sort <;> rfl

lemma expression_succ (source : Source) (levels : Nat) (t : Tree) :
    expression source (levels + 1) t =
      (tagged ("kind", "source") source levels ExpressionSort.named
        (fun _ sort t => (text t).map sort.expression) t).map (·.2) := by
  rw [expression, bind_second]

lemma recipe_record (source : Source) (levels : Nat)
    (fields : List (Except Problem String × Tree)) (ending : Ending) :
    recipe source (levels + 1) (.record fields ending) =
      (structFields ("kind", "properties") (choice source levels RecipeKind.ofName?)
        (table source levels) ending none none fields).map fun p => ⟨p.1, p.2⟩ := by
  rw [recipe]
  cases structFields ("kind", "properties") (choice source levels RecipeKind.ofName?)
    (table source levels) ending none none fields <;> rfl

lemma recipe_list (source : Source) (levels : Nat) (items : List Tree) (ending : Ending) :
    recipe source (levels + 1) (.list items ending) =
      (pairItems source (choice source levels RecipeKind.ofName?) (fun _ => table source levels)
        items ending).map fun p => ⟨p.1, p.2⟩ := by
  rw [recipe]
  cases pairItems source (choice source levels RecipeKind.ofName?) (fun _ => table source levels)
    items ending <;> rfl

end GatewayRecipes.Decode
