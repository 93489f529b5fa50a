import GatewayRecipes.Proofs.Registry.Sequence
import Mathlib.Data.List.Perm.Subperm
import Mathlib.Data.List.Nodup

/-! Generated component names. Each has the lowest counter that is free where its element stands.
Which counters have been given out is told by counting: below a counter there is room for as many
elements as there are free ones. -/
namespace GatewayRecipes.Registry
open Element

/-! The lowest free counter. -/

/-- The digits of a counter are read back. -/
lemma toString_injective : Function.Injective (toString : Nat → String) := by
  intro m n h
  have hdigits := congrArg String.toList h
  simp only [Nat.toString_eq_ofList_toDigits, String.toList_ofList] at hdigits
  rw [← Nat.ofDigitChars_ten_toDigits (n := m), hdigits, Nat.ofDigitChars_ten_toDigits]

lemma counted_injective (kind : RecipeKind) : Function.Injective (counted kind) := fun _ _ h =>
  toString_injective ((String.append_right_inj _).mp h)

/-- The search ends at a free name or runs out, and has passed only taken ones. -/
lemma firstFree_cases (taken : String → Bool) (kind : RecipeKind) (fuel n : Nat) :
    ∃ m, firstFree taken kind fuel n = counted kind m ∧
      (∀ k, n ≤ k → k < m → taken (counted kind k) = true) ∧
      (taken (counted kind m) = false ∨ m = n + fuel) := by
  induction fuel generalizing n with
  | zero => exact ⟨n, rfl, fun k hk hlt => absurd hk (by omega), .inr rfl⟩
  | succ fuel ih =>
    rw [firstFree]
    cases hn : taken (counted kind n) with
    | false => exact ⟨n, rfl, fun k hk hlt => absurd hk (by omega), .inl hn⟩
    | true =>
      obtain ⟨m, hm, hbelow, hend⟩ := ih (n + 1)
      refine ⟨m, hm, fun k hk hlt => ?_, hend.imp_right fun h => by omega⟩
      rcases Nat.eq_or_lt_of_le hk with rfl | hk
      · exact hn
      · exact hbelow k hk hlt

/-- No more counters are in use than there are names. -/
lemma le_length_of_used {kind : RecipeKind} {names : List String} {n : Nat}
    (h : ∀ m < n, counted kind m ∈ names) : n ≤ names.length := by
  have hsub : (List.range n).map (counted kind) ⊆ names := by
    intro name hname
    obtain ⟨m, hm, rfl⟩ := List.mem_map.mp hname
    exact h m (List.mem_range.mp hm)
  have hnodup : ((List.range n).map (counted kind)).Nodup :=
    List.nodup_range.map (counted_injective kind)
  have hle := (hnodup.subperm hsub).length_le
  rwa [List.length_map, List.length_range] at hle

/-- Fewer names than counters leave one of these free. -/
lemma exists_not_mem (kind : RecipeKind) (names : List String) :
    ∃ n ≤ names.length, counted kind n ∉ names := by
  by_contra! h
  have hle : names.length + 1 ≤ names.length :=
    le_length_of_used fun m hm => h m (Nat.le_of_lt_succ hm)
  omega

lemma isTaken_iff_mem (r : Registry) (staged : Table Recipe) (name : String) :
    r.isTaken staged name = true ↔ name ∈ r.names ++ staged.keys := by
  rw [isTaken_iff, List.mem_append]

/-- A generated name is the lowest of its kind that is neither registered nor staged. -/
theorem generatedName_cases (r : Registry) (staged : Table Recipe) (kind : RecipeKind) :
    ∃ n, r.generatedName staged kind = counted kind n ∧
      counted kind n ∉ r.names ++ staged.keys ∧
      ∀ m < n, counted kind m ∈ r.names ++ staged.keys := by
  obtain ⟨n, hn, hbelow, hend⟩ := firstFree_cases (r.isTaken staged) kind
    (r.definitions.length + staged.length) 0
  have hall : ∀ m < n, counted kind m ∈ r.names ++ staged.keys := fun m hm =>
    (r.isTaken_iff_mem staged _).mp (hbelow m (Nat.zero_le m) hm)
  refine ⟨n, hn, ?_, hall⟩
  rcases hend with hfree | hend
  · exact fun hm => by simp [(r.isTaken_iff_mem staged _).mpr hm] at hfree
  · -- There are as many names as counters below this one, which are all taken.
    obtain ⟨m, hm, hfree⟩ := exists_not_mem kind (r.names ++ staged.keys)
    have hlen : (r.names ++ staged.keys).length = n := by
      simp [names, Table.keys, hend]
    rw [hlen] at hm
    rcases Nat.eq_or_lt_of_le hm with rfl | hm
    · exact hfree
    · exact absurd (hall m hm) hfree

/-! What an id has to reckon with. -/

/-- The ids of elements that have one with text. -/
def ids (l : List Occurrence) : List String := l.filterMap (·.element.textAttribute? "id")

def unnamed (l : List Occurrence) : Nat := l.countP fun o => !o.element.hasText "id"

/-- How many counters below `n` some names leave free. -/
def room (kind : RecipeKind) (used : List String) (n : Nat) : Nat :=
  (List.range n).countP fun m => counted kind m ∉ used

lemma ids_append (a b : List Occurrence) : ids (a ++ b) = ids a ++ ids b := List.filterMap_append

/-- The counters of generated names. Besides these, the ids of the elements before make up the
staged names, and below each of these counters all are in use. -/
structure Numbered (kind : RecipeKind) (names : List String) (before : List Occurrence)
    (staged : Table Recipe) (counters : List Nat) : Prop where
  length : counters.length = unnamed before
  nodup : counters.Nodup
  mem_keys : ∀ name, name ∈ staged.keys ↔ name ∈ ids before ∨ ∃ n ∈ counters, counted kind n = name
  unused : ∀ n ∈ counters, counted kind n ∉ names ++ ids before
  filled : ∀ n ∈ counters, ∀ m < n, counted kind m ∈ names ++ ids before ∨ m ∈ counters

namespace Numbered
variable {kind : RecipeKind} {names : List String} {before : List Occurrence}
  {staged : Table Recipe} {counters : List Nat}

lemma nil (kind : RecipeKind) (names : List String) : Numbered kind names [] [] [] where
  length := rfl
  nodup := List.nodup_nil
  mem_keys := by simp [ids, Table.keys]
  unused := List.forall_mem_nil _
  filled := List.forall_mem_nil _

/-- A counter that no name uses is one of those given out exactly if there is less room below it
than elements to be named. -/
theorem mem_iff (h : Numbered kind names before staged counters) {n : Nat}
    (hn : counted kind n ∉ names ++ ids before) :
    n ∈ counters ↔ room kind (names ++ ids before) n < unnamed before := by
  rw [room, List.countP_eq_length_filter, ← h.length]
  constructor
  · intro hmem
    have hsub : (List.range n).filter (fun m => counted kind m ∉ names ++ ids before) ⊆
        counters.erase n := by
      intro m hm
      simp only [List.mem_filter, List.mem_range, decide_eq_true_eq] at hm
      exact (List.mem_erase_of_ne (by omega)).mpr ((h.filled n hmem m hm.1).resolve_left hm.2)
    have hle := ((List.nodup_range.filter _).subperm hsub).length_le
    have hpos := List.length_pos_of_mem hmem
    rw [List.length_erase_of_mem hmem] at hle
    omega
  · intro hlt
    by_contra hmem
    have hsub : counters ⊆
        (List.range n).filter (fun m => counted kind m ∉ names ++ ids before) := by
      intro m hm
      have hne : m ≠ n := fun he => hmem (he ▸ hm)
      -- Above the counter it would have been given out before.
      have hlt : ¬ n < m := fun hlt => (h.filled m hm n hlt).elim hn hmem
      simp only [List.mem_filter, List.mem_range, decide_eq_true_eq]
      exact ⟨by omega, h.unused m hm⟩
    have hle := (h.nodup.subperm hsub).length_le
    omega

/-- An element with an id takes that, and no counter. -/
lemma snoc_named (h : Numbered kind names before staged counters) {o : Occurrence} {id : String}
    (hid : o.element.textAttribute? "id" = some id) (hfree : id ∉ staged.keys) (recipe : Recipe) :
    Numbered kind names (before ++ [o]) (staged ++ [(id, recipe)]) counters := by
  have hids : ids (before ++ [o]) = ids before ++ [id] := by
    simp [ids, hid]
  have hunnamed : unnamed (before ++ [o]) = unnamed before := by
    simp [unnamed, hasText, hid]
  have hne : ∀ n ∈ counters, counted kind n ≠ id := by
    rintro n hn rfl
    exact hfree ((h.mem_keys _).mpr (.inr ⟨n, hn, rfl⟩))
  refine ⟨by rw [h.length, hunnamed], h.nodup, fun name => ?_, fun n hn => ?_,
    fun n hn m hm => ?_⟩
  · rw [Table.mem_keys_append, h.mem_keys, hids, List.mem_append]
    simp only [Table.keys, List.map_cons, List.map_nil]
    exact or_right_comm
  · rw [hids, ← List.append_assoc, List.mem_append, List.mem_singleton, not_or]
    exact ⟨h.unused n hn, hne n hn⟩
  · rw [hids, ← List.append_assoc]
    exact (h.filled n hn m hm).imp_left (List.mem_append_left _)

/-- An element without an id takes the lowest counter that is free. -/
lemma snoc_unnamed (h : Numbered kind names before staged counters) {o : Occurrence}
    (hid : o.element.textAttribute? "id" = none) {n : Nat}
    (hfree : counted kind n ∉ names ++ staged.keys)
    (hbelow : ∀ m < n, counted kind m ∈ names ++ staged.keys) (recipe : Recipe) :
    Numbered kind names (before ++ [o]) (staged ++ [(counted kind n, recipe)])
      (counters ++ [n]) := by
  have hids : ids (before ++ [o]) = ids before := by
    simp [ids, hid]
  have hunnamed : unnamed (before ++ [o]) = unnamed before + 1 := by
    simp [unnamed, hasText, hid]
  rw [List.mem_append, not_or] at hfree
  have hkeys := (h.mem_keys (counted kind n)).not.mp hfree.2
  have hnew : n ∉ counters := fun hn => hkeys (.inr ⟨n, hn, rfl⟩)
  refine ⟨by rw [List.length_append, h.length, hunnamed]; rfl, ?_, fun name => ?_, ?_, ?_⟩
  · rw [List.nodup_append]
    refine ⟨h.nodup, List.nodup_singleton n, ?_⟩
    rintro m hm _ hn rfl
    exact hnew (List.mem_singleton.mp hn ▸ hm)
  · rw [Table.mem_keys_append, h.mem_keys, hids, or_assoc]
    refine or_congr_right ?_
    simp [Table.keys, or_and_right, exists_or, eq_comm]
  · intro m hm
    rw [hids]
    rcases List.mem_append.mp hm with hm | hm
    · exact h.unused m hm
    · rw [List.mem_singleton.mp hm, List.mem_append, not_or]
      exact ⟨hfree.1, fun hin => hkeys (.inl hin)⟩
  · intro m hm k hk
    rw [hids, List.mem_append]
    rcases List.mem_append.mp hm with hm | hm
    · have hf := h.filled m hm k hk
      rw [List.mem_append] at hf
      exact hf.imp_right (List.mem_append_left _)
    · rw [List.mem_singleton.mp hm] at hk
      rcases List.mem_append.mp (hbelow k hk) with hin | hin
      · exact .inl (.inl hin)
      · rcases (h.mem_keys _).mp hin with hin | ⟨j, hj, he⟩
        · exact .inl (.inr hin)
        · rw [counted_injective kind he] at hj
          exact .inr (List.mem_append_left _ hj)

end Numbered

end GatewayRecipes.Registry
