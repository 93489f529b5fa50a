import GatewayRecipes.Proofs.Settings.Key
import GatewayRecipes.Settings.Basic

/-! Tables that are the same up to the order of their entries, and the settings that they make. The
order shows where keys meet. Where none do, all orders make the same settings. -/
namespace GatewayRecipes.Settings
open Text (lower)

section
variable {t u s : Table Value} {v w : Value}

lemma Reordered.keys_perm {t u : Table Value} : Reordered t u → t.keys.Perm u.keys
  | .nil => .refl _
  | .cons _ rest => rest.keys_perm.cons _
  | .swap _ _ _ => .swap _ _ _
  | .trans h h' => h.keys_perm.trans h'.keys_perm

lemma Reordered.eq_nil (h : Reordered [] t) : t = [] :=
  List.map_eq_nil_iff.mp h.keys_perm.nil_eq.symm

lemma Reordered.distinct (h : Reordered t u) (ht : t.Distinct) : u.Distinct :=
  h.keys_perm.nodup_iff.mp ht

mutual

lemma Value.Reordered.symm {v w : Value} : v.Reordered w → w.Reordered v
  | .same v => .same v
  | .list h => .list h.symm
  | .table h => .table h.symm

lemma ItemsReordered.symm {items others : List Value} :
    ItemsReordered items others → ItemsReordered others items
  | .nil => .nil
  | .cons h rest => .cons h.symm rest.symm

lemma Reordered.symm {t u : Table Value} : Reordered t u → Reordered u t
  | .nil => .nil
  | .cons h rest => .cons h.symm rest.symm
  | .swap e e' t => .swap e' e t
  | .trans h h' => .trans h'.symm h.symm

end

lemma Reordered.of_perm (h : t.Perm u) : Reordered t u := by
  induction h with
  | nil => exact .nil
  | cons e _ ih => exact .cons (.same e.2) ih
  | swap e e' rest => exact .swap e' e rest
  | trans _ _ ih ih' => exact .trans ih ih'

lemma Reordered.append_right {t u : Table Value} (s : Table Value) :
    Reordered t u → Reordered (t ++ s) (u ++ s)
  | .nil => .refl s
  | .cons h rest => .cons h (rest.append_right s)
  | .swap e e' t => .swap e e' (t ++ s)
  | .trans h h' => .trans (h.append_right s) (h'.append_right s)

/-- Entries are picked by their keys, which stay what they are. -/
lemma Reordered.filter {t u : Table Value} (p : String → Bool) :
    Reordered t u → Reordered (t.filter fun e => p e.1) (u.filter fun e => p e.1)
  | .nil => .nil
  | @Reordered.cons key _ _ _ _ h rest => by
    cases hp : p key with
    | true => simpa [hp] using Reordered.cons h (rest.filter p)
    | false => simpa [hp] using rest.filter p
  | .swap e e' t => .of_perm ((List.Perm.swap e' e t).filter _)
  | .trans h h' => .trans (h.filter p) (h'.filter p)

/-- Whatever some entries of a table are arranged like, the whole table can be arranged around them. -/
lemma exists_arranged {p : String → Bool}
    (hp : Reordered (t.filter fun e => p e.1) (u.filter fun e => p e.1)) (h : Reordered t s) :
    ∃ s', Reordered u s' ∧ (s'.filter fun e => p e.1) = s.filter fun e => p e.1 := by
  have hsplit : Reordered u
      ((u.filter fun e => p e.1) ++ u.filter fun e => !p e.1) :=
    .of_perm (List.filter_append_perm _ u).symm
  have hpicked : Reordered (u.filter fun e => p e.1) (s.filter fun e => p e.1) :=
    hp.symm.trans (h.filter p)
  refine ⟨_, hsplit.trans (hpicked.append_right _), ?_⟩
  simp [List.filter_filter]

open Classical in
/-- Every arrangement of a table is that of some order. -/
lemma exists_entryOrder (h : Reordered t u) : ∃ order : EntryOrder, order.arrange t = u := by
  refine ⟨⟨fun s => if s = t then u else s, fun s => ?_⟩, if_pos rfl⟩
  by_cases hs : s = t
  · rwa [if_pos hs, hs]
  · rw [if_neg hs]
    exact .refl s

end

lemma distinct_overlay {t : Table Value} (ht : t.Distinct) (entries : List (String × Value)) :
    (overlay t entries).Distinct := by
  induction entries generalizing t with
  | nil => rwa [overlay_nil]
  | cons e rest ih =>
    obtain ⟨change, hchange⟩ := assignKey_eq_put e.1 e.2
    rw [overlay_cons, hchange]
    exact ih (ht.put _ _)

lemma distinct_overlay_nil (entries : List (String × Value)) : (overlay [] entries).Distinct := by
  have hnil : Table.Distinct ([] : Table Value) := List.nodup_nil
  exact distinct_overlay hnil entries

/-! Values that hold no other ones. -/

def Value.isScalar : Value → Bool
  | list _ | table _ => false
  | _ => true

lemma Value.Reordered.eq_of_isScalar {v w : Value} (h : v.Reordered w) (hv : v.isScalar) :
    v = w := by
  cases h with
  | same => rfl
  | list => cases hv
  | table => cases hv

lemma Reordered.perm_of_isScalar {t u : Table Value} :
    Reordered t u → (∀ e ∈ t, e.2.isScalar) → t.Perm u
  | .nil, _ => .refl _
  | .cons h rest, hscalar => by
    obtain ⟨hv, hrest⟩ := List.forall_mem_cons.mp hscalar
    rw [h.eq_of_isScalar hv]
    exact (rest.perm_of_isScalar hrest).cons _
  | .swap e e' t, _ => .swap e' e t
  | .trans h h', hscalar => by
    have hperm := h.perm_of_isScalar hscalar
    exact hperm.trans (h'.perm_of_isScalar fun e he => hscalar e (hperm.mem_iff.mpr he))

/-! Settings read from tables. -/

section
variable {α : Type}

lemma field?_cons (e : String × Value) (rest : Table Value) (key : String)
    (read : Value → Option α) (standard : α) :
    field? (e :: rest) key read standard =
      if e.1 = key then read e.2 else field? rest key read standard := by
  rw [field?, Table.get?]
  by_cases h : e.1 = key
  · rw [if_pos h, if_pos h]
  · rw [if_neg h, if_neg h, field?]

/-- A field that is read alike whatever the order is that of a table without repeated keys. -/
lemma Reordered.field?_eq {read : Value → Option α}
    (hread : ∀ {v w : Value}, v.Reordered w → read v = read w) (key : String) (standard : α)
    {t u : Table Value} :
    Reordered t u → t.Distinct → field? t key read standard = field? u key read standard
  | .nil, _ => rfl
  | .cons h rest, ht => by
    have ih := rest.field?_eq hread key standard (List.nodup_cons.mp ht).2
    rw [field?_cons, field?_cons, hread h, ih]
  | .swap e e' t, ht => by
    have hne : e.1 ≠ e'.1 := fun h => (List.nodup_cons.mp ht).1 (List.mem_cons.mpr (.inl h))
    rw [field?_cons, field?_cons, field?_cons, field?_cons]
    by_cases he : e.1 = key
    · have he' : e'.1 ≠ key := fun h => hne (he.trans h.symm)
      rw [if_pos he, if_neg he', if_pos he]
    · rw [if_neg he, if_neg he]
  | .trans h h', ht =>
    (h.field?_eq hread key standard ht).trans (h'.field?_eq hread key standard (h.distinct ht))

lemma readFormat?_table (t : Table Value) :
    readFormat? (.table t) =
      match t.keys with
      | [key] => Output.Format.ofName? (lower key)
      | _ => none := by
  match t with
  | [] | [(_, _)] | _ :: _ :: _ => rfl

lemma Value.Reordered.readFormat?_eq {v w : Value} (h : v.Reordered w) :
    readFormat? v = readFormat? w := by
  cases h with
  | same => rfl
  | list => rfl
  | table h =>
    rw [readFormat?_table, readFormat?_table]
    have hperm := h.keys_perm
    split
    · next key hkeys =>
      rw [hkeys] at hperm
      rw [← List.singleton_perm.mp hperm]
    · next hkeys =>
      split
      · next key hother =>
        rw [hother] at hperm
        exact absurd (List.perm_singleton.mp hperm) (hkeys key)
      · rfl

lemma Value.Reordered.text?_eq {v w : Value} (h : v.Reordered w) : v.text? = w.text? := by
  cases h with
  | same => rfl
  | list => rfl
  | table => rfl

/-- Whether a form of settings is read without regard to the order of tables. -/
def OrderBlind (decode : Table Value → Option α) : Prop :=
  ∀ t u, t.Distinct → Reordered t u → decode t = decode u

lemma orderBlind_ofTable? : OrderBlind ofTable? := by
  intro t u ht h
  rw [ofTable?, ofTable?, h.field?_eq (·.readFormat?_eq) _ _ ht, h.field?_eq (·.text?_eq) _ _ ht]

end

/-! Keys that do not meet. -/

mutual

/-- Whether no two keys of a table, at any depth, are the same in lower case. Tables in lists are not
merged. -/
def Value.Apart : Value → Prop
  | .table t => (t.map fun e => lower e.1).Nodup ∧ EntriesApart t
  | _ => True

def EntriesApart : List (String × Value) → Prop
  | [] => True
  | (_, v) :: rest => v.Apart ∧ EntriesApart rest

end

/-- Whether no two keys of a file meet: they are, or begin with, different names in lower case, and
so it is in the tables below. -/
structure KeysApart (t : Table Value) : Prop where
  roots : (t.map fun e => keyRoot e.1).Nodup
  below : EntriesApart t

mutual

lemma Value.Reordered.apart {v w : Value} : v.Reordered w → v.Apart → w.Apart
  | .same _, hv => hv
  | .list _, _ => by simp [Value.Apart]
  | .table h, hv => by
    rw [Value.Apart] at hv ⊢
    have hkeys := h.keys_perm.map lower
    simp only [Table.keys, List.map_map] at hkeys
    exact ⟨hkeys.nodup_iff.mp hv.1, h.apart hv.2⟩

lemma Reordered.apart {t u : Table Value} : Reordered t u → EntriesApart t → EntriesApart u
  | .nil, ht => ht
  | .cons h rest, ht => by
    rw [EntriesApart] at ht ⊢
    exact ⟨h.apart ht.1, rest.apart ht.2⟩
  | .swap _ _ _, ht => by
    simp only [EntriesApart] at ht ⊢
    exact ⟨ht.2.1, ht.1, ht.2.2⟩
  | .trans h h', ht => h'.apart (h.apart ht)

end

/-! Apart entries are bound beside each other, each as a value of its own. -/

/-- What a value becomes that is bound where nothing stands. -/
def Value.merged : Value → Value
  | .table t => mergeInto (.table []) t
  | v => v

/-- What a value becomes that is bound at a key where nothing stands. -/
def Value.boundAt (key : String) (v : Value) : Value :=
  match (keyPath key).tail with
  | [] => v.merged
  | steps => assignBelow v steps .null

lemma assign_of_new {t : Table Value} {name : String} (h : lower name ∉ t.keys) (v : Value) :
    assign t name v = t ++ [(lower name, v.merged)] := by
  rw [← Table.put_of_not_mem h]
  cases v with
  | table incoming => rw [assign, Table.get?_eq_none_of_not_mem h, Option.getD_none, Value.merged]
  | _ => exact assign_of_no_table (by rintro _ ⟨⟩) t name

lemma mergeInto_of_fresh {t incoming : Table Value}
    (h : t.Fresh (incoming.map fun e => (lower e.1, e.2.merged))) :
    mergeInto (.table t) incoming =
      .table (t ++ incoming.map fun e => (lower e.1, e.2.merged)) := by
  induction incoming generalizing t with
  | nil => simp [mergeInto]
  | cons e rest ih =>
    rw [List.map_cons, Table.fresh_cons_iff] at h
    rw [mergeInto, Value.entries, assign_of_new h.1, ih h.2, List.map_cons, List.append_assoc,
      List.singleton_append]

lemma merged_table {t : Table Value} (h : (t.map fun e => lower e.1).Nodup) :
    Value.merged (.table t) = .table (t.map fun e => (lower e.1, e.2.merged)) := by
  have hfresh : Table.Fresh [] (t.map fun e => (lower e.1, e.2.merged)) := by
    refine ⟨?_, fun _ _ => List.not_mem_nil⟩
    rwa [Table.keys, List.map_map]
  rw [Value.merged, mergeInto_of_fresh hfresh, List.nil_append]

lemma assignKey_of_new {t : Table Value} {key : String} (h : keyRoot key ∉ t.keys) (v : Value) :
    assignKey t key v = t ++ [(keyRoot key, v.boundAt key)] := by
  obtain ⟨steps, hpath⟩ := exists_keyPath key
  have hnone := Table.get?_eq_none_of_not_mem h
  cases steps with
  | nil =>
    have hlower := lower_keyRoot key
    rw [assignKey_of_name hpath, assign_of_new (by rwa [hlower]), hlower, Value.boundAt, hpath,
      List.tail_cons]
  | cons step rest =>
    rw [assignKey, hpath, assignBelow, Value.entries, Value.entries, hnone, Option.getD_none,
      Table.put_of_not_mem h, Value.boundAt, hpath, List.tail_cons]
    rintro ⟨⟩

lemma overlay_of_fresh {t entries : Table Value}
    (h : t.Fresh (entries.map fun e => (keyRoot e.1, e.2.boundAt e.1))) :
    overlay t entries = t ++ entries.map fun e => (keyRoot e.1, e.2.boundAt e.1) := by
  induction entries generalizing t with
  | nil => simp [overlay]
  | cons e rest ih =>
    rw [List.map_cons, Table.fresh_cons_iff] at h
    rw [overlay_cons, assignKey_of_new h.1, ih h.2, List.map_cons, List.append_assoc,
      List.singleton_append]

lemma KeysApart.overlay_eq_map {t : Table Value} (h : KeysApart t) :
    overlay [] t = t.map fun e => (keyRoot e.1, e.2.boundAt e.1) := by
  have hfresh : Table.Fresh [] (t.map fun e => (keyRoot e.1, e.2.boundAt e.1)) := by
    refine ⟨?_, fun _ _ => List.not_mem_nil⟩
    rw [Table.keys, List.map_map]
    exact h.roots
  rw [overlay_of_fresh hfresh, List.nil_append]

mutual

lemma Value.Reordered.merged {v w : Value} : v.Reordered w → v.Apart → v.merged.Reordered w.merged
  | .same v, _ => .same v.merged
  | .list h, _ => .list h
  | .table h, hv => by
    have hw := (Value.Reordered.table h).apart hv
    rw [Value.Apart] at hv hw
    rw [merged_table hv.1, merged_table hw.1]
    exact .table (h.map_entries lower (fun _ v => v.merged) (fun _ _ _ _ h => h) hv.2)

/-- The entries of a table, changed one by one, in a way for which values and what they become if
bound are the same up to order. -/
lemma Reordered.map_entries (name : String → String) (change : String → Value → Value)
    (hchange : ∀ key v w, v.Reordered w → v.merged.Reordered w.merged →
      (change key v).Reordered (change key w)) {t u : Table Value} :
    Reordered t u → EntriesApart t →
      Reordered (t.map fun e => (name e.1, change e.1 e.2))
        (u.map fun e => (name e.1, change e.1 e.2))
  | .nil, _ => .nil
  | @Reordered.cons key _ _ _ _ h rest, ht => by
    rw [EntriesApart] at ht
    have hhead := hchange key _ _ h (h.merged ht.1)
    exact .cons hhead (rest.map_entries name change hchange ht.2)
  | .swap _ _ _, _ => .swap _ _ _
  | .trans h h', ht =>
    .trans (h.map_entries name change hchange ht) (h'.map_entries name change hchange (h.apart ht))

end

lemma Value.Reordered.replicate_set {v w : Value} (h : v.Reordered w) (n place : Nat) :
    ItemsReordered ((List.replicate n .null).set place v)
      ((List.replicate n .null).set place w) := by
  induction n generalizing place with
  | zero => exact .nil
  | succ n ih =>
    cases place with
    | zero =>
      have hrest : ∀ n, ItemsReordered (List.replicate n .null) (List.replicate n .null) := by
        intro n
        induction n with
        | zero => exact .nil
        | succ n ih => exact .cons (.same _) ih
      exact .cons h (hrest n)
    | succ place => exact .cons (.same _) (ih place)

/-! What is bound below a place where nothing stands. -/

lemma assignBelow_name (v : Value) (name : String) :
    assignBelow v [.name name] .null = .table [(lower name, v.merged)] := by
  rw [assignBelow, Value.entries, assign_of_new List.not_mem_nil, List.nil_append]
  rintro _ ⟨⟩

lemma assignBelow_names (v : Value) (name : String) (step : Step) (rest : List Step) :
    assignBelow v (.name name :: step :: rest) .null =
      .table [(name, assignBelow v (step :: rest) .null)] := by
  rw [assignBelow]
  · rfl
  · rintro ⟨⟩

lemma assignBelow_index (v : Value) (n : Int) (rest : List Step) :
    assignBelow v (.index n :: rest) .null =
      .list ((List.replicate (placeOf n 0 + 1) .null).set (placeOf n 0)
        (assignBelow v rest .null)) := by
  simp [assignBelow, Value.items, changeItem]

lemma Value.Reordered.assignBelow {v w : Value} (h : v.Reordered w)
    (hm : v.merged.Reordered w.merged) (steps : List Step) :
    (assignBelow v steps .null).Reordered (assignBelow w steps .null) := by
  match steps with
  | [] => exact h
  | [.name name] =>
    rw [assignBelow_name, assignBelow_name]
    exact .table (.cons hm .nil)
  | .name name :: step :: rest =>
    rw [assignBelow_names, assignBelow_names]
    exact .table (.cons (h.assignBelow hm (step :: rest)) .nil)
  | .index n :: rest =>
    rw [assignBelow_index, assignBelow_index]
    exact .list ((h.assignBelow hm rest).replicate_set _ _)

lemma Value.Reordered.boundAt {v w : Value} (h : v.Reordered w) (hm : v.merged.Reordered w.merged)
    (key : String) : (v.boundAt key).Reordered (w.boundAt key) := by
  rw [Value.boundAt, Value.boundAt]
  cases (keyPath key).tail with
  | nil => exact hm
  | cons step rest => exact h.assignBelow hm (step :: rest)

lemma KeysApart.of_reordered {t u : Table Value} (ht : KeysApart t) (h : Reordered t u) :
    KeysApart u := by
  have hroots := h.keys_perm.map keyRoot
  simp only [Table.keys, List.map_map] at hroots
  exact ⟨hroots.nodup_iff.mp ht.roots, h.apart ht.below⟩

/-- The entries of a file whose keys do not meet make the same settings in every order. -/
theorem KeysApart.reordered_overlay {t u : Table Value} (ht : KeysApart t) (h : Reordered t u) :
    Reordered (overlay [] t) (overlay [] u) := by
  rw [ht.overlay_eq_map, (ht.of_reordered h).overlay_eq_map]
  exact h.map_entries keyRoot (fun key v => v.boundAt key) (fun key _ _ h hm => h.boundAt hm key)
    ht.below

-- Where keys meet, the last one counts.
example : ofTable? (overlay [] [("OUTPUT", .text "json"), ("output", .text "yaml")]) =
    some ⟨.yaml, "warn"⟩ := by decide +kernel

example : ofTable? (overlay [] [("output", .text "yaml"), ("OUTPUT", .text "json")]) =
    some ⟨.json, "warn"⟩ := by decide +kernel

end GatewayRecipes.Settings
