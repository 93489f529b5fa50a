import GatewayRecipes.Table
import Mathlib.Data.List.Induction

/-! Tables made of lists of bindings. Every key stands where it first came and has the value that
came last; bindings of fresh keys go to the end. -/
namespace GatewayRecipes.Table
variable {α β : Type}

def lastValue? (entries : List (String × α)) (key : String) : Option α :=
  ((entries.filter (·.1 == key)).getLast?).map (·.2)

/-- The keys of a list of bindings in the order in which they first come, each with the value that
it is given last. -/
def lastWins (entries : List (String × α)) : Table α :=
  (entries.map (·.1)).eraseDups.filterMap fun key => (lastValue? entries key).map (key, ·)

@[simp] lemma lastValue?_nil (key : String) : lastValue? ([] : List (String × α)) key = none := rfl

@[simp] lemma lastValue?_singleton (e : String × α) (key : String) :
    lastValue? [e] key = if e.1 = key then some e.2 else none := by
  by_cases h : e.1 = key
  · simp [lastValue?, h]
  · simp [lastValue?, h]

lemma lastValue?_append (a b : List (String × α)) (key : String) :
    lastValue? (a ++ b) key = (lastValue? b key).or (lastValue? a key) := by
  rw [lastValue?, List.filter_append, List.getLast?_append]
  cases h : (b.filter (·.1 == key)).getLast? with
  | none => simp [lastValue?, -List.getLast?_filter, h]
  | some e => simp [lastValue?, -List.getLast?_filter, h]

lemma lastValue?_cons (e : String × α) (rest : List (String × α)) (key : String) :
    lastValue? (e :: rest) key =
      (lastValue? rest key).or (if e.1 = key then some e.2 else none) := by
  have h := lastValue?_append [e] rest key
  rwa [lastValue?_singleton] at h

lemma lastValue?_isSome {entries : List (String × α)} {key : String}
    (h : key ∈ entries.map (·.1)) : (lastValue? entries key).isSome := by
  obtain ⟨e, he, rfl⟩ := List.mem_map.mp h
  have hf : e ∈ entries.filter (·.1 == e.1) := by simp [he]
  have hn := List.ne_nil_of_mem hf
  simpa [lastValue?, -List.getLast?_filter, List.getLast?_isSome] using hn

lemma mem_of_lastValue? {entries : List (String × α)} {key : String} {v : α}
    (h : lastValue? entries key = some v) : (key, v) ∈ entries := by
  obtain ⟨e, he, rfl⟩ := Option.map_eq_some_iff.mp h
  obtain ⟨hm, hk⟩ := List.mem_filter.mp (List.mem_of_getLast? he)
  obtain rfl : e.1 = key := by simpa using hk
  exact hm

/-- A key is bound to the value behind which it does not come again. -/
lemma lastValue?_eq_some_iff {entries : List (String × α)} {key : String} {v : α} :
    lastValue? entries key = some v ↔
      ∃ before after, entries = before ++ (key, v) :: after ∧ key ∉ after.map (·.1) := by
  constructor
  · intro h
    induction entries using List.reverseRecOn with
    | nil => cases h
    | append_singleton rest e ih =>
      obtain ⟨k, w⟩ := e
      rw [lastValue?_append, lastValue?_singleton] at h
      by_cases hk : k = key
      · rw [if_pos hk, Option.some_or] at h
        obtain rfl := Option.some.inj h
        exact ⟨rest, [], by rw [hk], List.not_mem_nil⟩
      · rw [if_neg hk, Option.none_or] at h
        obtain ⟨before, after, rfl, hafter⟩ := ih h
        refine ⟨before, after ++ [(k, w)], by simp, ?_⟩
        rw [List.map_append, List.mem_append, not_or]
        exact ⟨hafter, fun hm => hk (List.mem_singleton.mp hm).symm⟩
  · rintro ⟨before, after, rfl, hafter⟩
    have hnone : lastValue? after key = none := by
      rw [← Option.not_isSome_iff_eq_none]
      intro hsome
      obtain ⟨w, hw⟩ := Option.isSome_iff_exists.mp hsome
      exact hafter (List.mem_map.mpr ⟨_, mem_of_lastValue? hw, rfl⟩)
    rw [lastValue?_append, lastValue?_cons, hnone, if_pos rfl]
    rfl

@[simp] lemma putAll_nil (t : Table α) : t.putAll [] = t := rfl

@[simp] lemma putAll_cons (t : Table α) (e : String × α) (entries : List (String × α)) :
    t.putAll (e :: entries) = (t.put e.1 e.2).putAll entries := rfl

lemma putAll_append (t : Table α) (a b : List (String × α)) :
    t.putAll (a ++ b) = (t.putAll a).putAll b := by
  simp [putAll, List.foldl_append]

lemma get?_putAll (t : Table α) (entries : List (String × α)) (key : String) :
    (t.putAll entries).get? key = (lastValue? entries key).or (t.get? key) := by
  induction entries using List.reverseRecOn with
  | nil => simp [lastValue?]
  | append_singleton rest e ih =>
    rw [putAll_append, lastValue?_append, lastValue?_singleton, putAll_cons, putAll_nil, get?_put,
      ih]
    split <;> simp

lemma get?_eq_none_of_not_mem {t : Table α} {key : String} (h : key ∉ t.keys) :
    t.get? key = none := by
  rwa [mem_keys_iff, has, Option.not_isSome_iff_eq_none] at h

lemma keys_ofList (entries : List (String × α)) :
    (ofList entries).keys = (entries.map (·.1)).eraseDups := by
  induction entries using List.reverseRecOn with
  | nil => rfl
  | append_singleton rest e ih =>
    have h : (ofList (rest ++ [e])).keys = ((ofList rest).put e.1 e.2).keys := by
      rw [ofList, putAll_append]; rfl
    rw [h, keys_put, ih, List.map_append, List.eraseDups_append]
    by_cases hm : e.1 ∈ rest.map (·.1)
    · simp [List.removeAll, hm]
    · simp [List.removeAll, hm, List.eraseDups_cons]

lemma get?_filter (t : Table α) (p : String → Bool) (key : String) :
    get? (t.filter fun e => p e.1) key = if p key then t.get? key else none := by
  induction t with
  | nil => simp
  | cons e rest ih =>
    obtain ⟨k, v⟩ := e
    by_cases hk : k = key
    · subst hk
      cases hp : p k with
      | true => simp [get?, hp]
      | false => simpa [hp] using ih
    · cases hp : p k with
      | true => simpa [get?, hp, hk] using ih
      | false => simpa [get?, hp, hk] using ih

/-- A table without repeated keys is known by its keys and its look-ups. -/
theorem Distinct.ext_get? {t u : Table α} (ht : t.Distinct) (hk : t.keys = u.keys)
    (hg : ∀ key ∈ t.keys, t.get? key = u.get? key) : t = u := by
  induction t generalizing u with
  | nil =>
    cases u with
    | nil => rfl
    | cons e rest => simp [keys] at hk
  | cons e rest ih =>
    cases u with
    | nil => simp [keys] at hk
    | cons e' rest' =>
      obtain ⟨k, v⟩ := e
      obtain ⟨k', v'⟩ := e'
      simp only [keys, List.map_cons, List.cons.injEq] at hk
      obtain ⟨rfl, hk⟩ := hk
      have hv : v = v' := by simpa [get?] using hg k (by simp [keys])
      have hd := List.nodup_cons.mp ht
      have hr : rest = rest' := by
        refine ih hd.2 hk ?_
        intro key hkey
        have hne : k ≠ key := fun h => hd.1 (h ▸ hkey)
        have hcons := hg key (List.mem_cons_of_mem _ hkey)
        simpa only [get?, hne, if_false] using hcons
      rw [hv, hr]

lemma keys_filterMap (g : String → Option α) (ks : List String) (h : ∀ key ∈ ks, (g key).isSome) :
    keys (ks.filterMap fun key => (g key).map (key, ·)) = ks := by
  induction ks with
  | nil => rfl
  | cons key rest ih =>
    obtain ⟨v, hv⟩ := Option.isSome_iff_exists.mp (h key (by simp))
    have hr := ih fun k hk => h k (List.mem_cons_of_mem _ hk)
    simpa [keys, hv] using hr

lemma get?_filterMap (g : String → Option α) (ks : List String) (h : ∀ key ∈ ks, (g key).isSome)
    {key : String} (hm : key ∈ ks) :
    get? (ks.filterMap fun k => (g k).map (k, ·)) key = g key := by
  induction ks with
  | nil => simp at hm
  | cons k rest ih =>
    obtain ⟨v, hv⟩ := Option.isSome_iff_exists.mp (h k (by simp))
    by_cases hk : k = key
    · subst hk
      simp [get?, hv]
    · have hr : key ∈ rest := by simpa [Ne.symm hk] using hm
      have ih' := ih (fun k hk => h k (List.mem_cons_of_mem _ hk)) hr
      simpa [get?, hv, hk] using ih'

/-- Binding one after the other gives each key its first place and its last value. -/
theorem ofList_eq_lastWins (entries : List (String × α)) : ofList entries = lastWins entries := by
  have hsome : ∀ key ∈ (entries.map (·.1)).eraseDups, (lastValue? entries key).isSome := by
    intro key hkey
    exact lastValue?_isSome (List.mem_eraseDups.mp hkey)
  refine (distinct_ofList entries).ext_get? ?_ ?_
  · rw [keys_ofList, lastWins, keys_filterMap _ _ hsome]
  · intro key hkey
    rw [keys_ofList] at hkey
    rw [lastWins, get?_filterMap _ _ hsome hkey, ofList, get?_putAll]
    simp

lemma get?_lastWins (entries : List (String × α)) (key : String) :
    get? (lastWins entries) key = lastValue? entries key := by
  rw [← ofList_eq_lastWins, ofList, get?_putAll]
  simp

lemma mem_of_mem_lastWins {entries : List (String × α)} {e : String × α}
    (h : e ∈ lastWins entries) : e ∈ entries := by
  obtain ⟨key, -, he⟩ := List.mem_filterMap.mp h
  obtain ⟨v, hv, rfl⟩ := Option.map_eq_some_iff.mp he
  exact mem_of_lastValue? hv

lemma lastWins_ne_nil {entries : List (String × α)} (h : entries ≠ []) : lastWins entries ≠ [] := by
  obtain ⟨e, he⟩ := List.exists_mem_of_ne_nil entries h
  have hk : e.1 ∈ (ofList entries).keys := by
    rw [keys_ofList, List.mem_eraseDups]
    exact List.mem_map.mpr ⟨e, he, rfl⟩
  intro hn
  rw [ofList_eq_lastWins, hn] at hk
  exact List.not_mem_nil hk

example : lastWins [("b", 1), ("a", 2), ("b", 3)] = [("b", 3), ("a", 2)] := by decide

/-! Bindings of fresh keys. -/

/-- Bindings that repeat no key, neither among themselves nor of a table. -/
structure Fresh (t : Table α) (entries : List (String × α)) : Prop where
  nodup : (keys entries).Nodup
  unbound : ∀ key ∈ keys entries, key ∉ t.keys

lemma keys_append (t u : Table α) : keys (t ++ u) = t.keys ++ u.keys := List.map_append

lemma fresh_nil (t : Table α) : t.Fresh [] := ⟨List.nodup_nil, by simp [keys]⟩

lemma mem_keys_append (t u : Table α) (key : String) :
    key ∈ keys (t ++ u) ↔ key ∈ t.keys ∨ key ∈ u.keys := by
  rw [keys_append, List.mem_append]

lemma Fresh.append {t : Table α} {a b : List (String × α)} (ha : t.Fresh a)
    (hb : Fresh (t ++ a) b) : t.Fresh (a ++ b) := by
  constructor
  · rw [keys_append, List.nodup_append]
    refine ⟨ha.nodup, hb.nodup, ?_⟩
    rintro key hkey _ hmem rfl
    exact hb.unbound key hmem ((mem_keys_append t a key).mpr (.inr hkey))
  · intro key hkey ht
    rcases (mem_keys_append a b key).mp hkey with h | h
    · exact ha.unbound key h ht
    · exact hb.unbound key h ((mem_keys_append t a key).mpr (.inl ht))

lemma fresh_singleton {t : Table α} {e : String × α} (h : e.1 ∉ t.keys) : t.Fresh [e] :=
  ⟨by simp [keys], by simpa [keys] using h⟩

/-- The first of several fresh keys is no obstacle to the others. -/
lemma fresh_cons_iff {t : Table α} {e : String × α} {rest : List (String × α)} :
    t.Fresh (e :: rest) ↔ e.1 ∉ t.keys ∧ Fresh (t ++ [e]) rest := by
  constructor
  · rintro ⟨hnodup, hunbound⟩
    obtain ⟨hn, hr⟩ := List.nodup_cons.mp hnodup
    refine ⟨hunbound e.1 (List.mem_cons_self ..), hr, fun key hkey hmem => ?_⟩
    rcases (mem_keys_append t [e] key).mp hmem with hmem | hmem
    · exact hunbound key (List.mem_cons_of_mem _ hkey) hmem
    · obtain rfl : key = e.1 := by simpa [keys] using hmem
      exact hn hkey
  · rintro ⟨he, hrest⟩
    exact (fresh_singleton he).append hrest

theorem Fresh.putAll_eq_append {t : Table α} {entries : List (String × α)} (h : t.Fresh entries) :
    t.putAll entries = t ++ entries := by
  induction entries generalizing t with
  | nil => simp
  | cons e rest ih =>
    obtain ⟨he, hrest⟩ := fresh_cons_iff.mp h
    rw [putAll_cons, put_of_not_mem he, ih hrest, List.append_assoc, List.singleton_append]

lemma Distinct.lastValue?_eq_get? {t : Table α} (h : t.Distinct) (key : String) :
    lastValue? t key = t.get? key := by
  have hfresh : Fresh [] t := ⟨h, fun _ _ => List.not_mem_nil⟩
  have hget := get?_putAll [] t key
  rwa [hfresh.putAll_eq_append, List.nil_append, get?_nil, Option.or_none, eq_comm] at hget

/-- Whether keys are fresh does not depend on their order. -/
lemma Fresh.perm {t : Table α} {a b : List (String × α)} (h : t.Fresh a) (hp : a.Perm b) :
    t.Fresh b := by
  have hk : (keys a).Perm (keys b) := hp.map _
  exact ⟨hk.nodup_iff.mp h.nodup, fun key hkey => h.unbound key (hk.mem_iff.mpr hkey)⟩

lemma get?_append (t u : Table α) (key : String) :
    get? (t ++ u) key = (t.get? key).or (u.get? key) := by
  induction t with
  | nil => simp
  | cons e rest ih =>
    obtain ⟨k, v⟩ := e
    by_cases h : k = key
    · simp [get?, h]
    · simpa [get?, h] using ih

end GatewayRecipes.Table
