/-! Tables in insertion order: a repeated key keeps its first position and takes the last value. -/
namespace GatewayRecipes

/-- Entries in the order in which their keys first came. -/
abbrev Table (α : Type) := List (String × α)

namespace Table
variable {α : Type}

def keys (t : Table α) : List String := t.map (·.1)

/-- Bind a key: in place where it is bound already, at the end otherwise. -/
def put : Table α → String → α → Table α
  | [], key, value => [(key, value)]
  | (k, v) :: rest, key, value =>
    if k = key then (k, value) :: rest else (k, v) :: put rest key value

def get? : Table α → String → Option α
  | [], _ => none
  | (k, v) :: rest, key => if k = key then some v else get? rest key

def has (t : Table α) (key : String) : Bool := (t.get? key).isSome

/-- Bind the entries of a list one after the other. -/
def putAll (t : Table α) (entries : List (String × α)) : Table α :=
  entries.foldl (fun t e => t.put e.1 e.2) t

def ofList (entries : List (String × α)) : Table α := putAll [] entries

/-- Whether each key is bound once. -/
def Distinct (t : Table α) : Prop := t.keys.Nodup

@[simp] theorem get?_nil (key : String) : get? ([] : Table α) key = none := rfl

@[simp] theorem get?_put (t : Table α) (key key' : String) (value : α) :
    (t.put key value).get? key' = if key = key' then some value else t.get? key' := by
  induction t with
  | nil => simp [put, get?]
  | cons e rest ih =>
    obtain ⟨k, v⟩ := e
    by_cases h : k = key
    · subst h; by_cases hk : k = key' <;> simp [put, get?, hk]
    · by_cases hk : k = key'
      · subst hk; simp [put, get?, h, Ne.symm h]
      · simp [put, get?, h, hk, ih]

theorem keys_put (t : Table α) (key : String) (value : α) :
    (t.put key value).keys = if key ∈ t.keys then t.keys else t.keys ++ [key] := by
  induction t with
  | nil => simp [put, keys]
  | cons e rest ih =>
    obtain ⟨k, v⟩ := e
    by_cases h : k = key
    · subst h; simp [put, keys]
    · have hk : ¬ key = k := fun e => h e.symm
      simp only [keys, put, h, if_false, List.map_cons, List.mem_cons, hk, false_or] at ih ⊢
      rw [ih]; split <;> simp_all

theorem mem_keys_iff (t : Table α) (key : String) : key ∈ t.keys ↔ t.has key = true := by
  induction t with
  | nil => simp [keys, has]
  | cons e rest ih =>
    obtain ⟨k, v⟩ := e
    by_cases h : k = key
    · simp [keys, has, get?, h]
    · have hk : ¬ key = k := fun e => h e.symm
      simpa [keys, has, get?, h, hk] using ih

theorem put_of_not_mem {t : Table α} {key : String} (h : key ∉ t.keys) (value : α) :
    t.put key value = t ++ [(key, value)] := by
  induction t with
  | nil => rfl
  | cons e rest ih =>
    obtain ⟨k, v⟩ := e
    simp only [keys, List.map_cons, List.mem_cons, not_or] at h
    simp [put, Ne.symm h.1, ih (by simpa [keys] using h.2)]

theorem Distinct.put {t : Table α} (h : t.Distinct) (key : String) (value : α) :
    (t.put key value).Distinct := by
  unfold Distinct at h ⊢
  rw [keys_put]
  split
  · exact h
  · next hk =>
    rw [List.nodup_append]
    exact ⟨h, by simp, fun a ha b hb e => hk (by simp_all)⟩

theorem Distinct.putAll {t : Table α} (h : t.Distinct) (entries : List (String × α)) :
    (t.putAll entries).Distinct := by
  induction entries generalizing t with
  | nil => exact h
  | cons e rest ih => exact ih (h.put e.1 e.2)

theorem distinct_ofList (entries : List (String × α)) : (ofList entries).Distinct :=
  Distinct.putAll (by simp [Distinct, keys]) entries

end Table
end GatewayRecipes
