import GatewayRecipes.Settings.Value

/-! The order in which tables are gone through. Tables of settings keep none: their entries come in an
order of their own each time, whatever the text was that they were read from. -/
namespace GatewayRecipes.Settings

mutual

/-- Whether a value is another one with the entries of its tables in some order. -/
inductive Value.Reordered : Value → Value → Prop
  | same (v : Value) : Value.Reordered v v
  | list {items others : List Value} (h : ItemsReordered items others) :
      Value.Reordered (.list items) (.list others)
  | table {t u : Table Value} (h : Reordered t u) : Value.Reordered (.table t) (.table u)

inductive ItemsReordered : List Value → List Value → Prop
  | nil : ItemsReordered [] []
  | cons {v w : Value} {items others : List Value} (h : v.Reordered w)
      (rest : ItemsReordered items others) : ItemsReordered (v :: items) (w :: others)

/-- Whether a table is another one with its entries, and those of the tables below, in some order. -/
inductive Reordered : Table Value → Table Value → Prop
  | nil : Reordered [] []
  | cons {key : String} {v w : Value} {t u : Table Value} (h : v.Reordered w)
      (rest : Reordered t u) : Reordered ((key, v) :: t) ((key, w) :: u)
  | swap (e e' : String × Value) (t : Table Value) : Reordered (e :: e' :: t) (e' :: e :: t)
  | trans {t u s : Table Value} (h : Reordered t u) (h' : Reordered u s) : Reordered t s

end

theorem Reordered.refl (t : Table Value) : Reordered t t := by
  induction t with
  | nil => exact .nil
  | cons e rest ih => exact .cons (.same e.2) ih

/-- A way of going through tables. -/
structure EntryOrder where
  arrange : Table Value → Table Value
  reordered : ∀ t, Reordered t (arrange t)

def EntryOrder.asWritten : EntryOrder := ⟨id, Reordered.refl⟩

/-- The orders in which a load of settings goes through its tables: the entries of the file, the
variables, and the settings that come of them. -/
structure LoadOrder where
  file : EntryOrder
  environment : EntryOrder
  settings : EntryOrder

def LoadOrder.asWritten : LoadOrder := ⟨.asWritten, .asWritten, .asWritten⟩

end GatewayRecipes.Settings
