import GatewayRecipes.Markup.Tag
import GatewayRecipes.Table
import Mathlib.Data.List.Forall2
import Mathlib.Data.List.Nodup
import Mathlib.Tactic.Lemma

/-! The attributes of a tag. A tag is read when its attributes are well written, with different
keys and with values that can be decoded. -/
namespace GatewayRecipes.Markup

def writtenAttributes (r : Remainder) : Except AttributeFault (List (List Char × List Char)) :=
  match _hk : readKey r with
  | .error fault => .error fault
  | .ok none => .ok []
  | .ok (some k) =>
    match _hv : readValue k.rest with
    | .error fault => .error fault
    | .ok (raw, rest) => (writtenAttributes rest).map ((k.key, raw) :: ·)
termination_by r.chars.length
decreasing_by exact Nat.lt_trans (readValue_length _hv) (readKey_length _hk)

/-- Whether a written key and value stand for an attribute. -/
structure Decodes (written : List Char × List Char) (a : String × String) : Prop where
  key : String.ofList written.1 = a.1
  value : unescape written.2 = .ok a.2.toList

/-- Whether a tag is well written behind its name, with different keys and with values that can be
decoded, and stands for some attributes in their order. -/
def ReadsAttributes (inside : List Char) (attributes : List (String × String)) : Prop :=
  ∃ written, writtenAttributes (Remainder.skip ⟨0, inside⟩ (!isSpace ·)) = .ok written ∧
    (written.map (·.1)).Nodup ∧ List.Forall₂ Decodes written attributes

lemma lookup_eq_none_iff (seen : List (List Char × Nat)) (key : List Char) :
    seen.lookup key = none ↔ key ∉ seen.map (·.1) := by
  rw [List.lookup_eq_none_iff, List.mem_map]
  refine ⟨fun h ⟨p, hp, he⟩ => by simpa [he] using h p hp, fun h p hp => ?_⟩
  rw [bne_iff_ne]
  rintro rfl
  exact h ⟨p, hp, rfl⟩

lemma writtenAttributes_of_error {r : Remainder} {fault : AttributeFault}
    (h : readKey r = .error fault) : writtenAttributes r = .error fault := by
  rw [writtenAttributes]
  split <;> simp_all

lemma writtenAttributes_of_none {r : Remainder} (h : readKey r = .ok none) :
    writtenAttributes r = .ok [] := by
  rw [writtenAttributes]
  split <;> simp_all

lemma writtenAttributes_eq_ok_iff {r : Remainder} {k : KeyRead} (h : readKey r = .ok (some k))
    (written : List (List Char × List Char)) :
    writtenAttributes r = .ok written ↔
      ∃ raw rest tail, readValue k.rest = .ok (raw, rest) ∧ writtenAttributes rest = .ok tail ∧
        (k.key, raw) :: tail = written := by
  rw [writtenAttributes]
  split
  · simp_all
  · simp_all
  · next k' hk =>
    obtain rfl : k' = k := by simpa [h] using hk.symm
    cases hv : readValue k'.rest with
    | error fault => simp
    | ok v =>
      obtain ⟨raw, rest⟩ := v
      cases ht : writtenAttributes rest <;> simp [ht, Except.map]

/-- Whether attributes stand behind a place, with keys that differ from each other and from those
before it. -/
def ReadsBehind (seen : List (List Char × Nat)) (r : Remainder)
    (attributes : List (String × String)) : Prop :=
  ∃ written, writtenAttributes r = .ok written ∧ (written.map (·.1)).Nodup ∧
    (∀ w ∈ written, w.1 ∉ seen.map (·.1)) ∧ List.Forall₂ Decodes written attributes

lemma decodes_iff {key raw value : List Char} (h : unescape raw = .ok value)
    (a : String × String) :
    Decodes (key, raw) a ↔ (String.ofList key, String.ofList value) = a := by
  constructor
  · rintro ⟨hkey, hv⟩
    obtain rfl : value = a.2.toList := by simpa [h] using hv
    exact Prod.ext hkey String.ofList_toList
  · rintro rfl
    exact ⟨rfl, by rw [h, String.toList_ofList]⟩

lemma readsBehind_iff {seen : List (List Char × Nat)} {r rest : Remainder} {k : KeyRead}
    {raw value : List Char} (hk : readKey r = .ok (some k)) (hs : seen.lookup k.key = none)
    (hv : readValue k.rest = .ok (raw, rest)) (hu : unescape raw = .ok value)
    (attributes : List (String × String)) :
    ReadsBehind seen r attributes ↔
      ∃ tail, ReadsBehind ((k.key, k.offset) :: seen) rest tail ∧
        (String.ofList k.key, String.ofList value) :: tail = attributes := by
  rw [lookup_eq_none_iff] at hs
  constructor
  · rintro ⟨written, hw, hn, hseen, hd⟩
    obtain ⟨raw', rest', tail, hv', ht, rfl⟩ := (writtenAttributes_eq_ok_iff hk _).mp hw
    cases hv.symm.trans hv'
    cases hd with
    | cons hd hrest =>
      obtain rfl := (decodes_iff hu _).mp hd
      obtain ⟨hn, htail⟩ := List.nodup_cons.mp hn
      refine ⟨_, ⟨tail, ht, htail, ?_, hrest⟩, rfl⟩
      intro w hw hmem
      rcases List.mem_cons.mp hmem with he | hmem
      · exact hn (List.mem_map.mpr ⟨w, hw, he⟩)
      · exact hseen w (List.mem_cons_of_mem _ hw) hmem
  · rintro ⟨attrs, ⟨tail, ht, hn, hseen, hd⟩, rfl⟩
    refine ⟨(k.key, raw) :: tail,
      (writtenAttributes_eq_ok_iff hk _).mpr ⟨raw, rest, tail, hv, ht, rfl⟩, ?_, ?_,
      .cons ((decodes_iff hu _).mpr rfl) hd⟩
    · refine List.nodup_cons.mpr ⟨?_, hn⟩
      intro hmem
      obtain ⟨w, hw, he⟩ := List.mem_map.mp hmem
      exact hseen w hw (List.mem_cons.mpr (.inl he))
    · intro w hw
      rcases List.mem_cons.mp hw with rfl | hw
      · exact hs
      · exact fun hmem => hseen w hw (List.mem_cons_of_mem _ hmem)

theorem readAttributes_eq_ok_iff (seen : List (List Char × Nat)) (r : Remainder)
    (attributes : List (String × String)) :
    readAttributes seen r = .ok attributes ↔ ReadsBehind seen r attributes := by
  fun_induction readAttributes seen r generalizing attributes with
  | case1 seen r fault hk => simp [ReadsBehind, writtenAttributes_of_error hk]
  | case2 seen r hk => simp [ReadsBehind, writtenAttributes_of_none hk, eq_comm]
  | case3 seen r k hk previous hs =>
    refine ⟨nofun, ?_⟩
    rintro ⟨written, hw, -, hseen, -⟩
    obtain ⟨raw, rest, tail, -, -, rfl⟩ := (writtenAttributes_eq_ok_iff hk _).mp hw
    have hnone := (lookup_eq_none_iff seen k.key).mpr (hseen _ (List.mem_cons_self ..))
    cases hs.symm.trans hnone
  | case4 seen r k hk hs fault hv =>
    refine ⟨nofun, ?_⟩
    rintro ⟨written, hw, -⟩
    obtain ⟨raw, rest, tail, hv', -⟩ := (writtenAttributes_eq_ok_iff hk _).mp hw
    cases hv.symm.trans hv'
  | case5 seen r k hk hs raw rest hv fault hu =>
    refine ⟨nofun, ?_⟩
    rintro ⟨written, hw, -, -, hd⟩
    obtain ⟨raw, rest, tail, hv', -, rfl⟩ := (writtenAttributes_eq_ok_iff hk _).mp hw
    cases hv.symm.trans hv'
    cases hd with
    | cons hd _ => cases hu.symm.trans hd.value
  | case6 seen r k hk hs raw rest hv value hu fault hr ih =>
    refine ⟨nofun, ?_⟩
    rw [readsBehind_iff hk hs hv hu]
    rintro ⟨tail, ht, -⟩
    cases hr.symm.trans ((ih tail).mpr ht)
  | case7 seen r k hk hs raw rest hv value hu tail hr ih =>
    rw [readsBehind_iff hk hs hv hu]
    constructor
    · rintro ⟨⟩
      exact ⟨tail, (ih tail).mp hr, rfl⟩
    · rintro ⟨attrs, ht, rfl⟩
      cases hr.symm.trans ((ih attrs).mpr ht)
      rfl

/-- The attributes of a tag are what is written in it, key by key and decoded. -/
theorem tagAttributes_eq_ok_iff (inside : List Char) (attributes : List (String × String)) :
    tagAttributes inside = .ok attributes ↔ ReadsAttributes inside attributes := by
  rw [tagAttributes, readAttributes_eq_ok_iff]
  simp [ReadsBehind, ReadsAttributes]

/-- What is read has different keys. -/
lemma ReadsAttributes.distinct {inside : List Char} {attributes : List (String × String)}
    (h : ReadsAttributes inside attributes) : Table.Distinct attributes := by
  obtain ⟨written, -, hn, hd⟩ := h
  have hkeys : (written.map (·.1)).map String.ofList = Table.keys attributes := by
    rw [List.map_map, Table.keys]
    clear hn
    induction hd with
    | nil => rfl
    | cons hd _ ih => rw [List.map_cons, List.map_cons, ih, ← hd.key]; rfl
  rw [Table.Distinct, ← hkeys]
  exact hn.map fun a b h => String.ofList_injective h

end GatewayRecipes.Markup
