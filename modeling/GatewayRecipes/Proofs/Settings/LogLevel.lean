import GatewayRecipes.Proofs.Number.Numeral
import GatewayRecipes.Proofs.Settings.Loading
import Mathlib

/-! The log level of a variable. Values of variables are read as truth values and numbers where they
are written like such, so a level comes back as the text of what was read. All other texts stay as
they are. -/
namespace GatewayRecipes.Settings
open Number (WritesInteger WritesDecimal WritesInfinity WritesNan fitsInt64)
open Text (lower)

/-- The text of a word for a truth value, in any case of its letters. -/
def IsTruth (v : String) : Prop := lower v = "true" ∨ lower v = "false"

instance (v : String) : Decidable (IsTruth v) := inferInstanceAs (Decidable (_ ∨ _))

/-- What becomes of a text that is the value of a variable, where a text is wanted: a word for a
truth value in lower case, an integer of 64 bits in its plain form, of any other decimal the
shortest digits of the floating-point number next to it, and the one word for an infinity or for
what is not a number. A text that is none of these stays as it is. -/
inductive LevelText (v : String) : String → Prop
  | truth (word : IsTruth v) : LevelText v (lower v)
  | integer {n : Int} (written : WritesInteger n v.toList) (fits : fitsInt64 n = true) :
      LevelText v (toString n)
  | decimal {d : Number.Decimal} (written : WritesDecimal d v.toList)
      (wide : ∀ n, WritesInteger n v.toList → fitsInt64 n = false) :
      LevelText v (Number.plainText d.toFloat)
  | infinity {negative : Bool} (written : WritesInfinity negative v.toList) :
      LevelText v (if negative then "-inf" else "inf")
  | nan (written : WritesNan v.toList) : LevelText v "NaN"
  | verbatim (noTruth : ¬ IsTruth v) (noDecimal : ∀ d, ¬ WritesDecimal d v.toList)
      (noInfinity : ∀ negative, ¬ WritesInfinity negative v.toList)
      (noNan : ¬ WritesNan v.toList) : LevelText v v

/-! The value of a variable. -/

section
variable {v : String}

lemma variableValue_of_isTruth (h : IsTruth v) :
    (variableValue v).text? = some (lower v) := by
  rw [variableValue]
  obtain h | h := h
  · rw [h]
    rfl
  · rw [h]
    rfl

lemma variableValue_of_not_isTruth (h : ¬ IsTruth v) :
    variableValue v =
      match (Number.signed? 10 v.toList).filter fitsInt64 with
      | some n => .int n
      | none =>
        match Number.float? v.toList with
        | some x => .float x
        | none => .text v := by
  rw [variableValue]
  split
  · next htrue => exact absurd (.inl htrue) h
  · next hfalse => exact absurd (.inr hfalse) h
  · rfl

/-- The words for truth values have no digit and no N. -/
lemma not_isTruth_of_mem {c : Char} (hc : c ∉ "true".toList ++ "false".toList)
    (h : c ∈ (lower v).toList) : ¬ IsTruth v := by
  rintro (htrue | hfalse)
  · rw [htrue] at h
    exact hc (List.mem_append_left _ h)
  · rw [hfalse] at h
    exact hc (List.mem_append_right _ h)

lemma not_isTruth_of_decimal {d : Number.Decimal} (h : WritesDecimal d v.toList) :
    ¬ IsTruth v := by
  obtain ⟨c, hmem, hdigit⟩ := h.exists_isDigit
  refine not_isTruth_of_mem ?_ ((Text.lowered_of_isDigit hdigit).mem_lower hmem)
  intro hc
  have hnone : ("true".toList ++ "false".toList).all (!·.isDigit) = true := rfl
  have hc' := List.all_eq_true.mp hnone c hc
  rw [hdigit] at hc'
  cases hc'

lemma not_isTruth_of_mem_n (h : 'n' ∈ v.toList ∨ 'N' ∈ v.toList) : ¬ IsTruth v := by
  refine not_isTruth_of_mem (c := 'n') (by decide) ?_
  obtain h | h := h
  · have hlowered : Text.Lowered 'n' := by decide +kernel
    exact hlowered.mem_lower h
  · have himage : Text.CaseShift.map Text.lowerShifts 'N' = 'n' := by decide +kernel
    exact himage ▸ Text.map_mem_lower (by decide) (by decide) h

lemma plainText_infinity (negative : Bool) :
    Number.plainText (if negative then -(1.0 / 0.0) else 1.0 / 0.0) =
      if negative then "-inf" else "inf" := by
  cases negative with
  | true => decide +kernel
  | false => decide +kernel

lemma plainText_nan (negative : Bool) :
    Number.plainText (if negative then -(0.0 / 0.0) else 0.0 / 0.0) = "NaN" := by
  cases negative with
  | true => decide +kernel
  | false => decide +kernel

/-- A word is no integer, and its number is that of the word. -/
lemma variableValue_of_mem_n (h : 'n' ∈ v.toList ∨ 'N' ∈ v.toList) :
    variableValue v =
      match Number.floatWord? v.toList with
      | some x => .float x
      | none => .text v := by
  have hdecimal : Number.decimal? v.toList = none := Number.decimal?_eq_none_of_mem_n h
  rw [variableValue_of_not_isTruth (not_isTruth_of_mem_n h),
    Number.signed?_eq_none_of_decimal? hdecimal, Number.float?, hdecimal]
  rfl

/-- The text of the value of a variable is as `LevelText` says. -/
lemma LevelText.text?_variableValue {level : String} (h : LevelText v level) :
    (variableValue v).text? = some level := by
  cases h with
  | truth word => exact variableValue_of_isTruth word
  | integer written fits =>
    obtain ⟨d, hd⟩ := written.exists_writesDecimal
    rw [variableValue_of_not_isTruth (not_isTruth_of_decimal hd),
      Number.signed?_ten_eq_some_iff.mpr written, Option.filter_some, if_pos fits]
    rfl
  | decimal written wide =>
    have hfilter : (Number.signed? 10 v.toList).filter fitsInt64 = none := by
      rw [Option.filter_eq_none_iff]
      intro n hn
      rw [wide n (Number.signed?_ten_eq_some_iff.mp hn)]
      exact Bool.false_ne_true
    rw [variableValue_of_not_isTruth (not_isTruth_of_decimal written), hfilter, Number.float?,
      Number.decimal?_eq_some_iff.mpr written]
    rfl
  | @infinity negative written =>
    rw [variableValue_of_mem_n written.mem_n, Number.floatWord?_of_writesInfinity written]
    exact congrArg some (plainText_infinity negative)
  | nan written =>
    obtain ⟨negative, hword⟩ := Number.floatWord?_of_writesNan written
    rw [variableValue_of_mem_n written.mem_n, hword]
    exact congrArg some (plainText_nan negative)
  | verbatim noTruth noDecimal noInfinity noNan =>
    have hdecimal : Number.decimal? v.toList = none := by
      rw [Option.eq_none_iff_forall_ne_some]
      exact fun d hd => noDecimal d (Number.decimal?_eq_some_iff.mp hd)
    have hword : Number.floatWord? v.toList = none := by
      obtain ⟨negative, hinfinity⟩ | hnan | hnone := Number.floatWord?_cases v.toList
      · exact absurd hinfinity (noInfinity negative)
      · exact absurd hnan noNan
      · exact hnone
    rw [variableValue_of_not_isTruth noTruth, Number.signed?_eq_none_of_decimal? hdecimal,
      Number.float?, hdecimal, hword]
    rfl

lemma levelText_self (htruth : ¬ IsTruth v) (hfloat : Number.float? v.toList = none) :
    LevelText v v := by
  rw [Number.float?, Option.or_eq_none_iff, Option.map_eq_none_iff] at hfloat
  obtain ⟨hdecimal, hword⟩ := hfloat
  refine .verbatim htruth (fun d hd => ?_) (fun negative h => ?_) fun h => ?_
  · rw [Number.decimal?_eq_some_iff.mpr hd] at hdecimal
    cases hdecimal
  · rw [Number.floatWord?_of_writesInfinity h] at hword
    cases hword
  · obtain ⟨negative, hnan⟩ := Number.floatWord?_of_writesNan h
    rw [hnan] at hword
    cases hword

lemma exists_levelText (v : String) : ∃ level, LevelText v level := by
  by_cases htruth : IsTruth v
  · exact ⟨_, .truth htruth⟩
  · cases hdecimal : Number.decimal? v.toList with
    | some d =>
      have hwritten := Number.decimal?_eq_some_iff.mp hdecimal
      by_cases hfits : ∃ n, WritesInteger n v.toList ∧ fitsInt64 n = true
      · obtain ⟨n, hn, hn64⟩ := hfits
        exact ⟨_, .integer hn hn64⟩
      · refine ⟨_, .decimal hwritten fun n hn => ?_⟩
        rw [Bool.eq_false_iff]
        exact fun hn64 => hfits ⟨n, hn, hn64⟩
    | none =>
      obtain ⟨negative, hinfinity⟩ | hnan | hnone := Number.floatWord?_cases v.toList
      · exact ⟨_, .infinity hinfinity⟩
      · exact ⟨_, .nan hnan⟩
      · refine ⟨v, levelText_self htruth ?_⟩
        rw [Number.float?, hdecimal, hnone]
        rfl

/-- The cases of `LevelText` cover all texts and do not overlap. -/
theorem text?_variableValue_eq_some_iff {level : String} :
    (variableValue v).text? = some level ↔ LevelText v level := by
  refine ⟨fun h => ?_, LevelText.text?_variableValue⟩
  obtain ⟨other, hother⟩ := exists_levelText v
  rw [hother.text?_variableValue] at h
  exact Option.some.inj h ▸ hother

end

/-! The settings of the command line. -/

/-- Whether a variable with its value is the only one whose name begins with a prefix and an
underscore, in any case of its letters. -/
def Environment.Only (env : Environment) (namePrefix : String) (e : String × String) : Prop :=
  ∃ before after, env = before ++ e :: after ∧ Environment.Lacks (before ++ after) namePrefix

/-- The settings of the settings file alone, or the standard ones where there is no file. -/
def fileSettings (env : Environment) (read : FileReader) (path : Option String)
    (order : LoadOrder) : Except Error Settings :=
  match filePath? read path with
  | some path => loadFile env read path order >>= decodeWith ofTable?
  | none => .ok standard

lemma environmentLayer_of_only {env : Environment} {namePrefix name text key : String}
    (h : env.Only namePrefix (name, text)) (hkey : variableKey? namePrefix name = some key) :
    environmentLayer namePrefix env = [(key, variableValue text)] := by
  obtain ⟨before, after, rfl, hlacks⟩ := h
  obtain ⟨hbefore, hafter⟩ := List.forall_mem_append.mp hlacks
  rw [environmentLayer, List.filterMap_append]
  change environmentLayer namePrefix before ++
    environmentLayer namePrefix ((name, text) :: after) = _
  rw [environmentLayer_cons, hkey, environmentLayer_eq_nil_iff.mpr hbefore,
    environmentLayer_eq_nil_iff.mpr hafter]
  rfl

section
variable {env : Environment} {read : FileReader} {path : Option String} {s : Settings}
  {order : LoadOrder}

lemma decodeWith_eq_ok_iff {α : Type} {decode : Table Value → Option α} {t : Table Value} {a : α} :
    decodeWith decode t = .ok a ↔ decode t = some a := by
  rw [decodeWith]
  cases decode t with
  | none => simp
  | some b => rw [Except.ok.injEq, Option.some_inj]

lemma ofTable?_arrange {t : Table Value} (ht : t.Distinct) (order : EntryOrder) :
    ofTable? (order.arrange t) = ofTable? t :=
  (orderBlind_ofTable? t _ ht (order.reordered t)).symm

/-- The settings of a file are read off its entries. -/
lemma exists_entries_of_fileSettings (h : fileSettings env read path order = .ok s) :
    ∃ entries, fileEntries env read (filePath? read path) = .ok entries ∧
      ofTable? (overlay [] (order.file.arrange entries)) = some s := by
  rw [fileSettings] at h
  cases hpath : filePath? read path with
  | none =>
    rw [hpath] at h
    cases h
    exact ⟨[], rfl, by rw [(order.file.reordered []).eq_nil]; rfl⟩
  | some file =>
    rw [hpath] at h
    simp only [loadFile] at h
    rw [fileEntries]
    cases hentries : fileLayer env read file with
    | error e =>
      rw [hentries] at h
      cases h
    | ok entries =>
      rw [hentries] at h
      replace h : decodeWith ofTable? (order.ofFile entries) = .ok s := h
      rw [decodeWith_eq_ok_iff, LoadOrder.ofFile, ofTable?_arrange (distinct_overlay_nil _)] at h
      exact ⟨entries, rfl, h⟩

/-- The settings of a file whose keys do not meet are the same in all orders. -/
lemma fileSettings_of_keysApart
    (hapart : ∀ entries, fileEntries env read (filePath? read path) = .ok entries →
      KeysApart entries) (order order' : LoadOrder) :
    fileSettings env read path order = fileSettings env read path order' := by
  rw [fileSettings, fileSettings]
  cases hpath : filePath? read path with
  | none => rfl
  | some file =>
    rw [hpath] at hapart
    exact loadFile_of_keysApart hapart orderBlind_ofTable? order order'

lemma ofTable?_eq_some_iff {t : Table Value} :
    ofTable? t = some s ↔
      field? t "output" readFormat? standard.output = some s.output ∧
        field? t "log_level" Value.text? standard.logLevel = some s.logLevel := by
  obtain ⟨output, level⟩ := s
  rw [ofTable?]
  cases field? t "output" readFormat? standard.output with
  | none => simp
  | some output =>
    cases field? t "log_level" Value.text? standard.logLevel with
    | none => simp
    | some level => simp

/-- The level can be replaced by any text. The output format is read for itself. -/
lemma ofTable?_put_logLevel {t : Table Value} {v : Value} {level : String}
    (ht : ofTable? t = some s) (hv : v.text? = some level) :
    ofTable? (t.put "log_level" v) = some ⟨s.output, level⟩ := by
  obtain ⟨houtput, -⟩ := ofTable?_eq_some_iff.mp ht
  rw [ofTable?_eq_some_iff]
  constructor
  · rwa [field?, Table.get?_put, if_neg (by decide), ← field?]
  · rwa [field?, Table.get?_put, if_pos rfl]

lemma environmentTable_of_only {v : String}
    (only : env.Only variablePrefix ("GATEDEF_LOG_LEVEL", v)) :
    environmentTable variablePrefix env = [("log_level", variableValue v)] := by
  have hkey : variableKey? variablePrefix "GATEDEF_LOG_LEVEL" = some "log_level" :=
    variableKey?_eq_some_iff.mpr (by decide +kernel)
  rw [environmentTable, environmentLayer_of_only only hkey]
  rfl

/-- One variable replaces the level and nothing else. -/
lemma load_of_only {v level : String}
    (only : env.Only variablePrefix ("GATEDEF_LOG_LEVEL", v))
    (file : fileSettings env read path order = .ok s) (hlevel : LevelText v level) :
    Settings.load env read path order = .ok ⟨s.output, level⟩ := by
  obtain ⟨entries, hentries, ht⟩ := exists_entries_of_fileSettings file
  have hvariables := environmentTable_of_only only
  have harranged : order.environment.arrange (environmentTable variablePrefix env) =
      [("log_level", variableValue v)] := by
    have hperm := perm_arrange_environmentTable variablePrefix env order.environment
    rw [hvariables] at hperm ⊢
    exact (List.singleton_perm.mp hperm).symm
  have hname : keyPath "log_level" = [.name "log_level"] := by decide +kernel
  have hput (t : Table Value) : overlay t [("log_level", variableValue v)] =
      t.put "log_level" (variableValue v) := by
    have hlower : lower "log_level" = "log_level" := by decide +kernel
    rw [overlay_cons, overlay_nil, assignKey_of_name hname,
      assign_of_no_table (variableValue_ne_table v), hlower]
  have hdistinct : ((overlay [] (order.file.arrange entries)).put "log_level"
      (variableValue v)).Distinct := (distinct_overlay_nil _).put _ _
  rw [Settings.load, loadLayered, hentries]
  change decodeWith ofTable? (order.ofLayers entries (environmentTable variablePrefix env)) = _
  rw [LoadOrder.ofLayers, harranged, hput, decodeWith_eq_ok_iff, ofTable?_arrange hdistinct]
  exact ofTable?_put_logLevel ht hlevel.text?_variableValue

end

/-- With a log level as the only variable of the program, over any settings file that loads or none,
the settings load. The output format is that which the file gives in the same order, and in any
other one if its keys do not meet. The level is what `LevelText` makes of the variable: the text
itself, unless that is written as a truth value or a number. -/
theorem logLevel_of_variable {env : Environment} {read : FileReader} {path : Option String}
    {v : String} (only : env.Only variablePrefix ("GATEDEF_LOG_LEVEL", v)) :
    ∃ level, (∀ other, LevelText v other ↔ other = level) ∧
      (∀ order s, fileSettings env read path order = .ok s →
        Settings.load env read path order = .ok ⟨s.output, level⟩) ∧
      ((∀ entries, fileEntries env read (filePath? read path) = .ok entries → KeysApart entries) →
        ∀ order order' s, fileSettings env read path order = .ok s →
          Settings.load env read path order' = .ok ⟨s.output, level⟩) := by
  obtain ⟨level, hlevel⟩ := exists_levelText v
  refine ⟨level, fun other => ?_, fun order s file => load_of_only only file hlevel, ?_⟩
  · rw [← text?_variableValue_eq_some_iff, hlevel.text?_variableValue, Option.some_inj]
    exact eq_comm
  · intro hapart order order' s file
    rw [fileSettings_of_keysApart hapart order order'] at file
    exact load_of_only only file hlevel

def levelOnly (v : String) : Environment := [("GATEDEF_LOG_LEVEL", v)]

lemma only_levelOnly (v : String) :
    (levelOnly v).Only variablePrefix ("GATEDEF_LOG_LEVEL", v) :=
  ⟨[], [], rfl, List.forall_mem_nil _⟩

lemma writesInteger_zeros : WritesInteger 7 "007".toList :=
  Number.signed?_ten_eq_some_iff.mp (by decide)

/-- Zeros in front of a number are lost, even where there is no file. -/
theorem logLevel_not_verbatim :
    (levelOnly "007").Only variablePrefix ("GATEDEF_LOG_LEVEL", "007") ∧
      (∀ order, fileSettings (levelOnly "007") (Directory.read ⟨[]⟩) none order = .ok standard) ∧
      ∀ order, Settings.load (levelOnly "007") (Directory.read ⟨[]⟩) none order = .ok ⟨.text, "7"⟩ ∧
        ¬ ∃ output,
          Settings.load (levelOnly "007") (Directory.read ⟨[]⟩) none order =
            .ok ⟨output, "007"⟩ := by
  have file (order : LoadOrder) :
      fileSettings (levelOnly "007") (Directory.read ⟨[]⟩) none order = .ok standard := rfl
  refine ⟨only_levelOnly "007", file, fun order => ?_⟩
  have hload := load_of_only (only_levelOnly "007") (file order)
    (.integer writesInteger_zeros (by decide))
  refine ⟨hload, ?_⟩
  rintro ⟨output, hverbatim⟩
  rw [hload, Except.ok.injEq, Settings.mk.injEq] at hverbatim
  exact absurd hverbatim.2 (by decide)

lemma only_levelEnvironment (v : String) :
    (levelEnvironment (levelOnly v)).Only variablePrefix ("GATEDEF_LOG_LEVEL", v) :=
  ⟨[("LEVEL", "debug")], [], rfl, by decide +kernel⟩

lemma fileSettings_referring (rest : Environment) :
    fileSettings (levelEnvironment rest) referring (some "s.json") .asWritten =
      .ok ⟨.text, "debug"⟩ := by
  change (loadFile (levelEnvironment rest) referring "s.json" .asWritten >>= _) = _
  rw [loadFile, fileLayer_referring]
  rfl

lemma levelText_decimal : LevelText "+1.50e3" "1500" := by
  have hwritten : WritesDecimal ⟨false, ['1'], ['5', '0'], 3⟩ "+1.50e3".toList :=
    Number.decimal?_eq_some_iff.mp (by decide)
  have htext :
      Number.plainText (Number.Decimal.toFloat ⟨false, ['1'], ['5', '0'], 3⟩) = "1500" := by
    decide +kernel
  rw [← htext]
  refine .decimal hwritten fun n hn => ?_
  have hnone : Number.signed? 10 "+1.50e3".toList = none := by decide
  rw [Number.signed?_ten_eq_some_iff.mpr hn] at hnone
  cases hnone

/-- Over a file that has a level of its own, in any order: filters stay as they are, and so does what
is a number in other notations alone. A truth value and a number with an exponent do not. -/
theorem logLevel_of_variable_referring :
    let load (v : String) (order : LoadOrder) :=
      Settings.load (levelEnvironment (levelOnly v)) referring (some "s.json") order
    (∀ order, load "gatedef=debug" order = .ok ⟨.text, "gatedef=debug"⟩) ∧
      (∀ order, load "0x7" order = .ok ⟨.text, "0x7"⟩) ∧
      (∀ order, load "TRUE" order = .ok ⟨.text, "true"⟩) ∧
      ∀ order, load "+1.50e3" order = .ok ⟨.text, "1500"⟩ := by
  intro load
  have hload {v level : String} (h : LevelText v level) (order : LoadOrder) :
      load v order = .ok ⟨.text, level⟩ := by
    obtain ⟨other, hunique, -, hall⟩ :=
      @logLevel_of_variable _ referring (some "s.json") v (only_levelEnvironment v)
    have hapart : ∀ entries, fileEntries (levelEnvironment (levelOnly v)) referring
        (some "s.json") = .ok entries → KeysApart entries := by
      intro entries hentries
      cases (fileLayer_referring (levelOnly v)).symm.trans hentries
      exact keysApart_referring
    rw [(hunique level).mp h]
    exact hall hapart _ order _ (fileSettings_referring (levelOnly v))
  have hlower : lower "TRUE" = "true" := by decide +kernel
  refine ⟨hload ?_, hload ?_, hload (hlower ▸ .truth (.inl hlower)), hload levelText_decimal⟩
  · exact levelText_self (by decide +kernel) (by decide +kernel)
  · exact levelText_self (by decide +kernel) (by decide +kernel)

end GatewayRecipes.Settings
