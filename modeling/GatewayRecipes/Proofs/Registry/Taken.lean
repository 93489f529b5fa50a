import GatewayRecipes.Proofs.Registry.Failure

/-! Names in use. When one is reported, the call has come to an element that would get it, and
another element, loaded before, has it. -/
namespace GatewayRecipes.Registry
variable {r : Registry} {staged : Table Recipe} {o : Occurrence} {report : Report}
  {call : LoadCall} {name : String}

/-- A call comes to an element that gets a name when those before it are staged. -/
structure ComesTo (r : Registry) (call : LoadCall) (before : List Occurrence)
    (staged : Table Recipe) (o : Occurrence) (name : String) : Prop where
  handled : ∃ root after, call.root? = some root ∧ r.handled root = before ++ o :: after
  reached : (before.foldlM r.register []).result = .ok staged
  named : ∃ p, r.parserFor? o.element.name = some p ∧ r.nameAt staged p.kind o = name

/-- The name that an element gets is in use, be it registered or staged. -/
structure NameTaken (r : Registry) (call : LoadCall) (before : List Occurrence)
    (staged : Table Recipe) (o : Occurrence) (name : String) : Prop
    extends r.ComesTo call before staged o name where
  inUse : name ∈ r.names ∨ name ∈ staged.keys

/-- Whatever is loaded and however, a name in use is reported only by the load of a tree. -/
lemma load_of_duplicate (h : (call.run r).result = .error report)
    (hcause : report.cause = .duplicateComponent name) :
    ∃ root inner, call.root? = some root ∧ (r.load root).result = .error inner ∧
      inner.cause = .duplicateComponent name ∧ inner.steps <:+ report.steps := by
  obtain ⟨-, failure, hother, hfail⟩ | ⟨root, steps, hroot, hrun⟩ := call.run_cases
  · rw [hfail] at h
    cases h
    exact absurd hcause (hother name)
  · rw [hrun, Traced.result_mapError] at h
    cases hload : (r.load root).result with
    | ok outcome => rw [hload] at h; cases h
    | error inner =>
      rw [hload] at h
      cases h
      exact ⟨root, inner, hroot, hload, hcause, List.suffix_append steps inner.steps⟩

/-- A call that reports a name in use has come to an element that would get it, and says so. -/
theorem exists_nameTaken (h : (call.run r).result = .error report)
    (hcause : report.cause = .duplicateComponent name) :
    ∃ before staged o, r.NameTaken call before staged o name ∧
      ["registering " ++ describe o.element] <:+ report.steps := by
  obtain ⟨root, inner, hroot, hload, hinner, hsteps⟩ := load_of_duplicate h hcause
  obtain ⟨before, o, after, staged, hsplit, hbefore, hrefused⟩ := load_eq_error_iff.mp hload
  cases hrefused with
  | untranslated => cases hinner
  | taken parser parsed inUse =>
    cases hinner
    exact ⟨before, staged, o,
      ⟨⟨⟨root, after, hroot, hsplit⟩, hbefore, _, parser, rfl⟩, inUse⟩, hsteps⟩

/-! Who has a name. -/

/-- A step adds no other name than that of its element. -/
lemma mem_keys_of_register {next : Table Recipe} (h : (r.register staged o).result = .ok next)
    (hname : name ∈ next.keys) :
    name ∈ staged.keys ∨
      ∃ p, r.parserFor? o.element.name = some p ∧ r.nameAt staged p.kind o = name := by
  obtain ⟨-, rfl⟩ | ⟨p, recipe, hp, -, -, -, rfl⟩ := register_cases h
  · exact .inl hname
  · refine ((Table.mem_keys_append _ _ name).mp hname).imp_right fun hnew => ⟨p, hp, ?_⟩
    exact (List.mem_singleton.mp hnew).symm

/-- A name is staged for an element that a fold has come to. -/
lemma exists_of_mem_keys {l : List Occurrence} (h : (l.foldlM r.register []).result = .ok staged)
    (hname : name ∈ staged.keys) :
    ∃ before o after reached p, l = before ++ o :: after ∧
      (before.foldlM r.register []).result = .ok reached ∧
      r.parserFor? o.element.name = some p ∧ r.nameAt reached p.kind o = name := by
  -- Either the last step adds the name, or those before it have.
  induction l using List.reverseRecOn generalizing staged with
  | nil =>
    cases h
    cases hname
  | append_singleton l o ih =>
    rw [List.foldlM_append, Traced.result_bind] at h
    cases hl : (l.foldlM r.register []).result with
    | error e => rw [hl] at h; cases h
    | ok reached =>
      rw [hl] at h
      change ([o].foldlM r.register reached).result = .ok staged at h
      simp only [List.foldlM_cons, List.foldlM_nil, bind_pure] at h
      rcases mem_keys_of_register h hname with hold | ⟨p, hp, hat⟩
      · obtain ⟨before, q, after, next, p, rfl, hq⟩ := ih hl hold
        exact ⟨before, q, after ++ [o], next, p, by simp, hq⟩
      · exact ⟨l, o, [], reached, p, rfl, hl, hp, hat⟩

/-- An element that has its name when a call comes to another one after some calls: one of these
has registered it, or the call itself has staged it. -/
inductive HasName (r : Registry) (calls : List LoadCall) (call : LoadCall)
    (before : List Occurrence) (o : Occurrence) (name : String) : Prop
  | registered {earlier later : List LoadCall} {done : LoadCall} {loaded : Registry} {n : Nat}
      {first : List Occurrence} {staged : Table Recipe} (split : calls = earlier ++ done :: later)
      (succeeded : (done.run (r.afterAll earlier)).result = .ok (loaded, n))
      (named : (r.afterAll earlier).ComesTo done first staged o name) :
      HasName r calls call before o name
  | staged {first rest : List Occurrence} {staged : Table Recipe}
      (split : before = first ++ o :: rest)
      (named : (r.afterAll calls).ComesTo call first staged o name) :
      HasName r calls call before o name

/-- A call that does not fail has come to the elements whose names it adds. -/
lemma exists_comesTo_of_run {loaded : Registry} {n : Nat}
    (h : (call.run r).result = .ok (loaded, n)) (hname : name ∈ loaded.names) :
    name ∈ r.names ∨ ∃ before staged o, r.ComesTo call before staged o name := by
  obtain ⟨root, hroot, hload⟩ := exists_root_of_run h
  obtain ⟨staged, hstaged, -, rfl, -⟩ := load_cases hload
  rcases (Table.mem_keys_append _ _ name).mp hname with hname | hname
  · exact .inl hname
  · obtain ⟨before, o, after, reached, p, hsplit, hreached, hp, hat⟩ :=
      exists_of_mem_keys hstaged hname
    exact .inr ⟨before, reached, o, ⟨root, after, hroot, hsplit⟩, hreached, p, hp, hat⟩

/-- What is registered after calls, and was not before, one of them has added. -/
lemma exists_comesTo_of_afterAll {calls : List LoadCall} (hname : name ∈ (r.afterAll calls).names) :
    name ∈ r.names ∨ ∃ earlier later done loaded n before staged o,
      calls = earlier ++ done :: later ∧
      (done.run (r.afterAll earlier)).result = .ok (loaded, n) ∧
      (r.afterAll earlier).ComesTo done before staged o name := by
  induction calls generalizing r with
  | nil => exact .inl hname
  | cons first rest ih =>
    rcases ih hname with hname | ⟨earlier, later, done, loaded, n, before, staged, o, rfl, hdone⟩
    · cases h : (first.run r).result with
      | error failure =>
        rw [after_of_error h] at hname
        exact .inl hname
      | ok outcome =>
        obtain ⟨loaded, n⟩ := outcome
        rw [after_of_ok h] at hname
        refine (exists_comesTo_of_run h hname).imp_right ?_
        rintro ⟨before, staged, o, hcome⟩
        exact ⟨[], rest, first, loaded, n, before, staged, o, rfl, h, hcome⟩
    · exact .inr ⟨first :: earlier, later, done, loaded, n, before, staged, o, rfl, hdone⟩

/-- A name that is in use is the name of an element, in all that was ever loaded. -/
theorem exists_hasName {parsers : List DefinitionParser} {calls : List LoadCall}
    {before : List Occurrence}
    (h : ((built parsers).afterAll calls).NameTaken call before staged o name) :
    ∃ q, (built parsers).HasName calls call before q name := by
  obtain ⟨root, after, hroot, hsplit⟩ := h.handled
  rcases h.inUse with hname | hname
  · rcases exists_comesTo_of_afterAll hname with
      hname | ⟨earlier, later, done, loaded, n, first, staged, q, rfl, hok, hcome⟩
    · rw [names, definitions_built] at hname
      cases hname
    · exact ⟨q, .registered rfl hok hcome⟩
  · obtain ⟨first, q, rest, reached, p, rfl, hreached, hp, hat⟩ :=
      exists_of_mem_keys h.reached hname
    refine ⟨q, .staged rfl ⟨⟨root, rest ++ o :: after, hroot, ?_⟩, hreached, p, hp, hat⟩⟩
    rw [hsplit, List.append_assoc, List.cons_append]

end GatewayRecipes.Registry
