import GatewayRecipes.Proofs.Markup.Nesting
import GatewayRecipes.Proofs.Markup.Traversal

/-! The verdict on events: a tree that they are the traversal of, or their first offence. -/
namespace GatewayRecipes.Markup
open Element (heights)

/-- Whether events lead to a builder. Each open element comes from its start tag and the traversal
of its children so far, behind the events of what is around it. -/
inductive Builds : List Event → Builder → Prop
  | nothing : Builds [] ⟨[], none⟩
  | root {events : List Event} {e : Element} (h : Traversals events [e])
      (hheight : e.height ≤ maxDepth) : Builds events ⟨[], some e⟩
  | within {events body : List Event} {outer children : List Element} {root : Option Element}
      {inside : List Char} {attributes : Table String} (h : Builds events ⟨outer, root⟩)
      (ha : ReadsAttributes inside attributes) (hbody : Traversals body children)
      (hheight : outer.length + 1 + heights children ≤ maxDepth) :
      Builds (events ++ .start inside :: body)
        ⟨⟨tagName inside, attributes, children.reverse⟩ :: outer, root⟩

namespace Builds

lemma attach {events more : List Event} {b b' : Builder} {e : Element} (h : Builds events b)
    (he : Traversals more [e]) (hheight : b.opened.length + e.height ≤ maxDepth)
    (hb : b.attach e = .ok b') : Builds (events ++ more) b' := by
  cases h with
  | nothing =>
    cases hb
    exact .root he (by simpa using hheight)
  | root => cases hb
  | @within events body outer children root inside attributes h ha hbody hchildren =>
    cases hb
    have hall := hbody.append he
    rw [List.length_cons] at hheight
    have hheights : outer.length + 1 + heights (children ++ [e]) ≤ maxDepth := by
      simp only [Element.heights_append, Element.heights_cons, Element.heights_nil]
      omega
    simpa using Builds.within h ha hall hheights

/-- One event that the builder takes. -/
lemma step {events : List Event} {b b' : Builder} {s : Step} (h : Builds events b)
    (hstop : s.event = .stop → b.opened ≠ []) (hs : b.step s = .ok b') :
    Builds (events ++ tagEvents [s]) b' := by
  cases he : s.event with
  | start inside =>
    obtain ⟨hdepth, attributes, ha, rfl⟩ := Builder.exists_of_step_start he hs
    rw [tagEvents_singleton he nofun]
    exact .within h ha .nil hdepth
  | empty inside =>
    obtain ⟨hdepth, attributes, ha, hattach⟩ := Builder.exists_of_step_empty he hs
    rw [tagEvents_singleton he nofun]
    exact h.attach (.empty ha .nil) (by simpa using Nat.succ_le_of_lt hdepth) hattach
  | stop =>
    rw [tagEvents_singleton he nofun]
    cases h with
    | nothing => exact absurd rfl (hstop he)
    | root => exact absurd rfl (hstop he)
    | @within events body outer children root inside attributes h ha hbody hheight =>
      -- the end tag completes the traversal that the start tag began
      have htraversal := Traversals.tags ha hbody .nil
      rw [Builder.step_stop he, Builder.finished, List.reverse_reverse] at hs
      rw [List.append_assoc]
      refine h.attach htraversal ?_ hs
      simp only [Element.height_mk]
      omega
  | other =>
    simp only [Builder.step, he] at hs
    cases hs
    simpa [tagEvents, he] using h
  | fault position cause =>
    simp only [Builder.step, he] at hs
    cases hs

/-- All events up to some place, as long as the builder takes them. -/
lemma run {events : List Event} {b b' : Builder} {steps : List Step} (h : Builds events b)
    (hstops : b.nesting.StopsMatched steps) (hrun : b.run steps = .ok b') :
    Builds (events ++ tagEvents steps) b' := by
  induction steps generalizing events b with
  | nil =>
    cases hrun
    simpa using h
  | cons s rest ih =>
    obtain ⟨hstop, hrest⟩ := hstops
    cases hs : b.step s with
    | error error => cases (Builder.run_of_error hs rest).symm.trans hrun
    | ok b₁ =>
      rw [Builder.run_of_step hs] at hrun
      have h₁ := h.step (fun he hnil => hstop he (by simp [Builder.nesting, hnil])) hs
      rw [tagEvents_cons, ← List.append_assoc]
      exact ih h₁ (Builder.nesting_of_step hs ▸ hrest) hrun

lemma finish {events : List Event} {b : Builder} {e : Element} (h : Builds events b)
    (hfinish : b.finish = .ok e) : Traversals events [e] ∧ e.height ≤ maxDepth := by
  cases h with
  | nothing => cases hfinish
  | root h hheight =>
    cases hfinish
    exact ⟨h, hheight⟩
  | within => cases hfinish

end Builds

/-- Where end tags are matched, the answer is the tree that the events are the traversal of. -/
theorem assemble_eq_ok_iff {steps : List Step} (h : Nesting.StopsMatched .outside steps)
    (e : Element) :
    assemble steps = .ok e ↔ Traversals (tagEvents steps) [e] ∧ e.height ≤ maxDepth := by
  constructor
  · intro hok
    unfold assemble at hok
    split at hok
    · next b hb => exact (Builds.nothing.run h hb).finish hok
    · cases hok
  · rintro ⟨htree, hheight⟩
    exact assemble_of_traversals htree hheight

/-- The result of any events is the one tree of at most the greatest height that their tags are the
traversal of, or else their first offence. -/
theorem assemble_verdict (steps : List Step) (h : Nesting.StopsMatched .outside steps) :
    (∀ e, assemble steps = .ok e ↔ Traversals (tagEvents steps) [e] ∧ e.height ≤ maxDepth) ∧
      ∀ error, assemble steps = .error error ↔
        Nesting.firstOffence? .outside steps = some error :=
  ⟨assemble_eq_ok_iff h, assemble_eq_error_iff steps⟩

theorem assemble_verdict_nested :
    Nesting.StopsMatched .outside
        [⟨0, .other⟩, ⟨3, .start "p:a".toList⟩, ⟨8, .empty "b x='1'".toList⟩, ⟨17, .stop⟩] ∧
      assemble [⟨0, .other⟩, ⟨3, .start "p:a".toList⟩, ⟨8, .empty "b x='1'".toList⟩, ⟨17, .stop⟩] =
        .ok ⟨"a", [], [⟨"b", [("x", "1")], []⟩]⟩ := by
  have hstops : Nesting.StopsMatched .outside
      [⟨0, .other⟩, ⟨3, .start "p:a".toList⟩, ⟨8, .empty "b x='1'".toList⟩, ⟨17, .stop⟩] :=
    ⟨nofun, nofun, nofun, fun _ => List.cons_ne_nil _ _, trivial⟩
  refine ⟨hstops, ((assemble_verdict _ hstops).1 _).mpr ⟨?_, by simp [maxDepth]⟩⟩
  have ha : ReadsAttributes "p:a".toList [] :=
    ⟨[], writtenAttributes_of_none rfl, List.nodup_nil, .nil⟩
  have hx : writtenAttributes ⟨1, " x='1'".toList⟩ = .ok [("x".toList, "1".toList)] :=
    (writtenAttributes_eq_ok_iff (k := ⟨"x".toList, 2, ⟨4, "'1'".toList⟩⟩) rfl _).mpr
      ⟨"1".toList, ⟨7, []⟩, [], rfl, writtenAttributes_of_none rfl, rfl⟩
  have hvalue : unescape "1".toList = .ok "1".toList := by simp [unescape, unescapeFrom]
  have hb : ReadsAttributes "b x='1'".toList [("x", "1")] :=
    ⟨_, hx, List.nodup_singleton _, .cons ⟨rfl, hvalue⟩ .nil⟩
  have hbody : Traversals [.empty "b x='1'".toList] [⟨"b", [("x", "1")], []⟩] := .empty hb .nil
  exact .tags ha hbody .nil

/-- A document is read as the tree of its tags, or its first offence is reported. -/
theorem parseDocument_verdict (document : String) :
    (∀ e, parseDocument document = .ok e ↔
        Traversals (tagEvents (eventsOf document.toList)) [e] ∧ e.height ≤ maxDepth) ∧
      ∀ error, parseDocument document = .error error ↔
        Nesting.firstOffence? .outside (eventsOf document.toList) = some error :=
  ⟨assemble_eq_ok_iff (stopsMatched_eventsOf _), assemble_eq_error_iff _⟩

end GatewayRecipes.Markup
