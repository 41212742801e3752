import Studio.Composing.Library
import Studio.Proofs.Composing.Excerpt

/-! What a verb makes of a library. It adds one node that belongs to no session, or one
excerpt, under a name that is new among its like. No builder runs on the way. -/

namespace Studio.Library

open Composing

/-! ### What a verb does -/

theorem addNode_result (l : Library) (role : Role) (name : String) (b : Builder) :
    (l.addNode role name b).result =
      if Text.isBlank name then .error (.blankName role.kind)
      else if (l.nodes role).contains name then .error (.duplicate role.kind name)
      else .ok (l.setNodes role ⟨(l.nodes role).entries ++ [{ name, builder := some b }]⟩) := by
  simp only [addNode, Node.create, checkName, Attempt.result_bind, Attempt.result_ofExcept]
  by_cases hb : Text.isBlank name = true
  · rw [if_pos hb, if_pos hb]
    rfl
  · rw [if_neg hb, if_neg hb]
    have hn : Named.name ({ name, builder := some b } : Node) = name := rfl
    simp only [Attempt.ok_bind, pure, Except.pure, Registry.add_result, hn]
    split <;> rfl

theorem addExcerpt_result (l : Library) (genre : Genre) (name : String)
    (steps : List (Step ExcerptVerb)) :
    (l.addExcerpt genre name steps).result =
      match steps.findSome? Step.thrown? with
      | some f => .error f
      | none =>
        if Text.isBlank name then .error (.blankName genre.kind)
        else if (l.excerpts genre).contains name then .error (.duplicate genre.kind name)
        else .ok (l.setExcerpts genre ⟨(l.excerpts genre).entries ++ [.ofScript name steps]⟩) := by
  have hcompose : (Excerpt.compose genre name steps).attempt.result =
      (Excerpt.compose genre name steps).result := rfl
  simp only [addExcerpt, Attempt.result_bind, hcompose, Excerpt.compose_result]
  cases steps.findSome? Step.thrown? with
  | some f => rfl
  | none =>
    dsimp only
    by_cases hb : Text.isBlank name = true
    · rw [if_pos hb, if_pos hb]
      rfl
    · rw [if_neg hb, if_neg hb]
      have hn : Named.name (Excerpt.ofScript name steps) = name := rfl
      simp only [Attempt.ok_bind, Registry.add_result, hn]
      split <;> rfl

/-! ### What a verb adds -/

theorem nodes_setNodes (l : Library) {role : Role} (hrole : role ≠ .track) (r : Registry Node) :
    (l.setNodes role r).nodes role = r := by
  cases role with
  | instrument => rfl
  | effect => rfl
  | track => exact absurd rfl hrole

theorem nodes_setNodes_of_ne (l : Library) {role other : Role} (h : other ≠ role)
    (r : Registry Node) : (l.setNodes role r).nodes other = l.nodes other := by
  cases role <;> cases other <;> simp_all [setNodes, nodes]

theorem excerpts_setNodes (l : Library) (role : Role) (r : Registry Node) (genre : Genre) :
    (l.setNodes role r).excerpts genre = l.excerpts genre := by
  cases role <;> cases genre <;> rfl

theorem excerpts_setExcerpts (l : Library) (genre : Genre) (r : Registry Excerpt) :
    (l.setExcerpts genre r).excerpts genre = r := by
  cases genre <;> rfl

theorem excerpts_setExcerpts_of_ne (l : Library) {genre other : Genre} (h : other ≠ genre)
    (r : Registry Excerpt) : (l.setExcerpts genre r).excerpts other = l.excerpts other := by
  cases genre <;> cases other <;> simp_all [setExcerpts, excerpts]

theorem nodes_setExcerpts (l : Library) (genre : Genre) (r : Registry Excerpt) (role : Role) :
    (l.setExcerpts genre r).nodes role = l.nodes role := by
  cases genre <;> cases role <;> rfl

/-- The ways in which a verb that succeeds changes a library. -/
inductive Grown (l : Library) : Library → Prop
  | node {role : Role} {node : Node} (hrole : role ≠ .track)
      (named : Text.isBlank node.name = false) (fresh : node.name ∉ (l.nodes role).names)
      (loose : node.session = none) :
      Grown l (l.setNodes role ⟨(l.nodes role).entries ++ [node]⟩)
  | excerpt {genre : Genre} {e : Excerpt} (named : Text.isBlank e.name = false)
      (fresh : e.name ∉ (l.excerpts genre).names) :
      Grown l (l.setExcerpts genre ⟨(l.excerpts genre).entries ++ [e]⟩)

/-- What passes both checks of a name has a name that is not blank and new. -/
theorem of_checked {name : String} {found : Bool} {blank repeated : Fault} {l l' : Library}
    (h : (if Text.isBlank name then .error blank else if found then .error repeated
      else .ok l : Except Fault Library) = .ok l') :
    Text.isBlank name = false ∧ ¬ found = true ∧ l = l' := by
  split at h
  · cases h
  · next hblank =>
    split at h
    · cases h
    · next hfound =>
      cases h
      exact ⟨Bool.eq_false_iff.2 hblank, hfound, rfl⟩

section Verb

variable {l l' : Library}

theorem grown_addNode {role : Role} (hrole : role ≠ .track) {name : String} {b : Builder}
    (h : (l.addNode role name b).result = .ok l') : l.Grown l' := by
  rw [addNode_result] at h
  obtain ⟨named, fresh, rfl⟩ := of_checked h
  rw [Registry.contains_iff] at fresh
  exact .node hrole named fresh rfl

theorem grown_addExcerpt {genre : Genre} {name : String} {steps : List (Step ExcerptVerb)}
    (h : (l.addExcerpt genre name steps).result = .ok l') : l.Grown l' := by
  rw [addExcerpt_result] at h
  cases hthrown : steps.findSome? Step.thrown? with
  | some f =>
    rw [hthrown] at h
    cases h
  | none =>
    rw [hthrown] at h
    obtain ⟨named, fresh, rfl⟩ := of_checked h
    rw [Registry.contains_iff] at fresh
    exact .excerpt named fresh

theorem grown_perform {v : LibraryVerb} (h : (v.perform l).result = .ok l') : l.Grown l' := by
  cases v with
  | node role name b =>
    cases role with
    | track => cases h
    | instrument => exact grown_addNode (by decide) h
    | effect => exact grown_addNode (by decide) h
  | phrase name => cases h
  | excerpt genre name steps => exact grown_addExcerpt h

namespace Grown

/-- A role keeps its nodes, or has one more at the end. -/
theorem nodes_eq (h : l.Grown l') (role : Role) :
    l'.nodes role = l.nodes role ∨
      ∃ node, Text.isBlank node.name = false ∧ node.name ∉ (l.nodes role).names ∧
        node.session = none ∧ l'.nodes role = ⟨(l.nodes role).entries ++ [node]⟩ := by
  cases h with
  | @node grown node hrole named fresh loose =>
    by_cases hr : role = grown
    · subst hr
      exact .inr ⟨node, named, fresh, loose, nodes_setNodes l hrole _⟩
    · exact .inl (nodes_setNodes_of_ne l hr _)
  | excerpt => exact .inl (nodes_setExcerpts ..)

/-- A genre keeps its excerpts, or has one more at the end. -/
theorem excerpts_eq (h : l.Grown l') (genre : Genre) :
    l'.excerpts genre = l.excerpts genre ∨
      ∃ e, Text.isBlank e.name = false ∧ e.name ∉ (l.excerpts genre).names ∧
        l'.excerpts genre = ⟨(l.excerpts genre).entries ++ [e]⟩ := by
  cases h with
  | node => exact .inl (excerpts_setNodes ..)
  | @excerpt grown e named fresh =>
    by_cases hg : genre = grown
    · subst hg
      exact .inr ⟨e, named, fresh, excerpts_setExcerpts ..⟩
    · exact .inl (excerpts_setExcerpts_of_ne l hg _)

end Grown

theorem eq_of_empty {name : String} (h : Library.empty name = .ok l) : l = { name } := by
  rw [Library.empty, Attempt.bind_eq_ok_iff] at h
  obtain ⟨_, -, h⟩ := h
  cases h
  rfl

end Verb

/-- What the empty library has and a library keeps as it grows, the libraries of a course
have, and so has the one that is composed. -/
theorem compose_of_grown {P : Library → Prop} (hgrow : ∀ {l l'}, P l → l.Grown l' → P l')
    {name : String} (hstart : ∀ l, Library.empty name = .ok l → P l)
    (steps : List (Step LibraryVerb)) :
    (∀ entry ∈ (Library.compose name steps).entries, P entry.model) ∧
      ∀ l, (Library.compose name steps).result = .ok l → P l :=
  compose_keeps (fun _ _ _ h hdone => hgrow h (grown_perform hdone)) hstart "library" name steps

/-- No verb runs a builder: nodes are built where they are used. -/
theorem perform_unbuilt (v : LibraryVerb) (l : Library) : (v.perform l).Unbuilt := by
  have hnode (role : Role) (name : String) (b : Builder) : (l.addNode role name b).Unbuilt :=
    (Attempt.unbuilt_ofExcept _).bind fun node =>
      ((l.nodes role).unbuilt_add role.kind node).bind fun _ _ => List.not_mem_nil
  cases v with
  | node role name b =>
    cases role with
    | track => exact unbuilt_refuse _ _
    | instrument => exact hnode _ _ _
    | effect => exact hnode _ _ _
  | phrase name => exact unbuilt_refuse _ _
  | excerpt genre name steps =>
    exact (Excerpt.compose_unbuilt genre name steps).bind fun e =>
      ((l.excerpts genre).unbuilt_add genre.kind e).bind fun _ _ => List.not_mem_nil

end Studio.Library
