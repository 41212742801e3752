import Studio.Proofs.Composing.Script

/-! What a verb makes of a session. It adds one node, under a name that is new in its
role and with the session for its owner, or it adds one patch; the name of the session
stays. -/

namespace Studio.Session

open Composing

/-- The ways in which a verb that succeeds changes a session. -/
inductive Grown (s : Session) : Session → Prop
  | node {role : Role} {node : Node} (named : Text.isBlank node.name = false)
      (fresh : node.name ∉ (s.nodes role).names) (owned : node.session = some s.name) :
      Grown s (s.setNodes role ⟨(s.nodes role).entries ++ [node]⟩)
  | patch (p : Patch) : Grown s { s with patches := s.patches ++ [p] }

variable {s s' : Session} {role : Role}

theorem nodes_setNodes_of_ne {other : Role} (h : other ≠ role) (r : Registry Node) :
    (s.setNodes role r).nodes other = s.nodes other := by
  cases role <;> cases other <;> simp_all [setNodes, nodes]

theorem empty_eq (name : String) :
    Session.empty name =
      if Text.isBlank name then .error (.blankName "session") else .ok { name } := by
  unfold Session.empty checkName
  split <;> rfl

theorem eq_of_empty {name : String} (h : Session.empty name = .ok s) : s = { name } := by
  rw [empty_eq] at h
  split at h <;> cases h
  rfl

theorem grown_addNode {node : Node} (named : Text.isBlank node.name = false)
    (h : (s.addNode role node).result = .ok s') : s.Grown s' := by
  rw [addNode_result] at h
  by_cases hc : (s.nodes role).contains node.name = true
  · rw [if_pos hc] at h
    cases h
  · rw [if_neg hc] at h
    cases h
    rw [Registry.contains_iff] at hc
    refine .node ?_ ?_ ?_
    · exact named
    · exact hc
    · rfl

theorem grown_createNode {name : String} {b : Builder}
    (h : (s.createNode role name b).result = .ok s') : s.Grown s' := by
  simp only [createNode, Node.create, checkName, Attempt.result_bind,
    Attempt.result_ofExcept] at h
  by_cases hb : Text.isBlank name = true
  · rw [if_pos hb] at h
    cases h
  · rw [if_neg hb] at h
    exact grown_addNode (by simpa using hb) h

theorem grown_useNode {library : Library} {key name : String}
    (h : (s.useNode role library key name).result = .ok s') : s.Grown s' := by
  unfold useNode at h
  split at h
  · cases h
  · next entry _ =>
    simp only [Attempt.result_bind, Attempt.result_ofExcept, Node.rename_eq] at h
    by_cases hb : Text.isBlank name = true
    · rw [if_pos hb] at h
      cases h
    · rw [if_neg hb] at h
      exact grown_addNode (by simpa using hb) h

theorem grown_perform {v : SessionVerb} (h : (v.perform s).result = .ok s') : s.Grown s' := by
  cases v with
  | node role name b =>
    cases role with
    | track => cases h
    | instrument => exact grown_createNode h
    | effect => exact grown_createNode h
  | phrase name => cases h
  | use role library key name => exact grown_useNode h
  | patch p =>
    cases h
    exact .patch p

namespace Grown

theorem name_eq (h : s.Grown s') : s'.name = s.name := by
  cases h with
  | node => exact setNodes_name ..
  | patch p => rfl

/-- A role keeps its nodes, or has one more at the end. -/
theorem nodes_eq (h : s.Grown s') (role : Role) :
    s'.nodes role = s.nodes role ∨
      ∃ node, Text.isBlank node.name = false ∧ node.name ∉ (s.nodes role).names ∧
        node.session = some s.name ∧ s'.nodes role = ⟨(s.nodes role).entries ++ [node]⟩ := by
  cases h with
  | @node grown node named fresh owned =>
    by_cases hr : role = grown
    · subst hr
      exact .inr ⟨node, named, fresh, owned, nodes_setNodes ..⟩
    · exact .inl (nodes_setNodes_of_ne hr _)
  | patch p => exact .inl (by cases role <;> rfl)

end Grown

/-- What the empty session has and a session keeps as it grows, the sessions of a course
have, and so has the one that is composed. -/
theorem compose_of_grown {P : Session → Prop} (hgrow : ∀ {s s'}, P s → s.Grown s' → P s')
    {name : String} (hstart : ∀ s, Session.empty name = .ok s → P s)
    (steps : List (Step SessionVerb)) :
    (∀ entry ∈ (Session.compose name steps).entries, P entry.model) ∧
      ∀ s, (Session.compose name steps).result = .ok s → P s :=
  compose_keeps (fun _ _ _ h hdone => hgrow h (grown_perform hdone)) hstart "session" name steps

/-- No verb runs a builder: nodes are built when the session is rendered. -/
theorem perform_unbuilt (v : SessionVerb) (s : Session) : (v.perform s).Unbuilt := by
  have hadd (role : Role) (node : Node) : (s.addNode role node).Unbuilt :=
    ((s.nodes role).unbuilt_add role.kind _).bind fun _ _ => List.not_mem_nil
  have hcreate (role : Role) (name : String) (b : Builder) : (s.createNode role name b).Unbuilt :=
    (Attempt.unbuilt_ofExcept _).bind fun node => hadd role node
  cases v with
  | node role name b =>
    cases role with
    | track => exact unbuilt_refuse _ _
    | instrument => exact hcreate _ _ _
    | effect => exact hcreate _ _ _
  | phrase name => exact unbuilt_refuse _ _
  | use role library key name =>
    change (s.useNode role library key name).Unbuilt
    unfold useNode
    split
    · exact fun _ => List.not_mem_nil
    · exact (Attempt.unbuilt_ofExcept _).bind fun node => hadd role node
  | patch p => exact (Attempt.unbuilt_say _ _).bind fun _ _ => List.not_mem_nil

theorem compose_unbuilt (name : String) (steps : List (Step SessionVerb)) :
    (Session.compose name steps).attempt.Unbuilt :=
  Composing.compose_unbuilt perform_unbuilt _ _ _ _ steps

end Studio.Session
