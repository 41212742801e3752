import Studio.FileName
import Studio.Proofs.Random.Period

/-! What the generator chooses. The words that it will draw are fixed by its state, and each
call takes some of them off the front. A range draw goes on to the first word that its
threshold admits; there always is one, since the generator comes to every state and one of
them gives the word 1. The high half of the product of the word taken and the span is below
the span, so it is the index of an item. -/

namespace Studio.Random

/-! ### The words to come -/

/-- The word that is drawn after `n` others. -/
def word (r : Random) (n : Nat) : Nat := output (advance^[n] r.state)

/-- The generator after `n` words. -/
def skip (r : Random) (n : Nat) : Random := ⟨advance^[n] r.state⟩

variable {r : Random}

theorem draw_eq (r : Random) : r.draw = (r.word 0, r.skip 1) := by
  rw [draw, word, skip, Function.iterate_zero_apply, Function.iterate_one]

theorem word_lt (r : Random) (n : Nat) : r.word n < wordBound := Nat.mod_lt _ (by decide)

theorem word_mul_lt (r : Random) (n : Nat) {span : Nat} (hspan : span < wordBound) :
    r.word n * span < stateBound :=
  calc r.word n * span
      < wordBound * wordBound := Nat.mul_lt_mul'' (r.word_lt n) hspan
    _ = stateBound := by decide

theorem word_skip (r : Random) (m n : Nat) : (r.skip m).word n = r.word (n + m) :=
  congrArg output (Function.iterate_add_apply advance n m r.state).symm

theorem skip_skip (r : Random) (m n : Nat) : (r.skip m).skip n = r.skip (n + m) :=
  congrArg mk (Function.iterate_add_apply advance n m r.state).symm

/-- The generator comes to the other one by drawing. -/
def LeadsTo (r r' : Random) : Prop := ∃ n, r' = r.skip n

namespace LeadsTo

theorem refl (r : Random) : r.LeadsTo r := ⟨0, rfl⟩

theorem trans {r₁ r₂ r₃ : Random} (h : r₁.LeadsTo r₂) (h' : r₂.LeadsTo r₃) : r₁.LeadsTo r₃ := by
  obtain ⟨m, rfl⟩ := h
  obtain ⟨n, rfl⟩ := h'
  exact ⟨n + m, skip_skip r₁ m n⟩

theorem state_lt {r' : Random} (h : r.LeadsTo r') (hr : r.state < stateBound) :
    r'.state < stateBound := by
  obtain ⟨n, rfl⟩ := h
  exact iterate_advance_lt hr n

end LeadsTo

theorem leadsTo_draw (r : Random) : r.LeadsTo r.draw.2 := ⟨1, by rw [draw_eq]⟩

/-! ### Range draws -/

/-- A range draw of the span refuses the word: the low half of their product is below the
threshold. -/
def Refuses (span x : Nat) : Prop := x * span % wordBound < (wordBound - span) % span

instance (span x : Nat) : Decidable (Refuses span x) := inferInstanceAs (Decidable (_ < _))

/-- A range draw of the span refuses the next `n` words, and takes the word after them. -/
structure Settles (r : Random) (span n : Nat) : Prop where
  refused : ∀ k < n, Refuses span (r.word k)
  accepted : ¬ Refuses span (r.word n)

theorem Settles.skip {span n : Nat} (h : r.Settles span (n + 1)) : (r.skip 1).Settles span n where
  refused k hk := by
    rw [word_skip]
    exact h.refused (k + 1) (Nat.succ_lt_succ hk)
  accepted := by
    rw [word_skip]
    exact h.accepted

theorem not_refuses_one {span : Nat} (hpos : 0 < span) (hspan : span < wordBound) :
    ¬ Refuses span 1 := by
  rw [Refuses, Nat.one_mul, Nat.mod_eq_of_lt hspan]
  exact Nat.not_lt.2 (Nat.mod_lt _ hpos).le

/-- The draw loop returns, and before the generator is in one of its states again. -/
theorem exists_settles (hr : r.state < stateBound) {span : Nat} (hpos : 0 < span)
    (hspan : span < wordBound) : ∃ n < stateBound, r.Settles span n := by
  -- The word 1 comes from the state `2 ^ 58`, and is not refused for any span.
  obtain ⟨m, hm, hstate⟩ := exists_iterate_advance hr (t := 2 ^ 58) (by decide)
  have hone : r.word m = 1 := by
    rw [word, hstate]
    decide
  have haccepted : ¬ Refuses span (r.word m) := hone ▸ not_refuses_one hpos hspan
  have hexists : ∃ n, ¬ Refuses span (r.word n) := ⟨m, haccepted⟩
  refine ⟨Nat.find hexists, (Nat.find_min' hexists haccepted).trans_lt hm, ?_, ?_⟩
  · exact fun k hk => not_not.1 (Nat.find_min hexists hk)
  · exact Nat.find_spec hexists

/-- The loop stops where the range draw settles, if it is let go on so far. -/
theorem redraw_eq {span n fuel : Nat} (h : r.Settles span n) (hn : n ≤ fuel) :
    redraw span ((wordBound - span) % span) fuel (r.word 0 * span, r.skip 1) =
      (r.word n * span, r.skip (n + 1)) := by
  induction n generalizing r fuel with
  | zero =>
    cases fuel with
    | zero => rw [redraw]
    | succ fuel =>
      have haccepted : ¬ r.word 0 * span % wordBound < (wordBound - span) % span := h.accepted
      rw [redraw, if_neg haccepted]
  | succ n ih =>
    cases fuel with
    | zero => omega
    | succ fuel =>
      have hrefused : r.word 0 * span % wordBound < (wordBound - span) % span :=
        h.refused 0 (Nat.succ_pos n)
      rw [redraw, if_pos hrefused, draw_eq]
      dsimp only
      rw [ih h.skip (Nat.le_of_succ_le_succ hn), word_skip, skip_skip]

theorem range_eq {lo hi n : Nat} (hpos : lo < hi) (h : r.Settles (hi - lo) n)
    (hn : n ≤ stateBound) :
    r.range lo hi = (r.word n * (hi - lo) / wordBound + lo, r.skip (n + 1)) := by
  rw [range, draw_eq]
  dsimp only
  split
  · rw [redraw_eq h hn]
  · next hlow =>
    -- The threshold is below the span, so where the loop is left out it would not draw again.
    cases n with
    | zero => rfl
    | succ n =>
      have hthreshold := Nat.mod_lt (wordBound - (hi - lo)) (Nat.sub_pos_of_lt hpos)
      exact absurd (lt_trans (h.refused 0 (Nat.succ_pos n)) hthreshold) hlow

theorem high_lt (r : Random) (n : Nat) {span : Nat} (hpos : 0 < span) :
    r.word n * span / wordBound < span :=
  Nat.div_lt_of_lt_mul (Nat.mul_lt_mul_of_pos_right (r.word_lt n) hpos)

theorem exists_index (hr : r.state < stateBound) {len : Nat} (hpos : 0 < len)
    (hlen : len < wordBound) : ∃ n < stateBound, r.Settles len n ∧
      r.range 0 len = (r.word n * len / wordBound, r.skip (n + 1)) := by
  obtain ⟨n, hn, hsettles⟩ := exists_settles hr hpos hlen
  exact ⟨n, hn, hsettles, range_eq hpos hsettles hn.le⟩

theorem leadsTo_redraw (span threshold fuel product : Nat) (r : Random) :
    r.LeadsTo (redraw span threshold fuel (product, r)).2 := by
  induction fuel generalizing product r with
  | zero => exact .refl r
  | succ fuel ih =>
    rw [redraw]
    split
    · exact (leadsTo_draw r).trans (ih _ _)
    · exact .refl r

theorem leadsTo_range (lo hi : Nat) (r : Random) : r.LeadsTo (r.range lo hi).2 := by
  rw [range]
  dsimp only
  split
  · exact (leadsTo_draw r).trans (leadsTo_redraw _ _ _ _ _)
  · exact leadsTo_draw r

/-! ### Items and names -/

theorem choose_of_ne_nil {α : Type} {items : List α} (hne : items ≠ []) (r : Random) :
    r.choose items =
      (items[(r.range 0 items.length).1]?, (r.range 0 items.length).2) := by
  rw [choose, if_neg (by rwa [List.isEmpty_iff])]

theorem leadsTo_choose {α : Type} (items : List α) (r : Random) :
    r.LeadsTo (r.choose items).2 := by
  by_cases hempty : items = []
  · subst hempty
    exact .refl r
  · rw [choose_of_ne_nil hempty]
    exact leadsTo_range 0 items.length r

theorem exists_choose (hr : r.state < stateBound) {α : Type} (items : List α) (hne : items ≠ [])
    (hlen : items.length < wordBound) : ∃ i : Fin items.length,
      i.val = (r.range 0 items.length).1 ∧
        r.choose items = (some items[i], (r.range 0 items.length).2) := by
  have hpos := List.length_pos_iff.2 hne
  obtain ⟨n, -, -, hrange⟩ := exists_index hr hpos hlen
  have hindex : (r.range 0 items.length).1 < items.length := by
    rw [hrange]
    exact r.high_lt n hpos
  refine ⟨⟨_, hindex⟩, rfl, ?_⟩
  rw [choose_of_ne_nil hne, List.getElem?_eq_getElem hindex]
  rfl

/-- A mood is chosen, and a piece from the words after it. -/
theorem exists_make (hr : r.state < stateBound) :
    ∃ mood ∈ FileName.moods, ∃ piece ∈ FileName.pieces,
      (FileName.make r).1 = mood ++ " " ++ piece := by
  obtain ⟨i, -, hi⟩ := exists_choose hr FileName.moods (by decide) (by decide)
  have hr' := (leadsTo_range 0 FileName.moods.length r).state_lt hr
  obtain ⟨j, -, hj⟩ := exists_choose hr' FileName.pieces (by decide) (by decide)
  refine ⟨_, List.getElem_mem i.isLt, _, List.getElem_mem j.isLt, ?_⟩
  rw [FileName.make, hi]
  dsimp only
  rw [hj]
  rfl

/-! ### Calls -/

inductive Call : Type 1
  | draw
  | range (lo hi : Nat)
  | choose {α : Type} (items : List α)
  | name

def Call.perform : Call → Random → Random
  | draw, r => r.draw.2
  | range lo hi, r => (r.range lo hi).2
  | choose items, r => (r.choose items).2
  | name, r => (FileName.make r).2

/-- The generator after the calls, one after another. -/
def after (calls : List Call) (r : Random) : Random := calls.foldl (fun r call => call.perform r) r

/-- All that a call does to the generator is to draw. -/
theorem Call.leadsTo (call : Call) (r : Random) : r.LeadsTo (call.perform r) := by
  cases call with
  | draw => exact leadsTo_draw r
  | range lo hi => exact leadsTo_range lo hi r
  | choose items => exact leadsTo_choose items r
  | name => exact (leadsTo_choose FileName.moods r).trans (leadsTo_choose FileName.pieces _)

theorem leadsTo_after (calls : List Call) (r : Random) : r.LeadsTo (after calls r) := by
  induction calls generalizing r with
  | nil => exact .refl r
  | cons call calls ih => exact (call.leadsTo r).trans (ih (call.perform r))

/-- Whatever the seed and whatever was drawn before, a range draw of a length returns after
fewer words than the generator has states, with an index below the length. The product that
it is taken from fits 128 bits. So a choice is nothing just where there is nothing to choose
from, and else the item at that index; and a new name is a mood and a piece of the lists, and
neither of the words that stand in for none. -/
theorem choices_are_items (seed : Nat) (calls : List Call) :
    let r := after calls (ofSeed seed)
    (∀ len, 0 < len → len < wordBound →
        (∃ n < stateBound, r.Settles len n ∧ r.word n * len < stateBound ∧
          r.range 0 len = (r.word n * len / wordBound, r.skip (n + 1))) ∧
        (r.range 0 len).1 < len) ∧
      (∀ (α : Type) (items : List α), items.length < wordBound →
        ((r.choose items).1 = none ↔ items = []) ∧
        (items ≠ [] → ∃ i : Fin items.length,
          i.val = (r.range 0 items.length).1 ∧ (r.choose items).1 = some items[i])) ∧
      ∃ mood ∈ FileName.moods, ∃ piece ∈ FileName.pieces,
        mood ≠ "Untitled" ∧ piece ≠ "Piece" ∧ (FileName.make r).1 = mood ++ " " ++ piece := by
  intro r
  have hr : r.state < stateBound := (leadsTo_after calls (ofSeed seed)).state_lt (advance_lt _)
  refine ⟨fun len hpos hlen => ?_, fun α items hlen => ⟨?_, fun hne => ?_⟩, ?_⟩
  · obtain ⟨n, hn, hsettles, hrange⟩ := exists_index hr hpos hlen
    refine ⟨⟨n, hn, hsettles, r.word_mul_lt n hlen, hrange⟩, ?_⟩
    rw [hrange]
    exact r.high_lt n hpos
  · refine ⟨fun hnone => ?_, fun hempty => hempty ▸ rfl⟩
    by_contra hne
    obtain ⟨i, -, hchoose⟩ := exists_choose hr items hne hlen
    rw [hchoose] at hnone
    cases hnone
  · obtain ⟨i, hi, hchoose⟩ := exists_choose hr items hne hlen
    exact ⟨i, hi, congrArg Prod.fst hchoose⟩
  · obtain ⟨mood, hmood, piece, hpiece, hmake⟩ := exists_make hr
    refine ⟨mood, hmood, piece, hpiece, ?_, ?_, hmake⟩
    · exact ne_of_mem_of_not_mem hmood (by decide)
    · exact ne_of_mem_of_not_mem hpiece (by decide)

/-- Five words are refused here before one gives the index. -/
theorem choices_after_draws :
    (0 < 2 ^ 63 + 1 ∧ 2 ^ 63 + 1 < wordBound ∧ ["a", "b", "c"].length < wordBound) ∧
      let r := after [.name, .draw, .range 3 9] (ofSeed 23)
      r.Settles (2 ^ 63 + 1) 5 ∧ (r.range 0 (2 ^ 63 + 1)).1 = 6223199268532160136 ∧
        (r.range 0 (2 ^ 63 + 1)).1 < 2 ^ 63 + 1 ∧
        (∃ i : Fin 3, (r.choose ["a", "b", "c"]).1 = some ["a", "b", "c"][i]) ∧
        (FileName.make r).1 = "Dusty Shuffle" := by
  obtain ⟨hrange, hchoose, -⟩ := choices_are_items 23 [.name, .draw, .range 3 9]
  have hlen : 2 ^ 63 + 1 < wordBound := by decide
  have hitems : ["a", "b", "c"].length < wordBound := by decide
  have hindex := (hrange _ (Nat.succ_pos _) hlen).2
  obtain ⟨i, -, hi⟩ := (hchoose String _ hitems).2 (List.cons_ne_nil _ _)
  exact ⟨⟨Nat.succ_pos _, hlen, hitems⟩, ⟨by decide +kernel, by decide +kernel⟩,
    by decide +kernel, hindex, ⟨i, hi⟩, by decide +kernel⟩

end Studio.Random
