import Studio.Proofs.Session.Export

/-! What a score keeps of itself in its written form: everything, as long as it lists no
tracks and phrases. An entry's library is left out of the text just when the entry names
none, so that a name that is empty, or reads `null`, is still a name. -/

namespace Studio

open Json

theorem ScoreEntry.readsBack (e : ScoreEntry) :
    ReadsBack 1 (Persisted.schema ScoreEntry).reader (Persisted.toValue e) := by
  obtain ⟨name, key, library⟩ := e
  cases library with
  | none =>
    exact .record "NodeDecl" (by decide)
      (.member (.text name) rfl (.member (.text key) rfl (.omitted rfl .nil)))
  | some l =>
    -- The text of a name starts with a quote, and `null` does not.
    have hlibrary : ReadsBack 0 (optionalReader textReader) (.str l) := by
      refine .optional (.text l) fun _ _ hnull => ?_
      rw [Value.write, writeText] at hnull
      exact absurd (Option.some.inj hnull) (by decide)
    exact .record "NodeDecl" (by decide)
      (.member (.text name) rfl (.member (.text key) rfl (.member hlibrary rfl .nil)))

theorem ScoreEntry.ofValue_toValue (e : ScoreEntry) :
    Persisted.ofValue (Persisted.toValue e) = e := by
  obtain ⟨name, key, library⟩ := e
  cases library <;> rfl

namespace Score

variable {s : Score}

theorem readsBack (tracks : s.tracks = []) (phrases : s.phrases = []) :
    ReadsBack 3 (Persisted.schema Score).reader (Persisted.toValue s) := by
  have hentries (es : List ScoreEntry) :
      ReadsBack 2 (Schema.list (Persisted.schema ScoreEntry)).reader
        (.arr (es.map Persisted.toValue)) :=
    .list_map fun e _ => e.readsBack
  have hnone {vs : List Value} (h : vs = []) : ReadsBack 2 (Schema.list .any).reader (.arr vs) := by
    subst h
    exact .list (List.forall_mem_nil _)
  exact .record "Score" (by decide)
    (.member ((ReadsBack.text s.session).mono (Nat.zero_le 2)) rfl
      (.member (hentries s.instruments) rfl
        (.member (hentries s.effects) rfl
          (.member (Patch.readsBack_list s.patches) rfl
            (.member (hnone tracks) rfl (.member (hnone phrases) rfl .nil))))))

theorem ofValue_toValue (s : Score) : Persisted.ofValue (Persisted.toValue s) = s := by
  show Score.mk s.session ((s.instruments.map Persisted.toValue).map Persisted.ofValue)
    ((s.effects.map Persisted.toValue).map Persisted.ofValue)
    ((s.patches.map Persisted.toValue).map Persisted.ofValue) s.tracks s.phrases = s
  rw [map_ofValue_toValue ScoreEntry.ofValue_toValue,
    map_ofValue_toValue ScoreEntry.ofValue_toValue, map_ofValue_toValue fun _ : Patch => rfl]

theorem ofText_write (tracks : s.tracks = []) (phrases : s.phrases = []) (l : Layout) :
    ofText (Json.write l s) = .ok s := by
  rw [ofText, read_write l (readsBack tracks phrases) (by decide), ofValue_toValue]
  rfl

/-- A score without tracks and phrases is read from either written form as it was, and so
composes to the same session or fault, over whatever libraries. -/
theorem same_from_written_form (tracks : s.tracks = []) (phrases : s.phrases = []) (l : Layout) :
    ofText (Json.write l s) = .ok s ∧
      ∀ libraries default,
        (Attempt.ofExcept (ofText (Json.write l s)) >>= compose libraries default) =
          s.compose libraries default := by
  have hread : ofText (Json.write l s) = .ok s := ofText_write tracks phrases l
  refine ⟨hread, fun libraries default => ?_⟩
  rw [hread]
  rfl

/-- Texts that want escaping, and libraries that are named badly but named. -/
def quotedScore : Score where
  session := "\"größe\"\x01\n"
  instruments := [⟨"a\\b", "piano", none⟩, ⟨"\t", "piano", some ""⟩]
  effects := [⟨"𝄞", "reverb", some "null"⟩]
  patches := [⟨⟨"instrument", "a\\b"⟩, ⟨"effect", "𝄞"⟩⟩, ⟨⟨"", "/"⟩, ⟨"effect", "𝄞"⟩⟩]

theorem same_quoted_score :
    (quotedScore.tracks = [] ∧ quotedScore.phrases = []) ∧
      ofText (Json.write .compact quotedScore) = .ok quotedScore ∧
      ofText (Json.write .indented quotedScore) = .ok quotedScore :=
  ⟨⟨rfl, rfl⟩, (same_from_written_form rfl rfl .compact).1,
    (same_from_written_form rfl rfl .indented).1⟩

end Score

end Studio
